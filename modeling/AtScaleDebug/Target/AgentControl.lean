import AtScaleDebug.Target.I2cMessages
import AtScaleDebug.Target.JtagMessage
import AtScaleDebug.Target.SppSession

/-!
The state behind `asd_msg_on_msg_recv` and the agent control messages: what a client asks
about the target before it debugs it, and what it configures. Each of them is answered
in the output message, whose first byte repeats the command.

The handlers are those that `asd_msg_init` has created; only the remote probes are
checked for before they are used.
-/

namespace AtScaleDebug

open ByteBuffer

def numInFlightBuffersToUse : UInt8 := 20
def sppBulkSendSupportMask : UInt8 := 0x1
def sppBulkResponseSupportMask : UInt8 := 0x2

/-- The text is terminated inside its array. -/
abbrev ProbesConfig := { text : List UInt8 // text.length < maxDataSize }

structure VprobeHandler where
  initialized : Bool
  remoteProbes : UInt8
  remoteConfigs : UInt8
  probesConfig : ProbesConfig

/-- What no message changes. `asdVersion` is the version string with its terminator. -/
structure MsgConfig where
  bus : BusConfig
  enableSpp : Bool
  asdVersion : List UInt8

/-- The handlers, the packets sent and what messages change of the configuration; the
JTAG modes are part of the JTAG session. -/
structure MsgState where
  session : BusSession
  jtag : JtagSession
  spp : SppSession
  vprobe : Option VprobeHandler
  remoteLogging : UInt8
  bulkSendEnable : Bool
  bulkResponseEnable : Bool
  bmcVersion : List UInt8

def MsgState.send (m : MsgState) (packets : List Packet) : MsgState :=
  { m with session := { m.session with sent := m.session.sent ++ packets } }

/-- An agent control message with the outcomes of the calls it leads to: what
`vProbe_initialize` makes of the configuration and which SPP devices open. `out` is what
the output buffer holds from the message before. -/
structure AgentRequest where
  header : MessageHeader
  buffer : Nat → UInt8
  out : Nat → UInt8
  vprobe : Option ProbesConfig
  sppOpens : Fin maxSppBusDevices → Bool

/-- How a command is answered: with the bytes at the front of the output buffer, of
which `size` are sent, with the message itself, or with an error message. -/
inductive AgentReply where
  | respond (bytes : List UInt8) (size : Nat)
  | echo
  | refuse (cmdStat : UInt8)

def AgentReply.packet (r : AgentRequest) : AgentReply → Packet
  | .respond bytes size =>
      let header := { r.header with
        sizeLsb := .ofNat (size &&& 0xFF), sizeMsb := .ofNat ((size >>> 8) &&& 0x1F), cmdStat := 0 }
      (header, slice (blit r.out 0 bytes) 0 ((getMessageSize header).getD 0))
  | .echo => (r.header, slice r.buffer 0 ((getMessageSize r.header).getD 0))
  | .refuse cmdStat => errorMessage r.header cmdStat

section Commands

def supportedI2cBuses (c : BusConfig) : List UInt8 :=
  ((List.finRange maxIxCBuses).filter fun i =>
    c.busConfigType i = .i2c ∨ c.busConfigType i = .i3c).map c.busConfigMap

/-- The devices that open, as a bit mask. -/
def sppDeviceMap (opens : Fin maxSppBusDevices → Bool) : UInt8 :=
  (List.finRange maxSppBusDevices).foldl
    (fun mask i => if opens i then mask ||| 1 <<< UInt8.ofNat i.val else mask) 0

/-- `spp_close_driver`. -/
def sppCloseDriver (h : SppHandler) : SppHandler :=
  { h with
    devHandlers := fun _ => false
    deviceCount := 0
    deviceIndex := firstDevice
    driverHandle := none }

/-- `spp_bus_get_device_map`. The devices are opened to see which there are, and closed
again, also those that were open before. -/
def sppBusGetDeviceMap (c : MsgConfig) (h : SppHandler) (opens : Fin maxSppBusDevices → Bool) :
    SppHandler × UInt8 × Status :=
  if !c.enableSpp then (h, 0, .ok)
  else (sppCloseDriver h, sppDeviceMap opens, if sppDeviceMap opens = 0 then .err else .ok)

/-- The type of the setting and its value; anything shorter or unknown is ignored. -/
def agentConfiguration (m : MsgState) : List UInt8 → MsgState
  | type :: value :: _ =>
      if type = 1 then { m with remoteLogging := value }
      else if type = 3 then
        { m with jtag := { m.jtag with
          driverMode := if value &&& 0x01 = 0x01 then .hardware else .software
          chainMode := if value &&& 0x02 = 0x02 then .multi else .single } }
      else if type = 4 then
        -- without the send support the response support is not taken over either
        if value &&& sppBulkSendSupportMask ≠ 0 then
          { m with
            bulkSendEnable := true
            bulkResponseEnable :=
              m.bulkResponseEnable || (value &&& sppBulkResponseSupportMask ≠ 0) }
        else m
      else m
  | _ => m

def supportedRemoteProbes (m : MsgState) (r : AgentRequest) : MsgState × AgentReply × Status :=
  match m.vprobe with
  | none => (m, .respond [r.header.cmdStat] 1, .err)
  | some v =>
      if v.initialized then (m, .respond [r.header.cmdStat, v.remoteProbes] 2, .ok)
      else
        match r.vprobe with
        | none => (m, .refuse asdFailureInitVprobeHandler, .err)
        | some probesConfig =>
            ({ m with vprobe := some { v with initialized := true, probesConfig } },
              .respond [r.header.cmdStat, v.remoteProbes] 2, .ok)

/-- A text that does not fit is announced all the same. -/
def remoteProbesConfig (m : MsgState) (r : AgentRequest) : AgentReply × Status :=
  match m.vprobe with
  | none => (.respond [r.header.cmdStat] 1, .ok)
  | some v =>
      if v.remoteConfigs = 0 then (.respond [r.header.cmdStat] 1, .ok)
      else
        let text := v.probesConfig.val
        if text.length < maxDataSize - 1 then
          (.respond (r.header.cmdStat :: text ++ [0]) (text.length + 1), .ok)
        else (.respond [r.header.cmdStat, 0] (text.length + 1), .err)

/-- The two versions with an underscore between them. The size is added up in one byte. -/
def obtainDownstreamVersion (c : MsgConfig) (m : MsgState) (r : AgentRequest) :
    AgentReply × Status :=
  (.respond (r.header.cmdStat :: c.asdVersion.dropLast ++ [0x5F] ++ m.bmcVersion ++ [0])
      ((1 + c.asdVersion.length + m.bmcVersion.length) % 256),
    if m.bmcVersion = [] then .err else .ok)

def supportedSppBulkMode (m : MsgState) : UInt8 :=
  (if m.bulkSendEnable then sppBulkSendSupportMask else 0) |||
    (if m.bulkResponseEnable then sppBulkResponseSupportMask else 0)

/-- The command is the one in `cmd_stat`; an unknown one is answered with itself. -/
def agentControl (c : MsgConfig) (m : MsgState) (r : AgentRequest) :
    MsgState × AgentReply × Status :=
  let cmd := r.header.cmdStat
  if cmd = 3 then (m, .respond [cmd, numInFlightBuffersToUse] 2, .ok)
  else if cmd = 13 then
    (m, .respond [cmd, .ofNat (maxDataSize &&& 0xFF), .ofNat ((maxDataSize >>> 8) &&& 0xFF)] 3, .ok)
  else if cmd = 14 then (m, .respond [cmd, if c.enableSpp then 0 else 1] 2, .ok)
  else if cmd = 15 then
    let buses := if c.bus.enableI2c || c.bus.enableI3c then supportedI2cBuses c.bus else []
    (m, .respond (cmd :: .ofNat buses.length :: buses) (buses.length + 2), .ok)
  else if cmd = 16 then supportedRemoteProbes m r
  else if cmd = 17 then (m, remoteProbesConfig m r)
  else if cmd = 5 then (m, obtainDownstreamVersion c m r)
  else if cmd = 19 then
    let (handler, mask, status) := sppBusGetDeviceMap c m.spp.handler r.sppOpens
    ({ m with spp := { m.spp with handler } }, .respond [cmd, mask, 0, 0, 0] 5, status)
  else if cmd = 20 then (m, .respond [cmd, supportedSppBulkMode m] 2, .ok)
  else if cmd = 8 then
    (agentConfiguration m (slice r.buffer 0 ((getMessageSize r.header).getD 0)),
      .respond [cmd] 1, .ok)
  else if cmd = 18 then (m, .echo, .ok)
  else (m, .respond [cmd] 1, .ok)

end Commands

section Effect

/-- What an agent control message does to the state. Apart from the configuration, a query
may initialise the remote probes, and the query for the SPP devices closes them. -/
inductive AgentEffect (c : MsgConfig) (m : MsgState) (r : AgentRequest) :
    MsgState × AgentReply × Status → Prop where
  | none {reply : AgentReply} {status : Status} (hconfiguration : r.header.cmdStat ≠ 8)
      (hdevices : r.header.cmdStat = 19 → c.enableSpp = false) :
      AgentEffect c m r (m, reply, status)
  | probes {reply : AgentReply} {status : Status} (v : VprobeHandler) (probesConfig : ProbesConfig)
      (hvprobe : m.vprobe = some v) (hcmd : r.header.cmdStat = 16) :
      AgentEffect c m r
        ({ m with vprobe := some { v with initialized := true, probesConfig } }, reply, status)
  | closed {reply : AgentReply} {status : Status} (hcmd : r.header.cmdStat = 19)
      (henabled : c.enableSpp = true) :
      AgentEffect c m r
        ({ m with spp := { m.spp with handler := sppCloseDriver m.spp.handler } }, reply, status)
  | configured {reply : AgentReply} {status : Status} (hcmd : r.header.cmdStat = 8) :
      AgentEffect c m r
        (agentConfiguration m (slice r.buffer 0 ((getMessageSize r.header).getD 0)), reply, status)

theorem supportedRemoteProbes_effect (c : MsgConfig) (m : MsgState) {r : AgentRequest}
    (h : r.header.cmdStat = 16) : AgentEffect c m r (supportedRemoteProbes m r) := by
  have hnone {reply : AgentReply} {status : Status} : AgentEffect c m r (m, reply, status) := by
    refine .none ?_ fun hcmd => ?_
    · exact h ▸ by decide
    · exact absurd (h.symm.trans hcmd) (by decide)
  rw [supportedRemoteProbes]
  split
  · exact hnone
  · next v hvprobe =>
      split
      · exact hnone
      split
      · exact hnone
      · exact .probes v _ hvprobe h

theorem agentControl_effect (c : MsgConfig) (m : MsgState) (r : AgentRequest) :
    AgentEffect c m r (agentControl c m r) := by
  have hquery (cmd : UInt8) {reply : AgentReply} {status : Status} (h : r.header.cmdStat = cmd)
      (h8 : cmd ≠ 8) (h19 : cmd ≠ 19) : AgentEffect c m r (m, reply, status) :=
    .none (h ▸ h8) fun hcmd => absurd (h.symm.trans hcmd) h19
  rw [agentControl]
  refine iteInduction (fun h => hquery 3 h (by decide) (by decide)) fun _ => ?_
  refine iteInduction (fun h => hquery 13 h (by decide) (by decide)) fun _ => ?_
  refine iteInduction (fun h => hquery 14 h (by decide) (by decide)) fun _ => ?_
  refine iteInduction (fun h => hquery 15 h (by decide) (by decide)) fun _ => ?_
  refine iteInduction (fun h => supportedRemoteProbes_effect c m h) fun _ => ?_
  refine iteInduction (fun h => hquery 17 h (by decide) (by decide)) fun _ => ?_
  refine iteInduction (fun h => hquery 5 h (by decide) (by decide)) fun _ => ?_
  refine iteInduction (fun h => ?_) fun h19 => ?_
  · rw [sppBusGetDeviceMap]
    cases henabled : c.enableSpp with
    | false => exact .none (h ▸ by decide) fun _ => henabled
    | true => exact .closed h henabled
  refine iteInduction (fun h => hquery 20 h (by decide) (by decide)) fun _ => ?_
  refine iteInduction (fun h => .configured h) fun h8 => ?_
  refine iteInduction (fun h => hquery 18 h (by decide) (by decide)) fun _ => ?_
  exact .none h8 fun hcmd => absurd hcmd h19

end Effect

end AtScaleDebug
