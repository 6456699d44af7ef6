import AtScaleDebug.Target.AgentControl
import AtScaleDebug.Target.BusAttribution
import AtScaleDebug.Target.SppStatus
import AtScaleDebug.Target.JtagResponse

/-!
`asd_msg_on_msg_recv`: a complete message is refused, answered as agent control, or
passed on to its protocol after the handlers are initialised. Every way out of it sends
a packet with the tag and the origin of the message, except one: an SPP message on a
target without SPP is dropped, where an I2C message in the same place is refused.
-/

namespace AtScaleDebug

section Packets

def agentControlType : UInt8 := 0
def jtagType : UInt8 := 1
def hardwareLogEvent : UInt8 := 5
def i2cType : UInt8 := 6
def sppType : UInt8 := 7

/-- `send_pin_event`. -/
def pinEvent (event : UInt8) : Packet :=
  (⟨broadcastMessageOriginId, 0, 0, jtagType, 1, 0, broadcastMessageOriginId, 0⟩, [event])

/-- A log message on its way to the client, and its level and stream in one byte. -/
structure RemoteLog where
  config : UInt8
  message : List UInt8

/-- `send_remote_log_message`. -/
def RemoteLog.packet (log : RemoteLog) : Packet :=
  let payload := 8 :: log.config :: log.message.take (maxDataSize - 2)
  (⟨0, 0, 0, hardwareLogEvent, lsbFromMsgSize payload.length, msbFromMsgSize payload.length, 0, 0⟩,
    payload)

end Packets

/-- What `target_initialize` and the first look at the power pins find. -/
structure TargetReady where
  xdpPresent : Bool
  power2 : Option UInt8
  power : Option UInt8

def TargetReady.events (t : TargetReady) : List Packet :=
  (t.power2.toList ++ t.power.toList).map pinEvent

/-- A message with the outcomes of every call it leads to: of the initialisation of the
handlers, with the SPP handler that it leaves, of its protocol, and of the writes; and
the log messages that are sent to the client meanwhile. -/
structure MsgRequest extends AgentRequest where
  i2cOpens : Bool
  dbusConnected : Bool
  sppReady : Bool
  sppHandler : SppHandler
  target : Option TargetReady
  jtag : JtagIo
  i2c : Nat → I2cIo
  lock : LockIo
  unlock : LockIo
  spp : Nat → SppPollIo
  handshake : List Polled
  autocmd : List Polled
  written : Bool
  logged : List RemoteLog

/-- The part of the request that the I2C processing uses. The handlers are initialised
before. -/
def MsgRequest.toI2c (r : MsgRequest) : I2cRequest :=
  ⟨r.header, r.buffer, r.i2c, r.lock, r.unlock, r.written, true, r.i2cOpens, r.dbusConnected,
    r.target.isSome⟩

def MsgRequest.toSpp (r : MsgRequest) (m : MsgState) : SppRequest :=
  ⟨r.header, r.buffer, m.bulkResponseEnable, r.spp, r.handshake, r.autocmd, r.written⟩

section Dispatch
variable (c : MsgConfig)

def MsgState.refuse (m : MsgState) (r : MsgRequest) (cmdStat : UInt8) : MsgState :=
  m.send [errorMessage r.header cmdStat]

def MsgState.withBus (m : MsgState) (bus : BusState) : MsgState :=
  { m with session := { m.session with bus } }

/-- The SPP handler is initialised and a failure reported, but not acted on. -/
def MsgState.initializeSpp (m : MsgState) (r : MsgRequest) : MsgState :=
  let m := { m with spp := { m.spp with handler := r.sppHandler } }
  if r.sppReady then m else m.refuse r asdFailureInitSppHandler

/-- `none` is a failure that ends the processing; otherwise the status is that of the
last power pin. -/
def MsgState.initializeTarget (m : MsgState) (r : MsgRequest) : MsgState × Option Status :=
  match r.target with
  | none =>
      ({ m with jtag := { m.jtag with jtag := { m.jtag.jtag with driverOpen := false } } }.refuse r
        asdFailureXdpPresent, none)
  | some t =>
      let m := { m with session := { m.session with handlersInitialized := true } }
      let m := if t.xdpPresent then m.refuse r asdFailureXdpPresent else m
      (m.send t.events, some (if t.power.isSome then .ok else .err))

/-- The initialisation of the handlers. Without JTAG it goes on when SPP is enabled. -/
def MsgState.initializeHandlers (m : MsgState) (r : MsgRequest) : MsgState × Option Status :=
  if m.session.handlersInitialized then (m, some .ok)
  else
    let (jtag, status) := jtagInitialize r.jtag.driver m.jtag.jtag (m.jtag.driverMode = .software)
    let m := { m with jtag := { m.jtag with jtag } }
    if status ≠ .ok ∧ !c.enableSpp then (m.refuse r asdFailureInitJtagHandler, none)
    else
      let bus := m.session.bus
      match if c.bus.enableI2c then i2cInitialize c.bus r.i2cOpens bus else (bus, .ok) with
      | (bus, .ok) =>
          match if c.bus.enableI3c then i3cInitialize c.bus r.dbusConnected bus else (bus, .ok) with
          | (bus, .ok) =>
              let m := m.withBus bus
              let m := if c.enableSpp then m.initializeSpp r else m
              m.initializeTarget r
          | (bus, _) => ((m.withBus bus).refuse r asdFailureInitI2cHandler, none)
      | (bus, _) => ((m.withBus bus).refuse r asdFailureInitI2cHandler, none)

/-- `process_message`. -/
def MsgState.processMessage (m : MsgState) (r : MsgRequest) : MsgState :=
  let type := r.header.type
  let cmdStat := r.header.cmdStat
  if (type ≠ jtagType ∧ type ≠ i2cType ∧ type ≠ sppType) ∨
      (cmdStat ≠ 0 ∧ cmdStat ≠ 0x80 ∧ cmdStat ≠ 1) then
    m.refuse r asdMsgNotSupported
  else if type = jtagType then
    let (jtag, packets) := processMessageJtag r.jtag m.jtag r.header r.buffer r.written
    { m with jtag }.send packets
  else if type = i2cType then { m with session := processI2cMessage c.bus m.session r.toI2c }
  else
    let (spp, packets) := processMessageSpp c.enableSpp m.spp (r.toSpp m)
    { m with spp }.send packets

/-- The response of an agent control message, unless `send_response` refuses it. -/
def MsgState.agentControl (m : MsgState) (r : MsgRequest) : MsgState × Status :=
  let (m, reply, status) := AtScaleDebug.agentControl c m r.toAgentRequest
  let packet := reply.packet r.toAgentRequest
  (if (getMessageSize packet.1).isSome then m.send [packet] else m, status)

/-- Every other message needs the handlers. -/
def MsgState.handled (m : MsgState) (r : MsgRequest) : MsgState × Status :=
  match m.initializeHandlers c r with
  | (m, none) => (m, .err)
  | (m, some status) => (m.processMessage c r, status)

def MsgState.asdMsgOnMsgRecv (m : MsgState) (r : MsgRequest) : MsgState × Status :=
  let m := m.send (r.logged.map RemoteLog.packet)
  if r.header.encBit ≠ 0 then (m.refuse r asdMsgCryptNotSupported, .err)
  else if r.header.type = agentControlType then m.agentControl c r
  else m.handled c r

end Dispatch

section I2c
variable {c : BusConfig} (request : MessageHeader)

/-- The packets stay sent and the response stays inside its buffer. -/
structure I2cOutput.Fills (o t : I2cOutput) : Prop where
  sent : o.sent <+: t.sent
  bounded : o.response.length ≤ maxDataSize → t.response.length ≤ maxDataSize

theorem I2cOutput.Fills.refl (o : I2cOutput) : o.Fills o := ⟨List.prefix_rfl, id⟩

theorem I2cOutput.Fills.trans {o t u : I2cOutput} (ht : o.Fills t) (hu : t.Fills u) :
    o.Fills u := ⟨ht.sent.trans hu.sent, hu.bounded ∘ ht.bounded⟩

theorem I2cOutput.fills_send (o : I2cOutput) (cmdStat : UInt8) :
    o.Fills (o.send request cmdStat) := ⟨List.prefix_append _ _, id⟩

theorem I2cMsg.length_entry_le (m : I2cMsg) (ack : Bool) :
    (m.entry ack).length ≤ m.buffer.length + 2 := by
  rw [I2cMsg.entry]
  cases m.read with
  | true => simp
  | false => simp

theorem buildResponses_fills (continued : Nat → Bool) (ack : Bool) (k : Nat) (msgs : List I2cMsg)
    (o : I2cOutput) : o.Fills (buildResponses request continued ack k msgs o).1 := by
  induction msgs generalizing k o with
  | nil => exact .refl o
  | cons m msgs ih =>
      have hentry := m.length_entry_le ack
      rw [buildResponses]
      split
      · next hfull =>
          have hsent := o.fills_send request asdPacketContinuation
          have hrest := ih (k + 1) { o.send request asdPacketContinuation with
            response := m.entry ack }
          split
          · refine ⟨hsent.sent.trans hrest.sent, fun _ => hrest.bounded ?_⟩
            exact hentry.trans ((Nat.add_le_add_right m.short 2).trans (by decide))
          · exact hsent
      · next hfits =>
          have hrest := ih (k + 1) { o with response := o.response ++ m.entry ack }
          refine ⟨hrest.sent, fun _ => hrest.bounded ?_⟩
          rw [List.length_append]
          omega

theorem flushI2c_fills (io : I2cIo) (s : I2cState) :
    s.out.Fills (flushI2c c request io s).1.out := by
  simp only [flushI2c]
  generalize hmsgs : (if (doReadWrite c io.transfer s.bus s.builder).1.isSome then
    s.builder.mapIdx fun k m => m.received (io.transfer.bytes k) else s.builder) = msgs
  have hfills := buildResponses_fills request io.continued
    ((doReadWrite c io.transfer s.bus s.builder).2 = .ok) 0 msgs s.out
  split
  · next out heq =>
      rw [show buildResponses request io.continued
        ((doReadWrite c io.transfer s.bus s.builder).2 = .ok) 0 msgs s.out = (out, .ok) from heq]
        at hfills
      exact hfills
  · next out status _ heq =>
      rw [show buildResponses request io.continued
        ((doReadWrite c io.transfer s.bus s.builder).2 = .ok) 0 msgs s.out = (out, status) from
          heq] at hfills
      exact hfills

theorem executeI2cCommand_fills (io : I2cIo) (s : I2cState) (command : I2cCommand) :
    s.out.Fills (executeI2cCommand c request io s command).1.out := by
  cases command with
  | setSclk | transfer => exact .refl s.out
  | busSelect bus =>
      have hselect : s.out.Fills (doBusSelectCommand c request io.select s bus).1.out := by
        cases bus with
        | none => exact .refl s.out
        | some bus => exact ⟨List.prefix_append _ _, id⟩
      simp only [executeI2cCommand]
      split
      · next t heq => simpa only [heq] using hselect
      · next t _ _ heq =>
          rw [heq] at hselect
          exact hselect.trans (t.out.fills_send request _)

theorem i2cLoop_fills (io : Nat → I2cIo) (rounds k : Nat) (status : Status) (s : I2cState)
    (packet : List UInt8) :
    s.out.Fills (i2cLoop c io request rounds k status s packet).1.out := by
  induction rounds generalizing k status s packet with
  | zero => exact .refl s.out
  | succ rounds ih =>
      cases packet with
      | nil => exact .refl s.out
      | cons byte packet =>
          simp only [i2cLoop]
          split
          · exact .refl s.out
          · next command rest _ =>
              have hexecute := executeI2cCommand_fills (c := c) request (io k) s command
              split
              · next t heq => simpa only [heq] using hexecute
              · next t status heq =>
                  rw [heq] at hexecute
                  exact hexecute.trans (ih (k + 1) status t rest)
              · next t heq =>
                  rw [heq] at hexecute
                  split
                  · have hflush := flushI2c_fills (c := c) request (io k) t
                    split
                    · next u hu =>
                        rw [hu] at hflush
                        exact (hexecute.trans hflush).trans (ih (k + 1) .ok u rest)
                    · next u _ _ hu =>
                        rw [hu] at hflush
                        exact hexecute.trans hflush
                  · exact hexecute.trans (ih (k + 1) .ok t rest)

end I2c

section Replies

/-- A packet with the tag and the origin of the message, of a size that `send_response`
does not refuse. -/
structure RepliesTo (request : MessageHeader) (p : Packet) : Prop where
  tag : p.1.tag = request.tag
  originId : p.1.originId = request.originId
  accepted : (getMessageSize p.1).isSome

/-- Packets were sent, and one of them is a reply. -/
def Replied (request : MessageHeader) (before after : List Packet) : Prop :=
  ∃ packets, after = before ++ packets ∧ ∃ p ∈ packets, RepliesTo request p

theorem repliesTo_error (request : MessageHeader) (cmdStat : UInt8) :
    RepliesTo request (errorMessage request cmdStat) :=
  ⟨rfl, rfl, by simp [errorMessage, getMessageSize]⟩

theorem replied_of_mem {request : MessageHeader} (before : List Packet) {packets : List Packet}
    {p : Packet} (hmem : p ∈ packets) (hreply : RepliesTo request p) :
    Replied request before (before ++ packets) := ⟨packets, rfl, p, hmem, hreply⟩

theorem Replied.append {request : MessageHeader} {before after : List Packet}
    (h : Replied request before after) (more : List Packet) :
    Replied request before (after ++ more) := by
  obtain ⟨packets, rfl, p, hmem, hreply⟩ := h
  exact ⟨packets ++ more, List.append_assoc _ _ _, p, List.mem_append_left more hmem, hreply⟩

theorem Replied.of_grows {request : MessageHeader} {before middle after : List Packet}
    (hgrows : before <+: middle) (h : Replied request middle after) :
    Replied request before after := by
  obtain ⟨first, rfl⟩ := hgrows
  obtain ⟨packets, rfl, p, hmem, hreply⟩ := h
  exact ⟨first ++ packets, List.append_assoc _ _ _, p, List.mem_append_right first hmem, hreply⟩

theorem Replied.mono {request : MessageHeader} {before after later : List Packet}
    (h : Replied request before after) (hgrows : after <+: later) :
    Replied request before later := by
  obtain ⟨more, rfl⟩ := hgrows
  exact h.append more

theorem sendResponse_reply {request : MessageHeader} {response : List UInt8} {cmdStat : UInt8}
    {packet : Packet} (h : sendResponse request response cmdStat = some packet) :
    RepliesTo request packet := by
  obtain ⟨size, hsize, rfl⟩ := Option.map_eq_some_iff.mp h
  exact ⟨rfl, rfl, by rw [hsize]; rfl⟩

theorem processMessageJtag_reply (io : JtagIo) (s : JtagSession) (header : MessageHeader)
    (buffer : Nat → UInt8) (accepted : Bool) :
    ∃ p ∈ (processMessageJtag io s header buffer accepted).2, RepliesTo header p := by
  rw [processMessageJtag]
  split
  · exact ⟨_, List.mem_singleton_self _, repliesTo_error header _⟩
  split
  · exact ⟨_, List.mem_singleton_self _, repliesTo_error header _⟩
  dsimp only
  split
  · next hok =>
      rw [processJtagMessage] at hok ⊢
      cases hsize : getMessageSize header with
      | none =>
          rw [hsize] at hok
          cases hok
      | some size =>
          simp only [hsize] at hok ⊢
          split at hok
          · next t hloop =>
              split at hok
              · next packet hsent =>
                  exact ⟨packet, List.mem_singleton_self _, sendResponse_reply hsent⟩
              · cases hok
          · next status hnot _ => exact absurd hok hnot
  · exact ⟨_, List.mem_append_right _ (List.mem_singleton_self _), repliesTo_error header _⟩

/-- A message that is processed without an error ends with its response. -/
theorem processI2cMessages_sent (c : BusConfig) (r : I2cRequest) (bus : BusState)
    (sent : List Packet) (events : List BusEvent) :
    sent <+: (processI2cMessages c r bus sent events).1.out.sent ∧
      ((processI2cMessages c r bus sent events).2 = .ok →
        Replied r.header sent (processI2cMessages c r bus sent events).1.out.sent) := by
  rw [processI2cMessages]
  cases hsize : getMessageSize r.header with
  | none => exact ⟨List.prefix_rfl, by rintro ⟨⟩⟩
  | some size =>
      have hfills := i2cLoop_fills (c := c) r.header r.io size 0 .ok
        ⟨bus, [], false, false, ⟨[], sent⟩, events⟩ (i2cPayload r.header r.buffer)
      dsimp only at hfills ⊢
      split
      · next t heq =>
          rw [heq] at hfills
          refine ⟨hfills.sent.trans (List.prefix_append _ _), fun _ => ?_⟩
          refine .of_grows hfills.sent (replied_of_mem _ (List.mem_singleton_self _) ?_)
          refine ⟨rfl, rfl, ?_⟩
          dsimp only
          rw [getMessageSize_of_fields r.header 0 (hfills.bounded (Nat.zero_le _))]
          rfl
      · next t status hnot heq =>
          rw [heq] at hfills
          exact ⟨hfills.sent, fun hok => absurd hok hnot⟩

theorem processI2cMessage_replied (c : BusConfig) (s : BusSession) (r : I2cRequest) :
    Replied r.header s.sent (processI2cMessage c s r).sent := by
  have hrefused (cmdStat : UInt8) :
      Replied r.header s.sent (s.sent ++ [errorMessage r.header cmdStat]) :=
    replied_of_mem _ (List.mem_singleton_self _) (repliesTo_error r.header cmdStat)
  rw [processI2cMessage]
  split
  · exact hrefused _
  split
  · exact hrefused _
  split
  · next bus _ =>
      obtain ⟨hgrows, hok⟩ :=
        processI2cMessages_sent c r bus s.sent (s.events ++ [.accepted bus])
      dsimp only
      refine Replied.append ?_ _
      split
      · next hstatus => exact (hok hstatus).append []
      · refine .of_grows hgrows ?_
        exact replied_of_mem _ (List.mem_singleton_self _) (repliesTo_error r.header _)
  · exact hrefused _

/-- In bulk mode the `SPP_BULK` was answered. -/
def BulkAnswered (request : MessageHeader) (s : SppState) : Prop :=
  s.handler.bulkMode = true → ∃ p ∈ s.responses, RepliesTo request p

theorem respond_reply (request : MessageHeader) (s : SppState)
    (h : announces request s.out.responseCnt = true) :
    ∃ p ∈ (s.respond request).responses, RepliesTo request p :=
  ⟨_, List.mem_append_right _ (List.mem_singleton_self _), rfl, rfl, h⟩

theorem executeSppCommand_answered {io : SppPollIo} {request : MessageHeader} {s t : SppState}
    (ibis : List (Fin maxSppBusDevices × SppIbi)) {bulkAddress : UInt8} {command : SppCommand}
    {flow : SppFlow} (h : BulkAnswered request s)
    (hexecute : executeSppCommand (io.outcomes request s ibis) request { s with bulkAddress }
      command = (t, flow)) (hflow : flow ≠ .returned) : BulkAnswered request t := by
  cases hbulk : command.isBulk with
  | false =>
      obtain ⟨hmode, _, hresponses, _⟩ :=
        executeSppCommand_mode (io.outcomes request s ibis) request { s with bulkAddress } hbulk
      rw [hexecute] at hmode hresponses
      intro hon
      rw [hresponses]
      exact h (hmode.symm.trans hon)
  | true =>
      cases command with
      | bulk count =>
          simp only [executeSppCommand, executeBulk] at hexecute
          split at hexecute
          · next hdelivered =>
              cases hexecute
              intro _
              exact respond_reply request _ (Bool.and_eq_true_iff.mp hdelivered).2
          · cases hexecute
            exact absurd rfl hflow
      | config | send | receive | sendCmd | sendReceiveCmd | setSimData => cases hbulk

theorem sppBulkLoop_answered (enabled : Bool) (io : Nat → SppPollIo) (request : MessageHeader)
    (rounds k : Nat) {s t : SppState} {b c : SppBulk} {flow : SppFlow} {packet : List UInt8}
    (h : BulkAnswered request s)
    (hloop : sppBulkLoop enabled io request rounds k s b packet = (t, c, flow))
    (hflow : flow ≠ .returned) : BulkAnswered request t := by
  induction rounds generalizing k s b packet with
  | zero =>
      cases hloop
      exact h
  | succ rounds ih =>
      cases packet with
      | nil =>
          cases hloop
          exact h
      | cons byte packet =>
          obtain ⟨_, hround⟩ | ⟨_, _, _, hround⟩ |
            ⟨_, command, rest, u, step, _, _, hexecute, hround⟩ :=
            sppBulkLoop_round enabled io request rounds k s b byte packet
          · cases hround.symm.trans hloop
            exact h
          · cases hround.symm.trans hloop
            exact h
          · rw [hround] at hloop
            split at hloop
            · next hnext =>
                refine ih (k + 1) ?_ hloop
                exact executeSppCommand_answered _ h hexecute (by rw [hnext]; rintro ⟨⟩)
            · cases hloop
              exact executeSppCommand_answered _ h hexecute hflow

theorem finishBulk_responses (r : SppRequest) (s : SppState) (b : SppBulk) :
    (finishBulk r s b).1.responses = s.responses := by
  rw [finishBulk]
  split
  · dsimp only
    rw [sppBulkTail]
    split
    · rfl
    · rfl
  · dsimp only
    rw [sppBulkTail]
    split
    · rfl
    · rfl

/-- A message that is processed without an error was answered. -/
theorem processSppRequest_reply {s : SppSession} {r : SppRequest}
    (h : (processSppRequest s r).2.2 = .ok) :
    ∃ p ∈ (processSppRequest s r).1.sent, RepliesTo r.header p := by
  have hsent {t : SppState} (h : ∃ p ∈ t.responses, RepliesTo r.header p) :
      ∃ p ∈ t.sent, RepliesTo r.header p := by
    obtain ⟨p, hmem, hreply⟩ := h
    exact ⟨p, List.mem_filter.mpr ⟨hmem, hreply.accepted⟩, hreply⟩
  cases hsize : getMessageSize r.header with
  | none =>
      rw [processSppRequest, hsize] at h
      cases h
  | some size =>
      obtain ⟨t, b, flow, hloop, hresult⟩ := processSppRequest_loop s hsize
      rw [hresult] at h ⊢
      split at h
      · cases h
      · next hflow =>
          have hinitial : BulkAnswered r.header
              ⟨{ s.handler with bulkMode := false }, .initial, 0, []⟩ := by rintro ⟨⟩
          have hanswered := sppBulkLoop_answered r.enabled r.io r.header size 0 hinitial hloop hflow
          rw [if_neg hflow]
          split at h
          · next hmode =>
              rw [if_pos hmode]
              exact hsent (finishBulk_responses r t b ▸ hanswered hmode)
          · next hmode =>
              rw [if_neg hmode]
              split at h
              · next hnext =>
                  rw [if_pos hnext]
                  dsimp only at h
                  split at h
                  · next hwritten =>
                      exact hsent (respond_reply r.header t (Bool.and_eq_true_iff.mp hwritten).2)
                  · cases h
              · cases h

theorem processMessageSpp_reply (s : SppSession) (r : SppRequest) :
    ∃ p ∈ (processMessageSpp true s r).2, RepliesTo r.header p := by
  rw [processMessageSpp]
  split
  · exact ⟨_, List.mem_singleton_self _, repliesTo_error r.header _⟩
  rw [if_neg (by decide)]
  dsimp only
  split
  · next hok =>
      obtain ⟨p, hmem, hreply⟩ := processSppRequest_reply hok
      exact ⟨p, List.mem_append_left _ (List.mem_append_left _ hmem), hreply⟩
  · exact ⟨_, List.mem_append_right _ (List.mem_singleton_self _), repliesTo_error r.header _⟩

end Replies

section Agent

/-- The response fits into a message. -/
def AgentReply.Fits : AgentReply → Prop
  | .respond _ size => size ≤ maxDataSize
  | .echo | .refuse _ => True

/-- An answer that fits, with only the settings changed. -/
structure AgentAnswered (m : MsgState) (result : MsgState × AgentReply × Status) : Prop where
  fits : result.2.1.Fits
  session : result.1.session = m.session

theorem supportedRemoteProbes_answered (m : MsgState) (r : AgentRequest) :
    AgentAnswered m (supportedRemoteProbes m r) := by
  rw [supportedRemoteProbes]
  split
  · exact ⟨show 1 ≤ maxDataSize by decide, rfl⟩
  split
  · exact ⟨show 2 ≤ maxDataSize by decide, rfl⟩
  split
  · exact ⟨True.intro, rfl⟩
  · exact ⟨show 2 ≤ maxDataSize by decide, rfl⟩

theorem remoteProbesConfig_fits (m : MsgState) (r : AgentRequest) :
    (remoteProbesConfig m r).1.Fits := by
  rw [remoteProbesConfig]
  split
  · exact show 1 ≤ maxDataSize by decide
  · next v _ =>
      split
      · exact show 1 ≤ maxDataSize by decide
      dsimp only
      split
      · exact v.probesConfig.property
      · exact v.probesConfig.property

theorem agentConfiguration_session (m : MsgState) (packet : List UInt8) :
    (agentConfiguration m packet).session = m.session := by
  cases packet with
  | nil => rfl
  | cons type packet =>
      cases packet with
      | nil => rfl
      | cons value packet =>
          rw [agentConfiguration]
          split
          · rfl
          split
          · rfl
          split
          · split
            · rfl
            · rfl
          · rfl

theorem length_supportedI2cBuses (c : BusConfig) : (supportedI2cBuses c).length ≤ maxIxCBuses := by
  rw [supportedI2cBuses, List.length_map]
  exact (List.length_filter_le _ _).trans (Nat.le_of_eq (List.length_finRange))

theorem agentControl_answered (c : MsgConfig) (m : MsgState) (r : AgentRequest) :
    AgentAnswered m (agentControl c m r) := by
  have hbuses : (if c.bus.enableI2c || c.bus.enableI3c then supportedI2cBuses c.bus
      else []).length + 2 ≤ maxDataSize := by
    have hlength := length_supportedI2cBuses c.bus
    rw [maxIxCBuses] at hlength
    rw [maxDataSize]
    split
    · omega
    · exact show 2 ≤ 3000 by decide
  rw [agentControl]
  refine iteInduction (fun _ => ⟨show 2 ≤ maxDataSize by decide, rfl⟩) fun _ => ?_
  refine iteInduction (fun _ => ⟨show 3 ≤ maxDataSize by decide, rfl⟩) fun _ => ?_
  refine iteInduction (fun _ => ⟨show 2 ≤ maxDataSize by decide, rfl⟩) fun _ => ?_
  refine iteInduction (fun _ => ⟨hbuses, rfl⟩) fun _ => ?_
  refine iteInduction (fun _ => supportedRemoteProbes_answered m r) fun _ => ?_
  refine iteInduction (fun _ => ⟨remoteProbesConfig_fits m r, rfl⟩) fun _ => ?_
  refine iteInduction (fun _ => ⟨?_, rfl⟩) fun _ => ?_
  · exact (Nat.le_of_lt (Nat.mod_lt _ (by decide))).trans (show 256 ≤ maxDataSize by decide)
  refine iteInduction (fun _ => ⟨show 5 ≤ maxDataSize by decide, rfl⟩) fun _ => ?_
  refine iteInduction (fun _ => ⟨show 2 ≤ maxDataSize by decide, rfl⟩) fun _ => ?_
  refine iteInduction (fun _ =>
    ⟨show 1 ≤ maxDataSize by decide, agentConfiguration_session m _⟩) fun _ => ?_
  refine iteInduction (fun _ => ⟨True.intro, rfl⟩) fun _ => ?_
  exact ⟨show 1 ≤ maxDataSize by decide, rfl⟩

theorem AgentReply.Fits.reply {r : AgentRequest} {reply : AgentReply} (h : reply.Fits)
    (hsize : (getMessageSize r.header).isSome) : RepliesTo r.header (reply.packet r) := by
  cases reply with
  | respond bytes size =>
      refine ⟨rfl, rfl, ?_⟩
      dsimp only [AgentReply.packet]
      rw [getMessageSize_of_fields r.header 0 h]
      rfl
  | echo => exact ⟨rfl, rfl, hsize⟩
  | refuse cmdStat => exact repliesTo_error r.header cmdStat

theorem agentControl_replied (c : MsgConfig) (m : MsgState) (r : MsgRequest)
    (hsize : (getMessageSize r.header).isSome) :
    Replied r.header m.session.sent (m.agentControl c r).1.session.sent := by
  obtain ⟨hfits, hsession⟩ := agentControl_answered c m r.toAgentRequest
  have hreply := hfits.reply hsize
  rw [MsgState.agentControl]
  dsimp only
  rw [if_pos hreply.accepted, MsgState.send]
  dsimp only
  rw [hsession]
  exact replied_of_mem _ (List.mem_singleton_self _) hreply

end Agent

section Initialisation

/-- All handlers are initialised without an error to report. -/
structure MsgRequest.StartsUp (c : MsgConfig) (m : MsgState) (r : MsgRequest) : Prop where
  jtag : (jtagInitialize r.jtag.driver m.jtag.jtag (m.jtag.driverMode = .software)).2 = .ok
  i2c : c.bus.enableI2c = true → (i2cInitialize c.bus r.i2cOpens m.session.bus).2 = .ok
  i3c : c.bus.enableI3c = true → r.dbusConnected = true
  target : ∃ t, r.target = some t ∧ t.xdpPresent = false

/-- The power events that the initialisation sends. -/
def MsgRequest.powerEvents (r : MsgRequest) (m : MsgState) : List Packet :=
  if m.session.handlersInitialized then [] else (r.target.map TargetReady.events).getD []

theorem refuse_replied (m : MsgState) (r : MsgRequest) (cmdStat : UInt8) :
    Replied r.header m.session.sent (m.refuse r cmdStat).session.sent :=
  replied_of_mem _ (List.mem_singleton_self _) (repliesTo_error r.header cmdStat)

/-- Without a reply nothing but the power events is sent, and the handlers are ready. -/
structure StartedQuietly (m : MsgState) (r : MsgRequest) (result : MsgState × Option Status) :
    Prop where
  sent : result.1.session.sent = m.session.sent ++ (r.target.map TargetReady.events).getD []
  ready : result.2 ≠ none
  target : ∃ t, r.target = some t ∧ t.xdpPresent = false

theorem initializeTarget_cases (m : MsgState) (r : MsgRequest) :
    (Replied r.header m.session.sent (m.initializeTarget r).1.session.sent ∧
      ¬ ∃ t, r.target = some t ∧ t.xdpPresent = false) ∨
    StartedQuietly m r (m.initializeTarget r) := by
  rw [MsgState.initializeTarget]
  cases htarget : r.target with
  | none =>
      refine .inl ⟨?_, by rintro ⟨t, ⟨⟩, _⟩⟩
      exact replied_of_mem _ (List.mem_singleton_self _) (repliesTo_error r.header _)
  | some t =>
      dsimp only
      cases hxdp : t.xdpPresent with
      | true =>
          refine .inl ⟨(refuse_replied _ r _).append _, ?_⟩
          rintro ⟨u, hu, hnot⟩
          cases hu
          exact ne_true_of_eq_false hnot hxdp
      | false => exact .inr ⟨by rw [htarget]; rfl, by rintro ⟨⟩, t, htarget, hxdp⟩

theorem initializeTarget_grows (m : MsgState) (r : MsgRequest) :
    m.session.sent <+: (m.initializeTarget r).1.session.sent := by
  obtain ⟨⟨packets, hsent, _⟩, _⟩ | hquiet := initializeTarget_cases m r
  · exact hsent ▸ List.prefix_append _ _
  · exact hquiet.sent ▸ List.prefix_append _ _

theorem initializeRest_cases (c : MsgConfig) (m : MsgState) (r : MsgRequest) :
    (Replied r.header m.session.sent
        ((if c.enableSpp then m.initializeSpp r else m).initializeTarget r).1.session.sent ∧
      (c.enableSpp = false → ¬ ∃ t, r.target = some t ∧ t.xdpPresent = false)) ∨
    StartedQuietly m r ((if c.enableSpp then m.initializeSpp r else m).initializeTarget r) := by
  cases hspp : c.enableSpp with
  | false =>
      obtain ⟨hreplied, hnot⟩ | hquiet := initializeTarget_cases m r
      · exact .inl ⟨hreplied, fun _ => hnot⟩
      · exact .inr hquiet
  | true =>
      rw [if_pos rfl, MsgState.initializeSpp]
      cases r.sppReady with
      | false =>
          have hrest := initializeTarget_grows (MsgState.refuse
            { m with spp := { m.spp with handler := r.sppHandler } } r asdFailureInitSppHandler) r
          exact .inl ⟨(refuse_replied _ r _).mono hrest, by rintro ⟨⟩⟩
      | true =>
          obtain ⟨hreplied, _⟩ | hquiet := initializeTarget_cases
            { m with spp := { m.spp with handler := r.sppHandler } } r
          · exact .inl ⟨hreplied, by rintro ⟨⟩⟩
          · exact .inr ⟨hquiet.sent, hquiet.ready, hquiet.target⟩

theorem initializeHandlers_cases (c : MsgConfig) (m : MsgState) (r : MsgRequest)
    (hdue : m.session.handlersInitialized = false) :
    (Replied r.header m.session.sent (m.initializeHandlers c r).1.session.sent ∧
      (c.enableSpp = false → ¬ r.StartsUp c m)) ∨
    (StartedQuietly m r (m.initializeHandlers c r) ∧ (c.enableSpp = false → r.StartsUp c m)) := by
  rw [MsgState.initializeHandlers, if_neg (ne_true_of_eq_false hdue)]
  dsimp only
  split
  · next hfail => exact .inl ⟨refuse_replied _ r _, fun _ hup => hfail.1 hup.jtag⟩
  · next hjtag =>
      split
      · next bus hi2c =>
          split
          · next opened hi3c =>
              have hbus : c.enableSpp = false → (∃ t, r.target = some t ∧ t.xdpPresent = false) →
                  r.StartsUp c m := by
                intro hspp htarget
                refine ⟨?_, fun henable => ?_, fun henable => ?_, htarget⟩
                · by_contra hfailed
                  exact hjtag ⟨hfailed, by rw [hspp]; rfl⟩
                · rw [if_pos henable] at hi2c
                  rw [hi2c]
                · by_contra hdown
                  simp [i3cInitialize, henable, hdown] at hi3c
              obtain ⟨hreplied, hnot⟩ | hquiet := initializeRest_cases c
                (MsgState.withBus { m with jtag := { m.jtag with jtag := (jtagInitialize
                  r.jtag.driver m.jtag.jtag (m.jtag.driverMode = .software)).1 } } opened) r
              · exact .inl ⟨hreplied, fun hspp hup => hnot hspp hup.target⟩
              · exact .inr ⟨⟨hquiet.sent, hquiet.ready, hquiet.target⟩, fun hspp =>
                  hbus hspp hquiet.target⟩
          · next opened status hnot hi3c =>
              refine .inl ⟨refuse_replied _ r _, fun _ hup => ?_⟩
              by_cases henable : c.bus.enableI3c = true
              · simp only [i3cInitialize, henable, hup.i3c henable] at hi3c
                cases hi3c
                exact hnot rfl
              · rw [if_neg henable] at hi3c
                cases hi3c
                exact hnot rfl
      · next bus status hnot hi2c =>
          refine .inl ⟨refuse_replied _ r _, fun _ hup => ?_⟩
          by_cases henable : c.bus.enableI2c = true
          · have hok := hup.i2c henable
            rw [if_pos henable] at hi2c
            rw [hi2c] at hok
            exact hnot hok
          · rw [if_neg henable] at hi2c
            cases hi2c
            exact hnot rfl

end Initialisation

section Silence

/-- The message is passed on to SPP, which is not enabled. -/
structure Dropped (c : MsgConfig) (m : MsgState) (r : MsgRequest) : Prop where
  encBit : r.header.encBit = 0
  type : r.header.type = sppType
  supported : Supported r.header
  disabled : c.enableSpp = false
  started : m.session.handlersInitialized = true ∨ r.StartsUp c m

/-- What is sent to the client without being asked for. -/
def MsgRequest.unsolicited (r : MsgRequest) (m : MsgState) : List Packet :=
  r.logged.map RemoteLog.packet ++ r.powerEvents m

/-- `process_message` replies, unless it drops an SPP message. -/
theorem processMessage_sent (c : MsgConfig) (m : MsgState) (r : MsgRequest) :
    (Replied r.header m.session.sent (m.processMessage c r).session.sent ∧
      ¬ (r.header.type = sppType ∧ Supported r.header ∧ c.enableSpp = false)) ∨
    ((m.processMessage c r).session.sent = m.session.sent ∧ r.header.type = sppType ∧
      Supported r.header ∧ c.enableSpp = false) := by
  rw [MsgState.processMessage]
  by_cases hrefused : (r.header.type ≠ jtagType ∧ r.header.type ≠ i2cType ∧
      r.header.type ≠ sppType) ∨
      (r.header.cmdStat ≠ 0 ∧ r.header.cmdStat ≠ 0x80 ∧ r.header.cmdStat ≠ 1)
  · rw [if_pos hrefused]
    refine .inl ⟨refuse_replied m r _, fun h => ?_⟩
    obtain hother | hnot := hrefused
    · exact hother.2.2 h.1
    · exact not_supported_iff.mp hnot h.2.1
  rw [if_neg hrefused]
  rw [not_supported_iff, not_or, not_not] at hrefused
  obtain ⟨htype, hsupported⟩ := hrefused
  by_cases hjtag : r.header.type = jtagType
  · obtain ⟨p, hmem, hreply⟩ :=
      processMessageJtag_reply r.jtag m.jtag r.header r.buffer r.written
    rw [if_pos hjtag]
    refine .inl ⟨replied_of_mem _ hmem hreply, fun h => ?_⟩
    exact absurd (hjtag.symm.trans h.1) (by decide)
  rw [if_neg hjtag]
  by_cases hi2c : r.header.type = i2cType
  · rw [if_pos hi2c]
    refine .inl ⟨processI2cMessage_replied c.bus m.session r.toI2c, fun h => ?_⟩
    exact absurd (hi2c.symm.trans h.1) (by decide)
  rw [if_neg hi2c]
  have hspp : r.header.type = sppType := by
    by_contra hother
    exact htype ⟨hjtag, hi2c, hother⟩
  cases henable : c.enableSpp with
  | true =>
      obtain ⟨p, hmem, hreply⟩ := processMessageSpp_reply m.spp (r.toSpp m)
      exact .inl ⟨replied_of_mem _ hmem hreply, fun h => absurd h.2.2 (by decide)⟩
  | false =>
      refine .inr ⟨?_, hspp, hsupported, rfl⟩
      have hpassed := mt not_supported_iff.mp (not_not.mpr hsupported)
      have hdropped : processMessageSpp false m.spp (r.toSpp m) = (m.spp, []) := by
        rw [processMessageSpp, MsgRequest.toSpp, if_neg hpassed]
        rfl
      rw [hdropped]
      exact List.append_nil _

theorem processMessage_grows (c : MsgConfig) (m : MsgState) (r : MsgRequest) :
    m.session.sent <+: (m.processMessage c r).session.sent := by
  obtain ⟨⟨packets, hsent, _⟩, _⟩ | ⟨hsent, _⟩ := processMessage_sent c m r
  · exact hsent ▸ List.prefix_append _ _
  · exact hsent ▸ List.prefix_rfl

theorem replied_append_iff (request : MessageHeader) (before packets : List Packet) :
    Replied request before (before ++ packets) ↔ ∃ p ∈ packets, RepliesTo request p := by
  constructor
  · intro h
    obtain ⟨others, heq, hreply⟩ := h
    rwa [List.append_cancel_left heq]
  · exact fun h => ⟨packets, rfl, h⟩

/-- A message that needs the handlers is answered, or it is dropped. -/
theorem handled_cases (c : MsgConfig) (m : MsgState) (r : MsgRequest)
    (henc : r.header.encBit = 0) :
    (Replied r.header m.session.sent (m.handled c r).1.session.sent ∧ ¬ Dropped c m r) ∨
    ((m.handled c r).1.session.sent = m.session.sent ++ r.powerEvents m ∧ Dropped c m r) := by
  cases hdue : m.session.handlersInitialized with
  | true =>
      rw [MsgState.handled, MsgState.initializeHandlers, if_pos hdue, MsgRequest.powerEvents,
        if_pos hdue, List.append_nil]
      obtain ⟨hreplied, hnot⟩ | ⟨hsent, htype, hsupported, hdisabled⟩ := processMessage_sent c m r
      · exact .inl ⟨hreplied, fun h => hnot ⟨h.type, h.supported, h.disabled⟩⟩
      · exact .inr ⟨hsent, henc, htype, hsupported, hdisabled, .inl hdue⟩
  | false =>
      have hfresh : m.session.handlersInitialized ≠ true := ne_true_of_eq_false hdue
      rw [MsgState.handled, MsgRequest.powerEvents, if_neg hfresh]
      obtain ⟨⟨t, outcome⟩, hinit⟩ : ∃ result, m.initializeHandlers c r = result := ⟨_, rfl⟩
      have hcases := initializeHandlers_cases c m r hdue
      rw [hinit] at hcases ⊢
      obtain ⟨hreplied, hnot⟩ | ⟨hquiet, hup⟩ := hcases
      · have hkept : ¬ Dropped c m r := fun h =>
          hnot h.disabled (h.started.resolve_left hfresh)
        cases outcome with
        | none => exact .inl ⟨hreplied, hkept⟩
        | some status => exact .inl ⟨hreplied.mono (processMessage_grows c t r), hkept⟩
      · cases outcome with
        | none => exact absurd rfl hquiet.ready
        | some status =>
            have hgrows : m.session.sent <+: t.session.sent :=
              hquiet.sent ▸ List.prefix_append _ _
            obtain ⟨hreplied, hnot⟩ | ⟨hsent, htype, hsupported, hdisabled⟩ :=
              processMessage_sent c t r
            · refine .inl ⟨.of_grows hgrows hreplied, fun h => hnot ?_⟩
              exact ⟨h.type, h.supported, h.disabled⟩
            · refine .inr ⟨hsent.trans hquiet.sent, henc, htype, hsupported, hdisabled, .inr ?_⟩
              exact hup hdisabled

/-- The packets sent before do not matter. -/
theorem dropped_send {c : MsgConfig} {m : MsgState} {r : MsgRequest} {packets : List Packet} :
    Dropped c (m.send packets) r ↔ Dropped c m r :=
  ⟨fun h => ⟨h.encBit, h.type, h.supported, h.disabled, h.started.imp id fun up =>
      ⟨up.jtag, up.i2c, up.i3c, up.target⟩⟩,
    fun h => ⟨h.encBit, h.type, h.supported, h.disabled, h.started.imp id fun up =>
      ⟨up.jtag, up.i2c, up.i3c, up.target⟩⟩⟩

/-- Every message is answered with its tag and origin, whatever the configuration and the
handlers do, if and only if it is not an SPP message that is dropped, or something that
is sent unasked happens to carry its tag and origin. -/
theorem no_silent_request (c : MsgConfig) (m : MsgState) (r : MsgRequest)
    (hsize : (getMessageSize r.header).isSome) :
    Replied r.header m.session.sent (m.asdMsgOnMsgRecv c r).1.session.sent ↔
      ¬ Dropped c m r ∨ ∃ p ∈ r.unsolicited m, RepliesTo r.header p := by
  have hlogged : m.session.sent <+: (m.send (r.logged.map RemoteLog.packet)).session.sent :=
    List.prefix_append _ _
  rw [MsgState.asdMsgOnMsgRecv]
  by_cases henc : r.header.encBit = 0
  swap
  · rw [if_pos henc]
    exact iff_of_true (.of_grows hlogged (refuse_replied _ r _)) (.inl fun h => henc h.encBit)
  rw [if_neg (not_not.mpr henc)]
  by_cases hagent : r.header.type = agentControlType
  · rw [if_pos hagent]
    refine iff_of_true (.of_grows hlogged (agentControl_replied c _ r hsize)) (.inl fun h => ?_)
    exact absurd (hagent.symm.trans h.type) (by decide)
  rw [if_neg hagent]
  obtain ⟨hreplied, hnot⟩ | ⟨hsent, hdropped⟩ :=
    handled_cases c (m.send (r.logged.map RemoteLog.packet)) r henc
  · exact iff_of_true (.of_grows hlogged hreplied) (.inl fun h => hnot (dropped_send.mpr h))
  · rw [hsent, or_iff_right (not_not.mpr (dropped_send.mp hdropped)), MsgState.send]
    dsimp only
    rw [List.append_assoc]
    exact replied_append_iff r.header m.session.sent _

/-- A message of the given type, with every call successful. -/
def plainRequest (type : UInt8) (payload : List UInt8) : MsgRequest where
  header := ⟨2, 0, 0, type, .ofNat payload.length, 0, 5, 0⟩
  buffer := bufferOf payload
  out := fun _ => 0
  vprobe := none
  sppOpens := fun _ => true
  i2cOpens := true
  dbusConnected := true
  sppReady := true
  sppHandler := awaitingHandler
  target := some ⟨false, none, none⟩
  jtag := answeringIo
  i2c := (smoothRequest payload).io
  lock := .taken
  unlock := .taken
  spp := fun _ => ⟨workingDevice, []⟩
  handshake := []
  autocmd := []
  written := true
  logged := []

/-- The handlers are initialised. -/
def readyState : MsgState where
  session := { BusSession.initial 3 0 0 with handlersInitialized := true }
  jtag := shiftingSession .hardware
  spp := ⟨awaitingHandler, .initial, fun _ => 0⟩
  vprobe := none
  remoteLogging := 0
  bulkSendEnable := false
  bulkResponseEnable := false
  bmcVersion := []

/-- A message that reads from an I2C bus. -/
theorem no_silent_request_i2c :
    let c : MsgConfig := ⟨twoBuses .i2c 3 4, false, [0x31, 0]⟩
    let r := plainRequest i2cType [0x21, 0x40]
    (getMessageSize r.header).isSome ∧
      Replied r.header readyState.session.sent (readyState.asdMsgOnMsgRecv c r).1.session.sent :=
  ⟨by decide, (no_silent_request _ readyState _ (by decide)).mpr
    (.inl fun h => absurd h.type (by decide))⟩

/-- An SPP message on the same target. -/
theorem spp_request_silent :
    let c : MsgConfig := ⟨twoBuses .i2c 3 4, false, [0x31, 0]⟩
    let r := plainRequest sppType [0x10, 0, 0, 1, 0xAA]
    (readyState.asdMsgOnMsgRecv c r).1.session.sent = readyState.session.sent ∧
      ¬ Replied r.header readyState.session.sent
        (readyState.asdMsgOnMsgRecv c r).1.session.sent := by
  intro c r
  have hsent : (readyState.asdMsgOnMsgRecv c r).1.session.sent = readyState.session.sent ++ [] :=
    rfl
  refine ⟨hsent, ?_⟩
  rw [hsent, replied_append_iff]
  rintro ⟨p, ⟨⟩, _⟩

end Silence

end AtScaleDebug
