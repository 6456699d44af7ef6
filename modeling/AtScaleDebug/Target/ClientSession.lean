import AtScaleDebug.Target.MessageRead
import AtScaleDebug.Target.Dispatch
import AtScaleDebug.Target.PlatformConfig

/-!
The target side of the daemon over the lives of its clients: what `on_client_connect`
sets up, the calls of `asd_msg_read` and `asd_msg_event` that a client leads to, and what
`on_client_disconnect` leaves behind. The handlers and the configuration are made anew
for each client. The packet of the bulk mode, the output message, the memory of the
message that was read last and what was read of the platform are not.
-/

namespace AtScaleDebug

open ByteBuffer

def asdFailureHeaderSize : UInt8 := 0x2F
def asdEventXdpPresent : UInt8 := 6
def loopbackCmd : UInt8 := 18

/-- What the daemon is started with: the bus options of its command line, which the
handlers can work with, and its version. -/
structure DaemonArgs where
  busopt : BusOptions
  asdVersion : List UInt8
  wf : busopt.Wf

/-- The bus options in `on_client_connect` and the object path of the platform, which are
static, the configuration, the state behind the messages, the message that is being read
and the buffer of the output message. -/
structure Daemon where
  args : DaemonArgs
  targetBusOptions : BusOptions
  platformPath : List UInt8
  config : MsgConfig
  msg : MsgState
  inMsg : IncomingMsg
  out : Nat → UInt8
  wf : targetBusOptions.Wf

/-- What the D-Bus answers when it is asked for the buses of the platform: the path of the
object, `none` when `dbus_get_path` fails, and the entries that an object has. -/
structure PlatformRead where
  path : Option (List UInt8)
  reads : List UInt8 → Nat → BusConfigRead

/-- What a new client meets besides the daemon: the platform, `none` when the system bus is
not reached; what the memory of the new handlers holds where they do not set it; and the
version in `/etc/os-release`. The SPP handler is set throughout. -/
structure NewClient where
  platform : Option PlatformRead
  i2cBus : UInt8
  i3cBus : UInt8
  probesConfig : ProbesConfig
  bmcVersion : List UInt8

section Clients

/-- `SPPHandler`. -/
def sppHandler : SppHandler where
  devHandlers := fun _ => false
  deviceCount := 0
  deviceIndex := firstDevice
  driverHandle := none
  thresholdStatus := fun _ => false
  bulkMode := false
  bulkAutocmdCount := fun _ => 0
  broadcastFilepath := false

def JtagSession.initial : JtagSession := ⟨jtagHandler, .software, .single, 0, []⟩

/-- How `dbus_get_platform_bus_config` comes to its object path: it only asks for one when it
has none from before. -/
def PlatformRead.findPath (p : PlatformRead) (path : List UInt8) : List UInt8 × Status :=
  if path = [] then
    match p.path with
    | some found => (found, .ok)
    | none => (path, .err)
  else (path, .ok)

/-- `target_get_i2c_i3c_config`, with the object path: both stay as they are when the system
bus is not reached. -/
def targetGetI2cI3cConfig (platform : Option PlatformRead) (path : List UInt8) (o : BusOptions) :
    (List UInt8 × BusOptions) × Status :=
  match platform with
  | none => ((path, o), .err)
  | some p =>
      let (path, found) := p.findPath path
      let (s, status) := dbusGetPlatformBusConfig found (p.reads path) o
      ((path, s.options), status)

theorem targetGetI2cI3cConfig_wf (platform : Option PlatformRead) (path : List UInt8)
    {o : BusOptions} (h : o.Wf) : (targetGetI2cI3cConfig platform path o).1.2.Wf := by
  cases platform with
  | none => exact h
  | some p => exact dbusGetPlatformBusConfig_wf (p.findPath path).2 _ o

/-- What the messages read of a configuration with these bus options. -/
def DaemonArgs.config (args : DaemonArgs) (o : BusOptions) (h : o.Wf) : MsgConfig :=
  ⟨o.busConfig h, o.enableSpp, args.asdVersion⟩

def DaemonArgs.defaults (args : DaemonArgs) : MsgConfig :=
  args.config (setConfigDefaults args.busopt) (setConfigDefaults_wf args.wf)

/-- The object path and the options of the platform that a client finds; whether they could
be read is ignored. -/
def Daemon.platform (d : Daemon) (n : NewClient) : List UInt8 × BusOptions :=
  (targetGetI2cI3cConfig n.platform d.platformPath d.targetBusOptions).1

def Daemon.options (d : Daemon) (n : NewClient) : BusOptions :=
  onClientConnectOptions d.args.busopt (d.platform n).2

theorem Daemon.platform_wf (d : Daemon) (n : NewClient) : (d.platform n).2.Wf :=
  targetGetI2cI3cConfig_wf n.platform d.platformPath d.wf

theorem Daemon.options_wf (d : Daemon) (n : NewClient) : (d.options n).Wf :=
  onClientConnectOptions_wf d.args.wf (d.platform_wf n)

/-- `asd_msg_init` with the configuration of `set_config_defaults`. -/
def MsgState.initial (defaultBus : UInt8) (n : NewClient) (bulk : SppBulk)
    (buffer : Nat → UInt8) : MsgState where
  session := .initial defaultBus n.i2cBus n.i3cBus
  jtag := .initial
  spp := ⟨sppHandler, bulk, buffer⟩
  vprobe := some ⟨false, 0, 0, n.probesConfig⟩
  remoteLogging := 0
  bulkSendEnable := false
  bulkResponseEnable := false
  bmcVersion := n.bmcVersion

def Daemon.onClientConnect (d : Daemon) (n : NewClient) : Daemon :=
  { d with
    targetBusOptions := (d.platform n).2
    platformPath := (d.platform n).1
    config := d.args.config (d.options n) (d.options_wf n)
    msg := .initial (d.options n).bus n d.msg.spp.bulk d.msg.spp.buffer
    inMsg := { d.inMsg with readState := .initial, readIndex := 0 }
    wf := d.platform_wf n }

/-- `asd_msg_free` clears the message that was read, all but the reserved bit of its header.
The handlers are freed, and nothing reads them before the next client has its own. -/
def Daemon.onClientDisconnect (d : Daemon) : Daemon :=
  { d with
    config := d.args.defaults
    inMsg := ⟨.header, fun i => if i = 0 then d.inMsg.header 0 &&& 0x08 else 0, fun _ => 0, 0, 0⟩ }

end Clients

section Messages

/-- One call of `asd_msg_read`: what the transport holds and how it answers, the outcomes
for a message that is completed, and what the message leaves in the output buffer. The
lines that are sent to the client may show the checksum of a loopback. -/
structure ReadIo where
  bytes : List UInt8
  chunk : Nat → Nat
  pending : Nat → Bool
  ioctl : Nat → Status
  outcomes : MsgRequest
  logged : UInt32 → List RemoteLog
  leaves : (Nat → UInt8) → Nat → UInt8

/-- What `asd_msg_on_msg_recv` returns only becomes the result of the call. -/
def ReadIo.oracle (io : ReadIo) : ReadOracle := ⟨io.chunk, io.pending, io.ioctl, fun _ => .ok⟩

/-- The reader after the call, with the message it has delivered. -/
def Daemon.reader (d : Daemon) (io : ReadIo) : Reader :=
  (AtScaleDebug.asdMsgRead io.oracle ⟨d.inMsg, io.bytes, 0, [], []⟩).1

/-- `read_crc` of a loopback: four bytes of the output buffer behind the first one, which
the payload need not reach. -/
def readCrc (out payload : Nat → UInt8) (size : Nat) : UInt32 :=
  let byte := fun i => if i < size then payload i else out i
  (byte 1).toUInt32 <<< 24 ||| (byte 2).toUInt32 <<< 16 ||| (byte 3).toUInt32 <<< 8 |||
    (byte 4).toUInt32

def isLoopback (header : MessageHeader) : Prop :=
  header.encBit = 0 ∧ header.type = agentControlType ∧ header.cmdStat = loopbackCmd

instance (header : MessageHeader) : Decidable (isLoopback header) :=
  inferInstanceAs (Decidable (_ ∧ _))

/-- The message that the call completes, with its outcomes. -/
def Daemon.request (d : Daemon) (io : ReadIo) : MsgRequest :=
  let header := MessageHeader.ofBytes (d.reader io).inMsg.header
  let buffer := (d.reader io).inMsg.buffer
  { io.outcomes with
    header
    buffer
    out := d.out
    logged :=
      io.logged (if isLoopback header then
        readCrc d.out buffer ((getMessageSize header).getD 0) else 0) }

/-- A reader that is back at the start has delivered a message, or has refused a header
that announces too much. -/
def Daemon.asdMsgRead (d : Daemon) (io : ReadIo) : Daemon :=
  let r := d.reader io
  let next := { d with inMsg := r.inMsg, out := io.leaves d.out }
  if r.inMsg.readState = .initial then
    if r.delivered = [] then
      { next with
        msg := d.msg.send [errorMessage (d.request io).header asdFailureHeaderSize] }
    else { next with msg := (d.msg.asdMsgOnMsgRecv d.config (d.request io)).1 }
  else next

end Messages

section Events

/-- What `target_event` makes of a polled descriptor. -/
inductive TargetEvent where
  | none
  | pin (event : UInt8)
  | bpk (p : PolledIbi)

/-- `send_bpk_event` for an event between two messages. -/
def MsgState.sendBpkEvent (m : MsgState) (p : PolledIbi) : MsgState :=
  let spp := sppStep m.spp (.event m.bulkResponseEnable p)
  { m with spp }.send
    ((spp.bulk.log.drop m.spp.bulk.log.length).filterMap BulkRecord.packet?)

/-- The descriptors are only looked at when the handlers are initialised. -/
def Daemon.asdMsgEvent (d : Daemon) (event : TargetEvent) : Daemon :=
  if d.msg.session.handlersInitialized then
    match event with
    | .none => d
    | .pin event =>
        let failed := errorMessage (.ofBytes d.inMsg.header) asdFailureXdpPresent
        { d with
          msg := d.msg.send
            ((if event = asdEventXdpPresent then [failed] else []) ++ [pinEvent event]) }
    | .bpk p => { d with msg := d.msg.sendBpkEvent p }
  else d

end Events

section Sessions

/-- A call for the client, or a polled event with the lines that it has sent to the
client. -/
inductive ClientInput where
  | read (io : ReadIo)
  | event (event : TargetEvent) (logged : List RemoteLog)

def Daemon.log (d : Daemon) (logged : List RemoteLog) : Daemon :=
  { d with msg := d.msg.send (logged.map RemoteLog.packet) }

def clientStep (d : Daemon) : ClientInput → Daemon
  | .read io => d.asdMsgRead io
  | .event event logged => (d.log logged).asdMsgEvent event

/-- One client from its connection to its end, which may come at any moment. -/
structure ClientRun where
  client : NewClient
  inputs : List ClientInput

/-- The daemon when the client is still there. -/
def Daemon.serve (d : Daemon) (s : ClientRun) : Daemon :=
  Machine.run clientStep (d.onClientConnect s.client) s.inputs

def Daemon.served (d : Daemon) (s : ClientRun) : Daemon := (d.serve s).onClientDisconnect

/-- What the client receives. -/
def Daemon.received (d : Daemon) (s : ClientRun) : List Packet := (d.serve s).msg.session.sent

/-- A client of a platform that is not reached. -/
def plainClient : NewClient := ⟨none, 0, 0, ⟨[], by decide⟩, []⟩

/-- The daemon before its first client: the globals are zero, and the state of the messages
is made with the first client. -/
def Daemon.initial (args : DaemonArgs) : Daemon where
  args := args
  targetBusOptions := ⟨false, false, false, fun _ => 0, fun _ => .notAllowed, 0⟩
  platformPath := []
  config := args.defaults
  msg := .initial args.busopt.bus plainClient .initial fun _ => 0
  inMsg := ⟨.initial, fun _ => 0, fun _ => 0, 0, 0⟩
  out := fun _ => 0
  wf := fun _ _ => .notAllowed

/-- A daemon for SPP and two I2C buses. -/
def plainArgs : DaemonArgs where
  busopt :=
    { enableI2c := true
      enableI3c := false
      enableSpp := true
      busConfigMap := fun i => if i = 0 then 3 else if i = 1 then 4 else 0
      busConfigType := fun i => if i < 2 then .i2c else .notAllowed
      bus := 3 }
  asdVersion := [0x31, 0]
  wf := by
    intro i _
    dsimp only
    split
    · exact .i2c rfl
    · exact .notAllowed

/-- A call that finds a whole message of the given type and command, with every call
successful. -/
def wholeMessage (type cmdStat : UInt8) (payload : List UInt8) : ReadIo where
  bytes := [type <<< 5, .ofNat payload.length, 0, cmdStat] ++ payload
  chunk := fun _ => maxDataSize
  pending := fun _ => true
  ioctl := fun _ => .ok
  outcomes := plainRequest type payload
  logged := fun _ => []
  leaves := id

end Sessions

end AtScaleDebug
