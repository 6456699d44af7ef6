import AtScaleDebug.Lib.ByteBuffer
import AtScaleDebug.Target.Message
import AtScaleDebug.Target.BusHandlers

/-!
Processing of an I2C message: the commands of its payload, the queue of reads
and writes that a flush transfers together, the responses, and the lock of the
default bus around it all.

What happens on the buses is recorded as a list of events. The record has no
influence on the run; later results are about it.
-/

namespace AtScaleDebug

open ByteBuffer

def asdI2cBufferLen : Nat := 15

/-- A queued read or write. The length field is the length of `buffer`. -/
structure I2cMsg where
  read : Bool
  address : UInt8
  buffer : List UInt8
  short : buffer.length ≤ asdI2cBufferLen
  deriving DecidableEq

/-- What the driver read replaces the front of the buffer. -/
def I2cMsg.received (m : I2cMsg) (bytes : List UInt8) : I2cMsg where
  read := m.read
  address := m.address
  buffer := if m.read then (bytes ++ m.buffer.drop bytes.length).take m.buffer.length else m.buffer
  short := by
    split
    · exact (List.length_take_le _ _).trans m.short
    · exact m.short

/-- A bus select without its operand keeps `none`. -/
inductive I2cCommand where
  | busSelect (bus : Option UInt8)
  | setSclk (lsb msb : UInt8)
  | transfer (msg : I2cMsg) (forceStop : Bool)
  deriving DecidableEq

def i2cLength (cmd : UInt8) : Nat := (cmd &&& 0x0F).toNat

theorem i2cLength_le (cmd : UInt8) : i2cLength cmd ≤ asdI2cBufferLen := by
  rw [i2cLength, UInt8.toNat_and]
  exact Nat.and_le_right

def i2cAddress (byte : UInt8) : UInt8 := (byte &&& 0xFE) >>> 1

def i2cForceStop (byte : UInt8) : Bool := byte &&& 0x01 = 0x01

def busSelectOperand : List UInt8 → I2cCommand × List UInt8
  | bus :: packet => (.busSelect (some bus), packet)
  | [] => (.busSelect none, [])

def setSclkOperands : List UInt8 → Option (I2cCommand × List UInt8)
  | lsb :: msb :: packet => some (.setSclk lsb msb, packet)
  | _ => none

def readOperands (cmd : UInt8) : List UInt8 → Option (I2cCommand × List UInt8)
  | byte :: packet =>
      let msg : I2cMsg := ⟨true, i2cAddress byte, List.replicate (i2cLength cmd) 0, by
        simpa only [List.length_replicate] using i2cLength_le cmd⟩
      some (.transfer msg (i2cForceStop byte), packet)
  | [] => none

def writeOperands (cmd : UInt8) : List UInt8 → Option (I2cCommand × List UInt8)
  | byte :: packet =>
      let msg : I2cMsg := ⟨false, i2cAddress byte, packet.take (i2cLength cmd),
        (List.length_take_le _ _).trans (i2cLength_le cmd)⟩
      if i2cLength cmd ≤ packet.length then
        some (.transfer msg (i2cForceStop byte), packet.drop (i2cLength cmd))
      else none
  | [] => none

/-- The next command and the rest of the packet; `none` is an unknown command or
one, other than a bus select, whose operands are cut off. -/
def nextI2cCommand : List UInt8 → Option (I2cCommand × List UInt8)
  | [] => none
  | cmd :: packet =>
      if cmd = 1 then some (busSelectOperand packet)
      else if cmd = 2 then setSclkOperands packet
      else if 0x20 ≤ cmd ∧ cmd ≤ 0x3F then readOperands cmd packet
      else if 0x60 ≤ cmd ∧ cmd ≤ 0x7F then writeOperands cmd packet
      else none

section Outcomes

/-- The calls of a bus select: releasing the default bus, locking the new one
and opening its devices. -/
structure SelectIo where
  unlock : LockIo
  lock : LockIo
  i2cOpens : Bool
  i3cOpens : I3cOpenIo

/-- The transfer `ioctl`, with the bytes it stores for each message. -/
structure TransferIo where
  done : Bool
  bytes : Nat → List UInt8

/-- `sent` is for the answer to a failed bus select and `continued k` for the
continuation packet before the `k`-th entry of a flush. -/
structure I2cIo where
  select : SelectIo
  transfer : TransferIo
  sent : Bool
  continued : Nat → Bool

end Outcomes

inductive BusEvent where
  | accepted (bus : BusState)
  | select (bus : UInt8) (io : SelectIo) (before after : BusState) (status : Status)
  | queue (msg : I2cMsg)
  | transfer (bus : BusState) (device : Option BusDevice) (msgs : List I2cMsg)

/-- The filled part of the output buffer and the packets sent so far. -/
structure I2cOutput where
  response : List UInt8
  sent : List Packet

def I2cOutput.send (o : I2cOutput) (request : MessageHeader) (cmdStat : UInt8) : I2cOutput :=
  let header := { request with
    sizeLsb := .ofNat (o.response.length &&& 0xFF)
    sizeMsb := .ofNat ((o.response.length >>> 8) &&& 0x1F)
    cmdStat }
  { o with sent := o.sent ++ [(header, o.response)] }

structure I2cState where
  bus : BusState
  builder : List I2cMsg
  pending : Bool
  forceStop : Bool
  out : I2cOutput
  events : List BusEvent

def I2cState.emit (s : I2cState) (e : BusEvent) : I2cState := { s with events := s.events ++ [e] }

/-- The codes are the error messages sent on the way. -/
def doBusSelect (c : BusConfig) (io : SelectIo) (s : BusState) (bus : UInt8) :
    BusState × List UInt8 × Status :=
  let (s, errors, status) :=
    if s.defaultBus ≠ bus then
      let (s, unlocked) := devFlock c io.unlock s s.defaultBus .un
      let errors := if unlocked = .ok then [] else [asdFailureRemoveI2cLock]
      let (s, locked) := devFlock c io.lock s bus .ex
      if locked = .ok then (s, errors, .ok) else (s, errors ++ [asdFailureProcessI2cLock], .err)
    else (s, [], .ok)
  if status = .ok then
    match busType c bus with
    | .i2c =>
        let (s, status) := i2cBusSelect c io.i2cOpens s bus
        (s, errors, status)
    | .i3c =>
        let (s, status) := i3cBusSelect c io.i3cOpens s bus
        (s, errors, status)
    | .notAllowed => (s, errors, .err)
  else (s, errors, status)

def doBusSelectCommand (c : BusConfig) (request : MessageHeader) (io : SelectIo) (s : I2cState) :
    Option UInt8 → I2cState × Status
  | none => (s, .err)
  | some bus =>
      let (after, errors, status) := doBusSelect c io s.bus bus
      let sent := s.out.sent ++ errors.map (errorMessage request)
      ({ s with bus := after, out := { s.out with sent } }.emit
        (.select bus io s.bus after status), status)

/-- The clock of neither handler can be set, so only the bus decides. -/
def doSetSclkCommand (c : BusConfig) (s : BusState) : Status :=
  match busType c s.defaultBus with
  | .i2c => if c.enableI2c then .ok else .err
  | .i3c => if c.enableI3c then .ok else .err
  | .notAllowed => .err

def i2cReadWrite (c : BusConfig) (io : TransferIo) (h : I2cHandler) : Option BusDevice × Status :=
  if !c.enableI2c then (none, .err)
  else
    match h.driverHandle with
    | none => (none, .err)
    | some d => (some d, if io.done then .ok else .err)

/-- All messages go to the first device file found open under one of their addresses. -/
def i3cReadWrite (c : BusConfig) (io : TransferIo) (h : I3cHandler) (msgs : List I2cMsg) :
    Option BusDevice × Status :=
  if !c.enableI3c then (none, .err)
  else
    let handle := msgs.findSome? fun m =>
      if ha : m.address.toNat < i3cMaxDevHandlers then h.driverHandlers ⟨m.address.toNat, ha⟩
      else none
    match handle with
    | none => (none, .err)
    | some d => (some d, if io.done then .ok else .err)

/-- The device file the transfer is issued on, if there is one. -/
def doReadWrite (c : BusConfig) (io : TransferIo) (s : BusState) (msgs : List I2cMsg) :
    Option BusDevice × Status :=
  match busType c s.defaultBus with
  | .i2c => i2cReadWrite c io s.i2c
  | .i3c => i3cReadWrite c io s.i3c msgs
  | .notAllowed => (none, .err)

/-- The response entry of a message. Addresses are not acknowledged by the
driver, so the acknowledge bits are those of the whole transfer. -/
def I2cMsg.entry (m : I2cMsg) (ack : Bool) : List UInt8 :=
  let length : UInt8 := .ofNat m.buffer.length
  [(if m.read then 0x20 else 0x60) + length, if ack then 0x80 + length else length] ++
    if m.read then m.buffer else []

def buildResponses (request : MessageHeader) (continued : Nat → Bool) (ack : Bool) :
    Nat → List I2cMsg → I2cOutput → I2cOutput × Status
  | _, [], o => (o, .ok)
  | k, m :: msgs, o =>
      if m.buffer.length + o.response.length + 2 > maxDataSize then
        let o := o.send request asdPacketContinuation
        if continued k then
          buildResponses request continued ack (k + 1) msgs { o with response := m.entry ack }
        else (o, .err)
      else
        buildResponses request continued ack (k + 1) msgs
          { o with response := o.response ++ m.entry ack }

/-- The flush. A failed transfer is answered without acknowledge bits and the
queue is emptied all the same; it stays when the answer cannot be sent. -/
def flushI2c (c : BusConfig) (request : MessageHeader) (io : I2cIo) (s : I2cState) :
    I2cState × Status :=
  let (device, status) := doReadWrite c io.transfer s.bus s.builder
  let msgs :=
    if device.isSome then s.builder.mapIdx fun k m => m.received (io.transfer.bytes k)
    else s.builder
  let s := { s with pending := false, forceStop := false }.emit
    (.transfer s.bus device s.builder)
  match buildResponses request io.continued (status = .ok) 0 msgs s.out with
  | (out, .ok) => ({ s with out, builder := [] }, .ok)
  | (out, status) => ({ s with out }, status)

/-- A failed bus select is answered and skipped with the status of the answer;
every other command goes on to the flush or breaks out of the loop. -/
inductive I2cFlow where
  | next
  | skipped (status : Status)
  | broke
  deriving DecidableEq, Repr

def executeI2cCommand (c : BusConfig) (request : MessageHeader) (io : I2cIo) (s : I2cState) :
    I2cCommand → I2cState × I2cFlow
  | .busSelect bus =>
      match doBusSelectCommand c request io.select s bus with
      | (s, .ok) => (s, .next)
      | (s, _) =>
          ({ s with out := s.out.send request asdFailureProcessI2cMsg },
            .skipped (if io.sent then .ok else .err))
  | .setSclk _ _ => (s, if doSetSclkCommand c s.bus = .ok then .next else .broke)
  | .transfer msg forceStop =>
      ({ s with builder := s.builder ++ [msg], pending := true, forceStop }.emit (.queue msg),
        .next)

/-- The command loop. `io k` holds the outcomes of the `k`-th command; a command
takes at least one byte of the packet, so as many rounds as bytes are enough. -/
def i2cLoop (c : BusConfig) (io : Nat → I2cIo) (request : MessageHeader) :
    Nat → Nat → Status → I2cState → List UInt8 → I2cState × Status
  | 0, _, status, s, _ => (s, status)
  | _ + 1, _, status, s, [] => (s, status)
  | rounds + 1, k, _, s, byte :: packet =>
      match nextI2cCommand (byte :: packet) with
      | none => (s, .err)
      | some (command, rest) =>
          match executeI2cCommand c request (io k) s command with
          | (s, .broke) => (s, .err)
          | (s, .skipped status) => i2cLoop c io request rounds (k + 1) status s rest
          | (s, .next) =>
              if s.pending ∧ (rest = [] ∨ s.forceStop) then
                match flushI2c c request (io k) s with
                | (s, .ok) => i2cLoop c io request rounds (k + 1) .ok s rest
                | (s, status) => (s, status)
              else i2cLoop c io request rounds (k + 1) .ok s rest

section Rounds

private theorem setSclkOperands_length {packet rest : List UInt8} {command : I2cCommand}
    (h : setSclkOperands packet = some (command, rest)) : rest.length ≤ packet.length := by
  simp only [setSclkOperands] at h
  split at h
  · cases h
    simp only [List.length_cons]
    omega
  · cases h

private theorem readOperands_length {cmd : UInt8} {packet rest : List UInt8}
    {command : I2cCommand} (h : readOperands cmd packet = some (command, rest)) :
    rest.length ≤ packet.length := by
  cases packet with
  | nil => cases h
  | cons byte packet =>
      cases h
      simp

private theorem writeOperands_length {cmd : UInt8} {packet rest : List UInt8}
    {command : I2cCommand} (h : writeOperands cmd packet = some (command, rest)) :
    rest.length ≤ packet.length := by
  cases packet with
  | nil => cases h
  | cons byte packet =>
      simp only [writeOperands] at h
      split at h
      · cases h
        simp only [List.length_drop, List.length_cons]
        omega
      · cases h

theorem nextI2cCommand_length {packet rest : List UInt8} {command : I2cCommand}
    (h : nextI2cCommand packet = some (command, rest)) : rest.length < packet.length := by
  cases packet with
  | nil => cases h
  | cons cmd packet =>
      rw [List.length_cons, Nat.lt_succ_iff]
      simp only [nextI2cCommand] at h
      split at h
      · cases packet <;> cases h <;> simp
      split at h
      · exact setSclkOperands_length h
      split at h
      · exact readOperands_length h
      split at h
      · exact writeOperands_length h
      · cases h

/-- The rounds of the loop are never what ends it. -/
theorem i2cLoop_rounds (c : BusConfig) (io : Nat → I2cIo) (request : MessageHeader)
    {rounds k : Nat} (status : Status) (s : I2cState) (packet : List UInt8)
    (enough : packet.length ≤ rounds) :
    i2cLoop c io request rounds k status s packet =
      i2cLoop c io request packet.length k status s packet := by
  induction rounds using Nat.strong_induction_on generalizing k status s packet with
  | _ rounds ih =>
      cases packet with
      | nil => cases rounds <;> rfl
      | cons byte packet =>
          obtain ⟨rounds, rfl⟩ : ∃ n, rounds = n + 1 :=
            ⟨rounds - 1, by simp only [List.length_cons] at enough; omega⟩
          simp only [List.length_cons] at enough ⊢
          simp only [i2cLoop]
          split
          · rfl
          · next command rest hnext =>
              have hlength := nextI2cCommand_length hnext
              simp only [List.length_cons] at hlength
              have hrest (status : Status) (t : I2cState) :
                  i2cLoop c io request rounds (k + 1) status t rest =
                    i2cLoop c io request packet.length (k + 1) status t rest := by
                rw [ih rounds (by omega) status t rest (by omega),
                  ih packet.length (by omega) status t rest (by omega)]
              simp only [hrest]

end Rounds

/-- The payload as the size field of the header bounds it. -/
def i2cPayload (header : MessageHeader) (buffer : Nat → UInt8) : List UInt8 :=
  slice buffer 0 ((getMessageSize header).getD 0)

/-- A message with the outcomes of every call it leads to: of the commands, of
the lock around them, of the last send, and of the initialisation of the
handlers when it is still due. -/
structure I2cRequest where
  header : MessageHeader
  buffer : Nat → UInt8
  io : Nat → I2cIo
  lock : LockIo
  unlock : LockIo
  sent : Bool
  jtagReady : Bool
  i2cOpens : Bool
  dbusConnected : Bool
  targetReady : Bool

def processI2cMessages (c : BusConfig) (r : I2cRequest) (bus : BusState) (sent : List Packet)
    (events : List BusEvent) : I2cState × Status :=
  let s : I2cState := ⟨bus, [], false, false, ⟨[], sent⟩, events⟩
  match getMessageSize r.header with
  | none => (s, .err)
  | some size =>
      match i2cLoop c r.io r.header size 0 .ok s (i2cPayload r.header r.buffer) with
      | (s, .ok) => ({ s with out := s.out.send r.header 0 }, if r.sent then .ok else .err)
      | (s, status) => (s, status)

/-- What one session keeps between messages. -/
structure BusSession where
  handlersInitialized : Bool
  bus : BusState
  sent : List Packet
  events : List BusEvent

/-- The handlers as they are created, with whatever bus numbers the allocated
memory holds. -/
def BusSession.initial (defaultBus i2cBus i3cBus : UInt8) : BusSession where
  handlersInitialized := false
  bus := ⟨defaultBus, ⟨i2cBus, none⟩, ⟨i3cBus, fun _ => none, false⟩⟩
  sent := []
  events := []

def BusSession.refuse (s : BusSession) (r : I2cRequest) (cmdStat : UInt8) : BusSession :=
  { s with sent := s.sent ++ [errorMessage r.header cmdStat] }

/-- The I2C part of `process_message`. -/
def processI2cMessage (c : BusConfig) (s : BusSession) (r : I2cRequest) : BusSession :=
  if r.header.cmdStat ≠ 0 ∧ r.header.cmdStat ≠ 0x80 ∧ r.header.cmdStat ≠ 1 then
    s.refuse r asdMsgNotSupported
  else if !(c.enableI2c || c.enableI3c) then s.refuse r asdI2cMsgNotSupported
  else
    match devFlock c r.lock s.bus s.bus.defaultBus .ex with
    | (bus, .ok) =>
        let (t, status) := processI2cMessages c r bus s.sent (s.events ++ [.accepted bus])
        let failed := if status = .ok then [] else [errorMessage r.header asdFailureProcessI2cMsg]
        let (bus, unlocked) := devFlock c r.unlock t.bus t.bus.defaultBus .un
        let held :=
          if unlocked = .ok then [] else [errorMessage r.header asdFailureRemoveI2cLock]
        { s with bus, sent := t.out.sent ++ failed ++ held, events := t.events }
    | (bus, _) => { s with bus }.refuse r asdFailureProcessI2cLock

/-- The handlers are initialised by the first message that reaches this point,
again and again until all of it succeeds. `jtagReady` also covers the platforms
that go on without JTAG. -/
def initializeHandlers (c : BusConfig) (s : BusSession) (r : I2cRequest) : BusSession × Status :=
  if s.handlersInitialized then (s, .ok)
  else if !r.jtagReady then (s.refuse r asdFailureInitJtagHandler, .err)
  else
    match if c.enableI2c then i2cInitialize c r.i2cOpens s.bus else (s.bus, .ok) with
    | (bus, .ok) =>
        match if c.enableI3c then i3cInitialize c r.dbusConnected bus else (bus, .ok) with
        | (bus, .ok) =>
            if r.targetReady then ({ s with bus, handlersInitialized := true }, .ok)
            else ({ s with bus }.refuse r asdFailureXdpPresent, .err)
        | (bus, _) => ({ s with bus }.refuse r asdFailureInitI2cHandler, .err)
    | (bus, _) => ({ s with bus }.refuse r asdFailureInitI2cHandler, .err)

/-- `asd_msg_on_msg_recv` for a message of the I2C type. -/
def onI2cMsgRecv (c : BusConfig) (s : BusSession) (r : I2cRequest) : BusSession :=
  if r.header.encBit ≠ 0 then s.refuse r asdMsgCryptNotSupported
  else
    match initializeHandlers c s r with
    | (s, .ok) => processI2cMessage c s r
    | (s, _) => s

end AtScaleDebug
