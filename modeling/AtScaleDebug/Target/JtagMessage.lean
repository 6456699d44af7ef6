import AtScaleDebug.Lib.ByteBuffer
import AtScaleDebug.Target.JtagHandler

/-!
Processing of a JTAG message, called a bundle: the commands of its payload, the
calls to the JTAG and target handlers they make, and the response.

The target handler is an oracle for the outcome of its calls, as the driver is
for its own. The calls to both handlers are recorded in the order in which they
are made, each JTAG call with the driver calls behind it, and so are the
commands that were carried out with what came back for them. The records have no
influence on the run; later results are about them.

The active chain is never null, because only `JTAG_set_active_chain` moves it
away from the first one. Log messages are left out.
-/

namespace AtScaleDebug

open ByteBuffer

inductive Pin where
  | pwrgood | preq | resetButton | powerButton | earlyBootStall | sysPwrOk | prdy | tckMuxSelect
  deriving DecidableEq, Repr

/-- The pins below `PIN_MAX`, by their number. -/
def Pin.ofIndex : Nat → Option Pin
  | 0 => some .pwrgood
  | 1 => some .preq
  | 2 => some .resetButton
  | 3 => some .powerButton
  | 4 => some .earlyBootStall
  | 5 => some .sysPwrOk
  | 6 => some .prdy
  | 7 => some .tckMuxSelect
  | _ => none

/-- The state a TAP state command names, from its low four bits. -/
def JtagState.ofCommand (cmd : UInt8) : JtagState :=
  match (cmd &&& 0x0F).toNat with
  | 0 => .tlr
  | 1 => .rti
  | 2 => .selDr
  | 3 => .capDr
  | 4 => .shfDr
  | 5 => .ex1Dr
  | 6 => .pauDr
  | 7 => .ex2Dr
  | 8 => .updDr
  | 9 => .selIr
  | 10 => .capIr
  | 11 => .shfIr
  | 12 => .ex1Ir
  | 13 => .pauIr
  | 14 => .ex2Ir
  | _ => .updIr

def writeConfigMax : Nat := 5

inductive JtagDriverMode where
  | software | hardware
  deriving DecidableEq, Repr

inductive JtagChainSelectMode where
  | single | multi
  deriving DecidableEq, Repr

inductive ScanType where
  | read | write | readWrite
  deriving DecidableEq, Repr

section Commands

/-- `get_scan_length`: zero means 64 bits. -/
def scanBits (cmd : UInt8) : Nat :=
  if (cmd &&& 0x3F).toNat = 0 then 64 else (cmd &&& 0x3F).toNat

def scanBytes (cmd : UInt8) : Nat := divRoundUp (scanBits cmd) 8

/-- A scan command with the bytes it shifts out. -/
structure ScanData where
  cmd : UInt8
  data : List UInt8
  covers : data.length = scanBytes cmd
  deriving DecidableEq

/-- The commands of a bundle. A scan keeps its command byte, which goes into the
response; `cutScan` is a read-write scan whose data is cut off. -/
inductive JtagCommand where
  | writeEventConfig (data : UInt8)
  | jtagFreq (data : UInt8)
  | drPrefix (data : UInt8)
  | drPostfix (data : UInt8)
  | irPrefix (lsb msb : UInt8)
  | irPostfix (lsb msb : UInt8)
  | prdyTimeout (data : UInt8)
  | writePins (data : UInt8) (chainBytes : List UInt8)
  | readStatus (cmd data : UInt8)
  | waitCycles (cmd data : UInt8)
  | waitPrdy
  | clearTimeout
  | tapReset
  | waitSync (timeoutLsb timeoutMsb delayLsb delayMsb : UInt8)
  | tapState (cmd : UInt8)
  | writeScan (scan : ScanData)
  | readScan (cmd : UInt8)
  | readWriteScan (scan : ScanData)
  | cutScan (cmd : UInt8)
  deriving DecidableEq

def isTapState (cmd : UInt8) : Prop := 0x20 ≤ cmd ∧ cmd ≤ 0x2F

instance (cmd : UInt8) : Decidable (isTapState cmd) := inferInstanceAs (Decidable (_ ∧ _))

/-- The range of the scan commands of one type. -/
def ScanType.Covers : ScanType → UInt8 → Prop
  | .write, cmd => 0x40 ≤ cmd ∧ cmd ≤ 0x7F
  | .read, cmd => 0x80 ≤ cmd ∧ cmd ≤ 0xBF
  | .readWrite, cmd => 0xC0 ≤ cmd ∧ cmd ≤ 0xFF

instance : (type : ScanType) → (cmd : UInt8) → Decidable (type.Covers cmd)
  | .write, _ => inferInstanceAs (Decidable (_ ∧ _))
  | .read, _ => inferInstanceAs (Decidable (_ ∧ _))
  | .readWrite, _ => inferInstanceAs (Decidable (_ ∧ _))

/-- How a pin operand is read: a pin, else with bit 6 set a chain selection. -/
def selectsChain (data : UInt8) : Prop :=
  Pin.ofIndex (data &&& 0x7F).toNat = none ∧ data &&& 0x40 = 0x40

instance (data : UInt8) : Decidable (selectsChain data) := inferInstanceAs (Decidable (_ ∧ _))

def chainSelection (data : UInt8) : Nat := (data &&& 0x0F).toNat

def oneOperand (make : UInt8 → JtagCommand) : List UInt8 → Option (JtagCommand × List UInt8)
  | data :: packet => some (make data, packet)
  | [] => none

def twoOperands (make : UInt8 → UInt8 → JtagCommand) :
    List UInt8 → Option (JtagCommand × List UInt8)
  | lsb :: msb :: packet => some (make lsb msb, packet)
  | _ => none

/-- With several chains the selection is followed by its chain bytes. -/
def writePinsOperands (mode : JtagChainSelectMode) :
    List UInt8 → Option (JtagCommand × List UInt8)
  | data :: packet =>
      if selectsChain data ∧ mode = .multi then
        (getPacketData packet (chainSelection data + 1)).map fun (chainBytes, rest) =>
          (.writePins data chainBytes, rest)
      else some (.writePins data [], packet)
  | [] => none

def waitSyncOperands : List UInt8 → Option (JtagCommand × List UInt8)
  | timeoutLsb :: timeoutMsb :: delayLsb :: delayMsb :: packet =>
      some (.waitSync timeoutLsb timeoutMsb delayLsb delayMsb, packet)
  | _ => none

/-- The data of a scan, when the packet holds all of it. -/
def scanOperand (cmd : UInt8) (packet : List UInt8) : Option (ScanData × List UInt8) :=
  if h : scanBytes cmd ≤ packet.length then
    some (⟨cmd, packet.take (scanBytes cmd), List.length_take_of_le h⟩,
      packet.drop (scanBytes cmd))
  else none

/-- The next command and the rest of the packet; `none` is a short packet or an
unknown command. -/
def nextJtagCommand (mode : JtagChainSelectMode) : List UInt8 → Option (JtagCommand × List UInt8)
  | [] => none
  | cmd :: packet =>
      if cmd = 0 then oneOperand .writeEventConfig packet
      else if cmd = 1 then oneOperand .jtagFreq packet
      else if cmd = 2 then oneOperand .drPrefix packet
      else if cmd = 3 then oneOperand .drPostfix packet
      else if cmd = 4 then twoOperands .irPrefix packet
      else if cmd = 5 then twoOperands .irPostfix packet
      else if cmd = 6 then oneOperand .prdyTimeout packet
      else if cmd = 7 then writePinsOperands mode packet
      else if 0x08 ≤ cmd ∧ cmd ≤ 0x0F then oneOperand (.readStatus cmd) packet
      else if cmd = 0x10 ∨ cmd = 0x11 then oneOperand (.waitCycles cmd) packet
      else if cmd = 0x12 then some (.waitPrdy, packet)
      else if cmd = 0x13 then some (.clearTimeout, packet)
      else if cmd = 0x14 then some (.tapReset, packet)
      else if cmd = 0x19 then waitSyncOperands packet
      else if isTapState cmd then some (.tapState cmd, packet)
      else if ScanType.write.Covers cmd then
        (scanOperand cmd packet).map fun (scan, rest) => (.writeScan scan, rest)
      else if ScanType.read.Covers cmd then some (.readScan cmd, packet)
      else if 0xC0 ≤ cmd then
        match scanOperand cmd packet with
        | some (scan, rest) => some (.readWriteScan scan, rest)
        | none => some (.cutScan cmd, packet)
      else none

end Commands

section LookAhead

/-- What `next_cmd2_ptr` points to after the second look ahead, and the packet
that is left when it is null because a command was cut off: the look ahead is
then taken back by one byte only. -/
structure NextCmd2 where
  byte : Option UInt8
  cut : Option (List UInt8)

/-- The configuration commands that the look ahead passes over, with the length
of their operands. -/
def skippedOperands (cmd : UInt8) : Option Nat :=
  if cmd = 0 ∨ cmd = 2 ∨ cmd = 3 ∨ cmd = 0x10 ∨ cmd = 0x11 ∨ cmd = 1 then some 1
  else if cmd = 4 ∨ cmd = 5 then some 2
  else none

/-- The loop of the look ahead. `last` is where the pointer stands when the
packet ends, which is the operand of the command passed over last. -/
def nextCmd2 (last : Option UInt8) : List UInt8 → NextCmd2
  | [] => ⟨last, none⟩
  | cmd :: packet =>
      if isTapState cmd then ⟨some cmd, none⟩
      else
        match skippedOperands cmd, packet with
        | some 1, operand :: packet => nextCmd2 (some operand) packet
        | some 2, operand :: _ :: packet => nextCmd2 (some operand) packet
        | some _, packet => ⟨none, some (cmd :: packet)⟩
        | none, _ => ⟨some cmd, none⟩

/-- The end state after a first and a second TAP state command. -/
def jtagEndState (first : UInt8) (second : Option UInt8) : JtagState :=
  let state := JtagState.ofCommand first
  match second with
  | none => state
  | some byte =>
      if isTapState byte then
        let state2 := JtagState.ofCommand byte
        if state2 = .pauDr ∨ state2 = .pauIr then state2
        else if state2 = .rti then .rti
        else if state = .ex1Dr ∧ state2 = .selDr then .rti
        else state
      else state

/-- The end state of a scan and the packet after the look ahead; `none` is a
command that may not follow the scan. -/
def determineShiftEndState (mode : JtagDriverMode) (current : JtagState) (type : ScanType) :
    List UInt8 → Option JtagState × List UInt8
  | [] => (some current, [])
  | cmd :: packet =>
      if isTapState cmd then
        match mode with
        | .software => (some (jtagEndState cmd none), cmd :: packet)
        | .hardware =>
            let next := nextCmd2 none packet
            (some (jtagEndState cmd next.byte), next.cut.getD (cmd :: packet))
      else if type.Covers cmd then (some current, cmd :: packet)
      else (none, cmd :: packet)

end LookAhead

section Handlers

inductive TargetCall where
  | write (pin : Pin) (assert : Bool)
  | read (pin : UInt8)
  | writeEventConfig (config : UInt8) (enable : Bool)
  | waitPrdy (timeout : UInt8)
  | waitSync (timeout delay : Nat)
  | chainSelectDelay
  deriving DecidableEq

inductive JtagCall where
  | setJtagTck (tck : Nat)
  | setPadding (padding : JtagPaddingType) (value : Nat)
  | setTapState (tapState : JtagState)
  | tapReset
  | setActiveChain (chain : Nat)
  | waitCycles (numberOfCycles : Nat)
  | shift (numberOfBits : Nat) (input : Option (List UInt8)) (outputBytes : Nat)
      (endState : JtagState)
  deriving DecidableEq

inductive HandlerCall where
  | jtag (call : JtagCall) (ioctls : List DriverCall)
  | target (call : TargetCall)
  deriving DecidableEq

/-- The status of a target call, and whether the pin it read is asserted. -/
abbrev TargetDriver := Nat → TargetCall → Status × Bool

/-- The driver returns as many bytes as a transfer has bits for. -/
structure JtagIo where
  driver : JtagDriver
  target : TargetDriver
  fills : ∀ count x tdo, driver count (.xfer x) = some tdo → tdo.length = divRoundUp x.length 8

/-- What a session keeps between bundles. The mode of the configuration is the
one the look ahead uses; the handler has its own. -/
structure JtagSession where
  jtag : JtagHandler
  driverMode : JtagDriverMode
  chainMode : JtagChainSelectMode
  prdyTimeout : UInt8
  calls : List HandlerCall

def JtagSession.jtagCall (s : JtagSession) (call : JtagCall) (jtag : JtagHandler) : JtagSession :=
  { s with jtag, calls := s.calls ++ [.jtag call (jtag.calls.drop s.jtag.calls.length)] }

def JtagSession.targetCall (io : JtagIo) (s : JtagSession) (call : TargetCall) :
    JtagSession × Status × Bool :=
  ({ s with calls := s.calls ++ [.target call] }, io.target s.calls.length call)

/-- An unknown configuration register is not an error. -/
def writeEventConfig (io : JtagIo) (s : JtagSession) (data : UInt8) : JtagSession × Status :=
  let config := data &&& 0x7F
  if config.toNat < writeConfigMax then
    let (s, status, _) := s.targetCall io (.writeEventConfig config (data >>> 7 = 1))
    (s, status)
  else (s, .ok)

/-- The prescale value times the divisor. -/
def jtagTck (data : UInt8) : Nat :=
  let prescale :=
    match (data >>> 5).toNat with
    | 0 => 1
    | 1 => 2
    | 2 => 4
    | 3 => 8
    | _ => 1
  let divisor := (data &&& 0x1F).toNat
  prescale * if divisor = 0 then 64 else divisor

def setTck (io : JtagIo) (s : JtagSession) (data : UInt8) : JtagSession × Status :=
  let (jtag, status) := jtagSetJtagTck io.driver s.jtag (jtagTck data)
  (s.jtagCall (.setJtagTck (jtagTck data)) jtag, status)

/-- The names of the two ends are exchanged: what the protocol calls a prefix is
the padding near TDI. -/
def setPadding (s : JtagSession) (padding : JtagPaddingType) (value : Nat) :
    JtagSession × Status :=
  let (jtag, status) := jtagSetPadding s.jtag padding value
  (s.jtagCall (.setPadding padding value) jtag, status)

/-- Lengths, timeouts and delays travel least significant byte first. -/
def littleEndian (lsb msb : UInt8) : Nat := lsb.toNat + msb.toNat <<< 8

def asdWriteSetActiveChainEvent (io : JtagIo) (s : JtagSession) (chain : Nat) :
    JtagSession × Status :=
  match s.targetCall io (.write .tckMuxSelect (chain = 1)) with
  | (s, .ok, _) =>
      let (s, _) := s.targetCall io .chainSelectDelay
      let (jtag, status) := jtagSetActiveChain s.jtag chain
      (s.jtagCall (.setActiveChain chain) jtag, status)
  | (s, status, _) => (s, status)

/-- A pin, a chain in single chain mode, or chain bytes that are read and dropped. -/
def writePins (io : JtagIo) (s : JtagSession) (data : UInt8) : JtagSession × Status :=
  match Pin.ofIndex (data &&& 0x7F).toNat with
  | some pin =>
      let (s, status, _) := s.targetCall io (.write pin (data >>> 7 = 1))
      (s, status)
  | none =>
      if data &&& 0x40 = 0x40 then
        match s.chainMode with
        | .single =>
            if chainSelection data ≥ maxScanChains then (s, .err)
            else asdWriteSetActiveChainEvent io s (chainSelection data)
        | .multi => (s, .ok)
      else (s, .err)

def waitCycles (io : JtagIo) (s : JtagSession) (data : UInt8) : JtagSession × Status :=
  let cycles := if data.toNat = 0 then 256 else data.toNat
  let (jtag, status) := jtagWaitCycles io.driver s.jtag cycles
  (s.jtagCall (.waitCycles cycles) jtag, status)

/-- A sync that times out is not an error. -/
def waitSync (io : JtagIo) (s : JtagSession) (timeout delay : Nat) : JtagSession × Status :=
  match s.targetCall io (.waitSync timeout delay) with
  | (s, .timeout, _) => (s, .ok)
  | (s, status, _) => (s, status)

theorem scanBytes_le (cmd : UInt8) : scanBytes cmd ≤ maxDataSize := by
  have hlt : (cmd &&& 0x3F).toNat ≤ 0x3F := by
    rw [UInt8.toNat_and]
    exact Nat.and_le_right
  rw [scanBytes, scanBits, divRoundUp, maxDataSize]
  split <;> omega

/-- The cleared part of the response behind the command byte of a scan. -/
def scanBuffer (cmd : UInt8) : List UInt8 := List.replicate (scanBytes cmd) 0

def readRequest (cmd : UInt8) (endState : JtagState) : ShiftRequest where
  numberOfBits := scanBits cmd
  input := none
  output := some (scanBuffer cmd)
  endState := endState
  fits := scanBytes_le cmd
  input_covers := nofun
  output_covers := by
    rintro bytes ⟨⟩
    rw [scanBuffer, List.length_replicate]
    exact Nat.le_refl _

/-- A scan that writes, with a read buffer when it also reads. -/
def ScanData.request (scan : ScanData) (reads : Bool) (endState : JtagState) : ShiftRequest where
  numberOfBits := scanBits scan.cmd
  input := some scan.data
  output := if reads then some (scanBuffer scan.cmd) else none
  endState := endState
  fits := scanBytes_le scan.cmd
  input_covers := by
    rintro bytes ⟨⟩
    exact Nat.le_of_eq scan.covers.symm
  output_covers := by
    intro bytes h
    cases reads with
    | false => cases h
    | true =>
        cases h
        rw [scanBuffer, List.length_replicate]
        exact Nat.le_refl _

/-- A scan; the bytes it reads come back when it succeeds. -/
def shift (io : JtagIo) (s : JtagSession) (r : ShiftRequest) : JtagSession × Status × List UInt8 :=
  let (jtag, status, output) := jtagShift io.driver s.jtag r
  let outputBytes := (r.output.map List.length).getD 0
  (s.jtagCall (.shift r.numberOfBits r.input outputBytes r.endState) jtag, status, output.getD [])

end Handlers

section Execution

/-- The filled part of the response and the parts of the buffer that were
written or handed to the JTAG handler. -/
structure JtagOutput where
  response : List UInt8
  touched : List Region

/-- The cleared output buffer. -/
def JtagOutput.initial : JtagOutput := ⟨[], [⟨0, maxDataSize⟩]⟩

def JtagOutput.put (o : JtagOutput) (bytes : List UInt8) : JtagOutput where
  response := o.response ++ bytes
  touched := o.touched ++ [⟨o.response.length, bytes.length⟩]

/-- The read buffer of a scan. -/
def JtagOutput.lend (o : JtagOutput) (length : Nat) : JtagOutput :=
  { o with touched := o.touched ++ [⟨o.response.length, length⟩] }

/-- What came back for a command. -/
inductive JtagReply where
  | nothing
  | pin (asserted : Bool)
  | bytes (tdo : List UInt8)
  deriving DecidableEq

structure JtagMsgState where
  session : JtagSession
  out : JtagOutput
  executed : List (JtagCommand × JtagReply)

/-- A command that adds nothing to the response. -/
def JtagMsgState.carryOut (s : JtagMsgState) (command : JtagCommand) (rest : List UInt8) :
    JtagSession × Status → JtagMsgState × Status × List UInt8
  | (session, .ok) =>
      ({ s with session, executed := s.executed ++ [(command, .nothing)] }, .ok, rest)
  | (session, status) => ({ s with session }, status, rest)

/-- After the reset button is asserted the wait cycles that follow are skipped,
two bytes at a time; `none` is a single byte that is left over. -/
def skipWaitCycles : List UInt8 → Option (List UInt8)
  | [] => some []
  | [_] => none
  | cmd :: data :: packet =>
      if cmd = 0x10 then skipWaitCycles packet else some (cmd :: data :: packet)

def executeWritePins (io : JtagIo) (s : JtagMsgState) (rest : List UInt8) (data : UInt8)
    (chainBytes : List UInt8) : JtagMsgState × Status × List UInt8 :=
  match s.carryOut (.writePins data chainBytes) rest (writePins io s.session data) with
  | (s, .ok, rest) =>
      if Pin.ofIndex (data &&& 0x7F).toNat = some .resetButton ∧ data >>> 7 = 1 then
        match skipWaitCycles rest with
        | some rest => (s, .ok, rest)
        | none => (s, .err, rest)
      else (s, .ok, rest)
  | failed => failed

def executeReadStatus (io : JtagIo) (s : JtagMsgState) (rest : List UInt8) (cmd data : UInt8) :
    JtagMsgState × Status × List UInt8 :=
  if s.out.response.length + 2 > maxDataSize then (s, .err, rest)
  else
    let pin := data &&& 0x7F
    match s.session.targetCall io (.read pin) with
    | (session, .ok, asserted) =>
        ({ session
           out := s.out.put [cmd, if asserted then pin ||| 0x80 else pin]
           executed := s.executed ++ [(.readStatus cmd data, .pin asserted)] }, .ok, rest)
    | (session, status, _) => ({ s with session }, status, rest)

/-- The look ahead and the shift of a scan. -/
def executeShift (io : JtagIo) (s : JtagMsgState) (rest : List UInt8) (command : JtagCommand)
    (type : ScanType) (request : JtagState → ShiftRequest) :
    JtagMsgState × Status × List UInt8 :=
  match determineShiftEndState s.session.driverMode s.session.jtag.active.tapState type rest with
  | (none, rest) => (s, .err, rest)
  | (some endState, rest) =>
      let r := request endState
      match r.output, shift io s.session r with
      | none, (session, .ok, _) =>
          ({ s with session, executed := s.executed ++ [(command, .nothing)] }, .ok, rest)
      | some buffer, (session, .ok, tdo) =>
          let out := s.out.lend buffer.length
          ({ session
             out := { out with response := out.response ++ tdo }
             executed := s.executed ++ [(command, .bytes tdo)] }, .ok, rest)
      | none, (session, status, _) => ({ s with session }, status, rest)
      | some buffer, (session, status, _) =>
          ({ s with session, out := s.out.lend buffer.length }, status, rest)

/-- A scan that reads puts its command byte first, if all of its bytes fit. -/
def executeReadingScan (s : JtagMsgState) (rest : List UInt8) (cmd : UInt8)
    (scan : JtagMsgState → JtagMsgState × Status × List UInt8) :
    JtagMsgState × Status × List UInt8 :=
  if s.out.response.length + 1 + scanBytes cmd > maxDataSize then (s, .err, rest)
  else scan { s with out := s.out.put [cmd] }

def executeJtagCommand (io : JtagIo) (s : JtagMsgState) (rest : List UInt8) :
    JtagCommand → JtagMsgState × Status × List UInt8
  | .writeEventConfig data =>
      s.carryOut (.writeEventConfig data) rest (writeEventConfig io s.session data)
  | .jtagFreq data => s.carryOut (.jtagFreq data) rest (setTck io s.session data)
  | .drPrefix data =>
      s.carryOut (.drPrefix data) rest (setPadding s.session .drPost data.toNat)
  | .drPostfix data =>
      s.carryOut (.drPostfix data) rest (setPadding s.session .drPre data.toNat)
  | .irPrefix lsb msb =>
      s.carryOut (.irPrefix lsb msb) rest (setPadding s.session .irPost (littleEndian lsb msb))
  | .irPostfix lsb msb =>
      s.carryOut (.irPostfix lsb msb) rest (setPadding s.session .irPre (littleEndian lsb msb))
  | .prdyTimeout data =>
      s.carryOut (.prdyTimeout data) rest ({ s.session with prdyTimeout := data }, .ok)
  | .writePins data chainBytes => executeWritePins io s rest data chainBytes
  | .readStatus cmd data => executeReadStatus io s rest cmd data
  | .waitCycles cmd data => s.carryOut (.waitCycles cmd data) rest (waitCycles io s.session data)
  | .waitPrdy =>
      let (session, status, _) := s.session.targetCall io (.waitPrdy s.session.prdyTimeout)
      s.carryOut .waitPrdy rest (session, status)
  | .clearTimeout => s.carryOut .clearTimeout rest (s.session, .ok)
  | .tapReset =>
      let (jtag, status) := jtagTapReset io.driver s.session.jtag
      s.carryOut .tapReset rest (s.session.jtagCall .tapReset jtag, status)
  | .waitSync timeoutLsb timeoutMsb delayLsb delayMsb =>
      s.carryOut (.waitSync timeoutLsb timeoutMsb delayLsb delayMsb) rest
        (waitSync io s.session (littleEndian timeoutLsb timeoutMsb)
          (littleEndian delayLsb delayMsb))
  | .tapState cmd =>
      let state := JtagState.ofCommand cmd
      let (jtag, status) := jtagSetTapState io.driver s.session.jtag state
      s.carryOut (.tapState cmd) rest (s.session.jtagCall (.setTapState state) jtag, status)
  | .writeScan scan => executeShift io s rest (.writeScan scan) .write (scan.request false)
  | .readScan cmd =>
      executeReadingScan s rest cmd fun s =>
        executeShift io s rest (.readScan cmd) .read (readRequest cmd)
  | .readWriteScan scan =>
      executeReadingScan s rest scan.cmd fun s =>
        executeShift io s rest (.readWriteScan scan) .readWrite (scan.request true)
  | .cutScan cmd => executeReadingScan s rest cmd fun s => (s, .err, rest)

/-- The command loop. A command takes at least one byte of the packet, so as many
rounds as bytes are enough. -/
def jtagLoop (io : JtagIo) : Nat → JtagMsgState → List UInt8 → JtagMsgState × Status
  | 0, s, _ => (s, .ok)
  | _ + 1, s, [] => (s, .ok)
  | rounds + 1, s, byte :: packet =>
      match nextJtagCommand s.session.chainMode (byte :: packet) with
      | none => (s, .err)
      | some (command, rest) =>
          match executeJtagCommand io s rest command with
          | (s, .ok, rest) => jtagLoop io rounds s rest
          | (s, status, _) => (s, status)

end Execution

/-- The payload as the size field of the header bounds it. -/
def jtagPayload (header : MessageHeader) (buffer : Nat → UInt8) : List UInt8 :=
  slice buffer 0 ((getMessageSize header).getD 0)

/-- What a bundle leaves behind: the session, the record of the output buffer and
of the commands, and the packet that went out. -/
structure JtagResult where
  state : JtagMsgState
  sent : List Packet
  status : Status

/-- `accepted` says whether the transport takes the response. -/
def processJtagMessage (io : JtagIo) (s : JtagSession) (header : MessageHeader)
    (buffer : Nat → UInt8) (accepted : Bool) : JtagResult :=
  match getMessageSize header with
  | none => ⟨⟨s, ⟨[], []⟩, []⟩, [], .err⟩
  | some size =>
      match jtagLoop io size ⟨s, .initial, []⟩ (jtagPayload header buffer) with
      | (s, .ok) =>
          match sendResponse header s.out.response 0 with
          | some packet => ⟨s, [packet], if accepted then .ok else .err⟩
          | none => ⟨s, [], .err⟩
      | (s, status) => ⟨s, [], status⟩

/-- The JTAG part of `process_message`: the session and what went out. The driver
handle is the one `JTAG_initialize` opens. -/
def processMessageJtag (io : JtagIo) (s : JtagSession) (header : MessageHeader)
    (buffer : Nat → UInt8) (accepted : Bool) : JtagSession × List Packet :=
  if header.cmdStat ≠ 0 ∧ header.cmdStat ≠ 0x80 ∧ header.cmdStat ≠ 1 then
    (s, [errorMessage header asdMsgNotSupported])
  else if !s.jtag.driverOpen then (s, [errorMessage header asdFailureProcessJtagMsg])
  else
    let result := processJtagMessage io s header buffer accepted
    if result.status = .ok then (result.state.session, result.sent)
    else
      (result.state.session, result.sent ++ [errorMessage header asdFailureProcessJtagMsg])

end AtScaleDebug
