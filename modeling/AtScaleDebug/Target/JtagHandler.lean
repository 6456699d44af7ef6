import Mathlib.Logic.Function.Basic
import AtScaleDebug.Common
import AtScaleDebug.Target.Message

/-!
The JTAG handler over the kernel driver interface. A scan is made with the
software path, as up to three transfers of which two carry padding bytes, or
with the hardware path, as one transfer whose padding word asks the driver to
surround the data with pad bits.

The driver is an oracle for the outcome of its calls, indexed by how many were
made before; the calls themselves are recorded in order. What a transfer puts
on TDI follows from its fields alone. The legacy driver interface, which the
build leaves out, is not modelled.
-/

namespace AtScaleDebug

def divRoundUp (n d : Nat) : Nat := (n + d - 1) / d

def maxWaitCycles : Nat := 256
def apbFreq : Nat := 24740000
def drMaxPadSize : Nat := 250
def irMaxPadSize : Nat := 2000
def maxScanChains : Nat := 2

inductive JtagState where
  | tlr | rti
  | selDr | capDr | shfDr | ex1Dr | pauDr | ex2Dr | updDr
  | selIr | capIr | shfIr | ex1Ir | pauIr | ex2Ir | updIr
  deriving DecidableEq, Repr

inductive JtagPaddingType where
  | irPre | irPost | drPre | drPost
  deriving DecidableEq, Repr

inductive JtagScanState where
  | done | run
  deriving DecidableEq, Repr

/-- The padding of one chain, within the bounds that `JTAG_set_padding` checks. -/
structure JtagShiftPadding where
  drPre : Nat
  drPost : Nat
  irPre : Nat
  irPost : Nat
  dr_le : drPre ≤ drMaxPadSize ∧ drPost ≤ drMaxPadSize
  ir_le : irPre ≤ irMaxPadSize ∧ irPost ≤ irMaxPadSize
  deriving DecidableEq

structure JtagChainState where
  tapState : JtagState
  shiftPadding : JtagShiftPadding
  scanState : JtagScanState
  deriving DecidableEq

inductive JtagXferType where
  | sir | sdr
  deriving DecidableEq, Repr

/-- The fields of a transfer that the two scan paths fill differently, with the
bytes `tdio` points to when the driver is called. -/
structure JtagXfer where
  type : JtagXferType
  source : JtagState
  endstate : JtagState
  padding : BitVec 32
  length : Nat
  tdio : List UInt8
  deriving DecidableEq

inductive DriverCall where
  | openDevice
  | setMode (swMode : Bool)
  | setState (reset : Bool) (source endstate : JtagState)
  | xfer (x : JtagXfer)
  | bitbang (length : Nat)
  | setFreq (freq : Nat)
  deriving DecidableEq

/-- `none` is a failed call; a transfer that succeeds returns its TDO bytes. -/
abbrev JtagDriver := Nat → DriverCall → Option (List UInt8)

def JtagDriver.succeeding (tdo : Nat → DriverCall → List UInt8) : JtagDriver :=
  fun count call => some (tdo count call)

/-- `padDataOne` and `padDataZero` are filled by `JTAGHandler` and never written
again, so they are the constants below. -/
structure JtagHandler where
  chains : Fin maxScanChains → JtagChainState
  activeChain : Fin maxScanChains
  driverOpen : Bool
  swMode : Bool
  calls : List DriverCall

def padDataOne : List UInt8 := List.replicate (irMaxPadSize / 8) 0xFF
def padDataZero : List UInt8 := List.replicate (irMaxPadSize / 8) 0x00

def JtagChainState.initial : JtagChainState :=
  ⟨.tlr, ⟨0, 0, 0, 0, ⟨Nat.zero_le _, Nat.zero_le _⟩, ⟨Nat.zero_le _, Nat.zero_le _⟩⟩, .done⟩

def initializeJtagChains (s : JtagHandler) : JtagHandler :=
  { s with chains := fun _ => .initial }

def jtagHandler : JtagHandler where
  chains _ := .initial
  activeChain := ⟨0, Nat.zero_lt_two⟩
  driverOpen := false
  swMode := true
  calls := []

namespace JtagHandler

def active (s : JtagHandler) : JtagChainState := s.chains s.activeChain

def setActive (s : JtagHandler) (chain : JtagChainState) : JtagHandler :=
  { s with chains := Function.update s.chains s.activeChain chain }

def setTapState (s : JtagHandler) (tapState : JtagState) : JtagHandler :=
  s.setActive { s.active with tapState }

def setScanState (s : JtagHandler) (scanState : JtagScanState) : JtagHandler :=
  s.setActive { s.active with scanState }

def setShiftPadding (s : JtagHandler) (shiftPadding : JtagShiftPadding) : JtagHandler :=
  s.setActive { s.active with shiftPadding }

def ioctl (driver : JtagDriver) (s : JtagHandler) (call : DriverCall) :
    JtagHandler × Option (List UInt8) :=
  ({ s with calls := s.calls ++ [call] }, driver s.calls.length call)

end JtagHandler

/-- The checks and the assignment of `JTAG_set_padding`. -/
def JtagShiftPadding.set (old : JtagShiftPadding) (padding : JtagPaddingType) (value : Nat) :
    Option JtagShiftPadding :=
  if hir : value > irMaxPadSize then none
  else
    match padding with
    | .drPre =>
        if hdr : value > drMaxPadSize then none
        else some { old with drPre := value, dr_le := ⟨Nat.le_of_not_lt hdr, old.dr_le.2⟩ }
    | .drPost =>
        if hdr : value > drMaxPadSize then none
        else some { old with drPost := value, dr_le := ⟨old.dr_le.1, Nat.le_of_not_lt hdr⟩ }
    | .irPre =>
        some { old with irPre := value, ir_le := ⟨Nat.le_of_not_lt hir, old.ir_le.2⟩ }
    | .irPost =>
        some { old with irPost := value, ir_le := ⟨old.ir_le.1, Nat.le_of_not_lt hir⟩ }

def jtagSetPadding (s : JtagHandler) (padding : JtagPaddingType) (value : Nat) :
    JtagHandler × Status :=
  match s.active.shiftPadding.set padding value with
  | none => (s, .err)
  | some shiftPadding => (s.setShiftPadding shiftPadding, .ok)

def jtagSetTapState (driver : JtagDriver) (s : JtagHandler) (tapState : JtagState) :
    JtagHandler × Status :=
  let reset := decide (tapState = .tlr)
  -- the hardware path moves the TAP with its transfers, so only a reset is sent
  if reset || s.swMode then
    match s.ioctl driver (.setState reset s.active.tapState tapState) with
    | (s, none) => (s, .err)
    | (s, some _) => (s.setTapState tapState, .ok)
  else
    (s.setTapState tapState, .ok)

def jtagTapReset (driver : JtagDriver) (s : JtagHandler) : JtagHandler × Status :=
  jtagSetTapState driver s .tlr

def jtagInitialize (driver : JtagDriver) (s : JtagHandler) (swMode : Bool) :
    JtagHandler × Status :=
  match { s with swMode }.ioctl driver .openDevice with
  | (s, none) => ({ s with driverOpen := false }, .err)
  | (s, some _) =>
      match { s with driverOpen := true }.ioctl driver (.setMode swMode) with
      | (s, none) => ({ s with driverOpen := false }, .err)
      | (s, some _) =>
          match jtagSetTapState driver s .tlr with
          | (s, .ok) => (initializeJtagChains s, .ok)
          | (s, _) => ({ s with driverOpen := false }, .err)

def jtagSetActiveChain (s : JtagHandler) (chain : Int) : JtagHandler × Status :=
  if h : 0 ≤ chain ∧ chain < maxScanChains then
    ({ s with activeChain := ⟨chain.toNat, (Int.toNat_lt h.1).mpr h.2⟩ }, .ok)
  else
    (s, .err)

def jtagWaitCycles (driver : JtagDriver) (s : JtagHandler) (numberOfCycles : Nat) :
    JtagHandler × Status :=
  if numberOfCycles > maxWaitCycles then (s, .err)
  else
    match s.ioctl driver (.bitbang numberOfCycles) with
    | (s, none) => (s, .err)
    | (s, some _) => (s, .ok)

def jtagSetJtagTck (driver : JtagDriver) (s : JtagHandler) (tck : Nat) : JtagHandler × Status :=
  match s.ioctl driver (.setFreq (apbFreq / if tck = 0 then 1 else tck)) with
  | (s, none) => (s, .err)
  | (s, some _) => (s, .ok)

/-- The arguments of `JTAG_shift` as its callers pass them: the buffers that are
not null hold the bits, and so does the local transfer buffer. -/
structure ShiftRequest where
  numberOfBits : Nat
  input : Option (List UInt8)
  output : Option (List UInt8)
  endState : JtagState
  fits : divRoundUp numberOfBits 8 ≤ maxDataSize
  input_covers : ∀ bytes ∈ input, divRoundUp numberOfBits 8 ≤ bytes.length
  output_covers : ∀ bytes ∈ output, divRoundUp numberOfBits 8 ≤ bytes.length

/-- `memcpy_s`: a missing source or a source that does not fit clears the
destination. -/
def memcpyS (dest : List UInt8) (src : Option (List UInt8)) (count : Nat) : List UInt8 :=
  if count = 0 then dest
  else
    match src with
    | none => List.replicate dest.length 0
    | some bytes =>
        if dest.length < count then List.replicate dest.length 0
        else bytes.take count ++ dest.drop count

/-- The buffer handed to the driver: the caller's output buffer, else the local
array. The bytes of the array that `memcpy_s` leaves unwritten are never shifted. -/
def shiftTdio (numberOfBits : Nat) (input output : Option (List UInt8)) : List UInt8 :=
  memcpyS (output.getD (List.replicate maxDataSize 0)) input (divRoundUp numberOfBits 8)

/-- The buffer after the driver has stored the bits it read. -/
def receiveTdo (numberOfBits : Nat) (tdio tdo : List UInt8) : List UInt8 :=
  tdo.take (divRoundUp numberOfBits 8) ++ tdio.drop (divRoundUp numberOfBits 8)

def xferType (tapState : JtagState) : JtagXferType :=
  if tapState = .shfIr then .sir else .sdr

abbrev ShiftResult := JtagHandler × Status × Option (List UInt8)

/-- The transfer of `perform_shift` and `JTAG_shift_hw`. -/
def transfer (driver : JtagDriver) (s : JtagHandler) (padding : BitVec 32) (numberOfBits : Nat)
    (input output : Option (List UInt8)) (current endState : JtagState) : ShiftResult :=
  let tdio := shiftTdio numberOfBits input output
  match s.ioctl driver
      (.xfer ⟨xferType current, current, endState, padding, numberOfBits, tdio⟩) with
  | (s, none) => (s, .err, output.map fun _ => tdio)
  | (s, some tdo) =>
      (s.setTapState endState, .ok, output.map fun _ => receiveTdo numberOfBits tdio tdo)

def performShift (driver : JtagDriver) (s : JtagHandler) (numberOfBits : Nat)
    (input output : Option (List UInt8)) (current endState : JtagState) : ShiftResult :=
  transfer driver s 0 numberOfBits input output current endState

/-- `union pad_config`. -/
structure PadConfig where
  prePadNumber : BitVec 12
  postPadNumber : BitVec 12
  padData : BitVec 1
  deriving DecidableEq

def PadConfig.intValue (p : PadConfig) : BitVec 32 :=
  0#7 ++ p.padData ++ p.postPadNumber ++ p.prePadNumber

def PadConfig.ofIntValue (value : BitVec 32) : PadConfig where
  prePadNumber := value.extractLsb' 0 12
  postPadNumber := value.extractLsb' 12 12
  padData := value.extractLsb' 24 1

def padConfig (padding : JtagShiftPadding) : JtagState → Option PadConfig
  | .shfIr => some ⟨.ofNat 12 padding.irPre, .ofNat 12 padding.irPost, 1⟩
  | .shfDr => some ⟨.ofNat 12 padding.drPre, .ofNat 12 padding.drPost, 0⟩
  | _ => none

def jtagShiftHw (driver : JtagDriver) (s : JtagHandler) (r : ShiftRequest) : ShiftResult :=
  let current := s.active.tapState
  match padConfig s.active.shiftPadding current with
  | none => (s, .err, r.output)
  | some padding =>
      let (s, padding) :=
        if s.active.scanState = .done then (s.setScanState .run, padding)
        else (s, { padding with prePadNumber := 0 })
      let (s, padding) :=
        if current = r.endState then (s, { padding with postPadNumber := 0 })
        else (s.setScanState .done, padding)
      transfer driver s padding.intValue r.numberOfBits r.input r.output current r.endState

/-- Prefix length, postfix length and pad bytes of the software path. -/
def scanPadding (padding : JtagShiftPadding) : JtagState → Option (Nat × Nat × List UInt8)
  | .shfIr => some (padding.irPre, padding.irPost, padDataOne)
  | .shfDr => some (padding.drPre, padding.drPost, padDataZero)
  | _ => none

def shiftPreFix (driver : JtagDriver) (s : JtagHandler) (preFix : Nat) (padData : List UInt8)
    (current : JtagState) : JtagHandler × Status :=
  if s.active.scanState = .done then
    let s := s.setScanState .run
    if preFix ≠ 0 then
      let (s, status, _) := performShift driver s preFix (some padData) none current current
      (s, status)
    else (s, .ok)
  else (s, .ok)

def shiftData (driver : JtagDriver) (s : JtagHandler) (r : ShiftRequest) (postFix : Nat)
    (padData : List UInt8) (current : JtagState) : ShiftResult :=
  if postFix ≠ 0 ∧ current ≠ r.endState then
    let s := s.setScanState .done
    match performShift driver s r.numberOfBits r.input r.output current current with
    | (s, .ok, output) =>
        let (s, status, _) :=
          performShift driver s postFix (some padData) none current r.endState
        (s, status, output)
    | failed => failed
  else
    match performShift driver s r.numberOfBits r.input r.output current r.endState with
    | (s, .ok, output) =>
        (if current ≠ r.endState then s.setScanState .done else s, .ok, output)
    | failed => failed

def jtagShift (driver : JtagDriver) (s : JtagHandler) (r : ShiftRequest) : ShiftResult :=
  if !s.swMode then jtagShiftHw driver s r
  else
    let current := s.active.tapState
    match scanPadding s.active.shiftPadding current with
    | none => (s, .err, r.output)
    | some (preFix, postFix, padData) =>
        match shiftPreFix driver s preFix padData current with
        | (s, .ok) => shiftData driver s r postFix padData current
        | (s, status) => (s, status, r.output)

/-- The first `n` bits of a byte array, lowest bit of the first byte first. -/
def dataBits (n : Nat) (bytes : List UInt8) : List Bool :=
  (List.range n).map fun k => (bytes.getD (k / 8) 0).toBitVec.getLsbD (k % 8)

/-- What the driver puts on TDI for a transfer. -/
def JtagXfer.tdi (x : JtagXfer) : List Bool :=
  let p := PadConfig.ofIntValue x.padding
  let pad := p.padData.getLsbD 0
  List.replicate p.prePadNumber.toNat pad ++ dataBits x.length x.tdio ++
    List.replicate p.postPadNumber.toNat pad

def DriverCall.tdi : DriverCall → List Bool
  | .xfer x => x.tdi
  | _ => []

inductive JtagOp where
  | init (swMode : Bool)
  | setPadding (padding : JtagPaddingType) (value : Nat)
  | setTapState (tapState : JtagState)
  | tapReset
  | setActiveChain (chain : Int)
  | shift (r : ShiftRequest)

def jtagOp (driver : JtagDriver) (s : JtagHandler) : JtagOp → JtagHandler × Status
  | .init swMode => jtagInitialize driver s swMode
  | .setPadding padding value => jtagSetPadding s padding value
  | .setTapState tapState => jtagSetTapState driver s tapState
  | .tapReset => jtagTapReset driver s
  | .setActiveChain chain => jtagSetActiveChain s chain
  | .shift r =>
      let (s, status, _) := jtagShift driver s r
      (s, status)

def jtagStep (driver : JtagDriver) (s : JtagHandler) (op : JtagOp) : JtagHandler :=
  (jtagOp driver s op).1

/-- The bits that a call presents on TDI. -/
def jtagTdi (driver : JtagDriver) (s : JtagHandler) (op : JtagOp) : List Bool :=
  ((jtagStep driver s op).calls.drop s.calls.length).flatMap DriverCall.tdi

end AtScaleDebug
