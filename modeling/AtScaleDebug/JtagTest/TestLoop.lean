import AtScaleDebug.JtagTest.Discovery

/-!
The loop of the JTAG test. Each iteration shifts a pattern through the identification
registers of the chain and compares what comes out with the codes that were discovered and
the pattern behind them. An error that is injected into the pattern is to be noticed.
-/

namespace AtScaleDebug

open ByteBuffer

def maxIrShiftSize : Nat := 0x400
def defaultIrShiftSize : Nat := 11
def sizeofShiftInData : Nat := 128

/-- `jtag_test_args`, as far as the test depends on them behind their parsing. The shift size
of an instruction register is 0 when it is to be looked up. -/
structure JtagTestArgs where
  irShiftSize : Nat
  irShiftSize_le : irShiftSize ≤ maxIrShiftSize
  loopForever : Bool
  numIterations : Nat
  numIterations_pos : 0 < numIterations
  irValue : UInt32
  manualMode : Bool
  countMode : Bool
  swMode : Bool
  tck : Nat
  humanReadable : TapData
  pattern : Option String
  injectError : Option Nat

/-- Where an iteration looks whether the test was interrupted. -/
inductive TestCheck where
  | setIr | shiftIr | setDr | shiftDr | compare | loop
  deriving DecidableEq, Repr

/-- What an iteration meets: random bytes, the interruption, and the end of the time. -/
structure TestIo where
  random : TapData
  running : TestCheck → Bool
  timeUp : Bool

inductive TestStatus where
  | running
  | ended (result : Bool)
  deriving DecidableEq, Repr

structure TestRun where
  handler : JtagHandler
  expected : Nat → UInt8
  iterations : Nat
  failures : Nat
  status : TestStatus

section Code

/-- `ir_map`. -/
def irMap : List (Nat × Nat) :=
  [(0x0E7BB013, 14), (0x00044113, 16), (0x00111113, 16), (0x00133113, 16), (0x0E7C5013, 14),
    (0x00155113, 16), (0x00128113, 12), (0x00125113, 16), (0x00138113, 12), (0x0E7D4113, 8),
    (0x0012d113, 16), (0x00168113, 12)]

/-- The shift size that the test uses, by the first code where none was given. -/
def testIrShiftSize (args : JtagTestArgs) (uncore : UncoreInfo) : Nat :=
  if args.irShiftSize = 0 then
    ((irMap.find? fun entry =>
      LittleEndian.value (uncore.idcode.take sizeofIdCode) % 2 ^ 28 = entry.1).map
        Prod.snd).getD defaultIrShiftSize
  else args.irShiftSize

def bytePattern (f : Nat → UInt8) : TapData where
  bytes := (List.range sizeofTapDataPattern).map f
  length := by rw [List.length_map, List.length_range]

/-- `apply_pattern`, with what `random` returns. -/
def applyPattern (args : JtagTestArgs) (iteration : Nat) (random : TapData) : Option TapData :=
  let position := iteration % (sizeofTapDataPattern * 8)
  match args.pattern with
  | none => some random
  | some name =>
      if name = "Checkerboard" ∨ name = "CB" then
        some (bytePattern fun i => if i % 2 = 0 then 0xAA else 0x55)
      else if name = "WalkingZero" ∨ name = "WZ" then
        some (bytePattern fun i =>
          if i = position / 8 then ~~~((1 : UInt8) <<< (7 - .ofNat (position % 8))) else 0xFF)
      else if name = "WalkingOne" ∨ name = "WO" then
        some (bytePattern fun i =>
          if i = position / 8 then (1 : UInt8) <<< (7 - .ofNat (position % 8)) else 0)
      else if name = "Random" ∨ name = "RN" then some random
      else if name = "Static" ∨ name = "ST" then some args.humanReadable
      else none

/-- The loop that repeats the pattern in what is expected behind the codes and in what is
shifted in. It stops before the space that is left can get below zero. -/
def fillPattern (numUncores : Nat) (data : TapData) :
    List Nat → (Nat → UInt8) × (Nat → UInt8) → Option ((Nat → UInt8) × (Nat → UInt8))
  | [], arrays => some arrays
  | u :: us, (expected, shiftIn) =>
      let left := sizeofShiftInData - (sizeofIdCode * numUncores + u)
      if left ≤ 4 then some (expected, shiftIn)
      else if left < sizeofTapDataPattern then none
      else
        fillPattern numUncores data us
          (blit expected (sizeofIdCode * numUncores + u) data.bytes, blit shiftIn u data.bytes)

def patternOffsets : List Nat :=
  (List.range (sizeofShiftInData / sizeofTapDataPattern)).map (sizeofTapDataPattern * ·)

/-- `inject_error`, always in bit 5 from the top. -/
def injectError (shiftIn : Nat → UInt8) (position : Option Nat) : Nat → UInt8 :=
  match position with
  | none => shiftIn
  | some p =>
      if p < sizeofShiftInData then
        Function.update shiftIn p (shiftIn p ^^^ (1 : UInt8) <<< (7 - 5 % 8))
      else shiftIn

theorem testIrShiftSize_le (args : JtagTestArgs) (uncore : UncoreInfo) :
    testIrShiftSize args uncore ≤ maxIrShiftSize := by
  rw [testIrShiftSize]
  split
  · cases hfound : irMap.find? fun entry =>
        LittleEndian.value (uncore.idcode.take sizeofIdCode) % 2 ^ 28 = entry.1 with
    | none => decide
    | some entry =>
        have hsizes : ∀ entry ∈ irMap, entry.2 ≤ maxIrShiftSize := by decide
        exact hsizes entry (List.mem_of_find?_eq_some hfound)
  · exact args.irShiftSize_le

theorem irRequest_size (args : JtagTestArgs) (uncore : UncoreInfo) :
    divRoundUp (testIrShiftSize args uncore * uncore.numUncores) 8 ≤ maxTdoSize := by
  have hbits := Nat.mul_le_mul (testIrShiftSize_le args uncore) uncore.le
  simp only [divRoundUp, maxIrShiftSize, maxTapsSupported, maxTdoSize] at hbits ⊢
  omega

def irRequest (args : JtagTestArgs) (uncore : UncoreInfo) (array : Nat → UInt8) :
    ShiftRequest where
  numberOfBits := testIrShiftSize args uncore * uncore.numUncores
  input := some (slice (irCommand (.ofNat uncore.numUncores) (.ofNat (testIrShiftSize args uncore))
    args.irValue array) 0 maxTdoSize)
  output := none
  endState := .rti
  fits := Nat.le_trans (irRequest_size args uncore) (by decide)
  input_covers := by
    intro bytes hbytes
    rw [← Option.mem_some_iff.mp hbytes, length_slice]
    exact irRequest_size args uncore
  output_covers := nofun

def drRequest (shiftIn : Nat → UInt8) : ShiftRequest where
  numberOfBits := sizeofShiftInData * 8
  input := some (slice shiftIn 0 sizeofShiftInData)
  output := some (List.replicate maxTdoSize 0)
  endState := .rti
  fits := by decide
  input_covers := by
    intro bytes hbytes
    cases hbytes
    rw [length_slice]
    decide
  output_covers := by
    intro bytes hbytes
    cases hbytes
    rw [List.length_replicate]
    decide

namespace TestRun

/-- A step that fails is counted, or ends the test. -/
def check (s : TestRun) (args : JtagTestArgs) (running ok : Bool) : Except TestRun TestRun :=
  if ok then .ok s
  else if args.countMode && running then .ok { s with failures := s.failures + 1 }
  else .error { s with status := .ended false }

def setTap (s : TestRun) (driver : JtagDriver) (args : JtagTestArgs) (running : Bool)
    (tapState : JtagState) : Except TestRun TestRun :=
  let (handler, status) := jtagSetTapState driver s.handler tapState
  { s with handler }.check args running (decide (status = Status.ok))

/-- The output buffer is also there when the shift fails. -/
def shift (s : TestRun) (driver : JtagDriver) (args : JtagTestArgs) (running : Bool)
    (r : ShiftRequest) : Except TestRun (TestRun × List UInt8) :=
  let (handler, status, tdo) := jtagShift driver s.handler r
  ({ s with handler }.check args running (decide (status = Status.ok))).map fun s =>
    (s, tdo.getD [])

/-- What follows the comparison. -/
def next (s : TestRun) (args : JtagTestArgs) (io : TestIo) : TestRun :=
  if !io.running .loop then { s with status := .ended true }
  else if io.timeUp && args.loopForever then { s with status := .ended true }
  else { s with iterations := s.iterations + 1 }

/-- The part with the data registers, from the pattern on. -/
def scanData (s : TestRun) (driver : JtagDriver) (args : JtagTestArgs) (uncore : UncoreInfo)
    (io : TestIo) : Except TestRun TestRun :=
  match applyPattern args s.iterations io.random with
  | none => .error { s with status := .ended false }
  | some data =>
      match fillPattern uncore.numUncores data patternOffsets (s.expected, fun _ => 0) with
      | none => .error { s with status := .ended false }
      | some (expected, shiftIn) =>
          match { s with expected }.shift driver args (io.running .shiftDr)
              (drRequest (injectError shiftIn args.injectError)) with
          | .error s => .error s
          | .ok (s, tdo) =>
              if args.manualMode then .ok s
              else
                s.check args (io.running .compare)
                  (decide (slice expected 0 sizeofShiftInData = tdo.take sizeofShiftInData))

/-- An iteration of `jtag_test`. -/
def iteration (driver : JtagDriver) (args : JtagTestArgs) (uncore : UncoreInfo)
    (array : Nat → UInt8) (s : TestRun) (io : TestIo) : Except TestRun TestRun :=
  match s.setTap driver args (io.running .setIr) .shfIr with
  | .error s => .error s
  | .ok s =>
      match s.shift driver args (io.running .shiftIr) (irRequest args uncore array) with
      | .error s => .error s
      | .ok (s, _) =>
          match s.setTap driver args (io.running .setDr) .shfDr with
          | .error s => .error s
          | .ok s => (s.scanData driver args uncore io).map fun s => s.next args io

/-- One round of the loop. A loop that ends by its condition has run an iteration. -/
def step (driver : JtagDriver) (args : JtagTestArgs) (uncore : UncoreInfo)
    (array : Nat → UInt8) (s : TestRun) (io : TestIo) : TestRun :=
  match s.status with
  | .ended _ => s
  | .running =>
      if !(args.loopForever || s.iterations < args.numIterations) then
        { s with status := .ended true }
      else
        match s.iteration driver args uncore array io with
        | .error s | .ok s => s

/-- The state before the first iteration. -/
def start (handler : JtagHandler) (uncore : UncoreInfo) : TestRun where
  handler := handler
  expected := blit (fun _ => 0) 0 (uncore.idcode.take (sizeofIdCode * uncore.numUncores))
  iterations := 0
  failures := 0
  status := .running

end TestRun

/-- `jtag_test_main` behind the arguments, with its rounds as far as they are listed. The
discovery uses the pattern that `human_readable` gives. -/
def jtagTestMain (driver : JtagDriver) (args : JtagTestArgs) (behind : BehindPattern)
    (array : Nat → UInt8) (ios : List TestIo) : Option TestRun :=
  match initJtag driver args.swMode args.tck with
  | none => none
  | some s =>
      match uncoreDiscovery driver s args.humanReadable behind with
      | (_, none) => none
      | (s, some uncore) =>
          match resetJtagToRti driver s with
          | (_, false) => none
          | (s, true) =>
              some (Machine.run (TestRun.step driver args uncore array) (.start s uncore) ios)

end Code

section Fill

/-- How much of what is shifted in comes out behind the codes. -/
def shownSize (numUncores : Nat) : Nat := sizeofShiftInData - sizeofIdCode * numUncores

/-- What is expected after `j` copies of the pattern: the codes, what is shifted in so far,
and nothing where no copy fits. -/
structure Filled (codes : List UInt8) (numUncores j : Nat) (expected shiftIn : Nat → UInt8) :
    Prop where
  codes : slice expected 0 (sizeofIdCode * numUncores) = codes
  copied : ∀ i < sizeofTapDataPattern * j, expected (sizeofIdCode * numUncores + i) = shiftIn i
  rest : ∀ i < shownSize numUncores,
    sizeofTapDataPattern * (shownSize numUncores / sizeofTapDataPattern) ≤ i →
      expected (sizeofIdCode * numUncores + i) = 0 ∧ shiftIn i = 0

variable {codes : List UInt8} {numUncores j : Nat} {data : TapData}
  {expected shiftIn : Nat → UInt8}

theorem Filled.copy (h : Filled codes numUncores j expected shiftIn)
    (hfits : j < shownSize numUncores / sizeofTapDataPattern) :
    Filled codes numUncores (j + 1)
      (blit expected (sizeofIdCode * numUncores + sizeofTapDataPattern * j) data.bytes)
      (blit shiftIn (sizeofTapDataPattern * j) data.bytes) where
  codes := by
    rw [slice_blit_before expected data.bytes (by omega), h.codes]
  copied i hi := by
    by_cases hbefore : i < sizeofTapDataPattern * j
    · rw [blit_of_lt _ _ (Nat.add_lt_add_left hbefore _), blit_of_lt _ _ hbefore]
      exact h.copied i hbefore
    · have hoffset := Nat.add_sub_of_le (Nat.le_of_not_lt hbefore)
      have hin : i - sizeofTapDataPattern * j < data.bytes.length := by
        rw [data.length]
        rw [Nat.mul_succ] at hi
        omega
      rw [← hoffset, ← Nat.add_assoc, blit_at _ _ _ _ hin, blit_at _ _ _ _ hin]
  rest i hi hrest := by
    have hbehind : sizeofTapDataPattern * j + data.bytes.length ≤ i := by
      rw [data.length, ← Nat.mul_succ]
      exact Nat.le_trans (Nat.mul_le_mul_left _ hfits) hrest
    rw [blit_of_ge _ _ hbehind, blit_of_ge _ _ (by omega)]
    exact h.rest i hi hrest

/-- The loop fills what is left with whole copies of the pattern. The induction is on the
rounds that are left. -/
theorem fillPattern_filled (data : TapData) (hn : numUncores ≤ maxTapsSupported) {k : Nat}
    (hk : j + k = sizeofShiftInData / sizeofTapDataPattern)
    (hj : j ≤ shownSize numUncores / sizeofTapDataPattern)
    (h : Filled codes numUncores j expected shiftIn) :
    ∃ expected' shiftIn', fillPattern numUncores data
        ((List.range' j k).map (sizeofTapDataPattern * ·)) (expected, shiftIn) =
          some (expected', shiftIn') ∧
      Filled codes numUncores (shownSize numUncores / sizeofTapDataPattern) expected' shiftIn' := by
  induction k generalizing j expected shiftIn with
  | zero =>
      have hall : j = shownSize numUncores / sizeofTapDataPattern := by
        have hle : shownSize numUncores / sizeofTapDataPattern ≤
            sizeofShiftInData / sizeofTapDataPattern := Nat.div_le_div_right (Nat.sub_le _ _)
        omega
      exact ⟨expected, shiftIn, rfl, hall ▸ h⟩
  | succ k ih =>
      rw [List.range'_succ, List.map_cons, fillPattern]
      split
      · next hleft =>
          have hall : j = shownSize numUncores / sizeofTapDataPattern := by
            simp only [shownSize, sizeofShiftInData, sizeofIdCode, sizeofTapDataPattern,
              maxTapsSupported] at *
            omega
          exact ⟨expected, shiftIn, rfl, hall ▸ h⟩
      · next hleft =>
          have hfits : j < shownSize numUncores / sizeofTapDataPattern := by
            simp only [shownSize, sizeofShiftInData, sizeofIdCode, sizeofTapDataPattern,
              maxTapsSupported] at *
            omega
          have hroom : ¬ sizeofShiftInData -
              (sizeofIdCode * numUncores + sizeofTapDataPattern * j) < sizeofTapDataPattern := by
            simp only [shownSize, sizeofShiftInData, sizeofIdCode, sizeofTapDataPattern,
              maxTapsSupported] at *
            omega
          rw [if_neg hroom]
          exact ih (by omega) hfits (h.copy hfits)

/-- What is expected is what a chain with these codes shows of its input if and only if the
input is right as far as it is shown. -/
theorem Filled.shown_iff (h : Filled codes numUncores (shownSize numUncores / sizeofTapDataPattern)
    expected shiftIn) (hn : numUncores ≤ maxTapsSupported) (sent : Nat → UInt8) :
    slice expected 0 sizeofShiftInData =
        (codes ++ slice sent 0 sizeofShiftInData).take sizeofShiftInData ↔
      ∀ i < shownSize numUncores, shiftIn i = sent i := by
  have hsize : sizeofIdCode * numUncores + shownSize numUncores = sizeofShiftInData := by
    simp only [shownSize, sizeofShiftInData, sizeofIdCode, maxTapsSupported] at *
    omega
  have hcodes : codes.length = sizeofIdCode * numUncores := by
    rw [← h.codes, length_slice]
  have hshiftIn (i : Nat) (hi : i < shownSize numUncores) :
      expected (sizeofIdCode * numUncores + i) = shiftIn i := by
    by_cases hcopied : i < sizeofTapDataPattern * (shownSize numUncores / sizeofTapDataPattern)
    · exact h.copied i hcopied
    · obtain ⟨hexpected, hin⟩ := h.rest i hi (Nat.le_of_not_lt hcopied)
      rw [hexpected, hin]
  rw [← hsize, slice_add, h.codes, Nat.zero_add, ← hcodes, List.take_length_add_append,
    take_slice _ _ (Nat.le_add_left _ _), List.append_cancel_left_eq, slice, slice,
    List.map_inj_left, hcodes]
  simp only [List.mem_range, Nat.zero_add]
  exact forall₂_congr fun i hi => by rw [hshiftIn i hi]

theorem injectError_shown_iff (shiftIn : Nat → UInt8) (position : Option Nat) {size : Nat}
    (hsize : size ≤ sizeofShiftInData) :
    (∀ i < size, shiftIn i = injectError shiftIn position i) ↔ ∀ p ∈ position, size ≤ p := by
  cases position with
  | none => exact iff_of_true (fun _ _ => rfl) nofun
  | some p =>
      simp only [Option.mem_some_iff, forall_eq', injectError]
      constructor
      · intro h
        apply Nat.le_of_not_lt
        intro hp
        have hbyte := h p hp
        rw [if_pos (Nat.lt_of_lt_of_le hp hsize), Function.update_self] at hbyte
        have hbit : shiftIn p ^^^ (0 : UInt8) = shiftIn p ^^^ ((1 : UInt8) <<< (7 - 5 % 8)) := by
          rw [UInt8.xor_zero]
          exact hbyte
        exact absurd ((UInt8.xor_right_inj _).mp hbit) (by decide)
      · intro hp i hi
        split
        · rw [Function.update_of_ne (Nat.ne_of_lt (Nat.lt_of_lt_of_le hi hp))]
        · rfl

end Fill

section Passes

/-- A pattern that `apply_pattern` knows. -/
def JtagTestArgs.PatternKnown (args : JtagTestArgs) : Prop :=
  ∀ name ∈ args.pattern, name ∈ ["Checkerboard", "CB", "WalkingZero", "WZ", "WalkingOne", "WO",
    "Random", "RN", "Static", "ST"]

/-- No injected error gets to where it is compared. -/
def JtagTestArgs.ErrorHidden (args : JtagTestArgs) (numUncores : Nat) : Prop :=
  args.manualMode = true ∨ ∀ p ∈ args.injectError, shownSize numUncores ≤ p

theorem applyPattern_isSome_iff (args : JtagTestArgs) (iteration : Nat) (random : TapData) :
    (applyPattern args iteration random).isSome ↔ args.PatternKnown := by
  rw [applyPattern, JtagTestArgs.PatternKnown]
  cases args.pattern with
  | none => exact iff_of_true rfl nofun
  | some name =>
      simp only [Option.mem_some_iff, forall_eq', List.mem_cons, List.not_mem_nil, or_false]
      grind

namespace TestRun

/-- Nothing failed so far. -/
def Clean (s : TestRun) : Prop := s.failures = 0 ∧ s.status ≠ .ended false

/-- Between two iterations on a chain with these codes. -/
structure Ready (codes : List UInt8) (numUncores : Nat) (s : TestRun) : Prop where
  unpadded : s.handler.Unpadded
  filled : Filled codes numUncores 0 s.expected fun _ => 0

variable {codes : List UInt8} {numUncores : Nat} {s : TestRun} (args : JtagTestArgs)

theorem Ready.refill {t : TestRun} {shiftIn : Nat → UInt8} (h : t.handler.Unpadded) {j : Nat}
    (hfilled : Filled codes numUncores j t.expected shiftIn) : t.Ready codes numUncores where
  unpadded := h
  filled := {
    codes := hfilled.codes
    copied := nofun
    rest := fun i hi hrest => ⟨(hfilled.rest i hi hrest).1, rfl⟩ }

theorem setTap_chain (h : s.handler.Unpadded) (registers : List UInt8) (running : Bool)
    (tapState : JtagState) :
    ∃ handler, s.setTap (idcodeChain registers) args running tapState = .ok { s with handler } ∧
      handler.Unpadded ∧ handler.active.tapState = tapState := by
  obtain ⟨handler, hset, hactive⟩ :=
    jtagSetTapState_chain registers s.handler tapState
  refine ⟨handler, ?_, ⟨?_, ?_⟩, ?_⟩
  · rw [setTap, hset]
    rfl
  · rw [hactive]
    exact h.padding
  · rw [hactive]
    exact h.done
  · rw [hactive]

theorem shift_chain (h : s.handler.Unpadded) (registers : List UInt8) (running : Bool)
    {r : ShiftRequest}
    (hstate : s.handler.active.tapState = .shfDr ∨ s.handler.active.tapState = .shfIr)
    (hend : r.endState = .rti) :
    ∃ handler, s.shift (idcodeChain registers) args running r =
        .ok ({ s with handler }, (chainTdo registers s.handler.active.tapState r.numberOfBits
          r.input r.output).getD []) ∧
      handler.Unpadded := by
  obtain ⟨handler, hshift, hunpadded⟩ := jtagShift_chain registers h hstate hend
  refine ⟨handler, ?_, hunpadded⟩
  rw [shift, hshift]
  rfl

/-- What a check of the comparison does to a run. -/
theorem check_outcome (s : TestRun) (args : JtagTestArgs) (running ok : Bool) :
    ∃ t, (s.check args running ok = .ok t ∨ s.check args running ok = .error t) ∧
      t.handler = s.handler ∧ t.expected = s.expected ∧ s.failures ≤ t.failures ∧
      (ok = true → t = s ∧ s.check args running ok = .ok t) ∧
      (ok = false →
        0 < t.failures ∨ s.check args running ok = .error t ∧ t.status = .ended false) := by
  rw [check]
  cases ok with
  | true =>
      exact ⟨s, .inl rfl, rfl, rfl, Nat.le_refl _, fun _ => ⟨rfl, rfl⟩, nofun⟩
  | false =>
      cases hcount : args.countMode && running with
      | true =>
          exact ⟨_, .inl rfl, rfl, rfl, Nat.le_succ _, nofun, fun _ => .inl (Nat.succ_pos _)⟩
      | false => exact ⟨_, .inr rfl, rfl, rfl, Nat.le_refl _, nofun, fun _ => .inr ⟨rfl, rfl⟩⟩

/-- What comes out of the scan is what is expected if and only if no error gets there. -/
theorem drRequest_chain {expected shiftIn : Nat → UInt8}
    (h : Filled codes numUncores (shownSize numUncores / sizeofTapDataPattern) expected shiftIn)
    (hn : numUncores ≤ maxTapsSupported) (position : Option Nat) :
    ∃ tdo, chainTdo codes .shfDr (drRequest (injectError shiftIn position)).numberOfBits
        (drRequest (injectError shiftIn position)).input
        (drRequest (injectError shiftIn position)).output = some tdo ∧
      (slice expected 0 sizeofShiftInData = tdo.take sizeofShiftInData ↔
        ∀ p ∈ position, shownSize numUncores ≤ p) := by
  have hinput := (length_slice (injectError shiftIn position) 0 sizeofShiftInData).ge
  have houtput : sizeofShiftInData ≤ (List.replicate maxTdoSize (0 : UInt8)).length := by
    rw [List.length_replicate]
    decide
  have htdo := chainTdo_data codes hinput houtput
  refine ⟨_, htdo, ?_⟩
  have hlength : ((codes ++ slice (injectError shiftIn position) 0 sizeofShiftInData).take
      sizeofShiftInData).length = sizeofShiftInData := by
    rw [List.length_take, List.length_append, length_slice]
    exact Nat.min_eq_left (Nat.le_add_left _ _)
  rw [List.take_left' hlength, h.shown_iff hn]
  exact injectError_shown_iff shiftIn position (Nat.sub_le _ _)

/-- What a part of an iteration makes of a run on a chain with these codes. -/
structure Outcome (codes : List UInt8) (numUncores : Nat) (good : Prop) (s : TestRun)
    (result : Except TestRun TestRun) (t : TestRun) : Prop where
  reached : result = .ok t ∨ result = .error t
  ready : t.Ready codes numUncores
  failures : s.failures ≤ t.failures
  passes : good → result = .ok t ∧ t.failures = s.failures ∧ t.status = s.status
  detects : ¬ good → 0 < t.failures ∨ result = .error t ∧ t.status = .ended false

theorem scanData_chain {uncore : UncoreInfo} (io : TestIo)
    (h : s.Ready codes uncore.numUncores) (hstate : s.handler.active.tapState = .shfDr) :
    ∃ t, Outcome codes uncore.numUncores
      (args.PatternKnown ∧ args.ErrorHidden uncore.numUncores) s
      (s.scanData (idcodeChain codes) args uncore io) t := by
  rw [scanData, ← applyPattern_isSome_iff args s.iterations io.random]
  cases applyPattern args s.iterations io.random with
  | none =>
      exact ⟨{ s with status := .ended false }, .inr rfl, ⟨h.unpadded, h.filled⟩, Nat.le_refl _,
        fun hgood => absurd hgood.1 (by decide), fun _ => .inr ⟨rfl, rfl⟩⟩
  | some data =>
      obtain ⟨expected, shiftIn, hfill, hfilled⟩ := fillPattern_filled data uncore.le
        (Nat.zero_add _) (Nat.zero_le _) h.filled
      rw [← List.range_eq_range'] at hfill
      obtain ⟨handler, hshift, hunpadded⟩ := shift_chain args
        (s := { s with expected }) h.unpadded codes (io.running .shiftDr)
        (r := drRequest (injectError shiftIn args.injectError)) (.inl hstate) rfl
      obtain ⟨tdo, htdo, hshown⟩ := drRequest_chain hfilled uncore.le args.injectError
      dsimp only at hshift
      rw [hstate, htdo] at hshift
      simp only [patternOffsets, hfill, hshift, Option.getD_some]
      cases hmanual : args.manualMode with
      | true =>
          exact ⟨_, .inl rfl, .refill hunpadded hfilled, Nat.le_refl _, fun _ => ⟨rfl, rfl, rfl⟩,
            fun hbad => absurd ⟨rfl, .inl hmanual⟩ hbad⟩
      | false =>
          obtain ⟨t, hresult, hhandler, hexpected, hfailures, hpass, hfail⟩ :=
            check_outcome { s with handler, expected } args (io.running .compare)
              (decide (slice expected 0 sizeofShiftInData = tdo.take sizeofShiftInData))
          refine ⟨t, hresult, ?_, hfailures, ?_, ?_⟩
          · apply Ready.refill
            · rw [hhandler]
              exact hunpadded
            · rw [hexpected]
              exact hfilled
          · intro hgood
            have hhidden := hgood.2.resolve_left (by rw [hmanual]; decide)
            obtain ⟨ht, hok⟩ := hpass (decide_eq_true (hshown.mpr hhidden))
            rw [ht] at hok ⊢
            exact ⟨hok, rfl, rfl⟩
          · intro hbad
            exact hfail (decide_eq_false fun heq => hbad ⟨rfl, .inr (hshown.mp heq)⟩)

/-- What follows the comparison keeps the result of a run. -/
theorem next_outcome (s : TestRun) (args : JtagTestArgs) (io : TestIo) :
    (s.next args io).handler = s.handler ∧ (s.next args io).expected = s.expected ∧
      (s.next args io).failures = s.failures ∧
      (s.status = .running → (s.next args io).status ≠ .ended false) := by
  rw [next]
  split
  · exact ⟨rfl, rfl, rfl, fun _ => nofun⟩
  · split
    · exact ⟨rfl, rfl, rfl, fun _ => nofun⟩
    · exact ⟨rfl, rfl, rfl, fun hstatus => by rw [hstatus]; nofun⟩

theorem iteration_chain {uncore : UncoreInfo} (array : Nat → UInt8) (io : TestIo)
    (h : s.Ready codes uncore.numUncores) (hstatus : s.status = .running) :
    ∃ t, (s.iteration (idcodeChain codes) args uncore array io = .ok t ∨
        s.iteration (idcodeChain codes) args uncore array io = .error t) ∧
      t.Ready codes uncore.numUncores ∧
      (t.Clean ↔ s.Clean ∧ args.PatternKnown ∧ args.ErrorHidden uncore.numUncores) := by
  obtain ⟨setIr, hsetIr, hirUnpadded, hirState⟩ := setTap_chain args h.unpadded codes
    (io.running .setIr) .shfIr
  obtain ⟨shiftIr, hshiftIr, hshiftUnpadded⟩ := shift_chain args
    (s := { s with handler := setIr }) hirUnpadded codes (io.running .shiftIr)
    (r := irRequest args uncore array) (.inr hirState) rfl
  obtain ⟨setDr, hsetDr, hdrUnpadded, hdrState⟩ := setTap_chain args
    (s := { s with handler := shiftIr }) hshiftUnpadded codes (io.running .setDr) .shfDr
  obtain ⟨t, ht⟩ := scanData_chain args (s := { s with handler := setDr }) io
    ⟨hdrUnpadded, h.filled⟩ hdrState
  simp only [iteration, hsetIr, hshiftIr, hsetDr]
  have hready : (t.next args io).Ready codes uncore.numUncores := by
    obtain ⟨hhandler, hexpected, -, -⟩ := next_outcome t args io
    exact .refill (hhandler ▸ ht.ready.unpadded) (hexpected ▸ ht.ready.filled)
  obtain ⟨-, -, hnextFailures, hnextStatus⟩ := next_outcome t args io
  by_cases hgood : args.PatternKnown ∧ args.ErrorHidden uncore.numUncores
  · obtain ⟨hok, hfailures, htstatus⟩ := ht.passes hgood
    refine ⟨t.next args io, .inl (by rw [hok]; rfl), hready, ?_⟩
    rw [Clean, Clean, hnextFailures, hfailures, hstatus]
    exact ⟨fun hclean => ⟨⟨hclean.1, nofun⟩, hgood⟩,
      fun hclean => ⟨hclean.1.1, hnextStatus (htstatus.trans hstatus)⟩⟩
  · cases ht.reached with
    | inl hok =>
        refine ⟨t.next args io, .inl (by rw [hok]; rfl), hready, iff_of_false ?_ fun h => hgood h.2⟩
        intro hclean
        cases ht.detects hgood with
        | inl hcounted => exact Nat.ne_of_gt hcounted (hnextFailures ▸ hclean.1)
        | inr hended =>
            rw [hok] at hended
            cases hended.1
    | inr herror =>
        refine ⟨t, .inr (by rw [herror]; rfl), ht.ready, iff_of_false ?_ fun h => hgood h.2⟩
        intro hclean
        cases ht.detects hgood with
        | inl hcounted => exact Nat.ne_of_gt hcounted hclean.1
        | inr hended => exact hclean.2 hended.2

/-- The next round runs an iteration. -/
def Looping (args : JtagTestArgs) (s : TestRun) : Prop :=
  s.status = .running ∧ (args.loopForever = true ∨ s.iterations < args.numIterations)

/-- A round keeps a failure, and finds one if and only if the pattern or the error is bad. -/
theorem step_chain {uncore : UncoreInfo} (array : Nat → UInt8) (io : TestIo)
    (h : s.Ready codes uncore.numUncores) :
    (s.step (idcodeChain codes) args uncore array io).Ready codes uncore.numUncores ∧
      ((s.step (idcodeChain codes) args uncore array io).Clean ↔ s.Clean ∧
        (s.Looping args → args.PatternKnown ∧ args.ErrorHidden uncore.numUncores)) := by
  simp only [step, Looping]
  cases hstatus : s.status with
  | ended result =>
      exact ⟨h, (and_iff_left fun hrunning => nomatch hrunning.1).symm⟩
  | running =>
      by_cases hloop : args.loopForever = true ∨ s.iterations < args.numIterations
      · obtain ⟨t, hreached, hready, hclean⟩ := iteration_chain args array io h hstatus
        have hcontinues : (!(args.loopForever || s.iterations < args.numIterations)) = false := by
          rw [Bool.not_eq_false', Bool.or_eq_true, decide_eq_true_iff]
          exact hloop
        simp only [hcontinues, Bool.false_eq_true, if_false, true_and, hloop, forall_const]
        cases hreached with
        | inl hok =>
            rw [hok]
            exact ⟨hready, hclean⟩
        | inr herror =>
            rw [herror]
            exact ⟨hready, hclean⟩
      · have hends : (!(args.loopForever || s.iterations < args.numIterations)) = true := by
          rw [Bool.not_eq_true', ← Bool.not_eq_true, Bool.or_eq_true, decide_eq_true_iff]
          exact hloop
        simp only [hends, if_true]
        refine ⟨⟨h.unpadded, h.filled⟩, fun hclean => ⟨⟨hclean.1, ?_⟩, fun hrunning => ?_⟩,
          fun hclean => ⟨hclean.1.1, nofun⟩⟩
        · rw [hstatus]
          nofun
        · exact absurd hrunning.2 hloop

theorem start_ready {idcodes : List UInt32} {uncore : UncoreInfo} {handler : JtagHandler}
    (h : handler.Unpadded) (hfinds : uncore.Finds idcodes) :
    (start handler uncore).Ready (idRegisters idcodes) uncore.numUncores where
  unpadded := h
  filled := {
    codes := by
      have hsize : (idRegisters idcodes).length = sizeofIdCode * uncore.numUncores := by
        rw [length_idRegisters, hfinds.1]
      rw [start, hfinds.2, ← hsize, slice_blit]
    copied := nofun
    rest := fun i _ _ => by
      have hbehind : 0 + (idRegisters idcodes).length ≤ sizeofIdCode * uncore.numUncores + i := by
        rw [length_idRegisters, hfinds.1, Nat.zero_add]
        exact Nat.le_add_right _ _
      refine ⟨?_, rfl⟩
      simp only [start, hfinds.2]
      exact blit_of_ge _ _ hbehind }

/-- The test of a chain whose codes were found notices exactly the errors that get to where
it compares, in the first round or in no round. -/
theorem run_clean_iff {idcodes : List UInt32} {uncore : UncoreInfo} {handler : JtagHandler}
    (args : JtagTestArgs) (array : Nat → UInt8) (h : handler.Unpadded)
    (hfinds : uncore.Finds idcodes) (io : TestIo) (ios : List TestIo) :
    (Machine.run (step (idcodeChain (idRegisters idcodes)) args uncore array)
        (start handler uncore) (io :: ios)).Clean ↔
      args.PatternKnown ∧ args.ErrorHidden uncore.numUncores := by
  have hlost (s : TestRun) (io : TestIo) (hs : s.Ready (idRegisters idcodes) uncore.numUncores)
      (hfailed : ¬ s.Clean) :
      ¬ (s.step (idcodeChain (idRegisters idcodes)) args uncore array io).Clean :=
    fun hclean => hfailed ((step_chain args array io hs).2.mp hclean).1
  have hkept (s : TestRun) (io : TestIo) (hs : s.Ready (idRegisters idcodes) uncore.numUncores)
      (hclean : s.Clean) :
      (s.step (idcodeChain (idRegisters idcodes)) args uncore array io).Clean ↔
        (s.Looping args → args.PatternKnown ∧ args.ErrorHidden uncore.numUncores) :=
    (step_chain args array io hs).2.trans (and_iff_right hclean)
  rw [Machine.holds_run_iff hlost hkept (fun _ io hs => (step_chain args array io hs).1)
    (start_ready h hfinds) ⟨rfl, nofun⟩]
  constructor
  · intro hmeets
    exact hmeets.1 ⟨rfl, .inr args.numIterations_pos⟩
  · intro hgood
    apply Machine.meets_of_mem
    intro _ _ _ _
    exact hgood

end TestRun

/-- On a chain whose devices it can tell from the pattern, the test notices an injected error
if and only if the error gets to where the test compares. -/
theorem self_test_iff (idcodes : List UInt32) (args : JtagTestArgs) (behind : BehindPattern)
    (array : Nat → UInt8) (io : TestIo) (ios : List TestIo) (hpos : 0 < idcodes.length)
    (hle : idcodes.length ≤ maxTapsSupported) (hclear : PatternClear idcodes args.humanReadable) :
    ∃ run, jtagTestMain (idcodeChain (idRegisters idcodes)) args behind array (io :: ios) =
        some run ∧
      (run.Clean ↔ args.PatternKnown ∧ args.ErrorHidden idcodes.length) := by
  obtain ⟨s, hinit, hunpadded⟩ := initJtag_chain (idRegisters idcodes)
    args.swMode args.tck
  obtain ⟨found, uncore, hfound, hfoundUnpadded, hfinds⟩ :=
    uncoreDiscovery_finds behind hunpadded hpos hle hclear
  obtain ⟨idle, hidle, hidleUnpadded⟩ := resetJtagToRti_chain (idRegisters idcodes) hfoundUnpadded
  refine ⟨Machine.run (TestRun.step (idcodeChain (idRegisters idcodes)) args uncore array)
    (.start idle uncore) (io :: ios), ?_, ?_⟩
  · simp only [jtagTestMain, hinit, hfound, hidle]
  · rw [← hfinds.1]
    exact TestRun.run_clean_iff args array hidleUnpadded hfinds io ios

/-- `args` behind the defaults, with an error to be injected. -/
def injectingArgs (position : Nat) : JtagTestArgs where
  irShiftSize := 0
  irShiftSize_le := Nat.zero_le _
  loopForever := false
  numIterations := 10000
  numIterations_pos := by decide
  irValue := 2
  manualMode := false
  countMode := false
  swMode := true
  tck := 1
  humanReadable := ⟨[0x0d, 0xf0, 0xd4, 0xba, 0xef, 0xbe, 0xad, 0xde], rfl⟩
  pattern := none
  injectError := some position

/-- An error in the last byte that is shown of the input of a single device. -/
theorem self_test_iff_last_byte :
    ∃ run, jtagTestMain (idcodeChain (idRegisters [0x0E7BB013])) (injectingArgs 123)
        ⟨List.replicate 64 0, rfl⟩ (fun _ => 0)
        [⟨⟨List.replicate 8 0xAA, rfl⟩, fun _ => true, false⟩] = some run ∧
      ¬ run.Clean := by
  obtain ⟨run, hrun, hclean⟩ := self_test_iff [0x0E7BB013] (injectingArgs 123)
    ⟨List.replicate 64 0, rfl⟩ (fun _ => 0) ⟨⟨List.replicate 8 0xAA, rfl⟩, fun _ => true, false⟩
    [] (by decide) (by decide) (by decide)
  refine ⟨run, hrun, ?_⟩
  intro h
  cases (hclean.mp h).2 with
  | inl hmanual => cases hmanual
  | inr hhidden => exact absurd (hhidden 123 rfl) (by decide)

end Passes

end AtScaleDebug
