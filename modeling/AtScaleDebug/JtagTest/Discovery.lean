import AtScaleDebug.JtagTest.IrCommand
import AtScaleDebug.Target.ShiftRetry

/-!
How the JTAG test finds the devices of a chain. It shifts a known pattern through the
identification registers that a reset selects, and takes what comes out before the pattern
for their codes. The chain is a driver that shows its registers before what is shifted in.
-/

namespace AtScaleDebug

def maxTapsSupported : Nat := 16
def sizeofTapDataPattern : Nat := 8
def sizeofIdCode : Nat := 4

def uncoreDiscoveryShiftSize : Nat :=
  (maxTapsSupported * sizeofIdCode + sizeofTapDataPattern) * 8

/-- `tap_data_pattern`. -/
structure TapData where
  bytes : List UInt8
  length : bytes.length = sizeofTapDataPattern
  deriving DecidableEq

/-- `uncore_info`, with the bytes of the codes. -/
structure UncoreInfo where
  idcode : List UInt8
  numUncores : Nat
  le : numUncores ≤ maxTapsSupported
  deriving DecidableEq

/-- What lies behind the pattern in memory, as far as the discovery shifts it. -/
abbrev BehindPattern := { bytes : List UInt8 // bytes.length = maxTapsSupported * sizeofIdCode }

section Code

def resetJtagToRti (driver : JtagDriver) (s : JtagHandler) : JtagHandler × Bool :=
  match jtagSetTapState driver s .tlr with
  | (s, .ok) =>
      match jtagSetTapState driver s .rti with
      | (s, .ok) => (s, true)
      | (s, _) => (s, false)
  | (s, _) => (s, false)

/-- `init_jtag`, `none` when the handler cannot be set up. -/
def initJtag (driver : JtagDriver) (swMode : Bool) (tck : Nat) : Option JtagHandler :=
  match jtagInitialize driver jtagHandler swMode with
  | (s, .ok) =>
      if swMode then some s
      else
        match jtagSetJtagTck driver s tck with
        | (s, .ok) => some s
        | _ => none
  | _ => none

/-- The source passes the size of the haystack in bits, so it also looks at what was in the
array before, and it has one value for a pattern at the front and for none. -/
def findPattern (haystack : List UInt8) (haystackSize : Nat) (needle : List UInt8) : Nat :=
  ((List.range (haystackSize - needle.length + 1)).find? fun i =>
    (haystack.drop i).take needle.length = needle).getD 0

/-- The bytes shifted in are the pattern and what lies behind it in memory. -/
def discoveryRequest (pattern : TapData) (behind : BehindPattern) : ShiftRequest where
  numberOfBits := uncoreDiscoveryShiftSize
  input := some (pattern.bytes ++ behind.val)
  output := some (List.replicate maxTdoSize 0xFF)
  endState := .rti
  fits := by decide
  input_covers := by
    intro bytes hbytes
    cases hbytes
    rw [List.length_append, pattern.length, behind.property]
    decide
  output_covers := by
    intro bytes hbytes
    cases hbytes
    rw [List.length_replicate]
    decide

/-- The identification codes are saved when the array holds them. -/
def saveIdcodes (tdo : List UInt8) (numUncores : Nat) : Option UncoreInfo :=
  if h : numUncores ≤ maxTapsSupported then
    some ⟨memcpyS (List.replicate (maxTapsSupported * sizeofIdCode) 0) (some tdo)
      (sizeofIdCode * numUncores), numUncores, h⟩
  else none

def uncoreDiscovery (driver : JtagDriver) (s : JtagHandler) (pattern : TapData)
    (behind : BehindPattern) : JtagHandler × Option UncoreInfo :=
  match resetJtagToRti driver s with
  | (s, false) => (s, none)
  | (s, true) =>
      match jtagSetTapState driver s .shfDr with
      | (s, .ok) =>
          match jtagShift driver s (discoveryRequest pattern behind) with
          | (s, .ok, tdo) =>
              let index := findPattern (tdo.getD []) uncoreDiscoveryShiftSize pattern.bytes * 8
              if index > 0 then (s, saveIdcodes (tdo.getD []) (index / 32)) else (s, none)
          | (s, _, _) => (s, none)
      | (s, _) => (s, none)

end Code

section Chain

/-- The registers of a chain with these codes, from the device next to TDO on. -/
def idRegisters (idcodes : List UInt32) : List UInt8 :=
  idcodes.flatMap fun (code : UInt32) =>
    [code.toUInt8, (code >>> 8).toUInt8, (code >>> 16).toUInt8, (code >>> 24).toUInt8]

/-- A chain whose identification registers are selected. A scan of whole bytes shows the
registers and then what is shifted in. -/
def idcodeChain (registers : List UInt8) : JtagDriver := fun _ call =>
  match call with
  | .xfer x =>
      some (if x.type = .sdr then (registers ++ x.tdio).take (x.length / 8) else x.tdio)
  | _ => some []

/-- No padding is configured and no scan is running. -/
structure JtagHandler.Unpadded (s : JtagHandler) : Prop where
  padding : s.active.shiftPadding = JtagChainState.initial.shiftPadding
  done : s.active.scanState = .done

variable (registers : List UInt8) {s : JtagHandler}

theorem length_idRegisters (idcodes : List UInt32) :
    (idRegisters idcodes).length = sizeofIdCode * idcodes.length := by
  induction idcodes with
  | nil => rfl
  | cons code idcodes ih =>
      rw [idRegisters, List.flatMap_cons, List.length_append, ← idRegisters, ih, sizeofIdCode,
        List.length_cons]
      simp only [List.length_cons, List.length_nil]
      omega

theorem jtagSetTapState_chain (s : JtagHandler) (tapState : JtagState) :
    ∃ t, jtagSetTapState (idcodeChain registers) s tapState = (t, .ok) ∧
      t.active = { s.active with tapState } := by
  rw [jtagSetTapState]
  dsimp only
  split
  · exact ⟨_, rfl, JtagHandler.active_setTapState _ _⟩
  · exact ⟨_, rfl, JtagHandler.active_setTapState _ _⟩

theorem resetJtagToRti_chain (h : s.Unpadded) :
    ∃ t, resetJtagToRti (idcodeChain registers) s = (t, true) ∧ t.Unpadded := by
  obtain ⟨reset, hreset, hresetState⟩ := jtagSetTapState_chain registers s .tlr
  obtain ⟨idle, hidle, hidleState⟩ := jtagSetTapState_chain registers reset .rti
  refine ⟨idle, ?_, ?_, ?_⟩
  · simp only [resetJtagToRti, hreset, hidle]
  · rw [hidleState, hresetState]
    exact h.padding
  · rw [hidleState, hresetState]
    exact h.done

theorem initJtag_chain (swMode : Bool) (tck : Nat) :
    ∃ t, initJtag (idcodeChain registers) swMode tck = some t ∧ t.Unpadded := by
  cases swMode with
  | true => exact ⟨_, rfl, rfl, rfl⟩
  | false => exact ⟨_, rfl, rfl, rfl⟩

/-- What a transfer from a shift state reads back. -/
def chainTdo (registers : List UInt8) (current : JtagState) (numberOfBits : Nat)
    (input output : Option (List UInt8)) : Option (List UInt8) :=
  let tdio := shiftTdio numberOfBits input output
  output.map fun _ =>
    receiveTdo numberOfBits tdio
      (if current = .shfDr then (registers ++ tdio).take (numberOfBits / 8) else tdio)

theorem transfer_chain (padding : BitVec 32) (n : Nat) (input output : Option (List UInt8))
    {current : JtagState} (hstate : current = .shfDr ∨ current = .shfIr) (endState : JtagState) :
    ∃ t, transfer (idcodeChain registers) s padding n input output current endState =
        (t, .ok, chainTdo registers current n input output) ∧
      t.active = { s.active with tapState := endState } := by
  refine ⟨JtagHandler.setTapState { s with calls := s.calls ++ [.xfer ⟨xferType current, current,
    endState, padding, n, shiftTdio n input output⟩] } endState, ?_,
    JtagHandler.active_setTapState _ _⟩
  cases hstate with
  | inl hdr =>
      rw [hdr]
      rfl
  | inr hir =>
      rw [hir]
      rfl

/-- Without padding a scan that leaves its shift state is one transfer, in either mode. -/
theorem jtagShift_chain (h : s.Unpadded) {r : ShiftRequest}
    (hstate : s.active.tapState = .shfDr ∨ s.active.tapState = .shfIr)
    (hend : r.endState = .rti) :
    ∃ t, jtagShift (idcodeChain registers) s r =
        (t, .ok, chainTdo registers s.active.tapState r.numberOfBits r.input r.output) ∧
      t.Unpadded := by
  have hmoves : s.active.tapState ≠ r.endState := by
    rw [hend]
    intro heq
    rw [heq] at hstate
    cases hstate with
    | inl hdr => cases hdr
    | inr hir => cases hir
  cases hmode : s.swMode with
  | true =>
      have hpadding : ∃ padData, scanPadding s.active.shiftPadding s.active.tapState =
          some (0, 0, padData) := by
        rw [h.padding]
        cases hstate with
        | inl hdr => exact ⟨padDataZero, by rw [hdr]; rfl⟩
        | inr hir => exact ⟨padDataOne, by rw [hir]; rfl⟩
      obtain ⟨padData, hpadding⟩ := hpadding
      obtain ⟨t, htransfer, hactive⟩ := transfer_chain registers
        (s := s.setScanState .run) 0 r.numberOfBits r.input r.output hstate r.endState
      refine ⟨t.setScanState .done, ?_, ?_, ?_⟩
      · simp only [jtagShift, hmode, Bool.not_true, Bool.false_eq_true, if_false, hpadding,
          shiftPreFix, h.done, if_true, ne_eq, not_true_eq_false, shiftData, false_and,
          performShift, htransfer, hmoves, not_false_eq_true]
      · simp only [JtagHandler.active_setScanState, hactive, h.padding]
      · simp only [JtagHandler.active_setScanState]
  | false =>
      have hpadding : ∃ padData, padConfig s.active.shiftPadding s.active.tapState =
          some ⟨0, 0, padData⟩ := by
        rw [h.padding]
        cases hstate with
        | inl hdr => exact ⟨0, by rw [hdr]; rfl⟩
        | inr hir => exact ⟨1, by rw [hir]; rfl⟩
      obtain ⟨padData, hpadding⟩ := hpadding
      obtain ⟨t, htransfer, hactive⟩ := transfer_chain registers
        (s := (s.setScanState .run).setScanState .done) (PadConfig.intValue ⟨0, 0, padData⟩)
        r.numberOfBits r.input r.output hstate r.endState
      refine ⟨t, ?_, ?_, ?_⟩
      · simp only [jtagShift, hmode, Bool.not_false, if_true, jtagShiftHw, hpadding, h.done,
          hmoves, if_false, htransfer]
      · simp only [hactive, JtagHandler.active_setScanState, h.padding]
      · simp only [hactive, JtagHandler.active_setScanState]

/-- The bytes read back from a scan of whole bytes of the data registers. -/
theorem chainTdo_data {k : Nat} {input output : List UInt8} (hinput : k ≤ input.length)
    (houtput : k ≤ output.length) :
    chainTdo registers .shfDr (8 * k) (some input) (some output) =
      some ((registers ++ input).take k ++ output.drop k) := by
  have hround : divRoundUp (8 * k) 8 = k := by
    rw [divRoundUp]
    omega
  have htdio : shiftTdio (8 * k) (some input) (some output) = input.take k ++ output.drop k := by
    rw [shiftTdio, memcpyS, hround, Option.getD_some]
    split
    · next hzero =>
        rw [hzero]
        rfl
    · simp only [Nat.not_lt.mpr houtput, if_false]
  have hlength : (input.take k).length = k := List.length_take_of_le hinput
  have hshown : (registers ++ (input.take k ++ output.drop k)).take k =
      (registers ++ input).take k := by
    have hless : k - registers.length ≤ (input.take k).length := by
      rw [hlength]
      exact Nat.sub_le _ _
    have hfront : (input.take k ++ output.drop k).take (k - registers.length) =
        input.take (k - registers.length) := by
      rw [List.take_append_of_le_length hless, List.take_take, Nat.min_eq_left (Nat.sub_le _ _)]
    rw [List.take_append, hfront, ← List.take_append]
  simp only [chainTdo, htdio, receiveTdo, hround, if_true, Option.map_some,
    Nat.mul_div_cancel_left k (by decide : 0 < 8), hshown, List.take_take, Nat.min_self]
  rw [List.drop_append_of_le_length hlength.ge, List.drop_of_length_le hlength.le, List.nil_append]

end Chain

section Found

/-- The needle lies in the haystack at this place. -/
def OccursAt (needle haystack : List UInt8) (i : Nat) : Prop :=
  (haystack.drop i).take needle.length = needle

instance (needle haystack : List UInt8) (i : Nat) : Decidable (OccursAt needle haystack i) :=
  inferInstanceAs (Decidable (_ = _))

theorem findPattern_eq {haystack needle : List UInt8} {size i : Nat} (hi : i + needle.length ≤ size)
    (hoccurs : OccursAt needle haystack i) (hfirst : ∀ j < i, ¬ OccursAt needle haystack j) :
    findPattern haystack size needle = i := by
  have hfound : (List.range (size - needle.length + 1)).find? (fun i =>
      decide ((haystack.drop i).take needle.length = needle)) = some i := by
    rw [List.find?_range_eq_some]
    refine ⟨decide_eq_true hoccurs, List.mem_range.mpr (by omega), fun j hj => ?_⟩
    rw [Bool.not_eq_true', decide_eq_false_iff_not]
    exact hfirst j hj
  rw [findPattern, hfound, Option.getD_some]

theorem not_occursAt_of_lt {haystack needle : List UInt8} {size j : Nat}
    (hj : j < findPattern haystack size needle) : ¬ OccursAt needle haystack j := by
  intro hoccurs
  rw [findPattern] at hj
  cases hfound : (List.range (size - needle.length + 1)).find? (fun i =>
      decide ((haystack.drop i).take needle.length = needle)) with
  | none =>
      rw [hfound] at hj
      exact Nat.not_lt_zero j hj
  | some i =>
      rw [hfound] at hj
      have hnot := (List.find?_range_eq_some.mp hfound).2.2 j hj
      rw [Bool.not_eq_true', decide_eq_false_iff_not] at hnot
      exact hnot hoccurs

/-- The place of the needle depends on what precedes its end only. -/
theorem occursAt_append {needle front back : List UInt8} {i : Nat}
    (h : i + needle.length ≤ front.length) :
    OccursAt needle (front ++ back) i ↔ OccursAt needle front i := by
  rw [OccursAt, OccursAt, List.drop_append_of_le_length (by omega), List.take_append_of_le_length]
  rw [List.length_drop]
  omega

end Found

section Discovered

variable {s : JtagHandler} {pattern : TapData} {behind : BehindPattern}

/-- The array behind the discovery shift. -/
def discoveryTdo (registers : List UInt8) (pattern : TapData) (behind : BehindPattern) :
    List UInt8 :=
  (registers ++ (pattern.bytes ++ behind.val)).take (uncoreDiscoveryShiftSize / 8) ++
    (List.replicate maxTdoSize (0xFF : UInt8)).drop (uncoreDiscoveryShiftSize / 8)

theorem uncoreDiscovery_chain (pattern : TapData) (behind : BehindPattern) (registers : List UInt8)
    (h : s.Unpadded) :
    ∃ t, uncoreDiscovery (idcodeChain registers) s pattern behind =
        (t, if findPattern (discoveryTdo registers pattern behind) uncoreDiscoveryShiftSize
            pattern.bytes * 8 > 0 then
          saveIdcodes (discoveryTdo registers pattern behind)
            (findPattern (discoveryTdo registers pattern behind) uncoreDiscoveryShiftSize
              pattern.bytes * 8 / 32)
        else none) ∧
      t.Unpadded := by
  obtain ⟨idle, hidle, hunpadded⟩ := resetJtagToRti_chain registers h
  obtain ⟨shift, hshift, hactive⟩ := jtagSetTapState_chain registers idle .shfDr
  have hready : shift.Unpadded := by
    constructor
    · rw [hactive]
      exact hunpadded.padding
    · rw [hactive]
      exact hunpadded.done
  have hstate : shift.active.tapState = .shfDr := by rw [hactive]
  obtain ⟨t, hscan, ht⟩ := jtagShift_chain registers hready
    (r := discoveryRequest pattern behind) (.inl hstate) rfl
  have htdo : chainTdo registers .shfDr (discoveryRequest pattern behind).numberOfBits
      (discoveryRequest pattern behind).input
      (discoveryRequest pattern behind).output =
        some (discoveryTdo registers pattern behind) := by
    apply chainTdo_data (k := 72)
    · rw [List.length_append, pattern.length, behind.property]
      decide
    · rw [List.length_replicate]
      decide
  rw [hstate, htdo] at hscan
  refine ⟨t, ?_, ht⟩
  simp only [uncoreDiscovery, hidle, hshift, hscan, Option.getD_some]
  split
  · rfl
  · rfl

/-- The devices that a chain with these codes has, found with their codes. -/
def UncoreInfo.Finds (uncore : UncoreInfo) (idcodes : List UInt32) : Prop :=
  uncore.numUncores = idcodes.length ∧
    uncore.idcode.take (sizeofIdCode * uncore.numUncores) = idRegisters idcodes

/-- The codes of a chain do not hide the pattern behind them. -/
def PatternClear (idcodes : List UInt32) (pattern : TapData) : Prop :=
  ∀ i < sizeofIdCode * idcodes.length,
    ¬ OccursAt pattern.bytes (idRegisters idcodes ++ pattern.bytes) i

instance (idcodes : List UInt32) (pattern : TapData) : Decidable (PatternClear idcodes pattern) :=
  inferInstanceAs (Decidable (∀ i < _, _))

theorem discoveryTdo_fits (pattern : TapData) (behind : BehindPattern) {idcodes : List UInt32}
    (hfits : idcodes.length ≤ maxTapsSupported) :
    ∃ rest, discoveryTdo (idRegisters idcodes) pattern behind =
      idRegisters idcodes ++ pattern.bytes ++ rest := by
  have hlength : (idRegisters idcodes ++ pattern.bytes).length ≤ uncoreDiscoveryShiftSize / 8 := by
    rw [List.length_append, length_idRegisters, pattern.length, uncoreDiscoveryShiftSize]
    simp only [maxTapsSupported, sizeofIdCode, sizeofTapDataPattern] at hfits ⊢
    omega
  rw [discoveryTdo, ← List.append_assoc, List.take_append, List.take_of_length_le hlength]
  exact ⟨_, List.append_assoc _ _ _⟩

theorem idcode_saved {registers rest : List UInt8} {n : Nat}
    (hregisters : registers.length = sizeofIdCode * n) (hle : n ≤ maxTapsSupported) :
    (memcpyS (List.replicate (maxTapsSupported * sizeofIdCode) 0) (some (registers ++ rest))
      (sizeofIdCode * n)).take (sizeofIdCode * n) = registers := by
  have hfits : ¬ (List.replicate (maxTapsSupported * sizeofIdCode) (0 : UInt8)).length <
      sizeofIdCode * n := by
    rw [List.length_replicate, Nat.mul_comm maxTapsSupported]
    exact Nat.not_lt.mpr (Nat.mul_le_mul_left _ hle)
  simp only [memcpyS, hfits, if_false]
  split
  · next hzero =>
      rw [hzero] at hregisters
      rw [hzero, List.take_zero, List.eq_nil_of_length_eq_zero hregisters]
  · rw [← hregisters, List.take_left, List.take_left]

/-- A pattern that is not seen too early ends the codes. -/
theorem uncoreDiscovery_finds (behind : BehindPattern) {idcodes : List UInt32} (h : s.Unpadded)
    (hpos : 0 < idcodes.length) (hle : idcodes.length ≤ maxTapsSupported)
    (hclear : PatternClear idcodes pattern) :
    ∃ t uncore, uncoreDiscovery (idcodeChain (idRegisters idcodes)) s pattern behind =
        (t, some uncore) ∧ t.Unpadded ∧ uncore.Finds idcodes := by
  obtain ⟨t, hfound, hunpadded⟩ := uncoreDiscovery_chain pattern behind
    (idRegisters idcodes) h
  obtain ⟨rest, htdo⟩ := discoveryTdo_fits pattern behind hle
  have hregisters := length_idRegisters idcodes
  have hindex : findPattern (discoveryTdo (idRegisters idcodes) pattern behind)
      uncoreDiscoveryShiftSize pattern.bytes = sizeofIdCode * idcodes.length := by
    rw [htdo]
    apply findPattern_eq
    · rw [pattern.length, uncoreDiscoveryShiftSize]
      simp only [maxTapsSupported, sizeofIdCode, sizeofTapDataPattern] at hle ⊢
      omega
    · rw [occursAt_append (by rw [List.length_append, hregisters]), OccursAt, ← hregisters,
        List.drop_left, List.take_length]
    · intro j hj
      rw [occursAt_append (by rw [List.length_append, hregisters]; omega)]
      exact hclear j hj
  have hsize : sizeofIdCode * idcodes.length * 8 / 32 = idcodes.length := by
    rw [sizeofIdCode]
    omega
  rw [hindex, hsize, saveIdcodes, dif_pos hle, if_pos (by rw [sizeofIdCode]; omega)] at hfound
  refine ⟨t, _, hfound, hunpadded, rfl, ?_⟩
  rw [htdo, List.append_assoc]
  exact idcode_saved hregisters hle

/-- Codes that were found are the codes of at most sixteen devices, with nothing like the
pattern among them. -/
theorem UncoreInfo.Finds.clear {idcodes : List UInt32} {uncore : UncoreInfo}
    (hfinds : uncore.Finds idcodes)
    (hindex : 0 < findPattern (discoveryTdo (idRegisters idcodes) pattern behind)
      uncoreDiscoveryShiftSize pattern.bytes)
    (hnum : findPattern (discoveryTdo (idRegisters idcodes) pattern behind)
      uncoreDiscoveryShiftSize pattern.bytes * 8 / 32 = uncore.numUncores) :
    0 < idcodes.length ∧ idcodes.length ≤ maxTapsSupported ∧ PatternClear idcodes pattern := by
  have hle : idcodes.length ≤ maxTapsSupported := hfinds.1 ▸ uncore.le
  obtain ⟨rest, htdo⟩ := discoveryTdo_fits pattern behind hle
  rw [hfinds.1] at hnum
  have hclear (j : Nat) (hj : j < findPattern (discoveryTdo (idRegisters idcodes) pattern
      behind) uncoreDiscoveryShiftSize pattern.bytes)
      (hfront : j ≤ sizeofIdCode * idcodes.length) :
      ¬ OccursAt pattern.bytes (idRegisters idcodes ++ pattern.bytes) j := by
    have hnot := not_occursAt_of_lt hj
    rw [htdo] at hnot
    refine mt (occursAt_append ?_).mpr hnot
    rw [List.length_append, length_idRegisters]
    exact Nat.add_le_add_right hfront _
  refine ⟨Nat.pos_of_ne_zero fun hzero => ?_, hle, fun j hj => ?_⟩
  · refine hclear 0 hindex (Nat.zero_le _) ?_
    rw [List.eq_nil_of_length_eq_zero hzero]
    exact List.take_length
  · apply hclear j _ (Nat.le_of_lt hj)
    rw [sizeofIdCode] at hj
    omega

/-- The discovery finds the devices of a chain with their codes if and only if the chain has
a device and at most sixteen, and the pattern is not seen too early. -/
theorem discovery_finds_iff (idcodes : List UInt32) (swMode : Bool) (tck : Nat)
    (pattern : TapData) (behind : BehindPattern) :
    (∃ s ∈ initJtag (idcodeChain (idRegisters idcodes)) swMode tck,
        ∃ uncore ∈ (uncoreDiscovery (idcodeChain (idRegisters idcodes)) s pattern behind).2,
          uncore.Finds idcodes) ↔
      0 < idcodes.length ∧ idcodes.length ≤ maxTapsSupported ∧ PatternClear idcodes pattern := by
  obtain ⟨s, hinit, hunpadded⟩ := initJtag_chain (idRegisters idcodes) swMode tck
  constructor
  · intro h
    obtain ⟨s', hs', uncore, huncore, hfinds⟩ := h
    rw [hinit] at hs'
    cases hs'
    obtain ⟨t, hfound, -⟩ := uncoreDiscovery_chain pattern behind
      (idRegisters idcodes) hunpadded
    rw [hfound] at huncore
    dsimp only at huncore
    split at huncore
    · next hpos =>
        rw [saveIdcodes] at huncore
        split at huncore
        · cases huncore
          exact hfinds.clear (by omega) rfl
        · cases huncore
    · cases huncore
  · intro h
    obtain ⟨hpos, hle, hclear⟩ := h
    obtain ⟨t, uncore, hfound, -, hfinds⟩ := uncoreDiscovery_finds behind hunpadded hpos
      hle hclear
    exact ⟨s, hinit, uncore, by rw [hfound]; rfl, hfinds⟩

end Discovered

end AtScaleDebug
