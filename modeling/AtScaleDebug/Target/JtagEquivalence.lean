import Mathlib.Data.BitVec
import AtScaleDebug.Lib.Machine
import AtScaleDebug.Target.JtagHandler

/-!
The two scan paths of the JTAG handler put the same bits on TDI.

`JtagChainState.scan` is the purpose of a scan, stated for one chain without
any notion of transfers: pad bits before the first data of a visit, the data,
and pad bits after the last. Each path is shown to be such a scan of the active
chain when the driver accepts its calls, so the paths agree along any sequence
of calls.
-/

namespace AtScaleDebug

/-- The bits a caller asks for; a missing input means zeros. -/
def requestedBits (numberOfBits : Nat) : Option (List UInt8) → List Bool
  | none => List.replicate numberOfBits false
  | some bytes => dataBits numberOfBits bytes

def ShiftRequest.tdi (r : ShiftRequest) : List Bool := requestedBits r.numberOfBits r.input

/-- Prefix length, postfix length and pad bit in a shift state. -/
def JtagShiftPadding.bits (padding : JtagShiftPadding) : JtagState → Option (Nat × Nat × Bool)
  | .shfIr => some (padding.irPre, padding.irPost, true)
  | .shfDr => some (padding.drPre, padding.drPost, false)
  | _ => none

def JtagChainState.scanned (c : JtagChainState) (r : ShiftRequest) : JtagChainState :=
  { c with
    tapState := r.endState
    scanState := if c.tapState = r.endState then .run else .done }

def JtagChainState.scan (c : JtagChainState) (r : ShiftRequest) :
    Option (JtagChainState × List Bool) :=
  match c.shiftPadding.bits c.tapState with
  | none => none
  | some (pre, post, bit) =>
      some (c.scanned r,
        (if c.scanState = .done then List.replicate pre bit else []) ++ r.tdi ++
          if c.tapState = r.endState then [] else List.replicate post bit)

section Bits

theorem div_lt_divRoundUp {n k : Nat} (h : k < n) : k / 8 < divRoundUp n 8 := by
  simp only [divRoundUp]
  omega

theorem dataBits_congr {n : Nat} {xs ys : List UInt8}
    (h : ∀ i, i < divRoundUp n 8 → xs.getD i 0 = ys.getD i 0) :
    dataBits n xs = dataBits n ys := by
  apply List.map_congr_left
  intro k hk
  rw [h (k / 8) (div_lt_divRoundUp (List.mem_range.mp hk))]

theorem dataBits_replicate (n m : Nat) (byte : UInt8) (bit : Bool)
    (hn : divRoundUp n 8 ≤ m) (hbit : ∀ i, i < 8 → byte.toBitVec.getLsbD i = bit) :
    dataBits n (List.replicate m byte) = List.replicate n bit := by
  rw [List.eq_replicate_iff]
  refine ⟨by simp [dataBits], fun b hb => ?_⟩
  obtain ⟨k, hk, rfl⟩ := List.mem_map.mp hb
  have hlt : k / 8 < m := lt_of_lt_of_le (div_lt_divRoundUp (List.mem_range.mp hk)) hn
  have hget : (List.replicate m byte).getD (k / 8) 0 = byte := by
    simp [List.getD, hlt]
  rw [hget]
  exact hbit (k % 8) (Nat.mod_lt k (by decide))

theorem dataBits_padDataOne {n : Nat} (h : n ≤ irMaxPadSize) :
    dataBits n padDataOne = List.replicate n true := by
  refine dataBits_replicate n _ 0xFF true ?_ (by decide)
  simp only [divRoundUp, irMaxPadSize] at h ⊢
  omega

theorem dataBits_padDataZero {n : Nat} (h : n ≤ irMaxPadSize) :
    dataBits n padDataZero = List.replicate n false := by
  refine dataBits_replicate n _ 0x00 false ?_ (by decide)
  simp only [divRoundUp, irMaxPadSize] at h ⊢
  omega

theorem dataBits_replicate_zero (n m : Nat) :
    dataBits n (List.replicate m 0) = List.replicate n false := by
  rw [List.eq_replicate_iff]
  refine ⟨by simp [dataBits], fun b hb => ?_⟩
  obtain ⟨k, _, rfl⟩ := List.mem_map.mp hb
  by_cases hlt : k / 8 < m <;> simp [List.getD, hlt]

/-- The driver sees the caller's bits whichever buffer carries them. -/
theorem dataBits_shiftTdio {n : Nat} {input output : Option (List UInt8)}
    (fits : divRoundUp n 8 ≤ maxDataSize)
    (hin : ∀ bytes ∈ input, divRoundUp n 8 ≤ bytes.length)
    (hout : ∀ bytes ∈ output, divRoundUp n 8 ≤ bytes.length) :
    dataBits n (shiftTdio n input output) = requestedBits n input := by
  have hdest : divRoundUp n 8 ≤ (output.getD (List.replicate maxDataSize 0)).length := by
    cases output with
    | none => simpa using fits
    | some bytes => exact hout bytes rfl
  simp only [shiftTdio, memcpyS]
  split
  · next hzero =>
      have hn : n = 0 := by
        simp only [divRoundUp] at hzero
        omega
      subst hn
      cases input <;> rfl
  · cases input with
    | none => exact dataBits_replicate_zero n _
    | some bytes =>
        simp only [if_neg (Nat.not_lt.mpr hdest), requestedBits]
        apply dataBits_congr
        intro i hi
        have hlen : i < (bytes.take (divRoundUp n 8)).length := by
          have := hin bytes rfl
          simp only [List.length_take]
          omega
        simp [List.getD, List.getElem?_append_left hlen, hi]

theorem padConfig_ofIntValue (p : PadConfig) : PadConfig.ofIntValue p.intValue = p := by
  obtain ⟨pre, post, data⟩ := p
  have split := fun i => BitVec.getLsbD_append (x := 0#7 ++ data ++ post) (y := pre) (i := i)
  have split' := fun i => BitVec.getLsbD_append (x := 0#7 ++ data) (y := post) (i := i)
  have split'' := fun i => BitVec.getLsbD_append (x := 0#7) (y := data) (i := i)
  simp only [PadConfig.ofIntValue, PadConfig.intValue, PadConfig.mk.injEq]
  refine ⟨?_, ?_, ?_⟩
  · ext i hi
    rw [BitVec.getElem_extractLsb']
    exact (split _).trans (by simp [hi])
  · ext i hi
    rw [BitVec.getElem_extractLsb']
    exact (split _).trans (by simp [split', hi])
  · ext i hi
    rw [BitVec.getElem_extractLsb']
    refine (split _).trans ?_
    rw [if_neg (by omega), split', if_neg (by omega), split'', if_pos (by omega)]
    simp [show 24 + i - 12 - 12 = i by omega, hi]

end Bits

/-- `t` is reached from `s` by changing the active chain to `c` while presenting
`bits`; nothing else of the handler moves. -/
structure JtagHandler.Scans (s t : JtagHandler) (c : JtagChainState) (bits : List Bool) :
    Prop where
  chains : t.chains = Function.update s.chains s.activeChain c
  activeChain : t.activeChain = s.activeChain
  swMode : t.swMode = s.swMode
  calls : ∃ made, t.calls = s.calls ++ made ∧ made.flatMap DriverCall.tdi = bits

namespace JtagHandler.Scans
variable {s t u : JtagHandler} {c d : JtagChainState} {bits more : List Bool}

theorem active (h : s.Scans t c bits) : t.active = c := by
  simp only [JtagHandler.active, h.chains, h.activeChain, Function.update_self]

theorem refl (s : JtagHandler) : s.Scans s s.active [] :=
  ⟨(Function.update_eq_self _ _).symm, rfl, rfl, [], by simp, rfl⟩

theorem trans (h : s.Scans t c bits) (k : t.Scans u d more) : s.Scans u d (bits ++ more) := by
  obtain ⟨made, hcalls, hbits⟩ := h.calls
  obtain ⟨made', hcalls', hbits'⟩ := k.calls
  refine ⟨?_, k.activeChain.trans h.activeChain, k.swMode.trans h.swMode, made ++ made', ?_, ?_⟩
  · rw [k.chains, h.chains, h.activeChain, Function.update_idem]
  · rw [hcalls', hcalls, List.append_assoc]
  · rw [List.flatMap_append, hbits, hbits']

theorem setScanState (s : JtagHandler) (scanState : JtagScanState) :
    s.Scans (s.setScanState scanState) { s.active with scanState } [] :=
  ⟨rfl, rfl, rfl, [], (List.append_nil _).symm, rfl⟩

theorem keepsRun (h : s.active.scanState ≠ .done) :
    s.Scans s { s.active with scanState := .run } [] := by
  have hrun : s.active.scanState = .run := by
    cases hstate : s.active.scanState with
    | done => exact absurd hstate h
    | run => rfl
  simpa [← hrun] using refl s

end JtagHandler.Scans

section Shift
variable (tdo : Nat → DriverCall → List UInt8) (s : JtagHandler)

theorem transfer_scans (padding : PadConfig) {n : Nat} {input output : Option (List UInt8)}
    (current endState : JtagState) (fits : divRoundUp n 8 ≤ maxDataSize)
    (hin : ∀ bytes ∈ input, divRoundUp n 8 ≤ bytes.length)
    (hout : ∀ bytes ∈ output, divRoundUp n 8 ≤ bytes.length) :
    let result := transfer (.succeeding tdo) s padding.intValue n input output current endState
    result.2.1 = .ok ∧
      s.Scans result.1 { s.active with tapState := endState }
        (List.replicate padding.prePadNumber.toNat (padding.padData.getLsbD 0) ++
          requestedBits n input ++
          List.replicate padding.postPadNumber.toNat (padding.padData.getLsbD 0)) := by
  refine ⟨rfl, rfl, rfl, rfl, _, rfl, ?_⟩
  simp only [List.flatMap_cons, List.flatMap_nil, List.append_nil, DriverCall.tdi, JtagXfer.tdi,
    padConfig_ofIntValue, dataBits_shiftTdio fits hin hout]

theorem performShift_scans (n : Nat) (input output : Option (List UInt8))
    (current endState : JtagState) (fits : divRoundUp n 8 ≤ maxDataSize)
    (hin : ∀ bytes ∈ input, divRoundUp n 8 ≤ bytes.length)
    (hout : ∀ bytes ∈ output, divRoundUp n 8 ≤ bytes.length) :
    let result := performShift (.succeeding tdo) s n input output current endState
    result.2.1 = .ok ∧
      s.Scans result.1 { s.active with tapState := endState } (requestedBits n input) := by
  have hzero : PadConfig.intValue ⟨0, 0, 0⟩ = 0 := by decide
  have h := transfer_scans tdo s ⟨0, 0, 0⟩ current endState fits hin hout
  rw [hzero] at h
  simpa [performShift] using h

/-- A pad array and the bit it is made of. -/
def PadsWith (padData : List UInt8) (bit : Bool) : Prop :=
  ∀ n, n ≤ irMaxPadSize →
    divRoundUp n 8 ≤ padData.length ∧ dataBits n padData = List.replicate n bit

theorem padDataOne_pads : PadsWith padDataOne true := by
  refine fun n hn => ⟨?_, dataBits_padDataOne hn⟩
  simp only [padDataOne, List.length_replicate, divRoundUp, irMaxPadSize] at hn ⊢
  omega

theorem padDataZero_pads : PadsWith padDataZero false := by
  refine fun n hn => ⟨?_, dataBits_padDataZero hn⟩
  simp only [padDataZero, List.length_replicate, divRoundUp, irMaxPadSize] at hn ⊢
  omega

theorem performShift_padding {n : Nat} {padData : List UInt8} {bit : Bool}
    (pads : PadsWith padData bit) (hn : n ≤ irMaxPadSize) (current endState : JtagState) :
    let result := performShift (.succeeding tdo) s n (some padData) none current endState
    result.2.1 = .ok ∧
      s.Scans result.1 { s.active with tapState := endState } (List.replicate n bit) := by
  obtain ⟨hlen, hbits⟩ := pads n hn
  have fits : divRoundUp n 8 ≤ maxDataSize := by
    simp only [divRoundUp, irMaxPadSize, maxDataSize] at hn ⊢
    omega
  have h := performShift_scans tdo s n (some padData) none current endState fits
    (by simpa using hlen) (by simp)
  simpa only [requestedBits, hbits] using h

variable {pre post : Nat} {padData : List UInt8} {bit : Bool}

theorem shiftPreFix_scans (pads : PadsWith padData bit) (hpre : pre ≤ irMaxPadSize) :
    let result := shiftPreFix (.succeeding tdo) s pre padData s.active.tapState
    result.2 = .ok ∧
      s.Scans result.1 { s.active with scanState := .run }
        (if s.active.scanState = .done then List.replicate pre bit else []) := by
  simp only [shiftPreFix]
  split
  · next hdone =>
      have hrun := JtagHandler.Scans.setScanState s .run
      split
      · have hshift := performShift_padding tdo (s.setScanState .run) pads hpre
          s.active.tapState s.active.tapState
        refine ⟨hshift.1, ?_⟩
        simpa [hrun.active] using hrun.trans hshift.2
      · next hzero =>
          have hpre0 : pre = 0 := by simpa using hzero
          subst hpre0
          exact ⟨rfl, hrun⟩
  · next hnot => exact ⟨rfl, JtagHandler.Scans.keepsRun hnot⟩

theorem shiftData_scans (r : ShiftRequest) (pads : PadsWith padData bit)
    (hpost : post ≤ irMaxPadSize) (hrun : s.active.scanState = .run) :
    let result := shiftData (.succeeding tdo) s r post padData s.active.tapState
    result.2.1 = .ok ∧
      s.Scans result.1 (s.active.scanned r)
        (r.tdi ++ if s.active.tapState = r.endState then [] else List.replicate post bit) := by
  simp only [shiftData]
  split
  · next hpad =>
      have hdone := JtagHandler.Scans.setScanState s .done
      have hdata := performShift_scans tdo (s.setScanState .done) r.numberOfBits r.input r.output
        s.active.tapState s.active.tapState r.fits r.input_covers r.output_covers
      rcases hresult : performShift (.succeeding tdo) (s.setScanState .done) r.numberOfBits
        r.input r.output s.active.tapState s.active.tapState with ⟨t, status, output⟩
      rw [hresult] at hdata
      obtain ⟨hstatus, hscan⟩ := hdata
      cases hstatus
      have hpost := performShift_padding tdo t pads hpost s.active.tapState r.endState
      refine ⟨hpost.1, ?_⟩
      have h := (hdone.trans hscan).trans hpost.2
      rw [hscan.active, hdone.active] at h
      simpa [JtagChainState.scanned, hpad.2, ShiftRequest.tdi] using h
  · next hpad =>
      have hdata := performShift_scans tdo s r.numberOfBits r.input r.output
        s.active.tapState r.endState r.fits r.input_covers r.output_covers
      rcases hresult : performShift (.succeeding tdo) s r.numberOfBits
        r.input r.output s.active.tapState r.endState with ⟨t, status, output⟩
      rw [hresult] at hdata
      obtain ⟨hstatus, hscan⟩ := hdata
      cases hstatus
      refine ⟨rfl, ?_⟩
      by_cases hend : s.active.tapState = r.endState
      · simpa [hend, JtagChainState.scanned, ShiftRequest.tdi, hrun] using hscan
      · have hzero : post = 0 := by
          by_contra hne
          exact hpad ⟨hne, hend⟩
        have h := hscan.trans (JtagHandler.Scans.setScanState t .done)
        rw [hscan.active] at h
        simpa [hend, JtagChainState.scanned, ShiftRequest.tdi, hzero] using h

theorem bits_le {padding : JtagShiftPadding} {tapState : JtagState}
    (h : padding.bits tapState = some (pre, post, bit)) :
    pre ≤ irMaxPadSize ∧ post ≤ irMaxPadSize := by
  have hle : drMaxPadSize ≤ irMaxPadSize := by decide
  cases tapState <;> cases h
  · exact ⟨padding.dr_le.1.trans hle, padding.dr_le.2.trans hle⟩
  · exact padding.ir_le

theorem scanPadding_of_bits {padding : JtagShiftPadding} {tapState : JtagState}
    (h : padding.bits tapState = some (pre, post, bit)) :
    ∃ padData, scanPadding padding tapState = some (pre, post, padData) ∧
      PadsWith padData bit := by
  cases tapState <;> cases h
  · exact ⟨_, rfl, padDataZero_pads⟩
  · exact ⟨_, rfl, padDataOne_pads⟩

theorem padConfig_of_bits {padding : JtagShiftPadding} {tapState : JtagState}
    (h : padding.bits tapState = some (pre, post, bit)) :
    padConfig padding tapState = some ⟨.ofNat 12 pre, .ofNat 12 post, .ofBool bit⟩ := by
  cases tapState <;> cases h <;> rfl

theorem scan_eq_some {c d : JtagChainState} {r : ShiftRequest} {bits : List Bool}
    (h : c.scan r = some (d, bits)) :
    ∃ pre post bit, c.shiftPadding.bits c.tapState = some (pre, post, bit) ∧ d = c.scanned r ∧
      bits = (if c.scanState = .done then List.replicate pre bit else []) ++ r.tdi ++
        if c.tapState = r.endState then [] else List.replicate post bit := by
  rw [JtagChainState.scan] at h
  split at h
  · cases h
  · next pre post bit hbits =>
      cases h
      exact ⟨pre, post, bit, hbits, rfl, rfl⟩

theorem scan_eq_none {c : JtagChainState} {r : ShiftRequest} (h : c.scan r = none) :
    c.shiftPadding.bits c.tapState = none := by
  rw [JtagChainState.scan] at h
  split at h
  · assumption
  · cases h

theorem jtagShift_of_scan_none {r : ShiftRequest} (h : s.active.scan r = none) :
    jtagShift (.succeeding tdo) s r = (s, .err, r.output) := by
  have hbits := scan_eq_none h
  have hconfig : padConfig s.active.shiftPadding s.active.tapState = none := by
    cases htap : s.active.tapState <;> simp_all [JtagShiftPadding.bits, padConfig]
  have hpadding : scanPadding s.active.shiftPadding s.active.tapState = none := by
    cases htap : s.active.tapState <;> simp_all [JtagShiftPadding.bits, scanPadding]
  simp [jtagShift, jtagShiftHw, hconfig, hpadding]

/-- One transfer whose padding word carries the pads completes a scan. -/
theorem transfer_completes {t : JtagHandler} {r : ShiftRequest} {scanState : JtagScanState}
    (h : s.Scans t { s.active with scanState } [])
    (hstate : scanState = (s.active.scanned r).scanState) (padding : PadConfig) :
    let result := transfer (.succeeding tdo) t padding.intValue r.numberOfBits r.input r.output
      s.active.tapState r.endState
    result.2.1 = .ok ∧
      s.Scans result.1 (s.active.scanned r)
        (List.replicate padding.prePadNumber.toNat (padding.padData.getLsbD 0) ++ r.tdi ++
          List.replicate padding.postPadNumber.toNat (padding.padData.getLsbD 0)) := by
  have htransfer := transfer_scans tdo t padding s.active.tapState r.endState r.fits
    r.input_covers r.output_covers
  refine ⟨htransfer.1, ?_⟩
  have hall := h.trans htransfer.2
  rw [h.active, hstate] at hall
  exact hall

/-- The hardware path is a scan: both counts survive their twelve bit fields. -/
theorem jtagShiftHw_scans {r : ShiftRequest} {c : JtagChainState} {bits : List Bool}
    (h : s.active.scan r = some (c, bits)) :
    (jtagShiftHw (.succeeding tdo) s r).2.1 = .ok ∧
      s.Scans (jtagShiftHw (.succeeding tdo) s r).1 c bits := by
  obtain ⟨pre, post, bit, hbits, rfl, rfl⟩ := scan_eq_some h
  have hpre : pre % 4096 = pre := Nat.mod_eq_of_lt (by
    have := (bits_le hbits).1
    simp only [irMaxPadSize] at this
    omega)
  have hpost : post % 4096 = post := Nat.mod_eq_of_lt (by
    have := (bits_le hbits).2
    simp only [irMaxPadSize] at this
    omega)
  have hbit : (BitVec.ofBool bit).getLsbD 0 = bit := by cases bit <;> rfl
  simp only [jtagShiftHw, padConfig_of_bits hbits]
  by_cases hdone : s.active.scanState = .done
  · have hrun := JtagHandler.Scans.setScanState s .run
    by_cases hend : s.active.tapState = r.endState
    · have h := transfer_completes tdo s hrun (r := r) (by simp [JtagChainState.scanned, hend])
        ⟨.ofNat 12 pre, 0, .ofBool bit⟩
      simpa [hdone, hend, hbit, hpre] using h
    · have hfinal := hrun.trans (JtagHandler.Scans.setScanState (s.setScanState .run) .done)
      rw [hrun.active] at hfinal
      have h := transfer_completes tdo s hfinal (r := r) (by simp [JtagChainState.scanned, hend])
        ⟨.ofNat 12 pre, .ofNat 12 post, .ofBool bit⟩
      simpa [hdone, hend, hbit, hpre, hpost] using h
  · by_cases hend : s.active.tapState = r.endState
    · have h := transfer_completes tdo s (JtagHandler.Scans.keepsRun hdone) (r := r)
        (by simp [JtagChainState.scanned, hend]) ⟨0, 0, .ofBool bit⟩
      simpa [hdone, hend, hbit] using h
    · have h := transfer_completes tdo s (JtagHandler.Scans.setScanState s .done) (r := r)
        (by simp [JtagChainState.scanned, hend]) ⟨0, .ofNat 12 post, .ofBool bit⟩
      simpa [hdone, hend, hbit, hpost] using h

theorem jtagShiftSw_scans {r : ShiftRequest} {c : JtagChainState} {bits : List Bool}
    (hsw : s.swMode = true) (h : s.active.scan r = some (c, bits)) :
    (jtagShift (.succeeding tdo) s r).2.1 = .ok ∧
      s.Scans (jtagShift (.succeeding tdo) s r).1 c bits := by
  obtain ⟨pre, post, bit, hbits, rfl, rfl⟩ := scan_eq_some h
  obtain ⟨hpre, hpost⟩ := bits_le hbits
  obtain ⟨padData, hpadding, pads⟩ := scanPadding_of_bits hbits
  have hbegins := shiftPreFix_scans tdo s pads hpre
  rcases hresult : shiftPreFix (.succeeding tdo) s pre padData s.active.tapState with ⟨t, status⟩
  rw [hresult] at hbegins
  obtain ⟨hstatus, hscan⟩ := hbegins
  cases hstatus
  have hdata := shiftData_scans tdo t r pads hpost (by rw [hscan.active])
  rw [hscan.active] at hdata
  simp only [jtagShift, hsw, hpadding, hresult, Bool.not_true, Bool.false_eq_true, if_false]
  refine ⟨hdata.1, ?_⟩
  simpa only [List.append_assoc, JtagChainState.scanned] using hscan.trans hdata.2

theorem jtagShift_scans {r : ShiftRequest} {c : JtagChainState} {bits : List Bool}
    (h : s.active.scan r = some (c, bits)) :
    (jtagShift (.succeeding tdo) s r).2.1 = .ok ∧
      s.Scans (jtagShift (.succeeding tdo) s r).1 c bits := by
  cases hsw : s.swMode with
  | true => exact jtagShiftSw_scans tdo s hsw h
  | false => simpa [jtagShift, hsw] using jtagShiftHw_scans tdo s h

end Shift

/-- What a call is meant to present on TDI: the scan of the active chain, if any. -/
def scanTdi (s : JtagHandler) : JtagOp → List Bool
  | .shift r => ((s.active.scan r).map Prod.snd).getD []
  | _ => []

/-- The bits of each call of a run, in order. -/
def tdiStreams (driver : JtagDriver) : JtagHandler → List JtagOp → List (List Bool)
  | _, [] => []
  | s, op :: ops => jtagTdi driver s op :: tdiStreams driver (jtagStep driver s op) ops

section Calls
variable (tdo : Nat → DriverCall → List UInt8) (s : JtagHandler)

theorem JtagHandler.Scans.drop_calls {s t : JtagHandler} {c : JtagChainState} {bits : List Bool}
    (h : s.Scans t c bits) : (t.calls.drop s.calls.length).flatMap DriverCall.tdi = bits := by
  obtain ⟨made, hcalls, hbits⟩ := h.calls
  rw [hcalls, List.drop_left, hbits]

theorem jtagSetTapState_scans (tapState : JtagState) :
    (jtagSetTapState (.succeeding tdo) s tapState).2 = .ok ∧
      s.Scans (jtagSetTapState (.succeeding tdo) s tapState).1 { s.active with tapState } [] := by
  simp only [jtagSetTapState]
  split
  · exact ⟨rfl, rfl, rfl, rfl, _, rfl, rfl⟩
  · exact ⟨rfl, rfl, rfl, rfl, [], (List.append_nil _).symm, rfl⟩

theorem jtagInitialize_chains (swMode : Bool) :
    (jtagInitialize (.succeeding tdo) s swMode).2 = .ok ∧
      (jtagInitialize (.succeeding tdo) s swMode).1.chains = (fun _ => .initial) ∧
      (jtagInitialize (.succeeding tdo) s swMode).1.activeChain = s.activeChain ∧
      ((jtagInitialize (.succeeding tdo) s swMode).1.calls.drop s.calls.length).flatMap
        DriverCall.tdi = [] := by
  refine ⟨rfl, rfl, rfl, ?_⟩
  simp [jtagInitialize, jtagSetTapState, JtagHandler.ioctl, JtagDriver.succeeding,
    initializeJtagChains, JtagHandler.setTapState, JtagHandler.setActive, DriverCall.tdi]

theorem jtagSetPadding_calls (padding : JtagPaddingType) (value : Nat) :
    (jtagSetPadding s padding value).1.calls = s.calls := by
  simp only [jtagSetPadding]
  split <;> rfl

theorem jtagSetActiveChain_calls (chain : Int) :
    (jtagSetActiveChain s chain).1.calls = s.calls := by
  simp only [jtagSetActiveChain]
  split <;> rfl

/-- Every call presents what it is meant to present, in either mode. -/
theorem jtagTdi_eq (op : JtagOp) : jtagTdi (.succeeding tdo) s op = scanTdi s op := by
  cases op with
  | init swMode => exact (jtagInitialize_chains tdo s swMode).2.2.2
  | setPadding padding value =>
      simp [jtagTdi, jtagStep, jtagOp, jtagSetPadding_calls, scanTdi]
  | setTapState tapState => exact (jtagSetTapState_scans tdo s tapState).2.drop_calls
  | tapReset => exact (jtagSetTapState_scans tdo s .tlr).2.drop_calls
  | setActiveChain chain =>
      simp [jtagTdi, jtagStep, jtagOp, jtagSetActiveChain_calls, scanTdi]
  | shift r =>
      cases h : s.active.scan r with
      | none => simp [jtagTdi, jtagStep, jtagOp, jtagShift_of_scan_none tdo s h, scanTdi, h]
      | some scanned =>
          obtain ⟨c, bits⟩ := scanned
          simpa only [jtagTdi, jtagStep, jtagOp, scanTdi, h, Option.map_some, Option.getD_some]
            using (jtagShift_scans tdo s h).2.drop_calls

end Calls

/-- The chains, their settings and the choice of the active one coincide. -/
structure JtagHandler.SameChains (s t : JtagHandler) : Prop where
  chains : s.chains = t.chains
  activeChain : s.activeChain = t.activeChain

namespace JtagHandler.SameChains
variable {s t : JtagHandler}

theorem active (h : s.SameChains t) : s.active = t.active := by
  simp only [JtagHandler.active, h.chains, h.activeChain]

theorem setActive (h : s.SameChains t) (c : JtagChainState) :
    (s.setActive c).SameChains (t.setActive c) :=
  ⟨by simp only [JtagHandler.setActive, h.chains, h.activeChain], h.activeChain⟩

theorem of_scans {s' t' : JtagHandler} {c : JtagChainState} {bits : List Bool}
    (h : s.SameChains t) (hs : s.Scans s' c bits) (ht : t.Scans t' c bits) :
    s'.SameChains t' :=
  ⟨by rw [hs.chains, ht.chains, h.chains, h.activeChain],
    hs.activeChain.trans (h.activeChain.trans ht.activeChain.symm)⟩

end JtagHandler.SameChains

section Modes
variable (tdo tdo' : Nat → DriverCall → List UInt8) {s t : JtagHandler}

theorem scanTdi_congr (h : s.SameChains t) (op : JtagOp) : scanTdi s op = scanTdi t op := by
  cases op <;> simp only [scanTdi, h.active]

theorem jtagStep_sameChains (h : s.SameChains t) (op : JtagOp) :
    (jtagStep (.succeeding tdo) s op).SameChains (jtagStep (.succeeding tdo') t op) := by
  cases op with
  | init swMode => exact ⟨rfl, h.activeChain⟩
  | setPadding padding value =>
      simp only [jtagStep, jtagOp, jtagSetPadding, h.active]
      split
      · exact h
      · simpa only [JtagHandler.setShiftPadding, h.active] using h.setActive _
  | setTapState tapState =>
      have hs := (jtagSetTapState_scans tdo s tapState).2
      have ht := (jtagSetTapState_scans tdo' t tapState).2
      rw [h.active] at hs
      exact h.of_scans hs ht
  | tapReset =>
      have hs := (jtagSetTapState_scans tdo s .tlr).2
      have ht := (jtagSetTapState_scans tdo' t .tlr).2
      rw [h.active] at hs
      exact h.of_scans hs ht
  | setActiveChain chain =>
      simp only [jtagStep, jtagOp, jtagSetActiveChain]
      split
      · exact ⟨h.chains, rfl⟩
      · exact h
  | shift r =>
      cases hscan : t.active.scan r with
      | none =>
          simpa only [jtagStep, jtagOp, jtagShift_of_scan_none tdo s (h.active ▸ hscan),
            jtagShift_of_scan_none tdo' t hscan] using h
      | some scanned =>
          obtain ⟨c, bits⟩ := scanned
          exact h.of_scans (jtagShift_scans tdo s (h.active ▸ hscan)).2
            (jtagShift_scans tdo' t hscan).2

theorem jtag_run_sameChains (h : s.SameChains t) (ops : List JtagOp) :
    (Machine.run (jtagStep (.succeeding tdo)) s ops).SameChains
      (Machine.run (jtagStep (.succeeding tdo')) t ops) :=
  Machine.run_related (R := JtagHandler.SameChains)
    (fun _ _ op h => jtagStep_sameChains tdo tdo' h op) h ops

theorem tdiStreams_congr (h : s.SameChains t) (ops : List JtagOp) :
    tdiStreams (.succeeding tdo) s ops = tdiStreams (.succeeding tdo') t ops := by
  induction ops generalizing s t with
  | nil => rfl
  | cons op ops ih =>
      simp only [tdiStreams, jtagTdi_eq, scanTdi_congr h op,
        ih (jtagStep_sameChains tdo tdo' h op)]

end Modes

/-- Software and hardware scans agree: whatever the driver returns on TDO, each
call presents the same bits in either mode, namely those of the intended scan,
and the chains end in the same state. -/
theorem jtag_modes_agree (tdoSw tdoHw : Nat → DriverCall → List UInt8) (s : JtagHandler)
    (ops : List JtagOp) :
    tdiStreams (.succeeding tdoSw) { s with swMode := true } ops =
        tdiStreams (.succeeding tdoHw) { s with swMode := false } ops ∧
      (Machine.run (jtagStep (.succeeding tdoSw)) { s with swMode := true } ops).chains =
        (Machine.run (jtagStep (.succeeding tdoHw)) { s with swMode := false } ops).chains ∧
      Machine.Meets (jtagStep (.succeeding tdoSw))
        (fun s op => jtagTdi (.succeeding tdoSw) s op = scanTdi s op)
        { s with swMode := true } ops := by
  have same : { s with swMode := true }.SameChains { s with swMode := false } := ⟨rfl, rfl⟩
  refine ⟨tdiStreams_congr tdoSw tdoHw same ops,
    (jtag_run_sameChains tdoSw tdoHw same ops).chains, ?_⟩
  rw [Machine.meets_iff]
  exact fun _ op _ _ => jtagTdi_eq tdoSw _ op

end AtScaleDebug
