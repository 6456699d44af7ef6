import AtScaleDebug.Target.JtagEquivalence

/-!
Prefix padding along visits to the shift states.

A visit of a chain to a TAP state lasts from entering the state to leaving it.
The handler has no notion of a visit; it keeps the scan state of the chain and
resets it when a shift leaves the shift state. The monitor here watches the TAP
state instead, and the results say when the two records coincide: they do as
long as no partial scan is abandoned by moving the TAP with something other
than a shift.
-/

namespace AtScaleDebug

def JtagState.IsShift (tapState : JtagState) : Prop := tapState = .shfDr ∨ tapState = .shfIr

instance (tapState : JtagState) : Decidable tapState.IsShift :=
  inferInstanceAs (Decidable (_ ∨ _))

/-- A handler with, for each chain, whether it was shifted since it entered its
TAP state. -/
structure VisitedHandler where
  handler : JtagHandler
  fresh : Fin maxScanChains → Bool

def VisitedHandler.initial : VisitedHandler := ⟨jtagHandler, fun _ => true⟩

def JtagOp.Shifts (s : JtagHandler) (c : Fin maxScanChains) : JtagOp → Prop
  | .shift _ => c = s.activeChain
  | _ => False

instance (s : JtagHandler) (c : Fin maxScanChains) : (op : JtagOp) → Decidable (op.Shifts s c)
  | .shift _ => inferInstanceAs (Decidable (_ = _))
  | .init _ | .setPadding _ _ | .setTapState _ | .tapReset | .setActiveChain _ =>
      inferInstanceAs (Decidable False)

def visitStep (driver : JtagDriver) (v : VisitedHandler) (op : JtagOp) : VisitedHandler where
  handler := jtagStep driver v.handler op
  fresh c :=
    if ((jtagStep driver v.handler op).chains c).tapState = (v.handler.chains c).tapState then
      v.fresh c && !decide (op.Shifts v.handler c)
    else true

/-- The scan a visit calls for: the configured prefix before its first shift only. -/
def visitTdi (v : VisitedHandler) (r : ShiftRequest) : Option (List Bool) :=
  let c := v.handler.active
  (c.shiftPadding.bits c.tapState).map fun (pre, post, bit) =>
    (if v.fresh v.handler.activeChain then List.replicate pre bit else []) ++ r.tdi ++
      if c.tapState = r.endState then [] else List.replicate post bit

/-- After the call no chain has a scan running outside the shift states, and a
shift in a shift state presents the scan its visit calls for. -/
def PaddingDiscipline (driver : JtagDriver) (v : VisitedHandler) (op : JtagOp) : Prop :=
  (∀ c, ((jtagStep driver v.handler op).chains c).scanState = .run →
    ((jtagStep driver v.handler op).chains c).tapState.IsShift) ∧
  match op with
  | .shift r => ∀ bits ∈ visitTdi v r, jtagTdi driver v.handler (.shift r) = bits
  | _ => True

/-- The TAP is moved by a call other than a shift only between scans. -/
def NoAbandonedScan (v : VisitedHandler) : JtagOp → Prop
  | .setTapState tapState =>
      tapState = v.handler.active.tapState ∨ v.handler.active.scanState = .done
  | .tapReset => .tlr = v.handler.active.tapState ∨ v.handler.active.scanState = .done
  | _ => True

instance (v : VisitedHandler) : (op : JtagOp) → Decidable (NoAbandonedScan v op)
  | .setTapState _ => inferInstanceAs (Decidable (_ ∨ _))
  | .tapReset => inferInstanceAs (Decidable (_ ∨ _))
  | .init _ | .setPadding _ _ | .setActiveChain _ | .shift _ => inferInstanceAs (Decidable True)

/-- The scan state of a chain records the visit: a scan runs only in a shift
state, and there it has not started exactly while the visit is fresh. -/
def JtagChainState.Records (c : JtagChainState) (fresh : Bool) : Prop :=
  if c.tapState.IsShift then c.scanState = .done ↔ fresh = true else c.scanState = .done

def VisitedHandler.Wf (v : VisitedHandler) : Prop :=
  ∀ c, (v.handler.chains c).Records (v.fresh c)

theorem JtagChainState.Records.of_same {c d : JtagChainState} {fresh : Bool}
    (h : c.Records fresh) (tapState : d.tapState = c.tapState)
    (scanState : d.scanState = c.scanState) : d.Records fresh := by
  simpa only [JtagChainState.Records, tapState, scanState] using h

theorem JtagChainState.Records.isShift_of_run {c : JtagChainState} {fresh : Bool}
    (h : c.Records fresh) (hrun : c.scanState = .run) : c.tapState.IsShift := by
  by_contra hnot
  simp only [JtagChainState.Records, hnot, if_false, hrun] at h
  cases h

theorem records_of_done {c : JtagChainState} (h : c.scanState = .done) : c.Records true := by
  simp [JtagChainState.Records, h]

theorem bits_isSome_iff (padding : JtagShiftPadding) (tapState : JtagState) :
    (padding.bits tapState).isSome ↔ tapState.IsShift := by
  cases tapState <;> simp [JtagShiftPadding.bits, JtagState.IsShift]

section Step
variable (tdo : Nat → DriverCall → List UInt8) {v : VisitedHandler}

/-- A call that leaves the states of every chain, and shifts none, keeps the record. -/
theorem visitStep_wf_of_same {op : JtagOp} (h : v.Wf) (hop : ∀ c, ¬ op.Shifts v.handler c)
    (tapState : ∀ c, ((jtagStep (.succeeding tdo) v.handler op).chains c).tapState =
      (v.handler.chains c).tapState)
    (scanState : ∀ c, ((jtagStep (.succeeding tdo) v.handler op).chains c).scanState =
      (v.handler.chains c).scanState) :
    (visitStep (.succeeding tdo) v op).Wf := by
  intro c
  refine JtagChainState.Records.of_same ?_ (tapState c) (scanState c)
  simpa only [visitStep, tapState c, if_true, hop c, decide_false, Bool.not_false, Bool.and_true]
    using h c

/-- A call that changes the active chain only keeps the record of the others. -/
theorem visitStep_wf_of_scans {op : JtagOp} {d : JtagChainState} {bits : List Bool} (h : v.Wf)
    (hscan : v.handler.Scans (jtagStep (.succeeding tdo) v.handler op) d bits)
    (hop : ∀ c, c ≠ v.handler.activeChain → ¬ op.Shifts v.handler c)
    (hactive : d.Records (if d.tapState = v.handler.active.tapState then
      v.fresh v.handler.activeChain && !decide (op.Shifts v.handler v.handler.activeChain)
      else true)) :
    (visitStep (.succeeding tdo) v op).Wf := by
  intro c
  by_cases hc : c = v.handler.activeChain
  · subst hc
    simp only [visitStep, hscan.chains, Function.update_self]
    exact hactive
  · have hother : (jtagStep (.succeeding tdo) v.handler op).chains c = v.handler.chains c := by
      rw [hscan.chains, Function.update_of_ne hc]
    simpa only [visitStep, hother, if_true, hop c hc, decide_false, Bool.not_false,
      Bool.and_true] using h c

theorem visitStep_wf_of_tapState {op : JtagOp} {tapState : JtagState} (h : v.Wf)
    (hscan : v.handler.Scans (jtagStep (.succeeding tdo) v.handler op)
      { v.handler.active with tapState } [])
    (hop : ∀ c, ¬ op.Shifts v.handler c)
    (hdone : tapState = v.handler.active.tapState ∨ v.handler.active.scanState = .done) :
    (visitStep (.succeeding tdo) v op).Wf := by
  refine visitStep_wf_of_scans tdo h hscan (fun c _ => hop c) ?_
  by_cases hsame : tapState = v.handler.active.tapState
  · simp only [hsame, if_true, hop, decide_false, Bool.not_false, Bool.and_true]
    exact h v.handler.activeChain
  · simp only [hsame, if_false]
    exact records_of_done (hdone.resolve_left hsame)

theorem visitStep_shift_wf (h : v.Wf) (r : ShiftRequest) :
    (visitStep (.succeeding tdo) v (.shift r)).Wf := by
  cases hscan : v.handler.active.scan r with
  | none =>
      have hkeep : jtagStep (.succeeding tdo) v.handler (.shift r) = v.handler := by
        simp only [jtagStep, jtagOp, jtagShift_of_scan_none tdo v.handler hscan]
      have hactive : ¬ v.handler.active.tapState.IsShift := by
        rw [← bits_isSome_iff, scan_eq_none hscan]
        simp
      intro c
      have hc := h c
      by_cases hshift : (v.handler.chains c).tapState.IsShift
      · have hne : c ≠ v.handler.activeChain := by
          intro heq
          subst heq
          exact hactive hshift
        simpa [visitStep, hkeep, JtagOp.Shifts, hne] using hc
      · simpa only [visitStep, hkeep, JtagChainState.Records, hshift, if_false] using hc
  | some scanned =>
      obtain ⟨d, bits⟩ := scanned
      obtain ⟨pre, post, bit, hbits, rfl, rfl⟩ := scan_eq_some hscan
      have hshift : v.handler.active.tapState.IsShift := by
        rw [← bits_isSome_iff, hbits]
        rfl
      refine visitStep_wf_of_scans tdo h (jtagShift_scans tdo v.handler hscan).2
        (fun c hc => hc) ?_
      by_cases hend : v.handler.active.tapState = r.endState
      · simp [JtagChainState.Records, JtagChainState.scanned, JtagOp.Shifts, ← hend, hshift]
      · simp only [JtagChainState.scanned, hend, Ne.symm hend, if_false]
        exact records_of_done rfl

theorem visitStep_wf (h : v.Wf) (op : JtagOp) (hop : NoAbandonedScan v op) :
    (visitStep (.succeeding tdo) v op).Wf := by
  cases op with
  | init swMode =>
      intro c
      simp [visitStep, jtagStep, jtagOp, (jtagInitialize_chains tdo v.handler swMode).2.1,
        JtagChainState.Records, JtagChainState.initial, JtagState.IsShift]
  | setPadding padding value =>
      refine visitStep_wf_of_same tdo h (fun _ => id) (fun c => ?_) (fun c => ?_) <;>
        · simp only [jtagStep, jtagOp, jtagSetPadding]
          split
          · rfl
          · by_cases hc : c = v.handler.activeChain <;>
              simp [JtagHandler.setShiftPadding, JtagHandler.setActive, JtagHandler.active, hc]
  | setTapState tapState =>
      exact visitStep_wf_of_tapState tdo h (jtagSetTapState_scans tdo v.handler tapState).2
        (fun _ => id) hop
  | tapReset =>
      exact visitStep_wf_of_tapState tdo h (jtagSetTapState_scans tdo v.handler .tlr).2
        (fun _ => id) hop
  | setActiveChain chain =>
      refine visitStep_wf_of_same tdo h (fun _ => id) ?_ ?_ <;>
        · intro c
          simp only [jtagStep, jtagOp, jtagSetActiveChain]
          split <;> rfl
  | shift r => exact visitStep_shift_wf tdo h r

theorem visitStep_discipline (h : v.Wf) (op : JtagOp) (hop : NoAbandonedScan v op) :
    PaddingDiscipline (.succeeding tdo) v op := by
  refine ⟨fun c => (visitStep_wf tdo h op hop c).isShift_of_run, ?_⟩
  cases op with
  | shift r =>
      intro bits hbits
      obtain ⟨⟨pre, post, bit⟩, hpad, rfl⟩ := Option.map_eq_some_iff.mp hbits
      have hshift : v.handler.active.tapState.IsShift := by
        rw [← bits_isSome_iff, hpad]
        rfl
      have hrecord : v.handler.active.scanState = .done ↔
          v.fresh v.handler.activeChain = true := by
        have hactive : v.handler.active.Records _ := h v.handler.activeChain
        rwa [JtagChainState.Records, if_pos hshift] at hactive
      rw [jtagTdi_eq]
      simp only [scanTdi, JtagChainState.scan, hpad, Option.map_some, Option.getD_some, hrecord]
  | init _ | setPadding _ _ | setTapState _ | tapReset | setActiveChain _ => exact True.intro

end Step

theorem VisitedHandler.initial_wf : VisitedHandler.initial.Wf := fun _ => records_of_done rfl

/-- As long as no partial scan is abandoned, every state reached has scans
running in the shift states only, and every visit is padded before its first
shift and before no other. -/
theorem scan_padding_discipline (tdo : Nat → DriverCall → List UInt8) (ops : List JtagOp)
    (kept : Machine.Meets (visitStep (.succeeding tdo)) NoAbandonedScan
      VisitedHandler.initial ops) :
    Machine.Meets (visitStep (.succeeding tdo)) (PaddingDiscipline (.succeeding tdo))
      VisitedHandler.initial ops :=
  Machine.meets_of_invariant (I := VisitedHandler.Wf)
    (fun _ op h hop => visitStep_wf tdo h op hop)
    (fun _ op h hop => visitStep_discipline tdo h op hop)
    VisitedHandler.initial_wf kept

/-- One data byte, staying in or leaving for `endState`. -/
def shiftByte (byte : UInt8) (endState : JtagState) : ShiftRequest :=
  ⟨8, some [byte], none, endState, by decide, by simp [divRoundUp], by simp⟩

def silentDriver : JtagDriver := .succeeding fun _ _ => []

/-- A scan split over two shifts, then a second visit. -/
theorem scan_padding_discipline_split_scan :
    let ops : List JtagOp := [.init false, .setPadding .drPre 3, .setTapState .shfDr,
      .shift (shiftByte 0xA5 .shfDr), .shift (shiftByte 0x5A .rti), .setTapState .shfDr,
      .shift (shiftByte 0xFF .rti)]
    Machine.Meets (visitStep silentDriver) NoAbandonedScan VisitedHandler.initial ops ∧
      Machine.Meets (visitStep silentDriver) (PaddingDiscipline silentDriver)
        VisitedHandler.initial ops := by
  intro ops
  have kept : Machine.Meets (visitStep silentDriver) NoAbandonedScan VisitedHandler.initial
      ops := by decide
  exact ⟨kept, scan_padding_discipline _ ops kept⟩

/-- A partial scan abandoned with `JTAG_set_tap_state`: the scan state stays
running in Run-Test/Idle, and the next visit starts without its prefix. -/
theorem scan_padding_abandoned :
    let ops : List JtagOp := [.init true, .setPadding .drPre 3, .setTapState .shfDr,
      .shift (shiftByte 0xA5 .shfDr), .setTapState .rti]
    let v := Machine.run (visitStep silentDriver) VisitedHandler.initial ops
    let w := visitStep silentDriver v (.setTapState .shfDr)
    ¬ Machine.Meets (visitStep silentDriver) (PaddingDiscipline silentDriver)
        VisitedHandler.initial ops ∧
      v.handler.active.scanState = .run ∧ v.handler.active.tapState = .rti ∧
      visitTdi w (shiftByte 0xFF .rti) =
        some (List.replicate 3 false ++ List.replicate 8 true) ∧
      jtagTdi silentDriver w.handler (.shift (shiftByte 0xFF .rti)) =
        List.replicate 8 true := by
  refine ⟨?_, by decide, by decide, by decide, (jtagTdi_eq _ _ _).trans (by decide)⟩
  rw [Machine.meets_iff]
  intro h
  have hlast := (h [.init true, .setPadding .drPre 3, .setTapState .shfDr,
    .shift (shiftByte 0xA5 .shfDr)] (.setTapState .rti) [] rfl).1 jtagHandler.activeChain
    (by decide)
  revert hlast
  decide

end AtScaleDebug
