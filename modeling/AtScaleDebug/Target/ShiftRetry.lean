import AtScaleDebug.Target.JtagRun
import AtScaleDebug.Target.ScanPadding

/-!
What a shift leaves behind when the driver refuses its first transfer. No bit has moved then,
so the caller should be able to try again. The TAP state and, on one path, the scan state are
written only behind a transfer that succeeded, but the scan state is also written before:
when a scan starts, and when the transfer is the last one or is followed by a postfix. The
result here is where these writes do no harm.
-/

namespace AtScaleDebug

section Retry

/-- The calls that a shift makes to the driver. -/
def issued (driver : JtagDriver) (s : JtagHandler) (r : ShiftRequest) : List DriverCall :=
  (jtagShift driver s r).1.calls.drop s.calls.length

/-- Of these calls the ones behind those of `s` are a transfer that was refused. -/
def FirstRefused (driver : JtagDriver) (s : JtagHandler) (calls : List DriverCall) : Prop :=
  ∃ x, calls = s.calls ++ [.xfer x] ∧ driver s.calls.length (.xfer x) = none

/-- The shift fails with the first transfer it makes. -/
def FirstTransferFails (driver : JtagDriver) (s : JtagHandler) (r : ShiftRequest) : Prop :=
  (jtagShift driver s r).2.1 = .err ∧ FirstRefused driver s (jtagShift driver s r).1.calls

/-- The same driver, for a handler that has made one call more. -/
def JtagDriver.later (driver : JtagDriver) : JtagDriver := fun count call => driver (count - 1) call

/-- A later call with the arguments of `r`, whose output buffer has these contents now. -/
structure SameArguments (again r : ShiftRequest) (output : Option (List UInt8)) : Prop where
  numberOfBits : again.numberOfBits = r.numberOfBits
  input : again.input = r.input
  endState : again.endState = r.endState
  output : again.output = output

/-- The chain is as it was, and a second call with the same arguments makes the calls that
the first one would have made. -/
structure CanRetry (driver : JtagDriver) (s : JtagHandler) (r : ShiftRequest) : Prop where
  tapState : (jtagShift driver s r).1.active.tapState = s.active.tapState
  scanState : (jtagShift driver s r).1.active.scanState = s.active.scanState
  retried : ∀ (next : JtagDriver) (again : ShiftRequest),
    SameArguments again r (jtagShift driver s r).2.2 →
      issued next.later (jtagShift driver s r).1 again = issued next s r

/-- What is written to the scan state before the first transfer is what stood there. -/
def KeepsScanState (swMode : Bool) (c : JtagChainState) (endState : JtagState) : Prop :=
  if swMode then
    match scanPadding c.shiftPadding c.tapState, c.scanState with
    | none, _ => True
    | some (preFix, postFix, _), .done => preFix = 0 ∧ postFix ≠ 0 ∧ c.tapState ≠ endState
    | some (_, postFix, _), .run => ¬(postFix ≠ 0 ∧ c.tapState ≠ endState)
  else
    match c.scanState with
    | .done => c.tapState ≠ endState
    | .run => c.tapState = endState

end Retry

section Active
variable (s : JtagHandler)

@[simp] theorem JtagHandler.active_setActive (c : JtagChainState) : (s.setActive c).active = c :=
  Function.update_self _ _ _

@[simp] theorem JtagHandler.active_setScanState (scanState : JtagScanState) :
    (s.setScanState scanState).active = { s.active with scanState } :=
  s.active_setActive _

@[simp] theorem JtagHandler.active_setTapState (tapState : JtagState) :
    (s.setTapState tapState).active = { s.active with tapState } :=
  s.active_setActive _

end Active

section Failure
variable {driver : JtagDriver} {s : JtagHandler} {r : ShiftRequest}

/-- After a refused transfer: the chain with the scan state that was written before. -/
structure Refused (s t : JtagHandler) (scanState : JtagScanState) : Prop where
  active : t.active = { s.active with scanState }
  swMode : t.swMode = s.swMode
  calls : ∃ x, t.calls = s.calls ++ [.xfer x]

theorem memcpyS_memcpyS {dest : List UInt8} {src : Option (List UInt8)} {count : Nat}
    (hsrc : ∀ bytes ∈ src, count ≤ bytes.length) :
    memcpyS (memcpyS dest src count) src count = memcpyS dest src count := by
  have hlength := memcpyS_length dest hsrc
  by_cases hzero : count = 0
  · simp only [memcpyS, if_pos hzero]
  · cases src with
    | none => simp only [memcpyS, if_neg hzero, List.length_replicate]
    | some bytes =>
        by_cases hshort : dest.length < count
        · simp only [memcpyS, if_neg hzero, if_pos hshort, List.length_replicate]
        · have htake : (bytes.take count).length = count :=
            List.length_take_of_le (hsrc bytes rfl)
          have hcopied : memcpyS dest (some bytes) count = bytes.take count ++ dest.drop count := by
            simp only [memcpyS, if_neg hzero, if_neg hshort]
          rw [hcopied] at hlength ⊢
          simp only [memcpyS, if_neg hzero, hlength, if_neg hshort, List.drop_left' htake]

theorem shiftTdio_shiftTdio {n : Nat} {input output : Option (List UInt8)}
    (hsrc : ∀ bytes ∈ input, divRoundUp n 8 ≤ bytes.length) :
    shiftTdio n input (output.map fun _ => shiftTdio n input output) =
      shiftTdio n input output := by
  cases output with
  | none => rfl
  | some buffer => exact memcpyS_memcpyS hsrc

theorem JtagScanState.run_of_ne {scanState : JtagScanState} (h : scanState ≠ .done) :
    scanState = .run := by
  cases scanState with
  | done => exact absurd rfl h
  | run => rfl

theorem transfer_calls_eq (padding : BitVec 32) (n : Nat) (input output : Option (List UInt8))
    (current endState : JtagState) :
    (transfer driver s padding n input output current endState).1.calls = s.calls ++
      [.xfer ⟨xferType current, current, endState, padding, n, shiftTdio n input output⟩] := by
  simp only [transfer, JtagHandler.ioctl]
  split
  · next heq => rw [← (Prod.mk.inj heq).1]
  · next heq =>
      rw [← (Prod.mk.inj heq).1]
      rfl

/-- What a shift leaves whose first transfer is refused, with the scan state `scanState`
written before. -/
structure RefusedShift (s : JtagHandler) (r : ShiftRequest) (result : ShiftResult)
    (scanState : JtagScanState) : Prop where
  handler : Refused s result.1 scanState
  output : result.2.2 = r.output ∨
    result.2.2 = r.output.map fun _ => shiftTdio r.numberOfBits r.input r.output

theorem FirstRefused.eq_none {calls : List DriverCall} (h : FirstRefused driver s calls)
    {y : JtagXfer} (hbegins : s.calls ++ [.xfer y] <+: calls) :
    driver s.calls.length (.xfer y) = none := by
  obtain ⟨x, rfl, hnone⟩ := h
  obtain ⟨more, hmore⟩ := hbegins
  rw [List.append_assoc, List.append_cancel_left_eq, List.singleton_append] at hmore
  cases hmore
  exact hnone

/-- A transfer that the calls begin with is refused, and changes nothing but the record of
the calls. -/
theorem FirstRefused.transfer {calls : List DriverCall} (h : FirstRefused driver s calls)
    {t : JtagHandler} {scanState : JtagScanState} (hactive : t.active = { s.active with scanState })
    (hmode : t.swMode = s.swMode) (hcalls : t.calls = s.calls) {padding : BitVec 32} {n : Nat}
    {input output : Option (List UInt8)} {current endState : JtagState}
    (hbegins : (transfer driver t padding n input output current endState).1.calls <+: calls) :
    let result := AtScaleDebug.transfer driver t padding n input output current endState
    Refused s result.1 scanState ∧ result.2.1 = .err ∧
      result.2.2 = output.map fun _ => shiftTdio n input output := by
  rw [transfer_calls_eq, hcalls] at hbegins
  have hnone := h.eq_none hbegins
  simp only [AtScaleDebug.transfer, JtagHandler.ioctl, hcalls, hnone]
  exact ⟨⟨hactive, hmode, _, rfl⟩, trivial, trivial⟩

theorem jtagShiftHw_refused (h : FirstRefused driver s (jtagShiftHw driver s r).1.calls) :
    RefusedShift s r (jtagShiftHw driver s r)
      (if s.active.tapState = r.endState then .run else .done) := by
  -- the transfer, from the handler and with the padding word that the branches leave
  have hrefused : ∀ (t : JtagHandler) (word : BitVec 32) (scanState : JtagScanState),
      t.active = { s.active with scanState } → t.swMode = s.swMode → t.calls = s.calls →
      FirstRefused driver s (transfer driver t word r.numberOfBits r.input r.output
        s.active.tapState r.endState).1.calls →
      RefusedShift s r (transfer driver t word r.numberOfBits r.input r.output
        s.active.tapState r.endState) scanState := by
    intro t word scanState hactive hmode hcalls hfirst
    obtain ⟨hhandler, -, houtput⟩ := hfirst.transfer hactive hmode hcalls (List.prefix_refl _)
    exact ⟨hhandler, .inr houtput⟩
  simp only [jtagShiftHw] at h ⊢
  cases hpadding : padConfig s.active.shiftPadding s.active.tapState with
  | none =>
      simp only [hpadding] at h
      obtain ⟨x, hcalls, -⟩ := h
      exact absurd hcalls.symm (by simp)
  | some padding =>
      simp only [hpadding] at h ⊢
      by_cases hend : s.active.tapState = r.endState
      · by_cases hdone : s.active.scanState = .done
        · simp only [if_pos hdone, if_pos hend] at h ⊢
          exact hrefused _ _ _ (by simp) rfl rfl h
        · have hrun := JtagScanState.run_of_ne hdone
          simp only [if_neg hdone, if_pos hend] at h ⊢
          exact hrefused _ _ _ (by rw [← hrun]) rfl rfl h
      · by_cases hdone : s.active.scanState = .done
        · simp only [if_pos hdone, if_neg hend] at h ⊢
          exact hrefused _ _ _ (by simp) rfl rfl h
        · simp only [if_neg hdone, if_neg hend] at h ⊢
          exact hrefused _ _ _ (by simp) rfl rfl h

/-- A shift of the data begins with its first transfer, and is that transfer if it fails. -/
theorem shiftData_first (driver : JtagDriver) (t : JtagHandler) (r : ShiftRequest) (postFix : Nat)
    (padData : List UInt8) (current : JtagState) :
    let leaves := postFix ≠ 0 ∧ current ≠ r.endState
    let first := performShift driver (if leaves then t.setScanState .done else t) r.numberOfBits
      r.input r.output current (if leaves then current else r.endState)
    first.1.calls <+: (shiftData driver t r postFix padData current).1.calls ∧
      (first.2.1 = .err → shiftData driver t r postFix padData current = first) := by
  dsimp only
  rw [shiftData]
  split
  · dsimp only
    rcases performShift driver (t.setScanState .done) r.numberOfBits r.input r.output current
      current with ⟨u, status, output⟩
    cases status with
    | ok =>
        exact ⟨performShift_calls driver u postFix (some padData) none current r.endState,
          by rintro ⟨⟩⟩
    | err => exact ⟨List.prefix_refl _, fun _ => rfl⟩
    | timeout => exact ⟨List.prefix_refl _, fun _ => rfl⟩
  · rcases performShift driver t r.numberOfBits r.input r.output current r.endState with
      ⟨u, status, output⟩
    cases status with
    | ok =>
        refine ⟨?_, by rintro ⟨⟩⟩
        dsimp only
        split
        · exact List.prefix_refl _
        · exact List.prefix_refl _
    | err => exact ⟨List.prefix_refl _, fun _ => rfl⟩
    | timeout => exact ⟨List.prefix_refl _, fun _ => rfl⟩

theorem shiftData_refused {t : JtagHandler} {scanState : JtagScanState}
    (hactive : t.active = { s.active with scanState }) (hmode : t.swMode = s.swMode)
    (hcalls : t.calls = s.calls) (postFix : Nat) (padData : List UInt8)
    (h : FirstRefused driver s (shiftData driver t r postFix padData s.active.tapState).1.calls) :
    RefusedShift s r (shiftData driver t r postFix padData s.active.tapState)
      (if postFix ≠ 0 ∧ s.active.tapState ≠ r.endState then .done else scanState) := by
  obtain ⟨hbegins, hfailed⟩ := shiftData_first driver t r postFix padData s.active.tapState
  have hstart : ∀ u : JtagHandler,
      u = (if postFix ≠ 0 ∧ s.active.tapState ≠ r.endState then t.setScanState .done else t) →
      u.active = { s.active with scanState :=
          if postFix ≠ 0 ∧ s.active.tapState ≠ r.endState then .done else scanState } ∧
        u.swMode = s.swMode ∧ u.calls = s.calls := by
    rintro u rfl
    split
    · exact ⟨by rw [t.active_setScanState, hactive], hmode, hcalls⟩
    · exact ⟨hactive, hmode, hcalls⟩
  obtain ⟨hu, hswMode, hsame⟩ := hstart _ rfl
  obtain ⟨hhandler, herr, houtput⟩ := h.transfer hu hswMode hsame hbegins
  rw [hfailed herr]
  exact ⟨hhandler, .inr houtput⟩

/-- The scan state that the software path has written when it makes its first transfer. -/
def startedScanState (preFix postFix : Nat) (c : JtagChainState) (endState : JtagState) :
    JtagScanState :=
  if c.scanState = .done ∧ preFix ≠ 0 then .run
  else if postFix ≠ 0 ∧ c.tapState ≠ endState then .done
  else .run

/-- A scan that starts with a prefix is that transfer if it fails. -/
theorem jtagShift_preFix_first (driver : JtagDriver) (r : ShiftRequest) (hmode : s.swMode = true)
    {preFix postFix : Nat} {padData : List UInt8}
    (hpadding : scanPadding s.active.shiftPadding s.active.tapState =
      some (preFix, postFix, padData))
    (hdone : s.active.scanState = .done) (hpre : preFix ≠ 0) :
    let first := performShift driver (s.setScanState .run) preFix (some padData) none
      s.active.tapState s.active.tapState
    first.1.calls <+: (jtagShift driver s r).1.calls ∧
      (first.2.1 = .err → jtagShift driver s r = (first.1, .err, r.output)) := by
  have hsw : ¬(!s.swMode) = true := by simp [hmode]
  dsimp only
  rw [jtagShift, if_neg hsw]
  simp only [hpadding, shiftPreFix, if_pos hdone, if_pos hpre]
  rcases performShift driver (s.setScanState .run) preFix (some padData) none s.active.tapState
    s.active.tapState with ⟨t, status, unused⟩
  cases status with
  | ok => exact ⟨shiftData_calls driver t r postFix padData _, by rintro ⟨⟩⟩
  | err => exact ⟨List.prefix_refl _, fun _ => rfl⟩
  | timeout => exact ⟨List.prefix_refl _, by rintro ⟨⟩⟩

theorem jtagShiftSw_refused (hmode : s.swMode = true) {preFix postFix : Nat}
    {padData : List UInt8}
    (hpadding : scanPadding s.active.shiftPadding s.active.tapState =
      some (preFix, postFix, padData))
    (h : FirstRefused driver s (jtagShift driver s r).1.calls) :
    RefusedShift s r (jtagShift driver s r)
      (startedScanState preFix postFix s.active r.endState) := by
  by_cases hstarts : s.active.scanState = .done ∧ preFix ≠ 0
  · rw [startedScanState, if_pos hstarts]
    obtain ⟨hbegins, hfailed⟩ :=
      jtagShift_preFix_first driver r hmode hpadding hstarts.1 hstarts.2
    obtain ⟨hhandler, herr, -⟩ := h.transfer (s.active_setScanState .run) rfl rfl hbegins
    rw [hfailed herr]
    exact ⟨hhandler, .inl rfl⟩
  · rw [startedScanState, if_neg hstarts]
    have hsw : ¬(!s.swMode) = true := by simp [hmode]
    rw [jtagShift, if_neg hsw] at h ⊢
    simp only [hpadding, shiftPreFix] at h ⊢
    by_cases hdone : s.active.scanState = .done
    · have hpre : ¬preFix ≠ 0 := fun hpre => hstarts ⟨hdone, hpre⟩
      simp only [if_pos hdone, if_neg hpre] at h ⊢
      exact shiftData_refused (s.active_setScanState .run) rfl rfl postFix padData h
    · have hrun := JtagScanState.run_of_ne hdone
      simp only [if_neg hdone] at h ⊢
      exact shiftData_refused (by rw [← hrun]) rfl rfl postFix padData h

/-- The scan state behind a shift whose first transfer is refused. -/
theorem jtagShift_refused (h : FirstRefused driver s (jtagShift driver s r).1.calls) :
    ∃ scanState, RefusedShift s r (jtagShift driver s r) scanState ∧
      (scanState = s.active.scanState ↔ KeepsScanState s.swMode s.active r.endState) := by
  cases hmode : s.swMode with
  | true =>
      cases hpadding : scanPadding s.active.shiftPadding s.active.tapState with
      | none =>
          obtain ⟨x, hcalls, -⟩ := h
          have hsw : ¬(!s.swMode) = true := by simp [hmode]
          rw [jtagShift, if_neg hsw] at hcalls
          simp only [hpadding] at hcalls
          exact absurd hcalls.symm (by simp)
      | some padding =>
          obtain ⟨preFix, postFix, padData⟩ := padding
          refine ⟨_, jtagShiftSw_refused hmode hpadding h, ?_⟩
          rw [KeepsScanState, if_pos rfl, hpadding, startedScanState]
          cases s.active.scanState <;> grind
  | false =>
      have hhw : jtagShift driver s r = jtagShiftHw driver s r := by
        rw [jtagShift, hmode]
        rfl
      rw [hhw] at h ⊢
      refine ⟨_, jtagShiftHw_refused h, ?_⟩
      rw [KeepsScanState, if_neg Bool.false_ne_true]
      cases s.active.scanState <;> grind

end Failure

section Delay

/-- `t` is where `s` is, with one call more in its record, made after those in `start`. -/
structure Delayed (start : List DriverCall) (failed : DriverCall) (s t : JtagHandler) : Prop where
  active : t.active = s.active
  swMode : t.swMode = s.swMode
  calls : ∃ made, s.calls = start ++ made ∧ t.calls = start ++ failed :: made

variable {start : List DriverCall} {failed : DriverCall} {s t : JtagHandler} (driver : JtagDriver)

theorem Delayed.setScanState (h : Delayed start failed s t) (scanState : JtagScanState) :
    Delayed start failed (s.setScanState scanState) (t.setScanState scanState) :=
  ⟨by rw [JtagHandler.active_setScanState, JtagHandler.active_setScanState, h.active], h.swMode,
    h.calls⟩

/-- Two transfers of the same bits. -/
theorem Delayed.transfer (h : Delayed start failed s t) (padding : BitVec 32) (n : Nat)
    {input output input' output' : Option (List UInt8)} (current endState : JtagState)
    (htdio : shiftTdio n input' output' = shiftTdio n input output) :
    let one := AtScaleDebug.transfer driver s padding n input output current endState
    let other := AtScaleDebug.transfer driver.later t padding n input' output' current endState
    Delayed start failed one.1 other.1 ∧ other.2.1 = one.2.1 := by
  obtain ⟨made, hs, ht⟩ := h.calls
  have hlater : ∀ call, driver.later t.calls.length call = driver s.calls.length call := by
    intro call
    rw [JtagDriver.later, hs, ht, List.length_append, List.length_append, List.length_cons]
    rfl
  have hcalls : ∀ call, ∃ made, s.calls ++ [call] = start ++ made ∧
      t.calls ++ [call] = start ++ failed :: made := by
    intro call
    refine ⟨made ++ [call], ?_, ?_⟩
    · rw [hs, List.append_assoc]
    · rw [ht, List.append_assoc]
      rfl
  simp only [AtScaleDebug.transfer, JtagHandler.ioctl, htdio, hlater]
  cases driver s.calls.length
    (.xfer ⟨xferType current, current, endState, padding, n, shiftTdio n input output⟩) with
  | none => exact ⟨⟨h.active, h.swMode, hcalls _⟩, rfl⟩
  | some tdo =>
      refine ⟨⟨?_, h.swMode, hcalls _⟩, rfl⟩
      simp only [JtagHandler.active_setTapState]
      exact congrArg (fun c : JtagChainState => { c with tapState := endState }) h.active

variable {r again : ShiftRequest}

/-- Two calls that shift the same bits to the same end state. -/
structure SameShift (r again : ShiftRequest) : Prop where
  numberOfBits : again.numberOfBits = r.numberOfBits
  endState : again.endState = r.endState
  tdio : shiftTdio r.numberOfBits again.input again.output =
    shiftTdio r.numberOfBits r.input r.output

theorem Delayed.jtagShiftHw (h : Delayed start failed s t) (hsame : SameShift r again) :
    Delayed start failed (jtagShiftHw driver s r).1 (jtagShiftHw driver.later t again).1 := by
  simp only [AtScaleDebug.jtagShiftHw, h.active, hsame.numberOfBits, hsame.endState]
  split
  · exact h
  · split
    · split
      · exact ((h.setScanState _).transfer driver _ _ _ _ hsame.tdio).1
      · exact (h.transfer driver _ _ _ _ hsame.tdio).1
    · split
      · exact (((h.setScanState _).setScanState _).transfer driver _ _ _ _ hsame.tdio).1
      · exact ((h.setScanState _).transfer driver _ _ _ _ hsame.tdio).1

theorem Delayed.shiftPreFix (h : Delayed start failed s t) (preFix : Nat) (padData : List UInt8)
    (current : JtagState) :
    let one := shiftPreFix driver s preFix padData current
    let other := shiftPreFix driver.later t preFix padData current
    Delayed start failed one.1 other.1 ∧ other.2 = one.2 := by
  simp only [AtScaleDebug.shiftPreFix, h.active]
  split
  · split
    · exact (h.setScanState _).transfer driver _ _ _ _ rfl
    · exact ⟨h.setScanState _, rfl⟩
  · exact ⟨h, rfl⟩

theorem Delayed.shiftData (h : Delayed start failed s t) (hsame : SameShift r again)
    (postFix : Nat) (padData : List UInt8) (current : JtagState) :
    Delayed start failed (shiftData driver s r postFix padData current).1
      (shiftData driver.later t again postFix padData current).1 := by
  simp only [AtScaleDebug.shiftData, AtScaleDebug.performShift, hsame.numberOfBits, hsame.endState]
  split
  · have hboth := (h.setScanState .done).transfer driver 0 r.numberOfBits current current hsame.tdio
    rcases hone : AtScaleDebug.transfer driver (s.setScanState .done) 0 r.numberOfBits r.input
      r.output current current with ⟨u, status, output⟩
    rcases hother : AtScaleDebug.transfer driver.later (t.setScanState .done) 0 r.numberOfBits
      again.input again.output current current with ⟨w, status', output'⟩
    rw [hone, hother] at hboth
    obtain ⟨hfirst, hstatus⟩ := hboth
    obtain rfl : status' = status := hstatus
    cases status' with
    | ok => exact (hfirst.transfer driver 0 postFix current r.endState rfl).1
    | err => exact hfirst
    | timeout => exact hfirst
  · have hboth := h.transfer driver 0 r.numberOfBits current r.endState hsame.tdio
    rcases hone : AtScaleDebug.transfer driver s 0 r.numberOfBits r.input r.output current
      r.endState with ⟨u, status, output⟩
    rcases hother : AtScaleDebug.transfer driver.later t 0 r.numberOfBits again.input again.output
      current r.endState with ⟨w, status', output'⟩
    rw [hone, hother] at hboth
    obtain ⟨hfirst, hstatus⟩ := hboth
    obtain rfl : status' = status := hstatus
    cases status' with
    | ok =>
        dsimp only
        split
        · exact hfirst.setScanState .done
        · exact hfirst
    | err => exact hfirst
    | timeout => exact hfirst

/-- The same shift, one call later, makes the same calls. -/
theorem Delayed.jtagShift (h : Delayed start failed s t) (hsame : SameShift r again) :
    Delayed start failed (jtagShift driver s r).1 (jtagShift driver.later t again).1 := by
  simp only [AtScaleDebug.jtagShift, h.swMode]
  split
  · exact h.jtagShiftHw driver hsame
  · simp only [h.active]
    split
    · exact h
    · next preFix postFix padData _ =>
        have hboth := h.shiftPreFix driver preFix padData s.active.tapState
        rcases hone : AtScaleDebug.shiftPreFix driver s preFix padData s.active.tapState with
          ⟨u, status⟩
        rcases hother : AtScaleDebug.shiftPreFix driver.later t preFix padData s.active.tapState
          with ⟨w, status'⟩
        rw [hone, hother] at hboth
        obtain ⟨hfirst, hstatus⟩ := hboth
        obtain rfl : status' = status := hstatus
        cases status' with
        | ok => exact hfirst.shiftData driver hsame postFix padData _
        | err => exact hfirst
        | timeout => exact hfirst

end Delay

section Result
variable (driver : JtagDriver) (s : JtagHandler) (r : ShiftRequest)

variable {s r} in
theorem RefusedShift.sameShift {result : ShiftResult} {scanState : JtagScanState}
    {again : ShiftRequest} (h : RefusedShift s r result scanState)
    (hagain : SameArguments again r result.2.2) : SameShift r again := by
  refine ⟨hagain.numberOfBits, hagain.endState, ?_⟩
  rw [hagain.input, hagain.output]
  rcases h.output with houtput | houtput
  · rw [houtput]
  · rw [houtput]
    exact shiftTdio_shiftTdio r.input_covers

/-- A shift that fails with its first transfer can be tried again if and only if what was
written to the scan state before the transfer is what stood there. -/
theorem jtag_shift_retry (hfails : FirstTransferFails driver s r) :
    CanRetry driver s r ↔ KeepsScanState s.swMode s.active r.endState := by
  obtain ⟨scanState, hrefused, hkeeps⟩ := jtagShift_refused hfails.2
  rw [← hkeeps]
  constructor
  · intro hretry
    have hscan := hretry.scanState
    rw [hrefused.handler.active] at hscan
    exact hscan
  · rintro rfl
    have hactive : (jtagShift driver s r).1.active = s.active := hrefused.handler.active
    refine ⟨congrArg JtagChainState.tapState hactive, congrArg JtagChainState.scanState hactive, ?_⟩
    intro next again hagain
    obtain ⟨x, hcalls⟩ := hrefused.handler.calls
    have hdelayed : Delayed s.calls (.xfer x) s (jtagShift driver s r).1 :=
      ⟨hactive, hrefused.handler.swMode, [], (List.append_nil _).symm, hcalls⟩
    obtain ⟨-, -, made, hone, hother⟩ := hdelayed.jtagShift next (hrefused.sameShift hagain)
    rw [issued, issued, hone, hother, hcalls]
    simp

/-- The active chain in Shift-DR, with no scan running and this prefix. -/
def shiftingHandler (swMode : Bool) (drPre : Nat) : JtagHandler :=
  (jtagSetPadding { jtagHandler.setTapState .shfDr with swMode } .drPre drPre).1

def refusing : JtagDriver := fun _ _ => none

/-- In hardware mode, to Exit1-DR. -/
theorem jtag_shift_retry_hardware :
    let s := shiftingHandler false 3
    CanRetry refusing s (readRequest 0x88 .ex1Dr) :=
  (jtag_shift_retry refusing (shiftingHandler false 3) (readRequest 0x88 .ex1Dr)
    ⟨rfl, _, rfl, rfl⟩).mpr (by change JtagState.shfDr ≠ .ex1Dr; decide)

/-- In software mode the prefix is refused, and the second call makes none. In hardware mode
the same is seen of a scan that stays in Shift-DR. -/
theorem jtag_shift_retry_loses_prefix :
    let r := readRequest 0x88 .shfDr
    let software := shiftingHandler true 3
    let hardware := shiftingHandler false 3
    let next := JtagDriver.succeeding fun _ _ => []
    FirstTransferFails refusing software r ∧ FirstTransferFails refusing hardware r ∧
      software.active.scanState = .done ∧
      (jtagShift refusing software r).1.active.scanState = .run ∧
      (issued next software r).length = 2 ∧
      (issued next.later (jtagShift refusing software r).1 r).length = 1 ∧
      ¬CanRetry refusing software r ∧ ¬CanRetry refusing hardware r := by
  refine ⟨⟨rfl, _, rfl, rfl⟩, ⟨rfl, _, rfl, rfl⟩, rfl, rfl, by decide, by decide, ?_, ?_⟩
  · intro h
    exact absurd h.scanState (by decide)
  · intro h
    exact absurd h.scanState (by decide)

end Result

end AtScaleDebug
