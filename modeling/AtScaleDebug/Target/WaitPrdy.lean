import AtScaleDebug.Lib.LastWrite
import AtScaleDebug.Target.PinEvents

/-!
The wait for PRDY. It ends at the next event of the pin or after the timeout that the client
has set, and during a platform reset it does not wait at all. The pin of the reset is only
read behind the poll, so that each wait goes by what an earlier one has read. What was read
is static: it outlives the target handle, and the client.
-/

namespace AtScaleDebug

open LastWrite

def jtagClockCycleMilliseconds : Nat := 1000
def log2timeShiftMax : Nat := 30

/-- What `poll` returns and reports, the levels of the pins behind it, and whether the event
of the line can be read. -/
structure WaitPrdyIo where
  poll : Int
  revents : PollEvents
  levels : PinIo
  lineRead : Bool

/-- A call of `target_wait_PRDY`. -/
structure PrdyWait where
  target : TargetControlHandle
  log2time : UInt8
  io : WaitPrdyIo

/-- What is left in the static flag, what was polled and for how long, by how much the signed
one was shifted, and the status. -/
structure WaitPrdyResult where
  platformReset : Bool
  polled : Option (PolledFd × Nat)
  shifts : List Nat
  status : Status

section Code

/-- The time in milliseconds, never zero. -/
def waitPrdyTimeout (log2time : UInt8) : Nat :=
  max 1 (2 ^ min log2time.toNat log2timeShiftMax / jtagClockCycleMilliseconds)

def PollEvents.meets (revents events : PollEvents) : Bool :=
  revents.pollIn && events.pollIn || revents.pollPri && events.pollPri ||
    revents.pollErr && events.pollErr

/-- `target_wait_PRDY`. Behind a poll that has timed out the time is computed once more, with
nothing to limit the shift, and not used. -/
def targetWaitPrdy (platformReset : Bool) (w : PrdyWait) : WaitPrdyResult :=
  if !w.target.initialized then ⟨platformReset, none, [], .err⟩
  else
    let prdy := w.target.gpios .bmcPrdyN
    let events := getPinEvents prdy.type ⟨false, false, false⟩
    let timeout := if platformReset then 0 else waitPrdyTimeout w.log2time
    let shifted := min w.log2time.toNat log2timeShiftMax
    let after :=
      match readPin w.target .bmcPltrstB w.io.levels 0 with
      | (.ok, value) => decide (value ≠ 0)
      | _ => platformReset
    if w.io.poll = 0 then
      ⟨after, some (⟨prdy.fd, events⟩, timeout), [shifted, w.log2time.toNat], .ok⟩
    else
      ⟨after, some (⟨prdy.fd, events⟩, timeout), [shifted],
        if 0 < w.io.poll then
          if w.io.revents.meets events then targetClearGpioEvent prdy w.io.lineRead else .ok
        else .err⟩

/-- The flag over the calls. -/
def waitPrdyStep (platformReset : Bool) (w : PrdyWait) : Bool :=
  (targetWaitPrdy platformReset w).platformReset

end Code

section Runs

/-- What a wait reads of the platform reset. -/
def PrdyWait.reading (w : PrdyWait) : Option Int :=
  if w.target.initialized then
    match readPin w.target .bmcPltrstB w.io.levels 0 with
    | (.ok, value) => some value
    | _ => none
  else none

theorem waitPrdyStep_eq (platformReset : Bool) (w : PrdyWait) :
    waitPrdyStep platformReset w =
      w.reading.elim platformReset fun value => decide (value ≠ 0) := by
  rw [waitPrdyStep, targetWaitPrdy, PrdyWait.reading]
  cases w.target.initialized with
  | false => rfl
  | true =>
      generalize readPin w.target .bmcPltrstB w.io.levels 0 = result
      obtain ⟨status, value⟩ := result
      by_cases hpoll : w.io.poll = 0
      · simp only [hpoll, Bool.not_true, Bool.false_eq_true, if_false, if_true]
        cases status <;> rfl
      · simp only [hpoll, Bool.not_true, Bool.false_eq_true, if_false, if_true]
        cases status <;> rfl

theorem polled_timeout (platformReset : Bool) {w : PrdyWait}
    (h : w.target.initialized = true) :
    (targetWaitPrdy platformReset w).polled.map Prod.snd =
      some (if platformReset then 0 else waitPrdyTimeout w.log2time) := by
  rw [targetWaitPrdy, h]
  simp only [Bool.not_true, Bool.false_eq_true, if_false]
  split
  · rfl
  · rfl

/-- A wait returns at once if and only if the last of the waits before it that could read the
platform reset has found it asserted, whoever waited and with whichever timeout. -/
theorem prdy_wait_skipped_iff (before : List PrdyWait) (w : PrdyWait) :
    (targetWaitPrdy (Machine.run waitPrdyStep false before) w).polled.map Prod.snd = some 0 ↔
      w.target.initialized = true ∧ ∃ front v back value, before = front ++ v :: back ∧
        v.reading = some value ∧ value ≠ 0 ∧ ∀ u ∈ back, u.reading = none := by
  have hflag : Machine.run waitPrdyStep false before =
      (lastWrite PrdyWait.reading before).elim false fun value => decide (value ≠ 0) :=
    run_assigned id waitPrdyStep_eq
  cases hinit : w.target.initialized with
  | false =>
      rw [targetWaitPrdy, hinit]
      exact iff_of_false (by rintro ⟨⟩) (by rintro ⟨⟨⟩, _⟩)
  | true =>
      have hpos : waitPrdyTimeout w.log2time ≠ 0 := Nat.ne_of_gt (Nat.le_max_left 1 _)
      rw [polled_timeout _ hinit, Option.some.injEq, and_iff_right rfl, hflag]
      constructor
      · intro hzero
        cases hlast : lastWrite PrdyWait.reading before with
        | none =>
            rw [hlast, Option.elim_none, if_neg Bool.false_ne_true] at hzero
            exact absurd hzero hpos
        | some value =>
            obtain ⟨front, v, back, hbefore, hv, hback⟩ := lastWrite_eq_some_iff.mp hlast
            refine ⟨front, v, back, value, hbefore, hv, ?_, hback⟩
            intro hvalue
            rw [hlast, hvalue, Option.elim_some, if_neg (by decide)] at hzero
            exact hpos hzero
      · intro h
        obtain ⟨front, v, back, value, hbefore, hv, hvalue, hback⟩ := h
        have hlast := lastWrite_eq_some_iff.mpr ⟨front, v, back, hbefore, hv, hback⟩
        rw [hlast, Option.elim_some, decide_eq_true hvalue, if_pos rfl]

/-- No shift is undefined if and only if no wait that times out is told to wait longer than
the limit. -/
theorem shifts_defined_iff (platformReset : Bool) (w : PrdyWait) :
    (∀ n ∈ (targetWaitPrdy platformReset w).shifts, n ≤ log2timeShiftMax) ↔
      (w.target.initialized = true → w.io.poll = 0 → w.log2time.toNat ≤ log2timeShiftMax) := by
  have hshifted : min w.log2time.toNat log2timeShiftMax ≤ log2timeShiftMax := Nat.min_le_right _ _
  rw [targetWaitPrdy]
  cases w.target.initialized with
  | false => exact iff_of_true (List.forall_mem_nil _) (by rintro ⟨⟩)
  | true =>
      by_cases hpoll : w.io.poll = 0
      · simp [hpoll]
      · simp [hpoll]

end Runs

end AtScaleDebug
