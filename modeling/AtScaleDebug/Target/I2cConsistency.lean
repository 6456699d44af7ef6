import AtScaleDebug.Lib.Machine
import AtScaleDebug.Target.BusAttribution

/-!
The I2C handler over all sequences of its calls. The bus number says which device is
open, and it is set before the device is opened: an open device always belongs to it, but
a select of that number takes the device for open without looking. It is closed until an
open succeeds, and again after one that fails.
-/

namespace AtScaleDebug

section Calls

/-- The calls that open or close the device, with what `open` and `flock` answer. -/
inductive I2cCall where
  | init (opens : Bool)
  | select (opens : Bool) (bus : UInt8)
  | flock (io : I2cLockIo) (bus : UInt8) (op : LockOp)

/-- `I2CHandler`. The bus number is whatever the allocated memory holds. -/
def i2cHandler (i2cBus : UInt8) : I2cHandler := ⟨i2cBus, none⟩

variable (c : BusConfig) (s : BusState)

def I2cCall.run : I2cCall → BusState × Status
  | .init opens => i2cInitialize c opens s
  | .select opens bus => i2cBusSelect c opens s bus
  | .flock io bus op =>
      let (h, status) := i2cBusFlock io s.i2c bus op
      ({ s with i2c := h }, status)

def i2cCallStep (call : I2cCall) : BusState := (call.run c s).1

/-- The bus the call is about. -/
def I2cCall.bus : I2cCall → UInt8
  | .init _ => s.defaultBus
  | .select _ bus | .flock _ bus _ => bus

/-- A call that succeeds leaves the device of its bus open, and an open device is the one
of the recorded bus. -/
structure I2cCall.Sound (call : I2cCall) : Prop where
  opened : (call.run c s).2 = .ok →
    ∃ d, (call.run c s).1.i2c.driverHandle = some d ∧ d.bus = call.bus s
  recorded : (call.run c s).1.i2c.Consistent

def I2cCall.selects : I2cCall → Bool
  | .init _ | .select _ _ => true
  | .flock _ _ _ => false

/-- A select of the recorded bus, which opens nothing, finds the device open. -/
def I2cCall.FindsOpen (call : I2cCall) : Prop :=
  call.selects = true ∧ c.enableI2c = true ∧ call.bus s = s.i2c.i2cBus →
    s.i2c.driverHandle.isSome = true

instance (call : I2cCall) : Decidable (call.FindsOpen c s) := inferInstanceAs (Decidable (_ → _))

end Calls

section Select
variable {c : BusConfig} {s : BusState} (opens : Bool) {bus : UInt8}

/-- A select that opens its device, or tries to. -/
theorem i2cBusSelect_opens (henabled : c.enableI2c = true) (hbus : bus ≠ s.i2c.i2cBus)
    (hallowed : i2cBusAllowed c bus = true) :
    (i2cBusSelect c opens s bus).1.i2c = (i2cOpenDriver opens (i2cCloseDriver s.i2c) bus).1 ∧
      (i2cBusSelect c opens s bus).2 = (i2cOpenDriver opens (i2cCloseDriver s.i2c) bus).2 := by
  cases opens <;> simp [i2cBusSelect, henabled, hbus, hallowed, i2cOpenDriver]

/-- A select that leaves the device alone. -/
theorem i2cBusSelect_keeps (h : ¬ (c.enableI2c = true ∧ bus ≠ s.i2c.i2cBus ∧
      i2cBusAllowed c bus = true)) :
    (i2cBusSelect c opens s bus).1 = s ∧ ((i2cBusSelect c opens s bus).2 = .ok ↔
      c.enableI2c = true ∧ bus = s.i2c.i2cBus) := by
  cases henabled : c.enableI2c with
  | false => simp [i2cBusSelect, henabled]
  | true =>
      by_cases hbus : bus = s.i2c.i2cBus
      · simp [i2cBusSelect, henabled, hbus]
      · have hallowed : ¬ i2cBusAllowed c bus = true := fun hallowed => h ⟨henabled, hbus, hallowed⟩
        simp [i2cBusSelect, henabled, hbus, hallowed]

theorem i2cBusSelect_consistent (hc : s.i2c.Consistent) :
    (i2cBusSelect c opens s bus).1.i2c.Consistent := by
  by_cases h : c.enableI2c = true ∧ bus ≠ s.i2c.i2cBus ∧ i2cBusAllowed c bus = true
  · rw [(i2cBusSelect_opens opens h.1 h.2.1 h.2.2).1]
    exact i2cOpenDriver_consistent opens _ bus
  · rw [(i2cBusSelect_keeps opens h).1]
    exact hc

theorem i2cBusSelect_opened_iff (hc : s.i2c.Consistent) :
    ((i2cBusSelect c opens s bus).2 = .ok →
      ∃ d, (i2cBusSelect c opens s bus).1.i2c.driverHandle = some d ∧ d.bus = bus) ↔
      (c.enableI2c = true ∧ bus = s.i2c.i2cBus → s.i2c.driverHandle.isSome = true) := by
  by_cases h : c.enableI2c = true ∧ bus ≠ s.i2c.i2cBus ∧ i2cBusAllowed c bus = true
  · obtain ⟨hhandler, hstatus⟩ := i2cBusSelect_opens opens h.1 h.2.1 h.2.2
    refine iff_of_true (fun hok => ?_) fun hsame => absurd hsame.2 h.2.1
    rw [hstatus] at hok
    rw [hhandler]
    cases opens with
    | false => cases hok
    | true => exact ⟨_, rfl, rfl⟩
  · obtain ⟨hsame, hok⟩ := i2cBusSelect_keeps opens h
    rw [hok, hsame]
    refine forall_congr' fun hbus => ?_
    rw [Option.isSome_iff_exists]
    refine exists_congr fun d => and_iff_left_of_imp fun hd => ?_
    rw [hbus.2]
    exact hc d hd

end Select

section Runs
variable {c : BusConfig} {s : BusState}

theorem I2cCall.run_consistent (call : I2cCall) (hc : s.i2c.Consistent) :
    (call.run c s).1.i2c.Consistent := by
  cases call with
  | init opens => exact i2cBusSelect_consistent opens hc
  | select opens bus => exact i2cBusSelect_consistent opens hc
  | flock io bus op => exact i2cBusFlock_consistent io op bus hc

/-- A lock always tries to open a device that is not the recorded one. -/
theorem flock_opened (io : I2cLockIo) (bus : UInt8) (op : LockOp) (hc : s.i2c.Consistent)
    (hok : (i2cBusFlock io s.i2c bus op).2 = .ok) :
    ∃ d, (i2cBusFlock io s.i2c bus op).1.driverHandle = some d ∧ d.bus = bus := by
  obtain ⟨d, hd⟩ := Option.isSome_iff_exists.mp (i2cBusFlock_isSome io op hok)
  refine ⟨d, hd, ?_⟩
  exact (i2cBusFlock_consistent io op bus hc d hd).trans (i2cBusFlock_bus io op s.i2c bus)

theorem I2cCall.sound_iff (call : I2cCall) (hc : s.i2c.Consistent) :
    call.Sound c s ↔ call.FindsOpen c s := by
  have hsound : call.Sound c s ↔ ((call.run c s).2 = .ok →
      ∃ d, (call.run c s).1.i2c.driverHandle = some d ∧ d.bus = call.bus s) :=
    ⟨fun h => h.opened, fun h => ⟨h, call.run_consistent hc⟩⟩
  rw [hsound]
  cases call with
  | init opens =>
      have hselects : (I2cCall.init opens).selects = true := rfl
      rw [FindsOpen, and_iff_right hselects]
      exact i2cBusSelect_opened_iff opens hc
  | select opens bus =>
      have hselects : (I2cCall.select opens bus).selects = true := rfl
      rw [FindsOpen, and_iff_right hselects]
      exact i2cBusSelect_opened_iff opens hc
  | flock io bus op =>
      refine iff_of_true (flock_opened io bus op hc) fun h => ?_
      cases h.1

/-- Over every run from a fresh handler: every call that succeeds leaves the device of its
bus open, and an open device is always the one of the recorded bus, if and only if no
select of the recorded bus finds the device closed. -/
theorem i2c_handle_sound (c : BusConfig) (defaultBus i2cBus : UInt8) (i3c : I3cHandler)
    (calls : List I2cCall) :
    Machine.Meets (i2cCallStep c) (I2cCall.Sound c) ⟨defaultBus, i2cHandler i2cBus, i3c⟩ calls ↔
      Machine.Meets (i2cCallStep c) (I2cCall.FindsOpen c) ⟨defaultBus, i2cHandler i2cBus, i3c⟩
        calls := by
  refine Machine.meets_iff_of_invariant (I := fun s : BusState => s.i2c.Consistent)
    (fun s call hc _ => call.run_consistent hc) (fun s call hc => call.sound_iff hc) ?_ calls
  rintro d ⟨⟩

/-- Bus 3 is selected on a handler whose memory happens to hold a 3; and it is selected
again after its device could not be opened. The last select succeeds with nothing open. -/
theorem i2c_handle_closed :
    let c := twoBuses .i2c 3 5
    let i3c : I3cHandler := ⟨i3cBusAddressReserved, fun _ => none, false⟩
    let held : BusState := ⟨5, i2cHandler 3, i3c⟩
    let failed := i2cCallStep c ⟨5, i2cHandler 0, i3c⟩ (.select false 3)
    let last : I2cCall := .select true 3
    (last.run c held).2 = .ok ∧ (last.run c held).1.i2c.driverHandle = none ∧
      (last.run c failed).2 = .ok ∧ (last.run c failed).1.i2c.driverHandle = none := by
  decide

end Runs

section History
variable (c : BusConfig)

/-- Whether the call tries to open a device, and whether that works. -/
def I2cCall.attempt (s : BusState) : I2cCall → Option Bool
  | .init opens =>
      if c.enableI2c = true ∧ s.defaultBus ≠ s.i2c.i2cBus ∧ i2cBusAllowed c s.defaultBus = true then
        some opens
      else none
  | .select opens bus =>
      if c.enableI2c = true ∧ bus ≠ s.i2c.i2cBus ∧ i2cBusAllowed c bus = true then some opens
      else none
  | .flock io bus _ => if bus ≠ s.i2c.i2cBus then some io.opens else none

def openAttempts : BusState → List I2cCall → List Bool
  | _, [] => []
  | s, call :: calls => (call.attempt c s).toList ++ openAttempts (i2cCallStep c s call) calls

variable {c} {s : BusState}

theorem i2cBusSelect_isSome (opens : Bool) (bus : UInt8) :
    (i2cBusSelect c opens s bus).1.i2c.driverHandle.isSome =
      (if c.enableI2c = true ∧ bus ≠ s.i2c.i2cBus ∧ i2cBusAllowed c bus = true then some opens
        else none).getD s.i2c.driverHandle.isSome := by
  split
  · next h =>
      rw [(i2cBusSelect_opens opens h.1 h.2.1 h.2.2).1]
      cases opens <;> rfl
  · next h =>
      rw [(i2cBusSelect_keeps opens h).1]
      rfl

theorem I2cCall.run_isSome (call : I2cCall) :
    (i2cCallStep c s call).i2c.driverHandle.isSome =
      (call.attempt c s).getD s.i2c.driverHandle.isSome := by
  cases call with
  | init opens => exact i2cBusSelect_isSome opens s.defaultBus
  | select opens bus => exact i2cBusSelect_isSome opens bus
  | flock io bus op =>
      rw [attempt]
      split
      · next hbus =>
          cases hopens : io.opens <;> cases hflocks : io.flocks <;>
            simp [i2cCallStep, run, i2cBusFlock, hbus, hopens, hflocks, i2cOpenDriver, flockDevice]
      · next hbus =>
          exact (i2cBusFlock_same io op (not_not.mp hbus).symm).isSome

/-- In every state that a fresh handler gets to, the device is open exactly when there was
an attempt to open one and the last attempt worked. -/
theorem i2c_handle_open_iff (c : BusConfig) (defaultBus i2cBus : UInt8) (i3c : I3cHandler)
    (calls : List I2cCall) :
    (Machine.run (i2cCallStep c) ⟨defaultBus, i2cHandler i2cBus, i3c⟩
        calls).i2c.driverHandle.isSome =
      (openAttempts c ⟨defaultBus, i2cHandler i2cBus, i3c⟩ calls).getLast?.getD false := by
  have hrun (s : BusState) : (Machine.run (i2cCallStep c) s calls).i2c.driverHandle.isSome =
      (openAttempts c s calls).getLast?.getD s.i2c.driverHandle.isSome := by
    induction calls generalizing s with
    | nil => rfl
    | cons call calls ih =>
        rw [Machine.run_cons, ih, call.run_isSome, openAttempts, List.getLast?_append]
        cases (openAttempts c (i2cCallStep c s call) calls).getLast? <;>
          cases call.attempt c s <;> rfl
  exact hrun _

end History

end AtScaleDebug
