import AtScaleDebug.Target.BusAttribution

/-!
The lock around an I2C message. `process_message` locks the default bus, the
commands transfer on the device files of its handler, and at the end the default bus
is unlocked again. A bus select in between releases one lock and takes another, but
not always that of the device files the next transfers use: a refused bus leaves the
default bus unlocked, an I3C bus is locked before its device files are closed and
opened anew, and a bus of the other kind is locked without becoming the default bus.

The condition below names the bus selects that keep the lock, and the releases that
have to succeed. In every session that meets it each transfer is issued on a locked
device file, and no lock outlives its message.
-/

namespace AtScaleDebug

section Locks

def I2cHandler.AllLocked (h : I2cHandler) (locked : Bool) : Prop :=
  ∀ d ∈ h.driverHandle, d.locked = locked

def I3cHandler.AllLocked (h : I3cHandler) (locked : Bool) : Prop :=
  ∀ i, ∀ d ∈ h.driverHandlers i, d.locked = locked

/-- No bus lock is held. -/
structure BusState.Unlocked (s : BusState) : Prop where
  i2c : s.i2c.AllLocked false
  i3c : s.i3c.AllLocked false

instance (h : I2cHandler) (locked : Bool) : Decidable (h.AllLocked locked) :=
  inferInstanceAs (Decidable (∀ d ∈ h.driverHandle, d.locked = locked))

instance (h : I3cHandler) (locked : Bool) : Decidable (h.AllLocked locked) :=
  inferInstanceAs (Decidable (∀ i, ∀ d ∈ h.driverHandlers i, d.locked = locked))

/-- The device file a transfer is issued on. -/
def BusEvent.device : BusEvent → Option BusDevice
  | .transfer _ device _ => device
  | _ => none

def BusEvent.OnLocked (e : BusEvent) : Prop := ∀ d ∈ e.device, d.locked = true

instance (e : BusEvent) : Decidable e.OnLocked :=
  inferInstanceAs (Decidable (∀ d ∈ e.device, d.locked = true))

end Locks

section Condition

/-- Unlocking the bus leaves the device file unlocked or closes it. -/
def I2cReleases (io : I2cLockIo) (h : I2cHandler) (bus : UInt8) : Prop :=
  h.i2cBus = bus → h.driverHandle.isSome = true → io.flocks = true

def I3cReleases (io : I3cLockIo) (h : I3cHandler) : Prop :=
  h.Opened → io.owner = some .bmc ∧ ¬ h.FlockFails io.lock.flocks

def ReleasesOn (io : LockIo) (s : BusState) : BusType → Prop
  | .i2c => I2cReleases io.i2c s.i2c s.defaultBus
  | .i3c => I3cReleases io.i3c s.i3c
  | .notAllowed => True

/-- The handlers let go of the default bus. -/
def Releases (c : BusConfig) (io : LockIo) (s : BusState) : Prop :=
  ReleasesOn io s (busType c s.defaultBus)

/-- With a token and without a bus, the lock of an I3C bus also selects it. -/
def I3cAdopts (io : I3cLockIo) (h : I3cHandler) (bus : UInt8) : Prop :=
  h.busToken = true ∧ h.i3cBus = i3cBusAddressReserved ∧ io.owner = some .bmc ∧
    io.lock.opens.Opens bus ∧ ¬ io.lock.opens.Refuses io.lock.flocks

/-- The default bus is selected again while its device files are open, or none opens. -/
def StaysLocked (io : SelectIo) (s : BusState) (bus : UInt8) : BusType → Prop
  | .i2c => s.i2c.i2cBus = bus ∨ io.i2cOpens = false
  | .i3c => s.i3c.i3cBus = bus ∧ s.i3c.Opened ∨ ¬ io.i3cOpens.Opens bus
  | .notAllowed => True

/-- From one I2C bus to another whose device file takes the lock or does not open, or
to an I3C bus that the lock selects. -/
def MovesLocked (io : SelectIo) (s : BusState) (bus : UInt8) : BusType → BusType → Prop
  | .i2c, .i2c => io.lock.i2c.opens = true → io.lock.i2c.flocks = true
  | .i2c, .i3c => I2cReleases io.unlock.i2c s.i2c s.defaultBus ∧ I3cAdopts io.lock.i3c s.i3c bus
  | _, _ => False

def SelectLocks (c : BusConfig) (s : BusState) (bus : UInt8) (io : SelectIo) : Prop :=
  if s.defaultBus = bus then StaysLocked io s bus (busType c bus)
  else MovesLocked io s bus (busType c s.defaultBus) (busType c bus)

def BusEvent.KeepsLock (c : BusConfig) : BusEvent → Prop
  | .select bus io before _ _ => SelectLocks c before bus io
  | _ => True

instance (io : I2cLockIo) (h : I2cHandler) (bus : UInt8) : Decidable (I2cReleases io h bus) :=
  inferInstanceAs (Decidable (_ → _ → _))

instance (io : I3cLockIo) (h : I3cHandler) : Decidable (I3cReleases io h) :=
  inferInstanceAs (Decidable (_ → _))

instance (io : LockIo) (s : BusState) : (type : BusType) → Decidable (ReleasesOn io s type)
  | .i2c => inferInstanceAs (Decidable (I2cReleases io.i2c s.i2c s.defaultBus))
  | .i3c => inferInstanceAs (Decidable (I3cReleases io.i3c s.i3c))
  | .notAllowed => inferInstanceAs (Decidable True)

instance (c : BusConfig) (io : LockIo) (s : BusState) : Decidable (Releases c io s) :=
  inferInstanceAs (Decidable (ReleasesOn io s (busType c s.defaultBus)))

instance (io : I3cOpenIo) (flocks : Fin i3cMaxDevHandlers → Bool) :
    Decidable (io.Refuses flocks) := inferInstanceAs (Decidable (∃ _, _))

instance (io : I3cLockIo) (h : I3cHandler) (bus : UInt8) : Decidable (I3cAdopts io h bus) :=
  inferInstanceAs (Decidable (_ ∧ _))

instance (io : SelectIo) (s : BusState) (bus : UInt8) :
    (type : BusType) → Decidable (StaysLocked io s bus type)
  | .i2c => inferInstanceAs (Decidable (_ ∨ _))
  | .i3c => inferInstanceAs (Decidable (_ ∨ _))
  | .notAllowed => inferInstanceAs (Decidable True)

instance (io : SelectIo) (s : BusState) (bus : UInt8) :
    (first second : BusType) → Decidable (MovesLocked io s bus first second)
  | .i2c, .i2c => inferInstanceAs (Decidable (_ → _))
  | .i2c, .i3c => inferInstanceAs (Decidable (_ ∧ _))
  | .i2c, .notAllowed => inferInstanceAs (Decidable False)
  | .i3c, _ => inferInstanceAs (Decidable False)
  | .notAllowed, _ => inferInstanceAs (Decidable False)

instance (c : BusConfig) (s : BusState) (bus : UInt8) (io : SelectIo) :
    Decidable (SelectLocks c s bus io) := inferInstanceAs (Decidable (ite _ _ _))

instance (c : BusConfig) : (e : BusEvent) → Decidable (e.KeepsLock c)
  | .select bus io before _ _ => inferInstanceAs (Decidable (SelectLocks c before bus io))
  | .accepted _ | .queue _ | .transfer _ _ _ => inferInstanceAs (Decidable True)

end Condition

section Handlers
variable {c : BusConfig} {s : BusState} {bus : UInt8}

/-- The I3C handler while no lock is held on it. -/
structure I3cHandler.Idle (h : I3cHandler) : Prop where
  unlocked : h.AllLocked false
  bus : h.Opened → h.i3cBus ≠ i3cBusAddressReserved

/-- The I3C handler while the default bus is locked on it. -/
structure I3cHandler.Held (h : I3cHandler) : Prop where
  locked : h.AllLocked true
  token : h.busToken = true
  bus : h.i3cBus ≠ i3cBusAddressReserved

theorem I3cHandler.allLocked_of_closed {h : I3cHandler} (hclosed : ¬ h.Opened) (locked : Bool) :
    h.AllLocked locked :=
  fun _ _ hd => (hclosed (I3cHandler.opened_of_mem hd)).elim

theorem I3cHandler.idle_of_closed {h : I3cHandler} (hclosed : ¬ h.Opened) : h.Idle :=
  ⟨I3cHandler.allLocked_of_closed hclosed false, fun hopen => (hclosed hopen).elim⟩

theorem openOn_idle {io : I3cOpenIo} (hmapped : io.Mapped bus) (h : I3cHandler) :
    (h.openOn io bus).Idle := by
  refine ⟨fun i d hd => ?_, fun _ => hmapped.ne_reserved⟩
  simp only [I3cHandler.openOn] at hd
  split at hd
  · cases hd
    rfl
  · cases hd

theorem flockDevices_locked {h : I3cHandler} (op : LockOp) {flocks : Fin i3cMaxDevHandlers → Bool}
    (hdone : ¬ h.FlockFails flocks) : (h.flockDevices op flocks).AllLocked (op = .ex) := by
  intro i d hd
  simp only [I3cHandler.flockDevices] at hd
  cases hhandle : h.driverHandlers i with
  | none =>
      rw [hhandle] at hd
      cases hd
  | some e =>
      have hflock : flocks i = true :=
        Bool.eq_true_of_not_eq_false fun hfalse => hdone ⟨i, by rw [hhandle]; rfl, hfalse⟩
      rw [hhandle, flockDevice, hflock, if_pos rfl] at hd
      cases hd
      rfl

/-- A device file that took the lock and releases it again is unlocked. -/
theorem flockDevices_released {h : I3cHandler} (hidle : h.AllLocked false)
    {lock release : Fin i3cMaxDevHandlers → Bool}
    (hrelease : ∀ i, lock i = true → release i = true) :
    ((h.flockDevices .ex lock).flockDevices .un release).AllLocked false := by
  intro i d hd
  simp only [I3cHandler.flockDevices] at hd
  cases hhandle : h.driverHandlers i with
  | none =>
      rw [hhandle] at hd
      cases hd
  | some e =>
      rw [hhandle] at hd
      cases hlock : lock i with
      | true =>
          simp only [flockDevice, hlock, if_true, hrelease i hlock] at hd
          cases hd
          rfl
      | false =>
          simp only [flockDevice, hlock, Bool.false_eq_true, if_false] at hd
          split at hd
          · cases hd
            rfl
          · cases hd
            exact hidle i _ hhandle

/-- A selection outside of any lock. -/
theorem i3cBusSelect_idle (io : I3cOpenIo) (htype : busType c bus = .i3c) (hidle : s.i3c.Idle) :
    ∃ h status defaultBus, i3cBusSelect c io s bus = ({ s with i3c := h, defaultBus }, status) ∧
      h.Idle ∧ h.busToken = s.i3c.busToken ∧ (defaultBus = s.defaultBus ∨ defaultBus = bus) ∧
      (status = .ok → h.i3cBus ≠ i3cBusAddressReserved) := by
  by_cases hopen : s.i3c.i3cBus = bus ∧ s.i3c.Opened
  · exact ⟨s.i3c, .ok, s.defaultBus, i3cBusSelect_of_opened htype hopen.1 hopen.2, hidle, rfl,
      .inl rfl, fun _ => hidle.bus hopen.2⟩
  by_cases hopens : io.Opens bus
  · by_cases hbus : s.i3c.i3cBus = bus
    · exact ⟨_, .ok, s.defaultBus,
        i3cBusSelect_of_reopens htype hbus (fun h => hopen ⟨hbus, h⟩) hopens,
        openOn_idle hopens.1 s.i3c, rfl, .inl rfl, fun _ => hopens.1.ne_reserved⟩
    · exact ⟨_, .ok, bus, i3cBusSelect_of_opens htype hbus hopens, openOn_idle hopens.1 s.i3c, rfl,
        .inr rfl, fun _ => hopens.1.ne_reserved⟩
  · obtain ⟨h, heq, htoken, hclosed, _⟩ :=
      i3cBusSelect_of_not_opens htype (fun hbus h => hopen ⟨hbus, h⟩) hopens
    exact ⟨h, .err, s.defaultBus, heq, I3cHandler.idle_of_closed hclosed, htoken, .inl rfl,
      by rintro ⟨⟩⟩

/-- A lock of the device files takes all of them or fails. -/
theorem i3cBusFlockDevHandlers_lock (io : I3cFlockIo) (htype : busType c bus = .i3c)
    (hidle : s.i3c.Idle) (htoken : s.i3c.busToken = true) :
    ∃ h status defaultBus,
      i3cBusFlockDevHandlers c io s bus .ex = ({ s with i3c := h, defaultBus }, status) ∧
      (defaultBus = s.defaultBus ∨ defaultBus = bus) ∧
      (status = .ok → h.Held) ∧
      (status ≠ .ok → h.Idle ∨
        h.i3cBus ≠ i3cBusAddressReserved ∧
          ∃ t : I3cHandler, t.Idle ∧ h = t.flockDevices .ex io.flocks) := by
  have hflock (t : I3cHandler) (ht : t.Idle) (htoken : t.busToken = true)
      (hbus : t.i3cBus ≠ i3cBusAddressReserved) {status : Status}
      (hstatus : (if t.FlockFails io.flocks then Status.err else .ok) = status) :
      (status = .ok → (t.flockDevices .ex io.flocks).Held) ∧
        (status ≠ .ok → (t.flockDevices .ex io.flocks).i3cBus ≠ i3cBusAddressReserved ∧
          ∃ u : I3cHandler, u.Idle ∧
            t.flockDevices .ex io.flocks = u.flockDevices .ex io.flocks) := by
    subst hstatus
    split
    · exact ⟨by rintro ⟨⟩, fun _ => ⟨hbus, t, ht, rfl⟩⟩
    · next hdone =>
        exact ⟨fun _ => ⟨flockDevices_locked .ex hdone, htoken, hbus⟩, fun h => absurd rfl h⟩
  by_cases hbus : s.i3c.i3cBus = i3cBusAddressReserved
  · obtain ⟨h, status, defaultBus, heq, hh, hsame, hdefault, hok⟩ :=
      i3cBusSelect_idle io.opens htype hidle
    simp only [i3cBusFlockDevHandlers, hbus, if_true, heq]
    cases status with
    | ok =>
        obtain ⟨hheld, hfailed⟩ := hflock h hh (hsame.trans htoken) (hok rfl) rfl
        exact ⟨_, _, defaultBus, rfl, hdefault, hheld, fun hne => .inr (hfailed hne)⟩
    | err | timeout => exact ⟨h, _, defaultBus, rfl, hdefault, by rintro ⟨⟩, fun _ => .inl hh⟩
  · rw [i3cBusFlockDevHandlers_of_ne _ hbus]
    obtain ⟨hheld, hfailed⟩ := hflock s.i3c hidle htoken hbus rfl
    exact ⟨_, _, s.defaultBus, rfl, .inl rfl, hheld, fun hne => .inr (hfailed hne)⟩

theorem I3cHandler.Idle.flockDevices_un {h : I3cHandler} (hidle : h.Idle)
    (flocks : Fin i3cMaxDevHandlers → Bool) : (h.flockDevices .un flocks).Idle := by
  refine ⟨fun i d hd => ?_, fun hopen => ?_⟩
  · simp only [I3cHandler.flockDevices] at hd
    cases hhandle : h.driverHandlers i with
    | none =>
        rw [hhandle] at hd
        cases hd
    | some e =>
        rw [hhandle, flockDevice] at hd
        split at hd
        · cases hd
          rfl
        · cases hd
          exact hidle.unlocked i _ hhandle
  · exact hidle.bus ((flockDevices_relocked h .un flocks).opened.mp hopen)

/-- The second pass over the device files, after a failed lock. -/
theorem i3cBusFlockDevHandlers_release (io : I3cFlockIo) (htype : busType c bus = .i3c)
    (hidle : s.i3c.Idle) :
    ∃ h defaultBus,
      (i3cBusFlockDevHandlers c io s bus .un).1 = { s with i3c := h, defaultBus } ∧
      h.Idle ∧ (defaultBus = s.defaultBus ∨ defaultBus = bus) := by
  by_cases hbus : s.i3c.i3cBus = i3cBusAddressReserved
  · obtain ⟨h, status, defaultBus, heq, hh, _, hdefault, _⟩ :=
      i3cBusSelect_idle io.opens htype hidle
    simp only [i3cBusFlockDevHandlers, hbus, if_true, heq]
    cases status with
    | ok => exact ⟨_, defaultBus, rfl, hh.flockDevices_un io.flocks, hdefault⟩
    | err | timeout => exact ⟨h, defaultBus, rfl, hh, hdefault⟩
  · rw [i3cBusFlockDevHandlers_of_ne _ hbus]
    exact ⟨_, s.defaultBus, rfl, hidle.flockDevices_un io.flocks, .inl rfl⟩

theorem i3cRequestOwnership_idle (io : I3cLockIo) {h : I3cHandler} (hidle : h.Idle) (bus : UInt8) :
    (i3cRequestOwnership io h bus).1.Idle ∧
      ((i3cRequestOwnership io h bus).2 = .ok →
        (i3cRequestOwnership io h bus).1.busToken = true) := by
  cases htoken : h.busToken with
  | true =>
      rw [i3cRequestOwnership_of_token io bus htoken]
      exact ⟨hidle, fun _ => htoken⟩
  | false =>
      obtain ⟨_, hopens, heq⟩ | ⟨_, t, heq, hsame | hclosed⟩ :=
        i3cRequestOwnership_cases io bus htoken
      · rw [heq]
        exact ⟨openOn_idle hopens.1 _, fun _ => rfl⟩
      · rw [heq]
        refine ⟨⟨?_, ?_⟩, by rintro ⟨⟩⟩
        · rw [I3cHandler.AllLocked, hsame.2]
          exact hidle.unlocked
        · rw [I3cHandler.Opened, hsame.1, hsame.2]
          exact hidle.bus
      · rw [heq]
        exact ⟨I3cHandler.idle_of_closed hclosed, by rintro ⟨⟩⟩

theorem i3cBusFlock_lock (io : I3cLockIo) (htype : busType c bus = .i3c) (hidle : s.i3c.Idle) :
    ∃ h status defaultBus, i3cBusFlock c io s bus .ex = ({ s with i3c := h, defaultBus }, status) ∧
      (defaultBus = s.defaultBus ∨ defaultBus = bus) ∧ (status = .ok → h.Held) ∧
      (status ≠ .ok → (∀ i, io.lock.flocks i = true → io.release.flocks i = true) → h.Idle) := by
  obtain ⟨⟨h, requested⟩, hrequest⟩ : ∃ r, i3cRequestOwnership io s.i3c bus = r := ⟨_, rfl⟩
  obtain ⟨hh, htoken⟩ := i3cRequestOwnership_idle io hidle bus
  rw [hrequest] at hh htoken
  cases requested with
  | err =>
      refine ⟨h, .err, s.defaultBus, ?_, .inl rfl, by rintro ⟨⟩, fun _ _ => hh⟩
      simp only [i3cBusFlock, hrequest]
  | timeout =>
      refine ⟨h, .timeout, s.defaultBus, ?_, .inl rfl, by rintro ⟨⟩, fun _ _ => hh⟩
      simp only [i3cBusFlock, hrequest]
  | ok =>
      by_cases howner : io.owner = some .bmc
      · obtain ⟨t, status, defaultBus, hlock, hdefault, hheld, hfailed⟩ :=
          i3cBusFlockDevHandlers_lock (s := { s with i3c := h }) io.lock htype hh (htoken rfl)
        rw [i3cBusFlock_of_locked hrequest howner hlock]
        by_cases hok : status = .ok
        · simp only [hok, ne_eq, not_true_eq_false, false_and, if_false]
          exact ⟨t, .ok, defaultBus, rfl, hdefault, fun _ => hheld hok, fun h => absurd rfl h⟩
        · simp only [hok, ne_eq, not_false_eq_true, true_and, if_true]
          obtain ht | ⟨hbus, u, hu, rfl⟩ := hfailed hok
          · obtain ⟨v, moved, heq, hv, hmoved⟩ := i3cBusFlockDevHandlers_release
              (s := { s with i3c := t, defaultBus := defaultBus }) io.release htype ht
            rw [heq]
            refine ⟨v, status, moved, rfl, ?_, fun h => absurd h hok, fun _ _ => hv⟩
            obtain rfl | rfl := hmoved
            · exact hdefault
            · exact .inr rfl
          · rw [i3cBusFlockDevHandlers_of_ne .un
              (s := { s with i3c := u.flockDevices .ex io.lock.flocks, defaultBus := defaultBus })
              hbus]
            refine ⟨_, status, defaultBus, rfl, hdefault, fun h => absurd h hok,
              fun _ hrelease => ⟨flockDevices_released hu.unlocked hrelease, fun _ => hbus⟩⟩
      · refine ⟨h, .err, s.defaultBus, ?_, .inl rfl, by rintro ⟨⟩, fun _ _ => hh⟩
        simp only [i3cBusFlock, hrequest, howner, if_false]

theorem i3cBusFlock_unlock {io : I3cLockIo} (hheld : s.i3c.Held)
    (hreleases : I3cReleases io s.i3c) :
    ∃ h status, i3cBusFlock c io s bus .un = ({ s with i3c := h }, status) ∧ h.Idle := by
  have hrequest := i3cRequestOwnership_of_token io bus hheld.token
  by_cases howner : io.owner = some .bmc
  · refine ⟨s.i3c.flockDevices .un io.lock.flocks,
      if s.i3c.FlockFails io.lock.flocks then .err else .ok, ?_, ?_, fun _ => hheld.bus⟩
    · rw [i3cBusFlock_of_locked hrequest howner (i3cBusFlockDevHandlers_of_ne .un hheld.bus)]
      simp only [reduceCtorEq, and_false, if_false]
    · by_cases hopen : s.i3c.Opened
      · exact flockDevices_locked .un (hreleases hopen).2
      · refine I3cHandler.allLocked_of_closed (fun h => hopen ?_) false
        exact (flockDevices_relocked s.i3c .un io.lock.flocks).opened.mp h
  · have hclosed : ¬ s.i3c.Opened := fun hopen => howner (hreleases hopen).1
    refine ⟨s.i3c, .err, ?_, I3cHandler.idle_of_closed hclosed⟩
    simp only [i3cBusFlock, hrequest, howner, if_false]

theorem i2cBusFlock_lock (io : I2cLockIo) (bus : UInt8) {h : I2cHandler}
    (hidle : h.AllLocked false) :
    ((i2cBusFlock io h bus .ex).2 = .ok → (i2cBusFlock io h bus .ex).1.AllLocked true) ∧
      ((i2cBusFlock io h bus .ex).2 ≠ .ok → (i2cBusFlock io h bus .ex).1.AllLocked false) := by
  by_cases hbus : bus = h.i2cBus
  · cases hhandle : h.driverHandle with
    | none => simp [i2cBusFlock, hbus, hhandle, flockDevice, I2cHandler.AllLocked]
    | some d =>
        have hd := hidle d hhandle
        cases hflocks : io.flocks <;>
          simp [i2cBusFlock, hbus, hhandle, flockDevice, hflocks, I2cHandler.AllLocked, hd]
  · cases hopens : io.opens <;> cases hflocks : io.flocks <;>
      simp [i2cBusFlock, hbus, i2cOpenDriver, hopens, flockDevice, hflocks, I2cHandler.AllLocked]

theorem i2cBusFlock_unlock {io : I2cLockIo} {h : I2cHandler} (hreleases : I2cReleases io h bus) :
    (i2cBusFlock io h bus .un).1.AllLocked false := by
  by_cases hbus : bus = h.i2cBus
  · cases hhandle : h.driverHandle with
    | none => simp [i2cBusFlock, hbus, hhandle, flockDevice, I2cHandler.AllLocked]
    | some d =>
        have hflocks := hreleases hbus.symm (by rw [hhandle]; rfl)
        simp [i2cBusFlock, hbus, hhandle, flockDevice, hflocks, I2cHandler.AllLocked]
  · cases hopens : io.opens <;> cases hflocks : io.flocks <;>
      simp [i2cBusFlock, hbus, i2cOpenDriver, hopens, flockDevice, hflocks, I2cHandler.AllLocked]

/-- On another bus the device file is a new one. -/
theorem i2cBusFlock_moved {io : I2cLockIo} {h : I2cHandler} (hbus : h.i2cBus ≠ bus)
    (hlocks : io.opens = true → io.flocks = true) :
    (i2cBusFlock io h bus .ex).1.AllLocked true := by
  have hne : bus ≠ h.i2cBus := Ne.symm hbus
  cases hopens : io.opens with
  | false => simp [i2cBusFlock, hne, i2cOpenDriver, hopens, I2cHandler.AllLocked]
  | true =>
      simp [i2cBusFlock, hne, i2cOpenDriver, hopens, flockDevice, hlocks hopens,
        I2cHandler.AllLocked]

end Handlers

section Select
variable {c : BusConfig} {s : BusState} {bus : UInt8} {io : SelectIo}

/-- Inside a message the device files of the default bus are locked and no others. -/
inductive InLock (c : BusConfig) (s : BusState) : Prop where
  | onI2c (type : busType c s.defaultBus = .i2c) (i2c : s.i2c.AllLocked true) (i3c : s.i3c.Idle)
  | onI3c (type : busType c s.defaultBus = .i3c) (i2c : s.i2c.AllLocked false) (i3c : s.i3c.Held)

theorem i2cBusSelect_stays (htype : busType c s.defaultBus = .i2c) (hlocked : s.i2c.AllLocked true)
    {opens : Bool} (hstays : s.i2c.i2cBus = s.defaultBus ∨ opens = false) :
    ∃ h status, i2cBusSelect c opens s s.defaultBus = ({ s with i2c := h }, status) ∧
      h.AllLocked true := by
  by_cases hbus : s.defaultBus = s.i2c.i2cBus
  · refine ⟨s.i2c, .ok, ?_, hlocked⟩
    rw [i2cBusSelect, if_neg (by simp [enableI2c_of_busType htype]), if_pos hbus]
  · have hopens := hstays.resolve_left (Ne.symm hbus)
    by_cases hallowed : i2cBusAllowed c s.defaultBus = true
    · refine ⟨{ s.i2c with i2cBus := s.defaultBus, driverHandle := none }, .err, ?_, ?_⟩
      · simp [i2cBusSelect, enableI2c_of_busType htype, hbus, hallowed, i2cOpenDriver, hopens]
      · intro d hd
        cases hd
    · refine ⟨s.i2c, .err, ?_, hlocked⟩
      simp [i2cBusSelect, enableI2c_of_busType htype, hbus, hallowed]

theorem i3cBusSelect_stays (htype : busType c s.defaultBus = .i3c) (hheld : s.i3c.Held)
    {opens : I3cOpenIo}
    (hstays : s.i3c.i3cBus = s.defaultBus ∧ s.i3c.Opened ∨ ¬ opens.Opens s.defaultBus) :
    ∃ h status, i3cBusSelect c opens s s.defaultBus = ({ s with i3c := h }, status) ∧ h.Held := by
  by_cases hopen : s.i3c.i3cBus = s.defaultBus ∧ s.i3c.Opened
  · exact ⟨s.i3c, .ok, i3cBusSelect_of_opened htype hopen.1 hopen.2, hheld⟩
  · obtain ⟨h, heq, htoken, hclosed, hto⟩ := i3cBusSelect_of_not_opens htype
      (fun hbus h => hopen ⟨hbus, h⟩) (hstays.resolve_left hopen)
    refine ⟨h, .err, heq, I3cHandler.allLocked_of_closed hclosed true, htoken.trans hheld.token, ?_⟩
    rw [hto]
    split
    · next hmapped => exact hmapped.ne_reserved
    · exact hheld.bus

theorem doBusSelect_stays (h : InLock c s) (hstays : StaysLocked io s s.defaultBus
    (busType c s.defaultBus)) : InLock c (doBusSelect c io s s.defaultBus).1 := by
  cases h with
  | onI2c type i2c i3c =>
      rw [type] at hstays
      obtain ⟨h, status, heq, hlocked⟩ := i2cBusSelect_stays type i2c hstays
      simp only [doBusSelect, ne_eq, not_true_eq_false, if_false, if_true, type, heq]
      exact .onI2c type hlocked i3c
  | onI3c type i2c i3c =>
      rw [type] at hstays
      obtain ⟨h, status, heq, hheld⟩ := i3cBusSelect_stays type i3c hstays
      simp only [doBusSelect, ne_eq, not_true_eq_false, if_false, if_true, type, heq]
      exact .onI3c type i2c hheld

theorem doBusSelect_i2c (hdefault : busType c s.defaultBus = .i2c) (htype : busType c bus = .i2c)
    (hbus : s.defaultBus ≠ bus) (hidle : s.i3c.Idle)
    (hlocks : io.lock.i2c.opens = true → io.lock.i2c.flocks = true) :
    InLock c (doBusSelect c io s bus).1 := by
  have hunlock := devFlock_i2c (s := s) io.unlock .un hdefault
  have hlock := devFlock_i2c
    (s := { s with i2c := (i2cBusFlock io.unlock.i2c s.i2c s.defaultBus .un).1 }) io.lock .ex htype
  have hto := i2cBusFlock_bus io.lock.i2c .ex
    (i2cBusFlock io.unlock.i2c s.i2c s.defaultBus .un).1 bus
  have hne : (i2cBusFlock io.unlock.i2c s.i2c s.defaultBus .un).1.i2cBus ≠ bus := by
    rwa [i2cBusFlock_bus]
  by_cases hok : (i2cBusFlock io.lock.i2c
      (i2cBusFlock io.unlock.i2c s.i2c s.defaultBus .un).1 bus .ex).2 = .ok
  · rw [hok] at hlock
    obtain ⟨errors, heq⟩ := doBusSelect_of_locked hbus hunlock hlock
      (.inl ⟨htype, by rw [i2cBusSelect, if_neg (by simp [enableI2c_of_busType htype]),
        if_pos hto.symm]⟩)
    rw [heq]
    exact .onI2c hdefault (i2cBusFlock_moved hne hlocks) hidle
  · obtain ⟨errors, heq⟩ := doBusSelect_of_not_locked hbus hunlock hlock hok
    rw [heq]
    exact .onI2c hdefault (i2cBusFlock_moved hne hlocks) hidle

/-- The lock has selected the bus, so the selection finds it open. -/
theorem doBusSelect_adopts (hdefault : busType c s.defaultBus = .i2c)
    (htype : busType c bus = .i3c) (hbus : s.defaultBus ≠ bus)
    (hreleases : I2cReleases io.unlock.i2c s.i2c s.defaultBus)
    (hadopts : I3cAdopts io.lock.i3c s.i3c bus) : InLock c (doBusSelect c io s bus).1 := by
  obtain ⟨htoken, hreserved, howner, hopens, hrefuses⟩ := hadopts
  have hunlock := devFlock_i2c (s := s) io.unlock .un hdefault
  have hunlocked := i2cBusFlock_unlock hreleases
  generalize (i2cBusFlock io.unlock.i2c s.i2c s.defaultBus .un).1 = i2c at hunlock hunlocked
  have hdone : ¬ (s.i3c.openOn io.lock.i3c.lock.opens bus).FlockFails io.lock.i3c.lock.flocks := by
    rwa [openOn_flockFails]
  have hdevices := i3cBusFlockDevHandlers_of_opens (c := c) (s := { s with i2c })
    .ex htype hreserved hopens
  have hlock : devFlock c io.lock { s with i2c } bus .ex =
      ({ s with
        i2c
        i3c := (s.i3c.openOn io.lock.i3c.lock.opens bus).flockDevices .ex io.lock.i3c.lock.flocks
        defaultBus := bus }, .ok) := by
    rw [devFlock_i3c _ _ htype, i3cBusFlock_of_locked (s := { s with i2c })
      (i3cRequestOwnership_of_token _ _ htoken) howner hdevices]
    simp only [hdone, if_false, ne_eq, not_true_eq_false, false_and]
  have hopen : ((s.i3c.openOn io.lock.i3c.lock.opens bus).flockDevices .ex
      io.lock.i3c.lock.flocks).Opened :=
    (flockDevices_relocked _ .ex _).opened.mpr (openOn_opened hopens s.i3c)
  obtain ⟨errors, heq⟩ := doBusSelect_of_locked hbus hunlock hlock
    (.inr ⟨htype, i3cBusSelect_of_opened htype rfl hopen⟩)
  rw [heq]
  exact .onI3c htype hunlocked ⟨flockDevices_locked .ex hdone, htoken, hopens.1.ne_reserved⟩

/-- A bus select that meets the condition hands the lock over. -/
theorem doBusSelect_inLock (h : InLock c s) (hlocks : SelectLocks c s bus io) :
    InLock c (doBusSelect c io s bus).1 := by
  rw [SelectLocks] at hlocks
  split at hlocks
  · next hbus =>
      subst hbus
      exact doBusSelect_stays h hlocks
  · next hbus =>
      cases h with
      | onI2c type i2c i3c =>
          rw [type] at hlocks
          cases htype : busType c bus with
          | i2c =>
              rw [htype] at hlocks
              exact doBusSelect_i2c type htype hbus i3c hlocks
          | i3c =>
              rw [htype] at hlocks
              exact doBusSelect_adopts type htype hbus hlocks.1 hlocks.2
          | notAllowed =>
              rw [htype] at hlocks
              exact hlocks.elim
      | onI3c type i2c i3c =>
          rw [type] at hlocks
          exact hlocks.elim

end Select

section Message
variable {c : BusConfig} {start : List BusEvent}

theorem doReadWrite_locked {s : BusState} (h : InLock c s) (io : TransferIo) (msgs : List I2cMsg) :
    ∀ d ∈ (doReadWrite c io s msgs).1, d.locked = true := by
  intro d hd
  cases h with
  | onI2c type i2c i3c =>
      simp only [doReadWrite, type, i2cReadWrite, enableI2c_of_busType type, Bool.not_true,
        Bool.false_eq_true, if_false] at hd
      split at hd
      · cases hd
      · next e he =>
          cases hd
          exact i2c d he
  | onI3c type i2c i3c =>
      simp only [doReadWrite, type, i3cReadWrite, enableI3c_of_busType type, Bool.not_true,
        Bool.false_eq_true, if_false] at hd
      split at hd
      · cases hd
      · next e he =>
          cases hd
          obtain ⟨m, _, hm⟩ := List.exists_of_findSome?_eq_some he
          split at hm
          · exact i3c.locked _ d hm
          · cases hm

/-- As long as the bus selects since `start` keep the lock it is held, and every
transfer since then was issued on a locked device file. -/
def LockedSince (c : BusConfig) (start : List BusEvent) (bus : BusState)
    (events : List BusEvent) : Prop :=
  ∃ more, events = start ++ more ∧
    ((∀ e ∈ more, e.KeepsLock c) → InLock c bus ∧ ∀ e ∈ more, e.OnLocked)

theorem LockedSince.snoc {bus after : BusState} {events : List BusEvent} {e : BusEvent}
    (h : LockedSince c start bus events)
    (hstep : InLock c bus → e.KeepsLock c → InLock c after ∧ e.OnLocked) :
    LockedSince c start after (events ++ [e]) := by
  obtain ⟨more, rfl, hmore⟩ := h
  refine ⟨more ++ [e], List.append_assoc _ _ _, fun hkeeps => ?_⟩
  simp only [List.mem_append, List.mem_singleton, or_imp, forall_and, forall_eq] at hkeeps ⊢
  obtain ⟨hlock, hevents⟩ := hmore hkeeps.1
  obtain ⟨hafter, he⟩ := hstep hlock hkeeps.2
  exact ⟨hafter, hevents, he⟩

variable (request : MessageHeader)

theorem executeI2cCommand_locked (io : I2cIo) {s : I2cState}
    (h : LockedSince c start s.bus s.events) (command : I2cCommand) :
    let t := (executeI2cCommand c request io s command).1
    LockedSince c start t.bus t.events := by
  cases command with
  | setSclk lsb msb => exact h
  | transfer msg forceStop => exact h.snoc fun hlock _ => ⟨hlock, by rintro d ⟨⟩⟩
  | busSelect bus =>
      have hselect : LockedSince c start (doBusSelectCommand c request io.select s bus).1.bus
          (doBusSelectCommand c request io.select s bus).1.events := by
        cases bus with
        | none => exact h
        | some bus =>
            exact h.snoc fun hlock hkeeps =>
              ⟨doBusSelect_inLock hlock hkeeps, by rintro d ⟨⟩⟩
      simp only [executeI2cCommand]
      split
      · next t heq => simpa only [heq] using hselect
      · next t _ _ heq => simpa only [heq] using hselect

theorem flushI2c_locked (io : I2cIo) {s : I2cState} (h : LockedSince c start s.bus s.events) :
    let t := (flushI2c c request io s).1
    LockedSince c start t.bus t.events := by
  have hemit : LockedSince c start s.bus
      (s.events ++ [.transfer s.bus (doReadWrite c io.transfer s.bus s.builder).1 s.builder]) :=
    h.snoc fun hlock _ => ⟨hlock, doReadWrite_locked hlock io.transfer s.builder⟩
  simp only [flushI2c]
  split
  · exact hemit
  · exact hemit

theorem i2cLoop_locked (io : Nat → I2cIo) (rounds k : Nat) (status : Status) {s : I2cState}
    (packet : List UInt8) (h : LockedSince c start s.bus s.events) :
    let t := (i2cLoop c io request rounds k status s packet).1
    LockedSince c start t.bus t.events := by
  induction rounds generalizing k status s packet with
  | zero => exact h
  | succ rounds ih =>
      cases packet with
      | nil => exact h
      | cons byte packet =>
          simp only [i2cLoop]
          split
          · exact h
          · next command rest _ =>
              have hstep := executeI2cCommand_locked request (io k) h command
              split
              · next t heq => simpa only [heq] using hstep
              · next t status heq =>
                  simp only [heq] at hstep
                  exact ih (k + 1) status rest hstep
              · next t heq =>
                  simp only [heq] at hstep
                  split
                  · have hflush := flushI2c_locked request (io k) hstep
                    split
                    · next u hok =>
                        simp only [hok] at hflush
                        exact ih (k + 1) .ok rest hflush
                    · next u _ _ hfail => simpa only [hfail] using hflush
                  · exact ih (k + 1) .ok rest hstep

theorem processI2cMessages_locked (r : I2cRequest) {bus : BusState} (sent : List Packet)
    {events : List BusEvent} (h : LockedSince c start bus events) :
    let t := (processI2cMessages c r bus sent events).1
    LockedSince c start t.bus t.events := by
  simp only [processI2cMessages]
  split
  · exact h
  · next size _ =>
      have hloop := i2cLoop_locked r.header r.io size 0 .ok
        (s := ⟨bus, [], false, false, ⟨[], sent⟩, events⟩) (i2cPayload r.header r.buffer) h
      split
      · next t heq => simpa only [heq] using hloop
      · next t _ _ heq => simpa only [heq] using hloop

/-- No lock is held, and an I3C handler without a bus has no device file open. -/
structure BusState.Idle (s : BusState) : Prop where
  i2c : s.i2c.AllLocked false
  i3c : s.i3c.Idle

theorem BusState.Idle.unlocked {s : BusState} (h : s.Idle) : s.Unlocked := ⟨h.i2c, h.i3c.unlocked⟩

theorem devFlock_lock (io : LockIo) {s : BusState} (h : s.Idle) :
    ((devFlock c io s s.defaultBus .ex).2 = .ok → InLock c (devFlock c io s s.defaultBus .ex).1) ∧
      ((devFlock c io s s.defaultBus .ex).2 ≠ .ok →
        (∀ i, io.i3c.lock.flocks i = true → io.i3c.release.flocks i = true) →
        (devFlock c io s s.defaultBus .ex).1.Idle) := by
  cases htype : busType c s.defaultBus with
  | notAllowed =>
      simp only [devFlock, htype]
      exact ⟨by rintro ⟨⟩, fun _ _ => h⟩
  | i2c =>
      rw [devFlock_i2c io .ex htype]
      obtain ⟨hlocked, hfailed⟩ := i2cBusFlock_lock io.i2c s.defaultBus h.i2c
      exact ⟨fun hok => .onI2c htype (hlocked hok) h.i3c, fun hne _ => ⟨hfailed hne, h.i3c⟩⟩
  | i3c =>
      rw [devFlock_i3c io .ex htype]
      obtain ⟨t, status, defaultBus, heq, hdefault, hheld, hfailed⟩ :=
        i3cBusFlock_lock io.i3c htype h.i3c
      obtain rfl : defaultBus = s.defaultBus := hdefault.elim id id
      rw [heq]
      exact ⟨fun hok => .onI3c htype h.i2c (hheld hok), fun hne hrelease =>
        ⟨h.i2c, hfailed hne hrelease⟩⟩

theorem devFlock_unlock {io : LockIo} {s : BusState} (h : InLock c s)
    (hreleases : Releases c io s) : (devFlock c io s s.defaultBus .un).1.Idle := by
  cases h with
  | onI2c type i2c i3c =>
      simp only [Releases, type, ReleasesOn] at hreleases
      rw [devFlock_i2c io .un type]
      exact ⟨i2cBusFlock_unlock hreleases, i3c⟩
  | onI3c type i2c i3c =>
      simp only [Releases, type, ReleasesOn] at hreleases
      rw [devFlock_i3c io .un type]
      obtain ⟨t, status, heq, ht⟩ := i3cBusFlock_unlock (c := c) i3c hreleases
      rw [heq]
      exact ⟨i2c, ht⟩

end Message

section Session
variable {c : BusConfig}

/-- The message gets as far as the lock of the default bus. -/
def TakesLock (c : BusConfig) (r : I2cRequest) : Prop :=
  (r.header.cmdStat = 0 ∨ r.header.cmdStat = 0x80 ∨ r.header.cmdStat = 1) ∧
    (c.enableI2c || c.enableI3c) = true

def messageEvents (c : BusConfig) (s : BusSession) (r : I2cRequest) : List BusEvent :=
  (processI2cMessage c s r).events.drop s.events.length

/-- The state in which the default bus is to be unlocked. -/
def busAtRelease (c : BusConfig) (s : BusSession) (r : I2cRequest) : BusState :=
  let bus := (devFlock c r.lock s.bus s.bus.defaultBus .ex).1
  (processI2cMessages c r bus s.sent (s.events ++ [.accepted bus])).1.bus

/-- Every bus select keeps the lock, the device files that take a lock that is refused
release it again, and so do those of the default bus at the end. -/
structure MessageKeepsLock (c : BusConfig) (s : BusSession) (r : I2cRequest) : Prop where
  selects : ∀ e ∈ messageEvents c s r, e.KeepsLock c
  refused : TakesLock c r → (devFlock c r.lock s.bus s.bus.defaultBus .ex).2 ≠ .ok →
    ∀ i, r.lock.i3c.lock.flocks i = true → r.lock.i3c.release.flocks i = true
  released : TakesLock c r → (devFlock c r.lock s.bus s.bus.defaultBus .ex).2 = .ok →
    Releases c r.unlock (busAtRelease c s r)

/-- Transfers are issued on locked device files only, and afterwards none is locked. -/
structure LockDiscipline (c : BusConfig) (s : BusSession) (r : I2cRequest) : Prop where
  transfers : ∀ e ∈ messageEvents c s r, e.OnLocked
  released : (processI2cMessage c s r).bus.Unlocked

theorem processI2cMessage_discipline {s : BusSession} {r : I2cRequest} (h : s.bus.Idle)
    (hkeeps : MessageKeepsLock c s r) :
    (∀ e ∈ messageEvents c s r, e.OnLocked) ∧ (processI2cMessage c s r).bus.Idle := by
  obtain ⟨hselects, hrefused, hreleased⟩ := hkeeps
  simp only [messageEvents] at hselects ⊢
  revert hselects
  rw [processI2cMessage]
  split
  · intro _
    exact ⟨by simp [BusSession.refuse], h⟩
  next hstat =>
  split
  · intro _
    exact ⟨by simp [BusSession.refuse], h⟩
  next henabled =>
  have htakes : TakesLock c r := by
    refine ⟨?_, by simpa only [Bool.not_eq_true', Bool.not_eq_false] using henabled⟩
    by_contra hnot
    simp only [not_or] at hnot
    exact hstat hnot
  obtain ⟨hlocked, hfailed⟩ := devFlock_lock (c := c) r.lock h
  split
  · next bus hlock =>
      intro hselects
      rw [hlock] at hlocked
      have hstart : LockedSince c s.events bus (s.events ++ [.accepted bus]) := by
        refine ⟨[.accepted bus], rfl, fun _ => ⟨hlocked rfl, ?_⟩⟩
        simp [BusEvent.OnLocked, BusEvent.device]
      obtain ⟨more, hmore, hdone⟩ := processI2cMessages_locked r s.sent hstart
      simp only [busAtRelease, hlock, forall_const] at hreleased
      dsimp only at hselects ⊢
      rw [hmore, List.drop_left] at hselects ⊢
      obtain ⟨hlock, hevents⟩ := hdone hselects
      exact ⟨hevents, devFlock_unlock hlock (hreleased htakes)⟩
  · next bus status hne hlock =>
      intro _
      rw [hlock] at hfailed hrefused
      exact ⟨by simp [BusSession.refuse], hfailed hne (hrefused htakes hne)⟩

theorem i2cInitialize_idle (opens : Bool) {s : BusState} (h : s.i2c.AllLocked false) :
    (i2cInitialize c opens s).1.i2c.AllLocked false ∧ (i2cInitialize c opens s).1.i3c = s.i3c := by
  simp only [i2cInitialize, i2cBusSelect]
  split
  · exact ⟨h, rfl⟩
  split
  · exact ⟨h, rfl⟩
  split
  · cases opens <;> simp [i2cOpenDriver, I2cHandler.AllLocked]
  · exact ⟨h, rfl⟩

/-- Between two messages; before the handlers are initialised no I3C device file is open. -/
structure SessionIdle (s : BusSession) : Prop where
  idle : s.bus.Idle
  closed : s.handlersInitialized = false → ¬ s.bus.i3c.Opened

theorem sessionIdle_of_closed {s : BusSession} (h : s.bus.i2c.AllLocked false)
    (hclosed : ¬ s.bus.i3c.Opened) : SessionIdle s :=
  ⟨⟨h, I3cHandler.idle_of_closed hclosed⟩, fun _ => hclosed⟩

theorem initializeHandlers_idle (c : BusConfig) {s : BusSession} (h : SessionIdle s)
    (r : I2cRequest) : SessionIdle (initializeHandlers c s r).1 := by
  cases hinit : s.handlersInitialized with
  | true =>
      simp only [initializeHandlers, hinit, if_true]
      exact h
  | false =>
      have hclosed := h.closed hinit
      obtain ⟨⟨i2c, status₂⟩, h2⟩ : ∃ t,
          (if c.enableI2c then i2cInitialize c r.i2cOpens s.bus else (s.bus, .ok)) = t := ⟨_, rfl⟩
      obtain ⟨⟨i3c, status₃⟩, h3⟩ : ∃ t,
          (if c.enableI3c then i3cInitialize c r.dbusConnected i2c else (i2c, .ok)) = t := ⟨_, rfl⟩
      have f2 : i2c.i2c.AllLocked false ∧ ¬ i2c.i3c.Opened := by
        split at h2
        · obtain ⟨hlocked, hsame⟩ := i2cInitialize_idle (c := c) r.i2cOpens h.idle.i2c
          rw [h2] at hlocked hsame
          exact ⟨hlocked, hsame ▸ hclosed⟩
        · cases h2
          exact ⟨h.idle.i2c, hclosed⟩
      have f3 : i3c.i2c.AllLocked false ∧ ¬ i3c.i3c.Opened := by
        split at h3
        · obtain ⟨_, hsame, hopened⟩ := i3cInitialize_frame (c := c) r.dbusConnected i2c
          rw [h3] at hsame hopened
          exact ⟨hsame ▸ f2.1, fun hopen => f2.2 (hopened.mp hopen)⟩
        · cases h3
          exact f2
      simp only [initializeHandlers, hinit, Bool.false_eq_true, if_false, h2]
      split
      · exact sessionIdle_of_closed h.idle.i2c hclosed
      cases status₂ with
      | err | timeout => exact sessionIdle_of_closed f2.1 f2.2
      | ok =>
          simp only [h3]
          cases status₃ with
          | err | timeout => exact sessionIdle_of_closed f3.1 f3.2
          | ok =>
              dsimp only
              split
              · exact sessionIdle_of_closed f3.1 f3.2
              · exact sessionIdle_of_closed f3.1 f3.2

/-- What holds of a message when it is given to `process_message`. -/
def AtMessage (c : BusConfig) (P : BusSession → I2cRequest → Prop) (s : BusSession)
    (r : I2cRequest) : Prop :=
  r.header.encBit = 0 → (initializeHandlers c s r).2 = .ok → P (initializeHandlers c s r).1 r

theorem onI2cMsgRecv_idle {s : BusSession} {r : I2cRequest} (h : SessionIdle s)
    (hkeeps : AtMessage c (MessageKeepsLock c) s r) :
    AtMessage c (LockDiscipline c) s r ∧ SessionIdle (onI2cMsgRecv c s r) := by
  have hready := initializeHandlers_idle c h r
  rw [onI2cMsgRecv]
  split
  · next henc => exact ⟨fun hzero => absurd hzero henc, h.idle, h.closed⟩
  · next henc =>
      have henc : r.header.encBit = 0 := not_not.mp henc
      split
      · next t heq =>
          have hmessage := hkeeps henc (by rw [heq])
          rw [heq] at hready hmessage
          obtain ⟨htransfers, hidle⟩ := processI2cMessage_discipline hready.idle hmessage
          refine ⟨fun _ _ => ?_, hidle, ?_⟩
          · rw [heq]
            exact ⟨htransfers, hidle.unlocked⟩
          · obtain ⟨u, status, hu, _, hinit, _⟩ := initializeHandlers_spec (c := c) s r
            cases heq.symm.trans hu
            rw [processI2cMessage_initialized, hinit rfl]
            rintro ⟨⟩
      · next t status hne heq =>
          rw [heq] at hready
          refine ⟨fun _ hok => ?_, hready⟩
          rw [heq] at hok
          exact (hne hok).elim

/-- In every session whose messages meet the condition, each message transfers on
locked device files only and leaves no lock behind. -/
theorem bus_lock_discipline (c : BusConfig) (defaultBus i2cBus i3cBus : UInt8)
    (requests : List I2cRequest)
    (h : Machine.Meets (onI2cMsgRecv c) (AtMessage c (MessageKeepsLock c))
      (.initial defaultBus i2cBus i3cBus) requests) :
    Machine.Meets (onI2cMsgRecv c) (AtMessage c (LockDiscipline c))
      (.initial defaultBus i2cBus i3cBus) requests := by
  have hstart : SessionIdle (.initial defaultBus i2cBus i3cBus) := by
    have hclosed : ¬ (BusSession.initial defaultBus i2cBus i3cBus).bus.i3c.Opened := by
      rintro ⟨i, hi⟩
      cases hi
    exact sessionIdle_of_closed (fun d hd => by cases hd) hclosed
  exact Machine.meets_of_invariant (fun _ _ h hkeeps => (onI2cMsgRecv_idle h hkeeps).2)
    (fun _ _ h hkeeps => (onI2cMsgRecv_idle h hkeeps).1) hstart h

/-- A write on each of two I2C buses in one message. -/
theorem bus_lock_discipline_two_buses :
    let c := twoBuses .i2c 3 5
    let requests := [smoothRequest [0x61, 0x40, 0xAA, 1, 5, 0x61, 0x40, 0xBB]]
    Machine.Meets (onI2cMsgRecv c) (AtMessage c (MessageKeepsLock c)) (.initial 3 0 0)
        requests ∧
      Machine.Meets (onI2cMsgRecv c) (AtMessage c (LockDiscipline c)) (.initial 3 0 0)
        requests := by
  intro c requests
  have hkeeps : Machine.Meets (onI2cMsgRecv c) (AtMessage c (MessageKeepsLock c)) (.initial 3 0 0)
      requests :=
    ⟨fun _ _ => ⟨by decide, fun _ _ _ _ => rfl, fun _ _ => by decide⟩, True.intro⟩
  exact ⟨hkeeps, bus_lock_discipline c 3 0 0 requests hkeeps⟩

/-- An I2C bus and an I3C bus. -/
def mixedBuses (i2cBus i3cBus : UInt8) : BusConfig where
  enableI2c := true
  enableI3c := true
  busConfigMap := fun i => if i.val = 0 then i2cBus else if i.val = 1 then i3cBus else 0
  busConfigType := fun i =>
    if i.val = 0 then .i2c else if i.val = 1 then .i3c else .notAllowed
  i2c_enabled := fun _ _ => rfl
  i3c_enabled := fun _ _ => rfl

/-- With every call successful, an I3C bus that is selected is used without a lock,
and the lock of an I3C bus selected from an I2C bus is never released. -/
theorem bus_lock_lost :
    let c := twoBuses .i3c 2 4
    let moved := smoothRequest [1, 4, 0x61, 0x06, 0xAA]
    let s := (initializeHandlers c (.initial 2 0 0) moved).1
    let d := mixedBuses 3 4
    let other := smoothRequest [1, 4]
    let t := (initializeHandlers d (.initial 3 0 0) other).1
    ¬ AtMessage c (LockDiscipline c) (.initial 2 0 0) moved ∧
      (messageEvents c s moved).filterMap BusEvent.device = [⟨4, false⟩] ∧
      ¬ AtMessage d (LockDiscipline d) (.initial 3 0 0) other ∧
      (processI2cMessage d t other).bus.i3c.AllLocked true := by
  refine ⟨?_, by decide, ?_, by decide⟩
  · intro h
    exact absurd (h rfl (by decide)).transfers (by decide)
  · intro h
    exact absurd (h rfl (by decide)).released.i3c (by decide)

end Session

end AtScaleDebug
