import Mathlib.Data.Fintype.Basic
import AtScaleDebug.Common

/-!
The I2C and I3C handlers and the bus configuration they share.

The configured default bus is part of the state because both handlers write it.
A device file is known by the bus it was opened on and by whether this process
holds its lock; what `open`, `flock` and the ownership service answer is an
argument of every call.
-/

namespace AtScaleDebug

def maxIxCBuses : Nat := 8
def i3cMaxDevHandlers : Nat := 16

/-- `I3C_BUS_ADDRESS_RESERVED`, the bus of a handler that has opened none. -/
def i3cBusAddressReserved : UInt8 := 127

inductive BusType where
  | notAllowed
  | i2c
  | i3c
  deriving DecidableEq, Repr

/-- The entries below `MAX_IxC_BUSES`. The options that add an I2C or I3C entry
also enable its kind. -/
structure BusConfig where
  enableI2c : Bool
  enableI3c : Bool
  busConfigMap : Fin maxIxCBuses → UInt8
  busConfigType : Fin maxIxCBuses → BusType
  i2c_enabled : ∀ i, busConfigType i = .i2c → enableI2c = true
  i3c_enabled : ∀ i, busConfigType i = .i3c → enableI3c = true

/-- The first entry of a bus decides its type. -/
def busType (c : BusConfig) (bus : UInt8) : BusType :=
  match (List.finRange maxIxCBuses).find? fun i => c.busConfigMap i = bus with
  | some i => c.busConfigType i
  | none => .notAllowed

def BusConfig.allowed (c : BusConfig) (type : BusType) (bus : UInt8) : Bool :=
  (List.finRange maxIxCBuses).any fun i => c.busConfigMap i = bus ∧ c.busConfigType i = type

def i2cBusAllowed (c : BusConfig) (bus : UInt8) : Bool := c.allowed .i2c bus

def i3cBusAllowed (c : BusConfig) (bus : UInt8) : Bool := c.allowed .i3c bus

structure BusDevice where
  bus : UInt8
  locked : Bool
  deriving DecidableEq, Repr

inductive LockOp where
  | ex
  | un
  deriving DecidableEq, Repr

/-- `flock` on a device file; on a closed one it fails. -/
def flockDevice (op : LockOp) (done : Bool) : Option BusDevice → Option BusDevice × Status
  | none => (none, .err)
  | some d => if done then (some { d with locked := op = .ex }, .ok) else (some d, .err)

/-- `i2cBus` is not set when the handler is created. -/
structure I2cHandler where
  i2cBus : UInt8
  driverHandle : Option BusDevice

structure I3cHandler where
  i3cBus : UInt8
  driverHandlers : Fin i3cMaxDevHandlers → Option BusDevice
  busToken : Bool

structure BusState where
  defaultBus : UInt8
  i2c : I2cHandler
  i3c : I3cHandler

section I2c

def i2cCloseDriver (h : I2cHandler) : I2cHandler := { h with driverHandle := none }

/-- The bus number is taken over even when the device does not open. -/
def i2cOpenDriver (opens : Bool) (h : I2cHandler) (bus : UInt8) : I2cHandler × Status :=
  if opens then ({ h with i2cBus := bus, driverHandle := some ⟨bus, false⟩ }, .ok)
  else ({ h with i2cBus := bus, driverHandle := none }, .err)

structure I2cLockIo where
  opens : Bool
  flocks : Bool

def i2cBusFlock (io : I2cLockIo) (h : I2cHandler) (bus : UInt8) (op : LockOp) :
    I2cHandler × Status :=
  match if bus ≠ h.i2cBus then i2cOpenDriver io.opens (i2cCloseDriver h) bus else (h, .ok) with
  | (h, .ok) =>
      let (handle, status) := flockDevice op io.flocks h.driverHandle
      ({ h with driverHandle := handle }, status)
  | (h, status) => (h, status)

def i2cBusSelect (c : BusConfig) (opens : Bool) (s : BusState) (bus : UInt8) :
    BusState × Status :=
  if !c.enableI2c then (s, .err)
  else if bus = s.i2c.i2cBus then (s, .ok)
  else if i2cBusAllowed c bus then
    match i2cOpenDriver opens (i2cCloseDriver s.i2c) bus with
    | (h, .ok) => ({ s with i2c := h, defaultBus := bus }, .ok)
    | (h, status) => ({ s with i2c := h }, status)
  else (s, .err)

def i2cInitialize (c : BusConfig) (opens : Bool) (s : BusState) : BusState × Status :=
  i2cBusSelect c opens s s.defaultBus

end I2c

section I3c

/-- Whether a device directory is mapped to the bus, and which of its device
files open. -/
structure I3cOpenIo where
  spdMapped : Bool
  devices : Fin i3cMaxDevHandlers → Bool

def I3cOpenIo.Mapped (io : I3cOpenIo) (bus : UInt8) : Prop :=
  bus.toNat < maxIxCBuses ∧ io.spdMapped = true

instance (io : I3cOpenIo) (bus : UInt8) : Decidable (io.Mapped bus) :=
  inferInstanceAs (Decidable (_ ∧ _))

/-- What decides whether `i3c_open_device_drivers` succeeds. -/
def I3cOpenIo.Opens (io : I3cOpenIo) (bus : UInt8) : Prop :=
  io.Mapped bus ∧ ∃ i, io.devices i = true

instance (io : I3cOpenIo) (bus : UInt8) : Decidable (io.Opens bus) :=
  inferInstanceAs (Decidable (_ ∧ _))

/-- `i3c_device_drivers_opened`. -/
def I3cHandler.Opened (h : I3cHandler) : Prop := ∃ i, (h.driverHandlers i).isSome

instance (h : I3cHandler) : Decidable h.Opened := inferInstanceAs (Decidable (∃ _, _))

def i3cCloseDeviceDrivers (h : I3cHandler) : I3cHandler :=
  { h with driverHandlers := fun _ => none }

def I3cHandler.openOn (h : I3cHandler) (io : I3cOpenIo) (bus : UInt8) : I3cHandler :=
  { h with
    i3cBus := bus
    driverHandlers := fun i => if io.devices i then some ⟨bus, false⟩ else none }

/-- The bus number is taken over even when no device file opens. -/
def i3cOpenDeviceDrivers (io : I3cOpenIo) (h : I3cHandler) (bus : UInt8) : I3cHandler × Status :=
  if maxIxCBuses ≤ bus.toNat then (h, .err)
  else if !io.spdMapped then (h, .err)
  else (h.openOn io bus, if ∃ i, io.devices i = true then .ok else .err)

def i3cBusSelect (c : BusConfig) (io : I3cOpenIo) (s : BusState) (bus : UInt8) :
    BusState × Status :=
  if !c.enableI3c then (s, .err)
  else if bus = s.i3c.i3cBus then
    if s.i3c.Opened then (s, .ok)
    else
      let (h, status) := i3cOpenDeviceDrivers io s.i3c bus
      ({ s with i3c := h }, status)
  else if i3cBusAllowed c bus then
    match i3cOpenDeviceDrivers io (i3cCloseDeviceDrivers s.i3c) bus with
    | (h, .ok) => ({ s with i3c := h, defaultBus := bus }, .ok)
    | (h, status) => ({ s with i3c := h }, status)
  else (s, .err)

structure I3cFlockIo where
  opens : I3cOpenIo
  flocks : Fin i3cMaxDevHandlers → Bool

def I3cHandler.flockDevices (h : I3cHandler) (op : LockOp) (flocks : Fin i3cMaxDevHandlers → Bool) :
    I3cHandler :=
  { h with driverHandlers := fun i => (flockDevice op (flocks i) (h.driverHandlers i)).1 }

/-- Some device file is open and refuses the lock. -/
def I3cHandler.FlockFails (h : I3cHandler) (flocks : Fin i3cMaxDevHandlers → Bool) : Prop :=
  ∃ i, (h.driverHandlers i).isSome ∧ flocks i = false

instance (h : I3cHandler) (flocks : Fin i3cMaxDevHandlers → Bool) :
    Decidable (h.FlockFails flocks) := inferInstanceAs (Decidable (∃ _, _))

/-- A handler without a bus selects it first. -/
def i3cBusFlockDevHandlers (c : BusConfig) (io : I3cFlockIo) (s : BusState) (bus : UInt8)
    (op : LockOp) : BusState × Status :=
  match if s.i3c.i3cBus = i3cBusAddressReserved then i3cBusSelect c io.opens s bus
    else (s, .ok) with
  | (s, .ok) =>
      ({ s with i3c := s.i3c.flockDevices op io.flocks },
        if s.i3c.FlockFails io.flocks then .err else .ok)
  | (s, status) => (s, status)

/-- The token is read from the reply before the ownership flag, so a denied
request can leave one behind. -/
inductive OwnershipReply where
  | granted
  | denied (token : Bool)
  deriving DecidableEq, Repr

inductive I3cOwner where
  | cpu
  | bmc
  deriving DecidableEq, Repr

/-- `owner` is `none` when the property cannot be read; `release` is the second
pass over the device files after a failed lock. -/
structure I3cLockIo where
  reply : OwnershipReply
  opens : I3cOpenIo
  owner : Option I3cOwner
  lock : I3cFlockIo
  release : I3cFlockIo

/-- The first transfer attempt asks for the ownership of the bus. -/
def i3cRequestOwnership (io : I3cLockIo) (h : I3cHandler) (bus : UInt8) : I3cHandler × Status :=
  if h.busToken then (h, .ok)
  else
    match io.reply with
    | .denied token => ({ h with busToken := token }, .err)
    | .granted =>
        match i3cOpenDeviceDrivers io.opens { h with busToken := true } bus with
        | (h, .ok) => (h, .ok)
        | (h, _) => ({ h with busToken := false }, .err)

def i3cBusFlock (c : BusConfig) (io : I3cLockIo) (s : BusState) (bus : UInt8) (op : LockOp) :
    BusState × Status :=
  match i3cRequestOwnership io s.i3c bus with
  | (h, .ok) =>
      let s := { s with i3c := h }
      if io.owner = some .bmc then
        match i3cBusFlockDevHandlers c io.lock s bus op with
        | (s, .ok) => (s, .ok)
        | (s, status) =>
            if op = .ex then ((i3cBusFlockDevHandlers c io.release s bus .un).1, status)
            else (s, status)
      else (s, .err)
  | (h, status) => ({ s with i3c := h }, status)

/-- The bus number is reset whether or not the connection to D-Bus is made. -/
def i3cInitialize (c : BusConfig) (connected : Bool) (s : BusState) : BusState × Status :=
  if !c.enableI3c then (s, .err)
  else
    ({ s with i3c := { s.i3c with i3cBus := i3cBusAddressReserved } },
      if connected then .ok else .err)

end I3c

structure LockIo where
  i2c : I2cLockIo
  i3c : I3cLockIo

def devFlock (c : BusConfig) (io : LockIo) (s : BusState) (bus : UInt8) (op : LockOp) :
    BusState × Status :=
  match busType c bus with
  | .i2c =>
      let (h, status) := i2cBusFlock io.i2c s.i2c bus op
      ({ s with i2c := h }, status)
  | .i3c => i3cBusFlock c io.i3c s bus op
  | .notAllowed => (s, .err)

section Config

private theorem busType_eq (c : BusConfig) (bus : UInt8) (h : busType c bus ≠ .notAllowed) :
    ∃ i, c.busConfigMap i = bus ∧ c.busConfigType i = busType c bus := by
  cases hfind : (List.finRange maxIxCBuses).find? fun i => c.busConfigMap i = bus with
  | none => exact absurd (by simp only [busType, hfind]) h
  | some i =>
      refine ⟨i, ?_, by simp only [busType, hfind]⟩
      simpa only [decide_eq_true_eq] using List.find?_some hfind

variable {c : BusConfig} {bus : UInt8}

theorem enableI2c_of_busType (h : busType c bus = .i2c) : c.enableI2c = true := by
  obtain ⟨i, _, htype⟩ := busType_eq c bus (by simp [h])
  exact c.i2c_enabled i (htype.trans h)

theorem enableI3c_of_busType (h : busType c bus = .i3c) : c.enableI3c = true := by
  obtain ⟨i, _, htype⟩ := busType_eq c bus (by simp [h])
  exact c.i3c_enabled i (htype.trans h)

theorem i3cBusAllowed_of_busType (h : busType c bus = .i3c) : i3cBusAllowed c bus = true := by
  obtain ⟨i, hmap, htype⟩ := busType_eq c bus (by simp [h])
  rw [i3cBusAllowed, BusConfig.allowed, List.any_eq_true]
  exact ⟨i, List.mem_finRange i, by simp [hmap, htype, h]⟩

end Config

section Consistency

/-- An open device file belongs to the bus the handler is on. -/
def I2cHandler.Consistent (h : I2cHandler) : Prop := ∀ d ∈ h.driverHandle, d.bus = h.i2cBus

structure I3cHandler.Consistent (h : I3cHandler) : Prop where
  device : ∀ i, ∀ d ∈ h.driverHandlers i, d.bus = h.i3cBus
  bus : h.Opened → h.i3cBus ≠ i3cBusAddressReserved

/-- The same device files are open, and only their locks may differ. -/
structure I2cHandler.Relocked (h t : I2cHandler) : Prop where
  bus : t.i2cBus = h.i2cBus
  device : t.driverHandle.map BusDevice.bus = h.driverHandle.map BusDevice.bus

structure I3cHandler.Relocked (h t : I3cHandler) : Prop where
  bus : t.i3cBus = h.i3cBus
  token : t.busToken = h.busToken
  device : ∀ i, (t.driverHandlers i).map BusDevice.bus = (h.driverHandlers i).map BusDevice.bus

theorem I2cHandler.Relocked.refl (h : I2cHandler) : h.Relocked h := ⟨rfl, rfl⟩

theorem I3cHandler.Relocked.refl (h : I3cHandler) : h.Relocked h := ⟨rfl, rfl, fun _ => rfl⟩

theorem I3cHandler.Relocked.trans {h t u : I3cHandler} (ht : h.Relocked t) (hu : t.Relocked u) :
    h.Relocked u :=
  ⟨hu.bus.trans ht.bus, hu.token.trans ht.token, fun i => (hu.device i).trans (ht.device i)⟩

theorem I2cHandler.Relocked.isSome {h t : I2cHandler} (ht : h.Relocked t) :
    t.driverHandle.isSome = h.driverHandle.isSome := by
  simpa only [Option.isSome_map] using congrArg Option.isSome ht.device

theorem I3cHandler.Relocked.isSome {h t : I3cHandler} (ht : h.Relocked t)
    (i : Fin i3cMaxDevHandlers) : (t.driverHandlers i).isSome = (h.driverHandlers i).isSome := by
  simpa only [Option.isSome_map] using congrArg Option.isSome (ht.device i)

theorem I3cHandler.Relocked.opened {h t : I3cHandler} (ht : h.Relocked t) :
    t.Opened ↔ h.Opened := by
  simp only [I3cHandler.Opened, ht.isSome]

theorem I3cHandler.Relocked.flockFails {h t : I3cHandler} (ht : h.Relocked t)
    (flocks : Fin i3cMaxDevHandlers → Bool) : t.FlockFails flocks ↔ h.FlockFails flocks := by
  simp only [I3cHandler.FlockFails, ht.isSome]

theorem I2cHandler.Relocked.consistent {h t : I2cHandler} (ht : h.Relocked t)
    (hc : h.Consistent) : t.Consistent := by
  intro d hd
  have hmap := ht.device
  rw [Option.mem_def.mp hd, Option.map_some] at hmap
  obtain ⟨e, he, hbus⟩ := Option.map_eq_some_iff.mp hmap.symm
  rw [← hbus, ht.bus]
  exact hc e he

theorem I3cHandler.Relocked.consistent {h t : I3cHandler} (ht : h.Relocked t)
    (hc : h.Consistent) : t.Consistent := by
  refine ⟨fun i d hd => ?_, fun hopen => ?_⟩
  · have hmap := ht.device i
    rw [Option.mem_def.mp hd, Option.map_some] at hmap
    obtain ⟨e, he, hbus⟩ := Option.map_eq_some_iff.mp hmap.symm
    rw [← hbus, ht.bus]
    exact hc.device i e he
  · rw [ht.bus]
    exact hc.bus (ht.opened.mp hopen)

theorem I3cHandler.consistent_of_closed {h : I3cHandler} (hclosed : ¬ h.Opened) :
    h.Consistent := by
  refine ⟨fun i d hd => (hclosed ⟨i, ?_⟩).elim, fun hopen => (hclosed hopen).elim⟩
  rw [Option.mem_def.mp hd]
  rfl

theorem I3cHandler.Consistent.of_same {h t : I3cHandler} (hc : h.Consistent)
    (hbus : t.i3cBus = h.i3cBus) (hdevices : t.driverHandlers = h.driverHandlers) :
    t.Consistent := by
  refine ⟨?_, ?_⟩
  · rw [hbus, hdevices]
    exact hc.device
  · rw [hbus, I3cHandler.Opened, hdevices]
    exact hc.bus

theorem flockDevice_bus (op : LockOp) (done : Bool) (handle : Option BusDevice) :
    (flockDevice op done handle).1.map BusDevice.bus = handle.map BusDevice.bus := by
  cases handle with
  | none => rfl
  | some d => cases done <;> rfl

theorem flockDevices_relocked (h : I3cHandler) (op : LockOp)
    (flocks : Fin i3cMaxDevHandlers → Bool) : h.Relocked (h.flockDevices op flocks) :=
  ⟨rfl, rfl, fun i => flockDevice_bus op (flocks i) (h.driverHandlers i)⟩

end Consistency

section I2cSpec
variable {h : I2cHandler} (io : I2cLockIo) (op : LockOp)

theorem i2cOpenDriver_consistent (opens : Bool) (h : I2cHandler) (bus : UInt8) :
    (i2cOpenDriver opens h bus).1.Consistent := by
  cases opens with
  | false =>
      intro d hd
      cases hd
  | true =>
      intro d hd
      cases hd
      rfl

/-- A lock of the bus the handler is on leaves its device file in place. -/
theorem i2cBusFlock_same {bus : UInt8} (hbus : h.i2cBus = bus) :
    h.Relocked (i2cBusFlock io h bus op).1 := by
  subst hbus
  refine ⟨?_, ?_⟩
  · simp [i2cBusFlock]
  · simpa [i2cBusFlock] using flockDevice_bus op io.flocks h.driverHandle

theorem i2cBusFlock_consistent (bus : UInt8) (hc : h.Consistent) :
    (i2cBusFlock io h bus op).1.Consistent := by
  by_cases hbus : h.i2cBus = bus
  · exact (i2cBusFlock_same io op hbus).consistent hc
  · simp only [i2cBusFlock, ne_eq, Ne.symm hbus, not_false_eq_true, if_true]
    have hopen := i2cOpenDriver_consistent io.opens (i2cCloseDriver h) bus
    split
    · next t ht =>
        rw [ht] at hopen
        have hlock : t.Relocked { t with
            driverHandle := (flockDevice op io.flocks t.driverHandle).1 } :=
          ⟨rfl, flockDevice_bus op io.flocks t.driverHandle⟩
        exact hlock.consistent hopen
    · next t status _ ht =>
        rw [ht] at hopen
        exact hopen

theorem i2cBusFlock_bus (h : I2cHandler) (bus : UInt8) :
    (i2cBusFlock io h bus op).1.i2cBus = bus := by
  by_cases hbus : bus = h.i2cBus
  · exact (i2cBusFlock_same io op hbus.symm).bus.trans hbus.symm
  · cases hopens : io.opens <;> simp [i2cBusFlock, i2cOpenDriver, hbus, hopens]

/-- A lock is taken on an open device file only. -/
theorem i2cBusFlock_isSome {bus : UInt8} (hok : (i2cBusFlock io h bus op).2 = .ok) :
    (i2cBusFlock io h bus op).1.driverHandle.isSome = true := by
  by_cases hbus : bus = h.i2cBus
  · cases hhandle : h.driverHandle <;> simp_all [i2cBusFlock, flockDevice]
    split <;> rfl
  · cases hopens : io.opens <;> cases hflocks : io.flocks <;>
      simp_all [i2cBusFlock, i2cOpenDriver, flockDevice]

end I2cSpec

section I3cSpec
variable {c : BusConfig} {s : BusState} {bus : UInt8}

theorem openOn_opened {io : I3cOpenIo} (hopens : io.Opens bus) (h : I3cHandler) :
    (h.openOn io bus).Opened := by
  obtain ⟨i, hi⟩ := hopens.2
  exact ⟨i, by simp [I3cHandler.openOn, hi]⟩

theorem I3cOpenIo.Mapped.ne_reserved {io : I3cOpenIo} (hmapped : io.Mapped bus) :
    bus ≠ i3cBusAddressReserved := by
  rintro rfl
  exact absurd hmapped.1 (by decide)

theorem openOn_consistent {io : I3cOpenIo} (hmapped : io.Mapped bus) (h : I3cHandler) :
    (h.openOn io bus).Consistent := by
  refine ⟨fun i d hd => ?_, fun _ => hmapped.ne_reserved⟩
  simp only [I3cHandler.openOn] at hd
  split at hd
  · cases hd
    rfl
  · cases hd

theorem i3cOpenDeviceDrivers_of_opens {io : I3cOpenIo} (hopens : io.Opens bus) (h : I3cHandler) :
    i3cOpenDeviceDrivers io h bus = (h.openOn io bus, .ok) := by
  obtain ⟨⟨hbus, hmapped⟩, hdevice⟩ := hopens
  simp [i3cOpenDeviceDrivers, hmapped, hdevice, Nat.not_le.mpr hbus]

/-- A failed opening leaves the handler as it was when the bus is not mapped, and
on the bus without any device file when it is. -/
theorem i3cOpenDeviceDrivers_of_not_opens {io : I3cOpenIo} (hopens : ¬ io.Opens bus)
    (h : I3cHandler) :
    (¬ io.Mapped bus ∧ i3cOpenDeviceDrivers io h bus = (h, .err)) ∨
      (io.Mapped bus ∧ ¬ (h.openOn io bus).Opened ∧
        i3cOpenDeviceDrivers io h bus = (h.openOn io bus, .err)) := by
  rw [i3cOpenDeviceDrivers]
  split
  · next hbus => exact .inl ⟨fun hmapped => absurd hmapped.1 (Nat.not_lt.mpr hbus), rfl⟩
  · next hbus =>
      split
      · next hmapped => exact .inl ⟨(fun h => by simp [h.2] at hmapped), rfl⟩
      · next hspd =>
          have hmapped : io.Mapped bus := ⟨Nat.not_le.mp hbus, by simpa using hspd⟩
          have hnone : ¬ ∃ i, io.devices i = true := fun hdevice => hopens ⟨hmapped, hdevice⟩
          refine .inr ⟨hmapped, ?_, by rw [if_neg hnone]⟩
          rintro ⟨i, hi⟩
          simp only [not_exists, Bool.not_eq_true] at hnone
          simp [I3cHandler.openOn, hnone i] at hi

theorem i3cBusSelect_of_opened {io : I3cOpenIo} (htype : busType c bus = .i3c)
    (hbus : s.i3c.i3cBus = bus) (hopen : s.i3c.Opened) :
    i3cBusSelect c io s bus = (s, .ok) := by
  simp [i3cBusSelect, enableI3c_of_busType htype, hbus, hopen]

/-- Selecting another bus makes it the default bus. -/
theorem i3cBusSelect_of_opens {io : I3cOpenIo} (htype : busType c bus = .i3c)
    (hbus : s.i3c.i3cBus ≠ bus) (hopens : io.Opens bus) :
    i3cBusSelect c io s bus =
      ({ s with i3c := s.i3c.openOn io bus, defaultBus := bus }, .ok) := by
  simp only [i3cBusSelect, enableI3c_of_busType htype, Bool.not_true, Bool.false_eq_true, if_false,
    Ne.symm hbus, i3cBusAllowed_of_busType htype, if_true, i3cOpenDeviceDrivers_of_opens hopens]
  rfl

/-- Opening the bus the handler is already on leaves the default bus alone. -/
theorem i3cBusSelect_of_reopens {io : I3cOpenIo} (htype : busType c bus = .i3c)
    (hbus : s.i3c.i3cBus = bus) (hclosed : ¬ s.i3c.Opened) (hopens : io.Opens bus) :
    i3cBusSelect c io s bus = ({ s with i3c := s.i3c.openOn io bus }, .ok) := by
  simp only [i3cBusSelect, enableI3c_of_busType htype, Bool.not_true, Bool.false_eq_true, if_false,
    hbus, if_true, hclosed, i3cOpenDeviceDrivers_of_opens hopens]

theorem i3cBusSelect_of_not_opens {io : I3cOpenIo} (htype : busType c bus = .i3c)
    (hclosed : s.i3c.i3cBus = bus → ¬ s.i3c.Opened) (hopens : ¬ io.Opens bus) :
    ∃ h, i3cBusSelect c io s bus = ({ s with i3c := h }, .err) ∧
      h.busToken = s.i3c.busToken ∧ ¬ h.Opened ∧
      h.i3cBus = if io.Mapped bus then bus else s.i3c.i3cBus := by
  have hfail (h : I3cHandler) (hnot : ¬ h.Opened) :
      ∃ t, i3cOpenDeviceDrivers io h bus = (t, .err) ∧ t.busToken = h.busToken ∧ ¬ t.Opened ∧
        t.i3cBus = if io.Mapped bus then bus else h.i3cBus := by
    obtain ⟨hmapped, heq⟩ | ⟨hmapped, hnone, heq⟩ := i3cOpenDeviceDrivers_of_not_opens hopens h
    · exact ⟨h, heq, rfl, hnot, by rw [if_neg hmapped]⟩
    · exact ⟨_, heq, rfl, hnone, by rw [if_pos hmapped]; rfl⟩
  by_cases hbus : s.i3c.i3cBus = bus
  · obtain ⟨h, heq, hrest⟩ := hfail s.i3c (hclosed hbus)
    refine ⟨h, ?_, hrest⟩
    simp only [i3cBusSelect, enableI3c_of_busType htype, Bool.not_true, Bool.false_eq_true,
      if_false, hbus, if_true, hclosed hbus, heq]
  · have hnot : ¬ (i3cCloseDeviceDrivers s.i3c).Opened := by
      rintro ⟨i, hi⟩
      cases hi
    obtain ⟨h, heq, hrest⟩ := hfail _ hnot
    refine ⟨h, ?_, hrest⟩
    simp only [i3cBusSelect, enableI3c_of_busType htype, Bool.not_true, Bool.false_eq_true,
      if_false, Ne.symm hbus, i3cBusAllowed_of_busType htype, if_true, heq]

theorem i3cBusFlockDevHandlers_of_ne {io : I3cFlockIo} (op : LockOp)
    (hbus : s.i3c.i3cBus ≠ i3cBusAddressReserved) :
    i3cBusFlockDevHandlers c io s bus op =
      ({ s with i3c := s.i3c.flockDevices op io.flocks },
        if s.i3c.FlockFails io.flocks then .err else .ok) := by
  simp only [i3cBusFlockDevHandlers, hbus, if_false]

/-- Without a bus the lock is also a selection. -/
theorem i3cBusFlockDevHandlers_of_opens {io : I3cFlockIo} (op : LockOp)
    (htype : busType c bus = .i3c)
    (hbus : s.i3c.i3cBus = i3cBusAddressReserved) (hopens : io.opens.Opens bus) :
    i3cBusFlockDevHandlers c io s bus op =
      ({ s with
        i3c := (s.i3c.openOn io.opens bus).flockDevices op io.flocks
        defaultBus := bus },
        if (s.i3c.openOn io.opens bus).FlockFails io.flocks then .err else .ok) := by
  have hne : s.i3c.i3cBus ≠ bus := fun h => hopens.1.ne_reserved (h.symm.trans hbus)
  simp only [i3cBusFlockDevHandlers, hbus, if_true, i3cBusSelect_of_opens htype hne hopens]

theorem i3cBusFlockDevHandlers_of_not_opens {io : I3cFlockIo} (op : LockOp)
    (htype : busType c bus = .i3c)
    (hbus : s.i3c.i3cBus = i3cBusAddressReserved) (hclosed : ¬ s.i3c.Opened)
    (hopens : ¬ io.opens.Opens bus) :
    ∃ h, i3cBusFlockDevHandlers c io s bus op = ({ s with i3c := h }, .err) ∧
      h.busToken = s.i3c.busToken ∧ ¬ h.Opened ∧
      h.i3cBus = if io.opens.Mapped bus then bus else i3cBusAddressReserved := by
  obtain ⟨h, heq, htoken, hnot, hto⟩ := i3cBusSelect_of_not_opens htype (fun _ => hclosed) hopens
  refine ⟨h, ?_, htoken, hnot, ?_⟩
  · simp only [i3cBusFlockDevHandlers, hbus, if_true, heq]
  · rwa [hbus] at hto

theorem i3cRequestOwnership_of_token (io : I3cLockIo) (bus : UInt8) {h : I3cHandler}
    (htoken : h.busToken = true) : i3cRequestOwnership io h bus = (h, .ok) := by
  simp only [i3cRequestOwnership, htoken, if_true]

/-- What the first request can do to the handler. -/
theorem i3cRequestOwnership_cases (io : I3cLockIo) (bus : UInt8) {h : I3cHandler}
    (htoken : h.busToken = false) :
    (io.reply = .granted ∧ io.opens.Opens bus ∧ i3cRequestOwnership io h bus =
      ({ h with busToken := true }.openOn io.opens bus, .ok)) ∨
    (¬ (io.reply = .granted ∧ io.opens.Opens bus) ∧
      ∃ t, i3cRequestOwnership io h bus = (t, .err) ∧
        (t.i3cBus = h.i3cBus ∧ t.driverHandlers = h.driverHandlers ∨ ¬ t.Opened)) := by
  cases hreply : io.reply with
  | denied token =>
      refine .inr ⟨(fun hboth => by cases hboth.1), { h with busToken := token }, ?_,
        .inl ⟨rfl, rfl⟩⟩
      simp [i3cRequestOwnership, htoken, hreply]
  | granted =>
      by_cases hopens : io.opens.Opens bus
      · refine .inl ⟨rfl, hopens, ?_⟩
        simp only [i3cRequestOwnership, htoken, Bool.false_eq_true, if_false, hreply,
          i3cOpenDeviceDrivers_of_opens hopens]
      · refine .inr ⟨fun h => hopens h.2, ?_⟩
        obtain ⟨_, heq⟩ | ⟨_, hnone, heq⟩ :=
          i3cOpenDeviceDrivers_of_not_opens hopens { h with busToken := true }
        · refine ⟨{ h with busToken := false }, ?_, .inl ⟨rfl, rfl⟩⟩
          simp only [i3cRequestOwnership, htoken, Bool.false_eq_true, if_false, hreply, heq]
        · refine ⟨{ h.openOn io.opens bus with busToken := false }, ?_, .inr hnone⟩
          simp only [i3cRequestOwnership, htoken, Bool.false_eq_true, if_false, hreply, heq]
          rfl

theorem i3cBusFlock_of_locked {io : I3cLockIo} {op : LockOp} {h : I3cHandler} {t : BusState}
    {status : Status}
    (hrequest : i3cRequestOwnership io s.i3c bus = (h, .ok)) (howner : io.owner = some .bmc)
    (hlock : i3cBusFlockDevHandlers c io.lock { s with i3c := h } bus op = (t, status)) :
    i3cBusFlock c io s bus op =
      (if status ≠ .ok ∧ op = .ex then (i3cBusFlockDevHandlers c io.release t bus .un).1 else t,
        status) := by
  cases status <;> cases op <;> simp [i3cBusFlock, hrequest, howner, hlock]

/-- With a bus and the ownership settled, a lock only touches the open device files. -/
theorem i3cBusFlock_of_request {io : I3cLockIo} {h : I3cHandler} (op : LockOp)
    (hrequest : i3cRequestOwnership io s.i3c bus = (h, .ok))
    (hbus : h.i3cBus ≠ i3cBusAddressReserved) :
    ∃ t, i3cBusFlock c io s bus op = ({ s with i3c := t },
        if io.owner = some .bmc ∧ ¬ h.FlockFails io.lock.flocks then .ok else .err) ∧
      h.Relocked t := by
  have hlocked := flockDevices_relocked h op io.lock.flocks
  by_cases howner : io.owner = some .bmc
  · have hlock : i3cBusFlockDevHandlers c io.lock { s with i3c := h } bus op =
        ({ s with i3c := h.flockDevices op io.lock.flocks },
          if h.FlockFails io.lock.flocks then .err else .ok) :=
      i3cBusFlockDevHandlers_of_ne _ hbus
    have hrelease : i3cBusFlockDevHandlers c io.release
        { s with i3c := h.flockDevices op io.lock.flocks } bus .un = _ :=
      i3cBusFlockDevHandlers_of_ne _ hbus
    rw [i3cBusFlock_of_locked hrequest howner hlock, hrelease]
    by_cases hfails : h.FlockFails io.lock.flocks
    · cases op with
      | un => exact ⟨_, by simp [howner, hfails], hlocked⟩
      | ex =>
          exact ⟨_, by simp [howner, hfails],
            hlocked.trans (flockDevices_relocked _ .un io.release.flocks)⟩
    · exact ⟨_, by simp [howner, hfails], hlocked⟩
  · refine ⟨h, ?_, .refl h⟩
    simp [i3cBusFlock, hrequest, howner]

theorem i3cBusFlock_of_denied {io : I3cLockIo} {h : I3cHandler} (op : LockOp)
    (hrequest : i3cRequestOwnership io s.i3c bus = (h, .err)) :
    i3cBusFlock c io s bus op = ({ s with i3c := h }, .err) := by
  simp only [i3cBusFlock, hrequest]

theorem devFlock_i2c (io : LockIo) (op : LockOp) (htype : busType c bus = .i2c) :
    devFlock c io s bus op = ({ s with i2c := (i2cBusFlock io.i2c s.i2c bus op).1 },
      (i2cBusFlock io.i2c s.i2c bus op).2) := by
  simp only [devFlock, htype]

theorem devFlock_i3c (io : LockIo) (op : LockOp) (htype : busType c bus = .i3c) :
    devFlock c io s bus op = i3cBusFlock c io.i3c s bus op := by
  simp only [devFlock, htype]

end I3cSpec

end AtScaleDebug
