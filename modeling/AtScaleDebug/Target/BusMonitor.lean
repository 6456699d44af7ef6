import AtScaleDebug.Lib.Machine
import AtScaleDebug.Target.I2cMessages

/-!
What a client may expect of the buses, and when it gets it.

The monitor `watch` follows the events of a session and knows only what the
client asked for: the bus named by the last bus select that succeeded, and for
every queued read or write the bus that was selected when it was queued.
`Attributed` compares it with the default bus and with the device files that the
two handlers hold open.

Selecting a bus is preceded by locking it, and locking already moves a handler
to the bus. `SelectKeeps` is the condition on the state before a bus select
under which the two do not get in each other's way.
-/

namespace AtScaleDebug

section Expected

structure BusWatch where
  configured : UInt8
  named : Option UInt8
  queue : List (I2cMsg × UInt8)

def BusWatch.initial (defaultBus : UInt8) : BusWatch := ⟨defaultBus, none, []⟩

/-- The bus of the last bus select that succeeded, or the configured one. -/
def BusWatch.selected (w : BusWatch) : UInt8 := w.named.getD w.configured

def BusWatch.select (w : BusWatch) (bus : UInt8) (status : Status) : BusWatch :=
  if status = .ok then { w with named := some bus } else w

theorem BusWatch.select_queue (w : BusWatch) (bus : UInt8) (status : Status) :
    (w.select bus status).queue = w.queue := by
  rw [BusWatch.select]
  split <;> rfl

def watch (w : BusWatch) : BusEvent → BusWatch
  | .accepted _ => { w with queue := [] }
  | .select bus _ _ _ status => w.select bus status
  | .queue msg => { w with queue := w.queue ++ [(msg, w.selected)] }
  | .transfer _ _ _ => { w with queue := [] }

/-- The handler in charge of a type of bus holds no device file but those of
`bus`; the single device file of an I2C bus has to be open. -/
def BusState.Holds (s : BusState) (bus : UInt8) : BusType → Prop
  | .i2c => ∃ d ∈ s.i2c.driverHandle, d.bus = bus
  | .i3c => ∀ i, ∀ d ∈ s.i3c.driverHandlers i, d.bus = bus
  | .notAllowed => False

def BusState.Serves (c : BusConfig) (s : BusState) (bus : UInt8) : Prop :=
  s.defaultBus = bus ∧ s.Holds bus (busType c bus)

/-- In addition some device file of the bus is open. -/
def BusState.OnBus (c : BusConfig) (s : BusState) (bus : UInt8) : Prop :=
  s.Serves c bus ∧ (busType c bus = .i3c → s.i3c.Opened)

/-- The default bus, the device files and the queue all refer to the selected
bus; a bus that was named by a bus select has to be open. -/
def Agrees (c : BusConfig) (s : BusState) (w : BusWatch) : Prop :=
  s.Serves c w.selected ∧ (w.named.isSome → s.OnBus c w.selected) ∧
    ∀ q ∈ w.queue, q.2 = w.selected

/-- A message is taken, and every bus select leaves things, with the handlers on
the selected bus; and every transferred command reaches no device but those of
the bus that was selected when it was queued. -/
def Attributed (c : BusConfig) (w : BusWatch) : BusEvent → Prop
  | .accepted s => Agrees c s { w with queue := [] }
  | .select bus _ _ after status => Agrees c after (w.select bus status)
  | .queue _ => True
  | .transfer s device msgs =>
      w.queue.map Prod.fst = msgs ∧
      ∀ q ∈ w.queue, s.Serves c q.2 ∧ ∀ d ∈ device, d.bus = q.2

end Expected

section Condition

/-- The lock of an I2C bus is refused. -/
def I2cRefuses (h : I2cHandler) (bus : UInt8) (io : I2cLockIo) : Prop :=
  io.flocks = false ∨ if h.i2cBus = bus then h.driverHandle.isSome = false else io.opens = false

/-- Some device file opens and then refuses its lock. -/
def I3cOpenIo.Refuses (io : I3cOpenIo) (flocks : Fin i3cMaxDevHandlers → Bool) : Prop :=
  ∃ i, io.devices i = true ∧ flocks i = false

/-- With no ownership token yet, the lock of an I3C bus is refused. -/
def FirstLockRefused (bus : UInt8) (io : I3cLockIo) : Prop :=
  io.reply ≠ .granted ∨ ¬ io.opens.Opens bus ∨ io.owner ≠ some .bmc ∨
    io.opens.Refuses io.lock.flocks

/-- The lock of an I3C bus by a handler with a token but without a bus selects
the bus, with nothing queued, or opens it in neither of its two passes. -/
def ReservedKeeps (w : BusWatch) (bus : UInt8) (io : I3cLockIo) : Prop :=
  if io.lock.opens.Opens bus then w.queue = [] ∧ ¬ io.lock.opens.Refuses io.lock.flocks
  else io.lock.opens.Mapped bus ∨ ¬ io.release.opens.Opens bus

/-- A handler with a token and a bus refuses the lock, moves on to another bus
with nothing queued, or cannot open the bus and has closed none that a bus
select named. -/
def MoveKeeps (c : BusConfig) (w : BusWatch) (s : BusState) (bus : UInt8) (io : SelectIo) : Prop :=
  s.i3c.FlockFails io.lock.i3c.lock.flocks ∨
  if io.i3cOpens.Opens bus then s.i3c.i3cBus ≠ bus ∧ w.queue = []
  else (busType c s.defaultBus = .i3c → w.named = none) ∧ (s.i3c.i3cBus = bus → ¬ s.i3c.Opened)

def I3cKeeps (c : BusConfig) (w : BusWatch) (s : BusState) (bus : UInt8) (io : SelectIo) : Prop :=
  if s.i3c.busToken then
    io.lock.i3c.owner ≠ some .bmc ∨
    if s.i3c.i3cBus = i3cBusAddressReserved then ReservedKeeps w bus io.lock.i3c
    else MoveKeeps c w s bus io
  else FirstLockRefused bus io.lock.i3c

/-- An I2C bus is to refuse its lock, and that only while the default bus is an
I3C bus; there is no condition on a bus that is not allowed. -/
def OtherKeeps (c : BusConfig) (w : BusWatch) (s : BusState) (bus : UInt8) (io : SelectIo) :
    BusType → Prop
  | .notAllowed => True
  | .i2c => busType c s.defaultBus = .i3c ∧ I2cRefuses s.i2c bus io.lock.i2c
  | .i3c => I3cKeeps c w s bus io

/-- A bus select names the default bus or meets the condition for its type. -/
def SelectKeeps (c : BusConfig) (w : BusWatch) (s : BusState) (bus : UInt8) (io : SelectIo) :
    Prop :=
  s.defaultBus = bus ∨ OtherKeeps c w s bus io (busType c bus)

def Keeps (c : BusConfig) (w : BusWatch) : BusEvent → Prop
  | .select bus io before _ _ => SelectKeeps c w before bus io
  | _ => True

end Condition

section Decide
variable (c : BusConfig) (w : BusWatch) (s : BusState) (bus : UInt8)

instance : (type : BusType) → Decidable (s.Holds bus type)
  | .i2c => inferInstanceAs (Decidable (∃ d ∈ s.i2c.driverHandle, d.bus = bus))
  | .i3c => inferInstanceAs (Decidable (∀ i, ∀ d ∈ s.i3c.driverHandlers i, d.bus = bus))
  | .notAllowed => inferInstanceAs (Decidable False)

instance : Decidable (s.Serves c bus) := inferInstanceAs (Decidable (_ ∧ _))

instance : Decidable (s.OnBus c bus) := inferInstanceAs (Decidable (_ ∧ _))

instance : Decidable (Agrees c s w) :=
  inferInstanceAs (Decidable (_ ∧ _ ∧ ∀ q ∈ w.queue, q.2 = w.selected))

instance : (e : BusEvent) → Decidable (Attributed c w e)
  | .accepted _ => inferInstanceAs (Decidable (Agrees _ _ _))
  | .select _ _ _ _ _ => inferInstanceAs (Decidable (Agrees _ _ _))
  | .queue _ => inferInstanceAs (Decidable True)
  | .transfer _ device _ =>
      inferInstanceAs (Decidable (_ ∧ ∀ q ∈ w.queue, _ ∧ ∀ d ∈ device, d.bus = q.2))

instance (h : I2cHandler) (io : I2cLockIo) : Decidable (I2cRefuses h bus io) :=
  inferInstanceAs (Decidable (_ ∨
    if h.i2cBus = bus then h.driverHandle.isSome = false else io.opens = false))

instance (io : I3cOpenIo) (flocks : Fin i3cMaxDevHandlers → Bool) :
    Decidable (io.Refuses flocks) := inferInstanceAs (Decidable (∃ _, _))

instance (io : I3cLockIo) : Decidable (FirstLockRefused bus io) :=
  inferInstanceAs (Decidable (_ ∨ _ ∨ _ ∨ _))

instance (io : I3cLockIo) : Decidable (ReservedKeeps w bus io) :=
  inferInstanceAs (Decidable (if io.lock.opens.Opens bus then _ ∧ _ else _ ∨ _))

instance (io : SelectIo) : Decidable (MoveKeeps c w s bus io) :=
  inferInstanceAs (Decidable (_ ∨ if io.i3cOpens.Opens bus then _ ∧ _ else (_ → _) ∧ (_ → _)))

instance (io : SelectIo) : Decidable (I3cKeeps c w s bus io) :=
  inferInstanceAs (Decidable (if s.i3c.busToken then
    _ ∨ if s.i3c.i3cBus = i3cBusAddressReserved then ReservedKeeps w bus io.lock.i3c
      else MoveKeeps c w s bus io
    else FirstLockRefused bus io.lock.i3c))

instance (io : SelectIo) : (type : BusType) → Decidable (OtherKeeps c w s bus io type)
  | .notAllowed => inferInstanceAs (Decidable True)
  | .i2c => inferInstanceAs (Decidable (_ ∧ _))
  | .i3c => inferInstanceAs (Decidable (I3cKeeps c w s bus io))

instance (io : SelectIo) : Decidable (SelectKeeps c w s bus io) :=
  inferInstanceAs (Decidable (_ ∨ _))

instance : (e : BusEvent) → Decidable (Keeps c w e)
  | .select _ _ _ _ _ => inferInstanceAs (Decidable (SelectKeeps _ _ _ _ _))
  | .accepted _ | .queue _ | .transfer _ _ _ => inferInstanceAs (Decidable True)

end Decide

end AtScaleDebug
