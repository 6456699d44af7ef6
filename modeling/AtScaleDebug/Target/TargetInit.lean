import AtScaleDebug.Target.TargetGpio
import AtScaleDebug.Lib.Ledger

/-!
Set-up and release of the pins. Every client gets a handle of its own, of which the pins
are set up with its first message; the handle is released with the client, also when no
try to set it up has worked. A pin holds the chip of its line or the value file of its
number; the ledger of all clients says which of these are never given back.
-/

namespace AtScaleDebug

open Ledger

section SetUp

/-- What the pins hold of the system. -/
inductive PinResource where
  | chip (chip : Nat)
  | file (fd : Nat)
  deriving DecidableEq, Repr

/-- The line of a pin: where it is found, the chip that is opened for it, whether the chip
has it and it can be requested, and the descriptor of its events. -/
structure GpiodIo where
  found : Option Nat
  chip : Option Nat
  line : Bool
  requested : Bool
  eventFd : Option Nat

/-- The value file of a pin: opened at once, or when its number has been written to the
export file. -/
structure ExportIo where
  opened : Option Nat
  exportOpened : Bool
  written : Bool
  reopened : Option Nat

structure SysfsIo where
  base : Option (List UInt8)
  exported : ExportIo
  activeLow : Bool
  direction : Bool
  edge : Bool
  cleared : Option UInt8

/-- What happens when the pins are turned back into inputs. -/
structure PinReleaseIo where
  directionSet : Bool
  unexported : Bool
  inputRequested : Bool

structure PinSetupIo where
  gpiod : GpiodIo
  sysfs : SysfsIo
  release : PinReleaseIo

/-- `gpio_export`: the descriptor, none where it is -1 and the status an error. -/
def gpioExport (io : ExportIo) : Option Nat :=
  match io.opened with
  | some fd => some fd
  | none => if io.exportOpened && io.written then io.reopened else none

/-- `find_gpio_base`: the digits of the file, whatever stands between them. -/
def findGpioBase (base : Option (List UInt8)) : Option Nat :=
  base.map fun bytes => CString.decimal (bytes.filter CString.isdigit)

def gpioOffsets : List (String × Nat) :=
  [("TCK_MUX_SEL", 213), ("PREQ_N", 212), ("PRDY_N", 47), ("RSMRST_N", 146),
    ("SIO_POWER_GOOD", 201), ("PLTRST_N", 46), ("SYSPWROK", 145), ("PWR_DEBUG_N", 135),
    ("DEBUG_EN_N", 37), ("XDP_PRST_N", 137)]

def findGpio (name : List UInt8) (base : Option (List UInt8)) : Option Nat :=
  (findGpioBase base).bind fun gpioBase =>
    (gpioOffsets.find? fun entry => CString.asciiBytes entry.1 = name).map fun entry =>
      gpioBase + entry.2

/-- `initialize_gpio`. The value file stays open when a later step fails. -/
def initializeGpio (g : TargetControlGpio) (io : SysfsIo) :
    TargetControlGpio × Status × List (Event PinResource) :=
  match findGpio g.name io.base with
  | none => (g, .err, [])
  | some num =>
      match gpioExport io.exported with
      | none => ({ g with fd := none }, .err, [])
      | some fd =>
          if io.activeLow && io.direction && io.edge then
            ({ g with fd := some fd, number := num }, .ok, [.acquire (.file fd)])
          else ({ g with fd := some fd }, .err, [.acquire (.file fd)])

/-- The line can report events. -/
def TargetControlGpio.HasEvents (g : TargetControlGpio) : Prop :=
  g.direction = .input ∧ g.edge ≠ .none

instance (g : TargetControlGpio) : Decidable g.HasEvents :=
  inferInstanceAs (Decidable (_ ∧ _))

/-- `initialize_gpiod`. The chip is closed again when it does not have the line or the line
cannot be requested, and stays open when its events have no descriptor. -/
def initializeGpiod (g : TargetControlGpio) (io : GpiodIo) :
    TargetControlGpio × Status × List (Event PinResource) :=
  match io.found with
  | none => (g, .err, [])
  | some offset =>
      match io.chip with
      | none => ({ g with chip := none }, .err, [])
      | some chip =>
          let opened : TargetControlGpio := { g with chip := some chip }
          if !io.line || !io.requested then
            (opened, .err, [.acquire (.chip chip), .release (.chip chip)])
          else if g.HasEvents then
            match io.eventFd with
            | none => ({ opened with fd := none }, .err, [.acquire (.chip chip)])
            | some fd =>
                ({ opened with fd := some fd, number := offset }, .ok, [.acquire (.chip chip)])
          else ({ opened with number := offset }, .ok, [.acquire (.chip chip)])

/-- One pin in the loop of `initialize_gpios`, and whether it counts as configured. A pin
that cannot be set up loses its type for good. -/
def initializePin (g : TargetControlGpio) (io : PinSetupIo) :
    TargetControlGpio × Bool × List (Event PinResource) :=
  match g.type with
  | .gpio =>
      match initializeGpio g io.sysfs with
      | (g, .ok, events) => (g, io.sysfs.cleared.isSome, events)
      | (g, _, events) => ({ g with type := .none }, false, events)
  | .gpiod =>
      match initializeGpiod g io.gpiod with
      | (g, .ok, events) => (g, true, events)
      | (g, _, events) => ({ g with type := .none }, false, events)
  | _ => (g, false, [])

/-- The last bus handle keeps what it had before when there is none. -/
def dbusInitializePtr (dbus : Option DbusHandle) (io : DbusInitIo) : Option DbusHandle × Status :=
  match dbus with
  | none => (none, .err)
  | some h => ((dbusInitialize h io).map some id)

/-- One pin in the loop of `deinitialize_gpios`. -/
def deinitializePin (g : TargetControlGpio) (io : PinReleaseIo) :
    Status × List (Event PinResource) :=
  match g.type with
  | .gpio => (if io.directionSet && io.unexported then .ok else .err, [])
  | .gpiod =>
      (if io.inputRequested then .ok else .err,
        (g.chip.map fun chip => Event.release (.chip chip)).toList)
  | _ => (.ok, [])

/-- What a try to set the target up meets. -/
structure TargetInitIo where
  pins : TargetControlGpios → PinSetupIo
  levels : PinIo
  xdpFailEnable : Bool
  dbus : DbusInitIo

def initializeGpios (t : TargetControlHandle) (io : TargetControlGpios → PinSetupIo) :
    TargetControlHandle × Status × List (Event PinResource) :=
  ({ t with gpios := fun pin => (initializePin (t.gpios pin) (io pin)).1 },
    if TargetControlGpios.all.any fun pin => (initializePin (t.gpios pin) (io pin)).2.1 then .ok
    else .err,
    TargetControlGpios.all.flatMap fun pin => (initializePin (t.gpios pin) (io pin)).2.2)

def deinitializeGpios (t : TargetControlHandle) (io : TargetControlGpios → PinReleaseIo) :
    Status × List (Event PinResource) :=
  (if TargetControlGpios.all.all fun pin => (deinitializePin (t.gpios pin) (io pin)).1 = .ok then
    .ok else .err,
    TargetControlGpios.all.flatMap fun pin => (deinitializePin (t.gpios pin) (io pin)).2)

/-- What `target_initialize` does once the pins are set up: the handle and its status. -/
def initializeTarget (t : TargetControlHandle) (io : TargetInitIo) : TargetControlHandle × Status :=
  match readPin t .bmcXdpPrstIn io.levels 0 with
  | (.ok, value) =>
      let t := { t with xdpPresent := t.xdpPresent || decide (value = 1) }
      if value = 1 ∧ io.xdpFailEnable = true then (t, .err)
      else if (writePin t .bmcDebugEnN io.levels 1).1 ≠ .ok then (t, .err)
      else
        let (dbus, status) := dbusInitializePtr t.dbus io.dbus
        ({ t with dbus }, status)
  | (status, _) => (t, status)

def targetInitialize (t : TargetControlHandle) (io : TargetInitIo) :
    TargetControlHandle × Status × List (Event PinResource) :=
  if t.initialized then (t, .err, [])
  else
    match initializeGpios t io.pins with
    | (t, .ok, events) =>
        match initializeTarget t io with
        | (t, .ok) => ({ t with initialized := true }, .ok, events)
        | (t, status) =>
            (t, status, events ++ (deinitializeGpios t fun pin => (io.pins pin).release).2)
    | (t, status, events) =>
        (t, status, events ++ (deinitializeGpios t fun pin => (io.pins pin).release).2)

/-- One pin in the loop of `target_deinitialize` that closes the value files. -/
def closeFile (g : TargetControlGpio) : List (Event PinResource) :=
  if g.type = .gpio then (g.fd.map fun fd => Event.release (.file fd)).toList else []

/-- `target_deinitialize`, of which the handle is freed at once. -/
def targetRelease (t : TargetControlHandle) (io : TargetControlGpios → PinReleaseIo) :
    Status × List (Event PinResource) :=
  if !t.initialized then (.err, [])
  else
    ((deinitializeGpios t io).1,
      (TargetControlGpios.all.flatMap fun pin => closeFile (t.gpios pin)) ++
        (deinitializeGpios t io).2)

end SetUp

section Held

def TargetControlGpio.chipHeld (g : TargetControlGpio) : Multiset PinResource :=
  if g.type = .gpiod then g.chip.elim 0 fun chip => {.chip chip} else 0

def TargetControlGpio.fileHeld (g : TargetControlGpio) : Multiset PinResource :=
  if g.type = .gpio then g.fd.elim 0 fun fd => {.file fd} else 0

/-- What a pin holds that is set up. -/
def TargetControlGpio.held (g : TargetControlGpio) : Multiset PinResource :=
  g.chipHeld + g.fileHeld

/-- The value file of a pin that is opened and then not set up. -/
def SysfsIo.loss (io : SysfsIo) (name : List UInt8) : Multiset PinResource :=
  if (findGpio name io.base).isSome && !(io.activeLow && io.direction && io.edge) then
    (gpioExport io.exported).elim 0 fun fd => {.file fd}
  else 0

/-- The chip of a line whose events have no descriptor. -/
def GpiodIo.loss (io : GpiodIo) (g : TargetControlGpio) : Multiset PinResource :=
  if io.found.isSome && io.line && io.requested && io.eventFd.isNone && decide g.HasEvents then
    io.chip.elim 0 fun chip => {.chip chip}
  else 0

def pinLoss (g : TargetControlGpio) (io : PinSetupIo) : Multiset PinResource :=
  match g.type with
  | .gpio => io.sysfs.loss g.name
  | .gpiod => io.gpiod.loss g
  | _ => 0

theorem held_of_none {g : TargetControlGpio} (h : g.type = .none) : g.held = 0 := by
  simp only [TargetControlGpio.held, TargetControlGpio.chipHeld, TargetControlGpio.fileHeld, h,
    reduceCtorEq, if_false, add_zero]

theorem held_of_file {g : TargetControlGpio} {fd : Nat} (htype : g.type = .gpio)
    (hfd : g.fd = some fd) : g.held = {.file fd} := by
  simp only [TargetControlGpio.held, TargetControlGpio.chipHeld, TargetControlGpio.fileHeld,
    htype, hfd, reduceCtorEq, if_false, if_true, Option.elim_some, zero_add]

theorem held_of_chip {g : TargetControlGpio} {chip : Nat} (htype : g.type = .gpiod)
    (hchip : g.chip = some chip) : g.held = {.chip chip} := by
  simp only [TargetControlGpio.held, TargetControlGpio.chipHeld, TargetControlGpio.fileHeld,
    htype, hchip, reduceCtorEq, if_false, if_true, Option.elim_some, add_zero]

/-- A pin is set up and holds what was acquired for it, or fails and holds nothing. -/
inductive SetUpOutcome (type : PinType) (loss : Multiset PinResource) :
    TargetControlGpio × Status × List (Event PinResource) → Prop
  | configured {g : TargetControlGpio} {r : PinResource} (typed : g.type = type)
      (held : g.held = {r}) (kept : loss = 0) : SetUpOutcome type loss (g, .ok, [.acquire r])
  | failed {g : TargetControlGpio} {events : List (Event PinResource)}
      (settled : settle 0 events = some loss) : SetUpOutcome type loss (g, .err, events)

theorem initializeGpio_outcome {g : TargetControlGpio} (io : SysfsIo) (htype : g.type = .gpio) :
    SetUpOutcome .gpio (io.loss g.name) (initializeGpio g io) := by
  rw [initializeGpio, SysfsIo.loss]
  cases findGpio g.name io.base with
  | none => exact .failed rfl
  | some num =>
      cases gpioExport io.exported with
      | none => exact .failed (congrArg some (ite_self 0).symm)
      | some fd =>
          cases io.activeLow && io.direction && io.edge with
          | true => exact .configured htype (held_of_file htype rfl) rfl
          | false => exact .failed rfl

theorem initializeGpiod_outcome {g : TargetControlGpio} (io : GpiodIo) (htype : g.type = .gpiod) :
    SetUpOutcome .gpiod (io.loss g) (initializeGpiod g io) := by
  rw [initializeGpiod, GpiodIo.loss]
  cases io.found with
  | none => exact .failed rfl
  | some offset =>
      cases io.chip with
      | none => exact .failed (congrArg some (ite_self 0).symm)
      | some chip =>
          have hreturned := settle_release 0 (PinResource.chip chip) []
          cases io.line with
          | false => exact .failed hreturned
          | true =>
              cases io.requested with
              | false => exact .failed hreturned
              | true =>
                  by_cases hevents : g.HasEvents
                  · rw [decide_eq_true hevents]
                    cases io.eventFd with
                    | none =>
                        simp only [if_pos hevents]
                        exact .failed rfl
                    | some fd =>
                        simp only [if_pos hevents]
                        exact .configured htype (held_of_chip htype rfl) rfl
                  · rw [decide_eq_false hevents, Bool.and_false]
                    simp only [if_neg hevents]
                    exact .configured htype (held_of_chip htype rfl) rfl

theorem settle_initializePin (g : TargetControlGpio) (io : PinSetupIo) :
    settle 0 (initializePin g io).2.2 = some ((initializePin g io).1.held + pinLoss g io) := by
  rw [initializePin, pinLoss]
  cases htype : g.type with
  | gpio =>
      have houtcome := initializeGpio_outcome io.sysfs htype
      dsimp only
      generalize initializeGpio g io.sysfs = result at houtcome
      cases houtcome with
      | configured _ hheld hkept =>
          dsimp only
          rw [hheld, hkept]
          rfl
      | failed hsettled =>
          dsimp only
          rw [held_of_none rfl, zero_add]
          exact hsettled
  | gpiod =>
      have houtcome := initializeGpiod_outcome io.gpiod htype
      dsimp only
      generalize initializeGpiod g io.gpiod = result at houtcome
      cases houtcome with
      | configured _ hheld hkept =>
          dsimp only
          rw [hheld, hkept]
          rfl
      | failed hsettled =>
          dsimp only
          rw [held_of_none rfl, zero_add]
          exact hsettled
  | none =>
      dsimp only
      rw [held_of_none htype]
      rfl
  | dbus =>
      have hheld : g.held = 0 := by
        simp only [TargetControlGpio.held, TargetControlGpio.chipHeld,
          TargetControlGpio.fileHeld, htype, reduceCtorEq, if_false, add_zero]
      dsimp only
      rw [hheld]
      rfl

/-- A line gives its chip back. -/
theorem settle_deinitializePin (g : TargetControlGpio) (io : PinReleaseIo) :
    settle g.chipHeld (deinitializePin g io).2 = some 0 := by
  rw [deinitializePin, TargetControlGpio.chipHeld]
  cases g.type with
  | gpiod =>
      cases g.chip with
      | none => rfl
      | some chip => exact settle_release 0 (PinResource.chip chip) []
  | none | gpio | dbus => rfl

/-- A pin's value file is closed. -/
theorem settle_closeFile (g : TargetControlGpio) :
    settle g.fileHeld (closeFile g) = some 0 := by
  rw [closeFile, TargetControlGpio.fileHeld]
  split
  · cases g.fd with
    | none => rfl
    | some fd => exact settle_release 0 (PinResource.file fd) []
  · rfl

end Held

section Attempts

variable {t : TargetControlHandle} {io : TargetInitIo}

theorem initializeTarget_frame (t : TargetControlHandle) (io : TargetInitIo) :
    (initializeTarget t io).1.gpios = t.gpios ∧
      (initializeTarget t io).1.initialized = t.initialized := by
  rw [initializeTarget]
  split
  · dsimp only
    split
    · exact ⟨rfl, rfl⟩
    · split
      · exact ⟨rfl, rfl⟩
      · exact ⟨rfl, rfl⟩
  · exact ⟨rfl, rfl⟩

/-- What a try does: nothing to a target that is set up, and else the loop over the pins,
with the loop that releases them behind it unless everything worked. -/
theorem targetInitialize_cases (t : TargetControlHandle) (io : TargetInitIo) :
    (t.initialized = true ∧ targetInitialize t io = (t, .err, [])) ∨
    t.initialized = false ∧ ∃ t' : TargetControlHandle,
      t'.gpios = (initializeGpios t io.pins).1.gpios ∧
        ((t'.initialized = true ∧
            targetInitialize t io = (t', .ok, (initializeGpios t io.pins).2.2)) ∨
          (t'.initialized = false ∧ ∃ status, status ≠ .ok ∧
            targetInitialize t io = (t', status, (initializeGpios t io.pins).2.2 ++
              (deinitializeGpios t' fun pin => (io.pins pin).release).2))) := by
  cases hinit : t.initialized with
  | true => exact .inl ⟨rfl, by simp only [targetInitialize, hinit, if_true]⟩
  | false =>
      refine .inr ⟨rfl, ?_⟩
      have hpins : (initializeGpios t io.pins).1.initialized = false := hinit
      simp only [targetInitialize, hinit, Bool.false_eq_true, if_false]
      generalize initializeGpios t io.pins = pins at hpins
      obtain ⟨s, status, events⟩ := pins
      cases status with
      | err => exact ⟨s, rfl, .inr ⟨hpins, .err, by decide, rfl⟩⟩
      | timeout => exact ⟨s, rfl, .inr ⟨hpins, .timeout, by decide, rfl⟩⟩
      | ok =>
          have hframe := initializeTarget_frame s io
          dsimp only
          generalize initializeTarget s io = target at hframe
          obtain ⟨t', status⟩ := target
          cases status with
          | ok => exact ⟨{ t' with initialized := true }, hframe.1, .inl ⟨rfl, rfl⟩⟩
          | err => exact ⟨t', hframe.1, .inr ⟨hframe.2.trans hpins, .err, by decide, rfl⟩⟩
          | timeout =>
              exact ⟨t', hframe.1, .inr ⟨hframe.2.trans hpins, .timeout, by decide, rfl⟩⟩

theorem settle_initializeGpios (t : TargetControlHandle) (io : TargetControlGpios → PinSetupIo) :
    settle 0 (initializeGpios t io).2.2 =
      some ((TargetControlGpios.all.map fun pin => ((initializeGpios t io).1.gpios pin).held).sum +
        (TargetControlGpios.all.map fun pin => pinLoss (t.gpios pin) (io pin)).sum) := by
  have hpins := settle_flatMap TargetControlGpios.all
    (fun pin _ => settle_initializePin (t.gpios pin) (io pin))
  rw [List.sum_map_zero, List.sum_map_add] at hpins
  exact hpins

theorem settle_deinitializeGpios (t : TargetControlHandle)
    (io : TargetControlGpios → PinReleaseIo) :
    settle (TargetControlGpios.all.map fun pin => (t.gpios pin).chipHeld).sum
      (deinitializeGpios t io).2 = some 0 := by
  have hpins := settle_flatMap TargetControlGpios.all
    (fun pin _ => settle_deinitializePin (t.gpios pin) (io pin))
  rw [List.sum_map_zero] at hpins
  exact hpins

theorem settle_closeFiles (t : TargetControlHandle) :
    settle (TargetControlGpios.all.map fun pin => (t.gpios pin).fileHeld).sum
      (TargetControlGpios.all.flatMap fun pin => closeFile (t.gpios pin)) = some 0 := by
  have hpins := settle_flatMap TargetControlGpios.all
    (fun pin _ => settle_closeFile (t.gpios pin))
  rw [List.sum_map_zero] at hpins
  exact hpins

theorem sum_held (t : TargetControlHandle) :
    (TargetControlGpios.all.map fun pin => (t.gpios pin).held).sum =
      (TargetControlGpios.all.map fun pin => (t.gpios pin).chipHeld).sum +
        (TargetControlGpios.all.map fun pin => (t.gpios pin).fileHeld).sum := List.sum_map_add

/-- The machine of the tries that a handle is used for. -/
def attempt (t : TargetControlHandle) (io : TargetInitIo) : TargetControlHandle :=
  (targetInitialize t io).1

def attemptEvents (t : TargetControlHandle) (io : TargetInitIo) : List (Event PinResource) :=
  (targetInitialize t io).2.2

/-- What the handle can still release: nothing when it is not set up. -/
def TargetControlHandle.held (t : TargetControlHandle) : Multiset PinResource :=
  if t.initialized then (TargetControlGpios.all.map fun pin => (t.gpios pin).held).sum else 0

/-- What a try loses: what the pins lose on the way, and the value files if it fails. -/
def attemptLoss (t : TargetControlHandle) (io : TargetInitIo) : Multiset PinResource :=
  if t.initialized then 0
  else
    (TargetControlGpios.all.map fun pin => pinLoss (t.gpios pin) (io.pins pin)).sum +
      if (attempt t io).initialized then 0
      else (TargetControlGpios.all.map fun pin => ((attempt t io).gpios pin).fileHeld).sum

theorem settle_attempt (t : TargetControlHandle) (io : TargetInitIo) :
    settle t.held (attemptEvents t io) = some ((attempt t io).held + attemptLoss t io) := by
  have hsetup := settle_initializeGpios t io.pins
  cases targetInitialize_cases t io with
  | inl hset =>
      simp only [attemptEvents, attempt, attemptLoss, hset.1, hset.2, if_true, add_zero,
        settle_nil]
  | inr hunset =>
      obtain ⟨hinit, t', hgpios, htry⟩ := hunset
      rw [← hgpios] at hsetup
      cases htry with
      | inl hok =>
          simp only [attemptEvents, attempt, attemptLoss, TargetControlHandle.held, hinit, hok.1,
            hok.2, Bool.false_eq_true, if_false, if_true, add_zero]
          exact hsetup
      | inr hfailed =>
          obtain ⟨hinit', status, _, htry⟩ := hfailed
          simp only [attemptEvents, attempt, attemptLoss, TargetControlHandle.held, hinit, hinit',
            htry, Bool.false_eq_true, if_false, zero_add]
          have hreturn := settle_deinitializeGpios t' fun pin => (io.pins pin).release
          have hframe := settle_frame hreturn
            ((TargetControlGpios.all.map fun pin => pinLoss (t.gpios pin) (io.pins pin)).sum +
              (TargetControlGpios.all.map fun pin => (t'.gpios pin).fileHeld).sum)
          apply settle_trans hsetup
          rw [sum_held, add_assoc, add_comm (TargetControlGpios.all.map _).sum (List.sum _), hframe,
            zero_add]

/-- A value file is closed and a chip given back when the set-up target is released. -/
theorem settle_targetRelease (t : TargetControlHandle) (io : TargetControlGpios → PinReleaseIo) :
    settle t.held (targetRelease t io).2 = some 0 := by
  rw [TargetControlHandle.held, targetRelease]
  cases t.initialized with
  | false => rfl
  | true =>
      have hboth := settle_both (settle_closeFiles t) (settle_deinitializeGpios t io)
      simp only [Bool.not_true, Bool.false_eq_true, if_false, if_true, sum_held]
      rw [add_comm]
      exact hboth

/-- Every resource of a handle's life, from its creation to its release: none is returned
twice, and what is not returned is what the tries lost. -/
theorem settle_life (c : PlatformConfig) (dbus : Option DbusHandle) (ios : List TargetInitIo)
    (release : TargetControlGpios → PinReleaseIo) :
    settle 0 (emitted attempt attemptEvents (targetHandler c dbus) ios ++
        (targetRelease (Machine.run attempt (targetHandler c dbus) ios) release).2) =
      some (lost attempt attemptLoss (targetHandler c dbus) ios) := by
  have hrun := settle_run (I := fun _ : TargetControlHandle => True)
    (fun _ _ _ => trivial) (fun t io _ => settle_attempt t io) (s := targetHandler c dbus)
    trivial ios
  have hrelease := settle_targetRelease (Machine.run attempt (targetHandler c dbus) ios) release
  have hframe := settle_frame hrelease (lost attempt attemptLoss (targetHandler c dbus) ios)
  rw [zero_add] at hframe
  exact settle_trans hrun hframe

end Attempts

section Loss

variable {t : TargetControlHandle} {io : TargetInitIo}

/-- A line that was requested gets a descriptor for its events. -/
def GpiodIo.Keeps (io : GpiodIo) (g : TargetControlGpio) : Prop :=
  io.found.isSome → io.chip.isSome → io.line = true → io.requested = true → g.HasEvents →
    io.eventFd.isSome

/-- A value file that was opened is set up. -/
def SysfsIo.Keeps (io : SysfsIo) (name : List UInt8) : Prop :=
  (findGpio name io.base).isSome → (gpioExport io.exported).isSome →
    io.activeLow = true ∧ io.direction = true ∧ io.edge = true

def PinKept (g : TargetControlGpio) (io : PinSetupIo) : Prop :=
  match g.type with
  | .gpio => io.sysfs.Keeps g.name
  | .gpiod => io.gpiod.Keeps g
  | _ => True

theorem elim_eq_zero_iff {α : Type} (o : Option α) (of : α → PinResource) :
    (o.elim (0 : Multiset PinResource) fun a => {of a}) = 0 ↔ o = none := by
  cases o with
  | none => exact iff_of_true rfl rfl
  | some a => exact iff_of_false (Multiset.singleton_ne_zero (of a)) nofun

theorem sysfs_loss_eq_zero_iff (io : SysfsIo) (name : List UInt8) :
    io.loss name = 0 ↔ io.Keeps name := by
  rw [SysfsIo.loss, SysfsIo.Keeps]
  cases findGpio name io.base with
  | none => exact iff_of_true rfl nofun
  | some num =>
      cases hsteps : io.activeLow && io.direction && io.edge with
      | true =>
          simp only [Bool.and_eq_true, and_assoc] at hsteps
          exact iff_of_true rfl fun _ _ => hsteps
      | false =>
          have hnot : ¬ (io.activeLow = true ∧ io.direction = true ∧ io.edge = true) := by
            rw [← and_assoc, ← Bool.and_eq_true, ← Bool.and_eq_true, hsteps]
            decide
          simp only [Option.isSome_some, Bool.not_false, Bool.and_self, if_true,
            elim_eq_zero_iff, hnot, true_implies, imp_false, Option.isSome_iff_ne_none, not_not]

theorem gpiod_loss_eq_zero_iff (io : GpiodIo) (g : TargetControlGpio) :
    io.loss g = 0 ↔ io.Keeps g := by
  rw [GpiodIo.loss, GpiodIo.Keeps]
  by_cases hlost : (io.found.isSome && io.line && io.requested && io.eventFd.isNone &&
      decide g.HasEvents) = true
  · rw [if_pos hlost, elim_eq_zero_iff]
    simp only [Bool.and_eq_true, decide_eq_true_eq, Option.isNone_iff_eq_none] at hlost
    obtain ⟨⟨⟨⟨hfound, hline⟩, hrequested⟩, hfd⟩, hevents⟩ := hlost
    simp only [hfound, hline, hrequested, hfd, hevents, true_implies,
      Option.isSome_iff_ne_none, ne_eq, not_true_eq_false, imp_false, not_not]
  · rw [if_neg hlost]
    refine iff_of_true rfl fun hfound _ hline hrequested hevents => ?_
    rw [hfound, hline, hrequested, decide_eq_true hevents] at hlost
    cases hfd : io.eventFd with
    | none =>
        rw [hfd] at hlost
        exact absurd rfl hlost
    | some fd => rfl

theorem pinLoss_eq_zero_iff (g : TargetControlGpio) (io : PinSetupIo) :
    pinLoss g io = 0 ↔ PinKept g io := by
  rw [pinLoss, PinKept]
  cases g.type with
  | gpio => exact sysfs_loss_eq_zero_iff io.sysfs g.name
  | gpiod => exact gpiod_loss_eq_zero_iff io.gpiod g
  | none | dbus => exact iff_of_true rfl trivial

/-- Of a pin that is set up the value file is open, if it has that type. -/
theorem initializePin_fileHeld (g : TargetControlGpio) (io : PinSetupIo) :
    (initializePin g io).1.fileHeld = 0 ↔ (initializePin g io).1.type ≠ .gpio := by
  have hother {g : TargetControlGpio} (h : g.type ≠ .gpio) : g.fileHeld = 0 ↔ g.type ≠ .gpio :=
    iff_of_true (if_neg h) h
  rw [initializePin]
  cases htype : g.type with
  | gpio =>
      have houtcome := initializeGpio_outcome io.sysfs htype
      dsimp only
      generalize initializeGpio g io.sysfs = result at houtcome
      cases houtcome with
      | @configured g' r htyped hheld hkept =>
          dsimp only
          have hchip : g'.chipHeld = 0 := if_neg (by rw [htyped]; decide)
          rw [TargetControlGpio.held, hchip, zero_add] at hheld
          rw [hheld, htyped]
          exact iff_of_false (Multiset.singleton_ne_zero r) (fun hne => hne rfl)
      | failed _ => exact hother nofun
  | gpiod =>
      have houtcome := initializeGpiod_outcome io.gpiod htype
      dsimp only
      generalize initializeGpiod g io.gpiod = result at houtcome
      cases houtcome with
      | configured htyped _ _ => exact hother (by dsimp only; rw [htyped]; decide)
      | failed _ => exact hother nofun
  | none => exact hother (by dsimp only; rw [htype]; decide)
  | dbus => exact hother (by dsimp only; rw [htype]; decide)

/-- A try loses nothing: no pin does, and it works or leaves no value file open. -/
def TryKept (t : TargetControlHandle) (io : TargetInitIo) : Prop :=
  t.initialized = true ∨
    (∀ pin, PinKept (t.gpios pin) (io.pins pin)) ∧
      ((attempt t io).initialized = true ∨ ∀ pin, ((attempt t io).gpios pin).type ≠ .gpio)

theorem attempt_gpios {t : TargetControlHandle} {io : TargetInitIo} (h : t.initialized = false)
    (pin : TargetControlGpios) :
    (attempt t io).gpios pin = (initializePin (t.gpios pin) (io.pins pin)).1 := by
  rw [attempt]
  cases targetInitialize_cases t io with
  | inl hset =>
      rw [h] at hset
      cases hset.1
  | inr hunset =>
      obtain ⟨_, t', hgpios, htry⟩ := hunset
      have hpin : t'.gpios pin = (initializePin (t.gpios pin) (io.pins pin)).1 :=
        congrFun hgpios pin
      cases htry with
      | inl hok =>
          rw [hok.2]
          exact hpin
      | inr hfailed =>
          obtain ⟨_, status, _, htry⟩ := hfailed
          rw [htry]
          exact hpin

theorem sum_pins_eq_zero_iff (f : TargetControlGpios → Multiset PinResource) :
    (TargetControlGpios.all.map f).sum = 0 ↔ ∀ pin, f pin = 0 := by
  rw [List.sum_eq_zero_iff, List.forall_mem_map]
  exact ⟨fun h pin => h pin (TargetControlGpios.mem_all pin), fun h pin _ => h pin⟩

theorem attemptLoss_eq_zero_iff (t : TargetControlHandle) (io : TargetInitIo) :
    attemptLoss t io = 0 ↔ TryKept t io := by
  rw [attemptLoss, TryKept]
  cases hinit : t.initialized with
  | true => exact iff_of_true rfl (.inl rfl)
  | false =>
      have hfiles : (TargetControlGpios.all.map fun pin =>
          ((attempt t io).gpios pin).fileHeld).sum = 0 ↔
            ∀ pin, ((attempt t io).gpios pin).type ≠ .gpio := by
        rw [sum_pins_eq_zero_iff]
        apply forall_congr'
        intro pin
        rw [attempt_gpios hinit pin]
        exact initializePin_fileHeld _ _
      simp only [Bool.false_eq_true, if_false, false_or, add_eq_zero, sum_pins_eq_zero_iff,
        pinLoss_eq_zero_iff]
      apply and_congr_right
      intro _
      cases (attempt t io).initialized with
      | true => exact iff_of_true rfl (.inl rfl)
      | false =>
          simp only [Bool.false_eq_true, if_false, false_or]
          exact hfiles

/-- The life of a handle: what it is created with, the tries to set it up, and how the pins
are released. -/
structure TargetLife where
  config : PlatformConfig
  dbus : Option DbusHandle
  tries : List TargetInitIo
  release : TargetControlGpios → PinReleaseIo

def TargetLife.events (life : TargetLife) : List (Event PinResource) :=
  emitted attempt attemptEvents (targetHandler life.config life.dbus) life.tries ++
    (targetRelease (Machine.run attempt (targetHandler life.config life.dbus) life.tries)
      life.release).2

def TargetLife.loss (life : TargetLife) : Multiset PinResource :=
  lost attempt attemptLoss (targetHandler life.config life.dbus) life.tries

theorem settle_lives (lives : List TargetLife) :
    settle 0 (lives.flatMap TargetLife.events) = some (lives.map TargetLife.loss).sum := by
  have hlives := settle_flatMap lives
    (fun life _ => settle_life life.config life.dbus life.tries life.release)
  rw [List.sum_map_zero] at hlives
  exact hlives

/-- However many clients there are, no chip and no value file is returned twice, and all
are returned if and only if every try to set a target up loses nothing. -/
theorem pins_returned_iff (lives : List TargetLife) :
    (settle 0 (lives.flatMap TargetLife.events)).isSome ∧
      (settle 0 (lives.flatMap TargetLife.events) = some 0 ↔
        ∀ life ∈ lives,
          Machine.Meets attempt TryKept (targetHandler life.config life.dbus) life.tries) := by
  rw [settle_lives]
  refine ⟨rfl, ?_⟩
  rw [Option.some.injEq, List.sum_eq_zero_iff, List.forall_mem_map]
  apply forall₂_congr
  intro life _
  rw [TargetLife.loss, lost_eq_zero_iff]
  simp only [attemptLoss_eq_zero_iff]

end Loss

section Recovery

variable {t : TargetControlHandle} {io : TargetInitIo}

/-- What the set-up of a pin leaves alone. -/
structure PinFrame (g g' : TargetControlGpio) : Prop where
  name : g'.name = g.name
  read : g'.read = g.read
  write : g'.write = g.write
  handler : g'.handler = g.handler
  direction : g'.direction = g.direction
  edge : g'.edge = g.edge

theorem PinFrame.refl (g : TargetControlGpio) : PinFrame g g := ⟨rfl, rfl, rfl, rfl, rfl, rfl⟩

theorem initializeGpio_frame (g : TargetControlGpio) (io : SysfsIo) :
    PinFrame g (initializeGpio g io).1 ∧ (initializeGpio g io).1.type = g.type := by
  have hself : PinFrame g g := PinFrame.refl g
  rw [initializeGpio]
  cases findGpio g.name io.base with
  | none => exact ⟨hself, rfl⟩
  | some num =>
      cases gpioExport io.exported with
      | none => exact ⟨⟨rfl, rfl, rfl, rfl, rfl, rfl⟩, rfl⟩
      | some fd =>
          cases io.activeLow && io.direction && io.edge with
          | true => exact ⟨⟨rfl, rfl, rfl, rfl, rfl, rfl⟩, rfl⟩
          | false => exact ⟨⟨rfl, rfl, rfl, rfl, rfl, rfl⟩, rfl⟩

theorem initializeGpiod_frame (g : TargetControlGpio) (io : GpiodIo) :
    PinFrame g (initializeGpiod g io).1 ∧ (initializeGpiod g io).1.type = g.type := by
  have hself : PinFrame g g := PinFrame.refl g
  rw [initializeGpiod]
  cases io.found with
  | none => exact ⟨hself, rfl⟩
  | some offset =>
      cases io.chip with
      | none => exact ⟨⟨rfl, rfl, rfl, rfl, rfl, rfl⟩, rfl⟩
      | some chip =>
          dsimp only
          cases !io.line || !io.requested with
          | true => exact ⟨⟨rfl, rfl, rfl, rfl, rfl, rfl⟩, rfl⟩
          | false =>
              by_cases hevents : g.HasEvents
              · cases io.eventFd with
                | none =>
                    simp only [if_pos hevents]
                    exact ⟨⟨rfl, rfl, rfl, rfl, rfl, rfl⟩, rfl⟩
                | some fd =>
                    simp only [if_pos hevents]
                    exact ⟨⟨rfl, rfl, rfl, rfl, rfl, rfl⟩, rfl⟩
              · simp only [if_neg hevents]
                exact ⟨⟨rfl, rfl, rfl, rfl, rfl, rfl⟩, rfl⟩

/-- A pin keeps its type or loses it. -/
theorem initializePin_frame (g : TargetControlGpio) (io : PinSetupIo) :
    PinFrame g (initializePin g io).1 ∧
      ((initializePin g io).1.type = g.type ∨ (initializePin g io).1.type = .none) := by
  rw [initializePin]
  cases htype : g.type with
  | gpio =>
      have hframe := initializeGpio_frame g io.sysfs
      dsimp only
      generalize initializeGpio g io.sysfs = result at hframe
      obtain ⟨g', status, events⟩ := result
      obtain ⟨hframe, htype'⟩ := hframe
      cases status with
      | ok => exact ⟨hframe, .inl (htype'.trans htype)⟩
      | err | timeout => exact ⟨{ hframe with }, .inr rfl⟩
  | gpiod =>
      have hframe := initializeGpiod_frame g io.gpiod
      dsimp only
      generalize initializeGpiod g io.gpiod = result at hframe
      obtain ⟨g', status, events⟩ := result
      obtain ⟨hframe, htype'⟩ := hframe
      cases status with
      | ok => exact ⟨hframe, .inl (htype'.trans htype)⟩
      | err | timeout => exact ⟨{ hframe with }, .inr rfl⟩
  | none => exact ⟨PinFrame.refl g, .inl htype⟩
  | dbus => exact ⟨PinFrame.refl g, .inl htype⟩

theorem initializeTarget_ok_iff (t : TargetControlHandle) (io : TargetInitIo) :
    (initializeTarget t io).2 = .ok ↔
      (readPin t .bmcXdpPrstIn io.levels 0).1 = .ok ∧
      ¬((readPin t .bmcXdpPrstIn io.levels 0).2 = 1 ∧ io.xdpFailEnable = true) ∧
      (writePin t .bmcDebugEnN io.levels 1).1 = .ok ∧
      (dbusInitializePtr t.dbus io.dbus).2 = .ok := by
  have hwrite (present : Bool) :
      writePin { t with xdpPresent := present } .bmcDebugEnN io.levels 1 =
        writePin t .bmcDebugEnN io.levels 1 := rfl
  rw [initializeTarget]
  generalize readPin t .bmcXdpPrstIn io.levels 0 = xdp
  obtain ⟨status, value⟩ := xdp
  cases status with
  | err | timeout => exact iff_of_false nofun fun h => nomatch h.1
  | ok =>
      dsimp only
      rw [hwrite]
      by_cases hxdp : value = 1 ∧ io.xdpFailEnable = true
      · rw [if_pos hxdp]
        exact iff_of_false nofun fun h => h.2.1 hxdp
      · rw [if_neg hxdp]
        by_cases henable : (writePin t .bmcDebugEnN io.levels 1).1 = .ok
        · rw [if_neg (not_not.mpr henable)]
          simp only [hxdp, henable, not_false_eq_true, true_and]
        · rw [if_pos henable]
          exact iff_of_false nofun fun h => henable h.2.2.1

theorem attempt_initialized_iff {t : TargetControlHandle} (h : t.initialized = false)
    (io : TargetInitIo) :
    (attempt t io).initialized = true ↔
      (initializeGpios t io.pins).2.1 = .ok ∧
        (initializeTarget (initializeGpios t io.pins).1 io).2 = .ok := by
  have hpins : (initializeGpios t io.pins).1.initialized = false := h
  rw [attempt, targetInitialize, h, if_neg Bool.false_ne_true]
  generalize initializeGpios t io.pins = pins at hpins
  obtain ⟨s, status, events⟩ := pins
  cases status with
  | err | timeout =>
      exact iff_of_false (fun htrue => nomatch hpins.symm.trans htrue) fun h => nomatch h.1
  | ok =>
      have hframe := (initializeTarget_frame s io).2
      dsimp only at hpins ⊢
      generalize initializeTarget s io = target at hframe
      obtain ⟨t', status⟩ := target
      cases status with
      | ok => exact iff_of_true rfl ⟨rfl, rfl⟩
      | err | timeout =>
          exact iff_of_false (fun htrue => nomatch hpins.symm.trans (hframe.symm.trans htrue))
            fun h => nomatch h.2

/-- The table of numbers has the name. -/
def gpioNamed (name : List UInt8) : Bool :=
  (gpioOffsets.find? fun entry => CString.asciiBytes entry.1 = name).isSome

/-- There is a way to set the pin up. -/
def TargetControlGpio.Configurable (g : TargetControlGpio) : Prop :=
  g.type = .gpiod ∨ g.type = .gpio ∧ gpioNamed g.name = true

theorem initializeGpio_named (g : TargetControlGpio) (io : SysfsIo)
    (hok : (initializeGpio g io).2.1 = .ok) : gpioNamed g.name = true := by
  cases hfind : findGpio g.name io.base with
  | none =>
      rw [initializeGpio, hfind] at hok
      cases hok
  | some num =>
      rw [findGpio] at hfind
      cases hbase : findGpioBase io.base with
      | none =>
          rw [hbase] at hfind
          cases hfind
      | some base =>
          rw [hbase, Option.bind_some, Option.map_eq_some_iff] at hfind
          obtain ⟨entry, hentry, _⟩ := hfind
          rw [gpioNamed, hentry]
          rfl

/-- A pin that has a driver after the loop could be set up before it. -/
theorem configurable_of_initializePin {g : TargetControlGpio} {io : PinSetupIo}
    (h : (initializePin g io).1.type = .gpio ∨ (initializePin g io).1.type = .gpiod) :
    g.Configurable := by
  rw [initializePin] at h
  cases htype : g.type with
  | gpiod => exact .inl htype
  | gpio =>
      refine .inr ⟨htype, initializeGpio_named g io.sysfs ?_⟩
      simp only [htype] at h
      generalize initializeGpio g io.sysfs = result at h
      obtain ⟨g', status, events⟩ := result
      cases status with
      | ok => rfl
      | err | timeout => exact h.elim nofun nofun
  | none | dbus =>
      simp only [htype, reduceCtorEq, or_self] at h

theorem configurable_of_configured {g : TargetControlGpio} {io : PinSetupIo}
    (h : (initializePin g io).2.1 = true) : g.Configurable := by
  apply configurable_of_initializePin
  rw [initializePin] at h ⊢
  cases htype : g.type with
  | gpiod =>
      have hframe := (initializeGpiod_frame g io.gpiod).2
      simp only [htype] at h ⊢
      generalize initializeGpiod g io.gpiod = result at h hframe
      obtain ⟨g', status, events⟩ := result
      cases status with
      | ok => exact .inr (hframe.trans htype)
      | err | timeout => cases h
  | gpio =>
      have hframe := (initializeGpio_frame g io.sysfs).2
      simp only [htype] at h ⊢
      generalize initializeGpio g io.sysfs = result at h hframe
      obtain ⟨g', status, events⟩ := result
      cases status with
      | ok => exact .inl (hframe.trans htype)
      | err | timeout => cases h
  | none | dbus =>
      simp only [htype, Bool.false_eq_true] at h

/-- What it takes to set a target up: a bus handle, some pin that can be set up, and a way
to read the XDP presence and to write debug enable. -/
structure TargetControlHandle.Recoverable (t : TargetControlHandle) : Prop where
  dbus : t.dbus.isSome
  pin : ∃ pin, (t.gpios pin).Configurable
  xdp : (t.gpios .bmcXdpPrstIn).read = .pinNone ∨ (t.gpios .bmcXdpPrstIn).Configurable
  debugEn : (t.gpios .bmcDebugEnN).write = .pinNone ∨ (t.gpios .bmcDebugEnN).Configurable

/-- The reader and the writer are those of a type that the pin has or has lost. -/
def TargetControlGpio.Plain (g : TargetControlGpio) : Prop :=
  ∃ type : PinType, g.read = type.reader ∧ g.write = type.writer ∧
    (g.type = type ∨ g.type = .none)

theorem plain_targetHandler (c : PlatformConfig) (dbus : Option DbusHandle)
    {pin : TargetControlGpios} (hread : (pinSetup pin).read = none)
    (hwrite : (pinSetup pin).write = none) : ((targetHandler c dbus).gpios pin).Plain := by
  have hpreset : (platformInit c pin).read = (pinSetup pin).read ∧
      (platformInit c pin).write = (pinSetup pin).write := by
    rw [platformInit]
    cases c.pins pin with
    | none => exact ⟨rfl, rfl⟩
    | some p => exact ⟨rfl, rfl⟩
  refine ⟨(platformInit c pin).type, ?_, ?_, .inl rfl⟩
  · change (platformInit c pin).read.getD _ = _
    rw [hpreset.1, hread]
    rfl
  · change (platformInit c pin).write.getD _ = _
    rw [hpreset.2, hwrite]
    rfl

theorem plain_initializePin {g : TargetControlGpio} (h : g.Plain) (io : PinSetupIo) :
    (initializePin g io).1.Plain := by
  obtain ⟨type, hread, hwrite, htype⟩ := h
  obtain ⟨hframe, hkept⟩ := initializePin_frame g io
  refine ⟨type, hframe.read.trans hread, hframe.write.trans hwrite, ?_⟩
  cases hkept with
  | inl hsame => exact htype.imp hsame.trans hsame.trans
  | inr hlost => exact .inr hlost

/-- A reading that succeeds came from no driver or from one that could be set up. -/
theorem reads_of_plain {t : TargetControlHandle} {pin : TargetControlGpios} {levels : PinIo}
    {value : Int} (hplain : (t.gpios pin).Plain) (h : (readPin t pin levels value).1 = .ok) :
    (t.gpios pin).read = .pinNone ∨ (t.gpios pin).type = .gpio ∨ (t.gpios pin).type = .gpiod := by
  obtain ⟨type, hread, _, _⟩ := hplain
  rw [readPin] at h
  cases type with
  | none | dbus => exact .inl hread
  | gpio =>
      simp only [hread, PinType.reader] at h
      split at h
      · next hfile => exact .inr (.inl hfile.1)
      · cases h
  | gpiod =>
      simp only [hread, PinType.reader] at h
      split at h
      · next hline => exact .inr (.inr hline)
      · cases h

theorem writes_of_plain {t : TargetControlHandle} {pin : TargetControlGpios} {levels : PinIo}
    {value : Int} (hplain : (t.gpios pin).Plain) (h : (writePin t pin levels value).1 = .ok) :
    (t.gpios pin).write = .pinNone ∨ (t.gpios pin).type = .gpio ∨
      (t.gpios pin).type = .gpiod := by
  obtain ⟨type, _, hwrite, _⟩ := hplain
  rw [writePin] at h
  cases type with
  | none | dbus => exact .inl hwrite
  | gpio =>
      simp only [hwrite, PinType.writer] at h
      split at h
      · next hfile => exact .inr (.inl hfile.1)
      · cases h
  | gpiod =>
      simp only [hwrite, PinType.writer] at h
      split at h
      · next hline => exact .inr (.inr hline.1)
      · cases h

/-- The two pins that the set-up of the target itself uses. -/
def TargetControlHandle.Plain (t : TargetControlHandle) : Prop :=
  (t.gpios .bmcXdpPrstIn).Plain ∧ (t.gpios .bmcDebugEnN).Plain

theorem recoverable_of_attempt {t : TargetControlHandle} {io : TargetInitIo} (hplain : t.Plain)
    (hinit : t.initialized = false) (h : (attempt t io).initialized = true) : t.Recoverable := by
  obtain ⟨hpins, htarget⟩ := (attempt_initialized_iff hinit io).mp h
  obtain ⟨hread, _, hwrite, hdbus⟩ := (initializeTarget_ok_iff _ io).mp htarget
  have hxdp := initializePin_frame (t.gpios .bmcXdpPrstIn) (io.pins .bmcXdpPrstIn)
  have hdebug := initializePin_frame (t.gpios .bmcDebugEnN) (io.pins .bmcDebugEnN)
  have hreads := reads_of_plain (plain_initializePin hplain.1 (io.pins .bmcXdpPrstIn)) hread
  have hwrites := writes_of_plain (plain_initializePin hplain.2 (io.pins .bmcDebugEnN)) hwrite
  constructor
  · cases hdbus' : t.dbus with
    | none =>
        change (dbusInitializePtr t.dbus io.dbus).2 = .ok at hdbus
        rw [hdbus'] at hdbus
        cases hdbus
    | some h => rfl
  · change (if TargetControlGpios.all.any _ then Status.ok else .err) = .ok at hpins
    split at hpins
    · next hany =>
        obtain ⟨pin, _, hpin⟩ := List.any_eq_true.mp hany
        exact ⟨pin, configurable_of_configured hpin⟩
    · cases hpins
  · exact hreads.imp (fun h => hxdp.1.read.symm.trans h) configurable_of_initializePin
  · exact hwrites.imp (fun h => hdebug.1.write.symm.trans h) configurable_of_initializePin

/-- A try that meets no obstacle. -/
def TargetInitIo.smooth : TargetInitIo where
  pins _ :=
    { gpiod := ⟨some 0, some 0, true, true, some 0⟩
      sysfs := ⟨some [], ⟨some 0, true, true, none⟩, true, true, true, some 0x30⟩
      release := ⟨true, true, true⟩ }
  levels := ⟨fun _ => some 0x30, fun _ => some false, fun _ => true, fun _ => true, none, true⟩
  xdpFailEnable := false
  dbus := ⟨true, some 0, true, some powerOnProperty, true⟩

theorem initializePin_smooth {g : TargetControlGpio} (h : g.Configurable)
    (pin : TargetControlGpios) :
    (initializePin g (TargetInitIo.smooth.pins pin)).1.type = g.type ∧
      (initializePin g (TargetInitIo.smooth.pins pin)).2.1 = true ∧
      (g.type = .gpio → (initializePin g (TargetInitIo.smooth.pins pin)).1.fd.isSome) := by
  rw [initializePin]
  cases h with
  | inl hline =>
      rw [hline]
      by_cases hevents : g.HasEvents
      · simp only [TargetInitIo.smooth, initializeGpiod, Bool.not_true, Bool.or_self,
          Bool.false_eq_true, if_false, if_pos hevents]
        exact ⟨hline, trivial, nofun⟩
      · simp only [TargetInitIo.smooth, initializeGpiod, Bool.not_true, Bool.or_self,
          Bool.false_eq_true, if_false, if_neg hevents]
        exact ⟨hline, trivial, nofun⟩
  | inr hfile =>
      obtain ⟨htype, hnamed⟩ := hfile
      obtain ⟨entry, hentry⟩ := Option.isSome_iff_exists.mp hnamed
      have hfind : findGpio g.name (some []) = some (0 + entry.2) := by
        rw [findGpio, hentry]
        rfl
      simp only [TargetInitIo.smooth, htype, initializeGpio, hfind, gpioExport, Bool.and_self,
        if_true]
      exact ⟨trivial, rfl, fun _ => rfl⟩

/-- A plain pin that can be set up ends with the driver of its reader and writer. -/
theorem driven_smooth {g : TargetControlGpio} (hplain : g.Plain) (hconf : g.Configurable)
    (pin : TargetControlGpios) :
    ∃ type : PinType, (initializePin g (TargetInitIo.smooth.pins pin)).1.read = type.reader ∧
      (initializePin g (TargetInitIo.smooth.pins pin)).1.write = type.writer ∧
      (initializePin g (TargetInitIo.smooth.pins pin)).1.type = type ∧
      (type = .gpiod ∨
        type = .gpio ∧ (initializePin g (TargetInitIo.smooth.pins pin)).1.fd.isSome) := by
  obtain ⟨hframe, _⟩ := initializePin_frame g (TargetInitIo.smooth.pins pin)
  obtain ⟨hkept, _, hfd⟩ := initializePin_smooth hconf pin
  obtain ⟨type, hread, hwrite, htype⟩ := hplain
  have hsame : g.type = type := htype.resolve_right fun hnone => by
    cases hconf with
    | inl hline => cases hnone.symm.trans hline
    | inr hfile => cases hnone.symm.trans hfile.1
  refine ⟨type, hframe.read.trans hread, hframe.write.trans hwrite, hkept.trans hsame, ?_⟩
  cases hconf with
  | inl hline => exact .inl (hsame.symm.trans hline)
  | inr hfile => exact .inr ⟨hsame.symm.trans hfile.1, hfd hfile.1⟩

theorem readPin_smooth {t : TargetControlHandle} {pin : TargetControlGpios}
    (hplain : (t.gpios pin).Plain)
    (h : (t.gpios pin).read = .pinNone ∨ (t.gpios pin).Configurable) :
    readPin (initializeGpios t TargetInitIo.smooth.pins).1 pin TargetInitIo.smooth.levels 0 =
      (.ok, 0) := by
  cases h with
  | inl hnone =>
      have hread := (initializePin_frame (t.gpios pin) (TargetInitIo.smooth.pins pin)).1.read
      exact readPin_none (hread.trans hnone) _ _
  | inr hconf =>
      obtain ⟨type, hread, _, htype, hdriven⟩ := driven_smooth hplain hconf pin
      cases hdriven with
      | inl hline =>
          cases hline
          exact readPin_line hread htype TargetInitIo.smooth.levels rfl 0
      | inr hfile =>
          obtain ⟨rfl, hfd⟩ := hfile
          exact readPin_file hread htype hfd TargetInitIo.smooth.levels rfl 0

theorem writePin_smooth {t : TargetControlHandle} {pin : TargetControlGpios}
    (hplain : (t.gpios pin).Plain)
    (h : (t.gpios pin).write = .pinNone ∨ (t.gpios pin).Configurable) :
    (writePin (initializeGpios t TargetInitIo.smooth.pins).1 pin TargetInitIo.smooth.levels
      1).1 = .ok := by
  cases h with
  | inl hnone =>
      have hwrite := (initializePin_frame (t.gpios pin) (TargetInitIo.smooth.pins pin)).1.write
      rw [writePin_none (hwrite.trans hnone)]
  | inr hconf =>
      obtain ⟨type, _, hwrite, htype, hdriven⟩ := driven_smooth hplain hconf pin
      cases hdriven with
      | inl hline =>
          cases hline
          exact congrArg Prod.fst (writePin_line hwrite htype TargetInitIo.smooth.levels rfl 1)
      | inr hfile =>
          obtain ⟨rfl, hfd⟩ := hfile
          exact congrArg Prod.fst
            (writePin_file hwrite htype hfd TargetInitIo.smooth.levels rfl 1)

theorem attempt_smooth {t : TargetControlHandle} (hplain : t.Plain) (hinit : t.initialized = false)
    (h : t.Recoverable) : (attempt t .smooth).initialized = true := by
  apply (attempt_initialized_iff hinit .smooth).mpr
  constructor
  · obtain ⟨pin, hpin⟩ := h.pin
    apply if_pos
    apply List.any_eq_true.mpr
    exact ⟨pin, TargetControlGpios.mem_all pin, (initializePin_smooth hpin pin).2.1⟩
  · apply (initializeTarget_ok_iff _ _).mpr
    have hread := readPin_smooth hplain.1 h.xdp
    refine ⟨congrArg Prod.fst hread, ?_, writePin_smooth hplain.2 h.debugEn, ?_⟩
    · intro hexit
      cases hexit.2
    · obtain ⟨handle, hdbus⟩ := Option.isSome_iff_exists.mp h.dbus
      change (dbusInitializePtr t.dbus TargetInitIo.smooth.dbus).2 = .ok
      rw [hdbus]
      cases handle with
      | mk bus fd powerState => cases powerState <;> rfl

theorem plain_attempt {t : TargetControlHandle} (h : t.Plain) (io : TargetInitIo) :
    (attempt t io).Plain := by
  cases hinit : t.initialized with
  | true =>
      have hsame : attempt t io = t := by simp only [attempt, targetInitialize, hinit, if_true]
      rw [hsame]
      exact h
  | false =>
      rw [TargetControlHandle.Plain, attempt_gpios hinit, attempt_gpios hinit]
      exact ⟨plain_initializePin h.1 _, plain_initializePin h.2 _⟩

theorem configurable_of_attempt {g : TargetControlGpio} {io : PinSetupIo}
    (h : (initializePin g io).1.Configurable) : g.Configurable :=
  configurable_of_initializePin (h.symm.imp And.left id)

theorem attempt_dbus_isSome {t : TargetControlHandle} {io : TargetInitIo} :
    (attempt t io).dbus.isSome = t.dbus.isSome := by
  have hptr (dbus : Option DbusHandle) :
      (dbusInitializePtr dbus io.dbus).1.isSome = dbus.isSome := by
    cases dbus with
    | none => rfl
    | some h => rfl
  have htarget (t : TargetControlHandle) :
      (initializeTarget t io).1.dbus.isSome = t.dbus.isSome := by
    rw [initializeTarget]
    split
    · dsimp only
      split
      · rfl
      · split
        · rfl
        · exact hptr t.dbus
    · rfl
  rw [attempt, targetInitialize]
  split
  · rfl
  · have hpins : (initializeGpios t io.pins).1.dbus = t.dbus := rfl
    generalize initializeGpios t io.pins = pins at hpins
    obtain ⟨s, status, events⟩ := pins
    have hs := htarget s
    dsimp only at hpins
    rw [hpins] at hs
    cases status with
    | err | timeout => exact congrArg Option.isSome hpins
    | ok =>
        dsimp only
        generalize initializeTarget s io = target at hs
        obtain ⟨t', status⟩ := target
        cases status with
        | ok | err | timeout => exact hs

/-- What a failed try takes away does not come back. -/
theorem recoverable_of_recoverable_attempt {t : TargetControlHandle} {io : TargetInitIo}
    (hinit : t.initialized = false) (h : (attempt t io).Recoverable) : t.Recoverable := by
  have hxdp := initializePin_frame (t.gpios .bmcXdpPrstIn) (io.pins .bmcXdpPrstIn)
  have hdebug := initializePin_frame (t.gpios .bmcDebugEnN) (io.pins .bmcDebugEnN)
  have hdbus : (attempt t io).dbus.isSome = true := h.dbus
  obtain ⟨pin, hpin⟩ := h.pin
  have hread := h.xdp
  have hwrite := h.debugEn
  rw [attempt_gpios hinit] at hpin hread hwrite
  rw [attempt_dbus_isSome] at hdbus
  refine ⟨hdbus, ⟨pin, configurable_of_attempt hpin⟩, ?_, ?_⟩
  · exact hread.imp hxdp.1.read.symm.trans configurable_of_attempt
  · exact hwrite.imp hdebug.1.write.symm.trans configurable_of_attempt

theorem unrecoverable_run {t : TargetControlHandle} (hplain : t.Plain)
    (hinit : t.initialized = false) (h : ¬ t.Recoverable) (ios : List TargetInitIo) :
    (Machine.run attempt t ios).initialized = false := by
  have hkept (t : TargetControlHandle) (io : TargetInitIo)
      (ht : t.Plain ∧ t.initialized = false ∧ ¬ t.Recoverable) :
      (attempt t io).Plain ∧ (attempt t io).initialized = false ∧
        ¬ (attempt t io).Recoverable := by
    obtain ⟨hplain, hinit, hlost⟩ := ht
    refine ⟨plain_attempt hplain io, ?_, fun hback => ?_⟩
    · cases hdone : (attempt t io).initialized with
      | false => rfl
      | true => exact absurd (recoverable_of_attempt hplain hinit hdone) hlost
    · exact hlost (recoverable_of_recoverable_attempt hinit hback)
  have hinvariant := Machine.run_invariant_of_step
    (I := fun t : TargetControlHandle => t.Plain ∧ t.initialized = false ∧ ¬ t.Recoverable) hkept
    ios ⟨hplain, hinit, h⟩
  exact hinvariant.2.1

/-- A target that some tries failed to set up can still be set up by further ones if and
only if it has a bus handle and a pin that can be set up, and neither the XDP presence nor
debug enable has lost its driver in one of the tries. -/
theorem set_up_later_iff (c : PlatformConfig) (dbus : Option DbusHandle)
    (ios : List TargetInitIo)
    (hfailed : (Machine.run attempt (targetHandler c dbus) ios).initialized = false) :
    (∃ more, (Machine.run attempt (targetHandler c dbus) (ios ++ more)).initialized = true) ↔
      (Machine.run attempt (targetHandler c dbus) ios).Recoverable := by
  have hplain : (Machine.run attempt (targetHandler c dbus) ios).Plain := by
    apply Machine.run_invariant_of_step (I := TargetControlHandle.Plain) _ ios
    · exact ⟨plain_targetHandler c dbus rfl rfl, plain_targetHandler c dbus rfl rfl⟩
    · intro t io ht
      exact plain_attempt ht io
  constructor
  · intro hlater
    obtain ⟨more, hmore⟩ := hlater
    by_contra hlost
    rw [Machine.run_append, unrecoverable_run hplain hfailed hlost more] at hmore
    cases hmore
  · intro hrecoverable
    refine ⟨[.smooth], ?_⟩
    rw [Machine.run_append]
    exact attempt_smooth hplain hfailed hrecoverable

/-- A platform with a value file for debug enable. -/
def debugEnFile : PlatformConfig where
  pins := fun pin =>
    if pin = .bmcDebugEnN then some ⟨none, none, none, none, some "PIN_GPIO"⟩ else none
  chainSelectDelayUs := none

/-- A try that finds the pins and not the bus. -/
def TargetInitIo.unopened : TargetInitIo :=
  { TargetInitIo.smooth with dbus := ⟨false, none, false, none, false⟩ }

/-- A try that finds the bus and the pins, all but the XDP presence. -/
def TargetInitIo.withoutXdp : TargetInitIo :=
  { TargetInitIo.smooth with
    pins := fun pin =>
      let io := TargetInitIo.smooth.pins pin
      if pin = .bmcXdpPrstIn then { io with gpiod := ⟨none, none, false, false, none⟩ } else io }

/-- A bus that could not be opened is opened later; a pin that was not found is not looked
for again. -/
theorem set_up_later_iff_failed :
    (∃ more, (Machine.run attempt (targetHandler debugEnFile (some dbusHelper))
        ([.unopened] ++ more)).initialized = true) ∧
      ¬ ∃ more, (Machine.run attempt (targetHandler debugEnFile (some dbusHelper))
        ([.withoutXdp] ++ more)).initialized = true := by
  constructor
  · refine (set_up_later_iff debugEnFile (some dbusHelper) [.unopened] (by decide +kernel)).mpr ?_
    exact ⟨rfl, ⟨.bmcPrdyN, .inl (by decide +kernel)⟩, .inr (.inl (by decide +kernel)),
      .inr (.inr ⟨by decide +kernel, by decide +kernel⟩)⟩
  · intro hlater
    have hrecoverable :=
      (set_up_later_iff debugEnFile (some dbusHelper) [.withoutXdp] (by decide +kernel)).mp hlater
    obtain hnone | hline | hfile := hrecoverable.xdp
    · exact absurd hnone (by decide +kernel)
    · exact absurd hline (by decide +kernel)
    · exact absurd hfile.1 (by decide +kernel)

end Recovery

end AtScaleDebug
