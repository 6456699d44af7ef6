import AtScaleDebug.Target.TargetInit
import AtScaleDebug.Target.JtagMessage
import AtScaleDebug.Target.SppDevices

/-!
The descriptors that the target handler gives out to be polled, and what it makes of one
that is ready. The list of descriptors and the dispatch by descriptor refine those of
`SppDevices`, where a descriptor is the pin it belongs to. The handlers of two pins drive
PREQ, which the client can also write.
-/

namespace AtScaleDebug

section Descriptors

/-- The events of a poll, requested or returned. -/
structure PollEvents where
  pollIn : Bool
  pollPri : Bool
  pollErr : Bool
  deriving DecidableEq, Repr

/-- `struct pollfd`, with `none` for -1. -/
structure PolledFd where
  fd : Option Nat
  events : PollEvents
  deriving DecidableEq, Repr

/-- `get_pin_events`. A pin without a driver leaves the events of the pin before it. -/
def getPinEvents (type : PinType) (events : PollEvents) : PollEvents :=
  match type with
  | .gpio => ⟨false, true, true⟩
  | .gpiod => ⟨true, true, false⟩
  | _ => events

def PinType.HasDriver (type : PinType) : Prop := type = .gpio ∨ type = .gpiod

instance (type : PinType) : Decidable type.HasDriver := inferInstanceAs (Decidable (_ ∨ _))

def TargetPin.gpio : TargetPin → TargetControlGpios
  | .prdy => .bmcPrdyN
  | .pltrst => .bmcPltrstB
  | .cpuPwrgd => .bmcCpuPwrgd
  | .xdpPresent => .bmcXdpPrstIn
  | .pwrgd2 => .bmcPwrgd2
  | .pwrgd3 => .bmcPwrgd3

def TargetPin.all : List TargetPin := [.prdy, .pltrst, .cpuPwrgd, .xdpPresent, .pwrgd2, .pwrgd3]

namespace TargetControlHandle

/-- Besides an open descriptor the PRDY pin needs to be reported and the power good pin a
driver; nothing is asked of the others. -/
def reports (t : TargetControlHandle) : TargetPin → Bool
  | .prdy => t.eventCfg.reportPrdy
  | .cpuPwrgd => decide (t.gpios .bmcCpuPwrgd).type.HasDriver
  | _ => true

/-- The pins in the order of `target_get_fds`, with the events of the pin before. -/
def pinPollFds (t : TargetControlHandle) : List TargetPin → PollEvents → List PolledFd
  | [], _ => []
  | pin :: pins, events =>
      let events := getPinEvents (t.gpios pin.gpio).type events
      let fds := pinPollFds t pins events
      if t.reports pin && (t.gpios pin.gpio).fd.isSome then
        ⟨(t.gpios pin.gpio).fd, events⟩ :: fds
      else fds

def dbusFd (t : TargetControlHandle) : Option Nat := t.dbus.bind DbusHandle.fd

def dbusPollFds (t : TargetControlHandle) : List PolledFd :=
  if t.dbusFd.isSome then [⟨t.dbusFd, true, false, false⟩] else []

/-- The handle of a device slot, which is -1 in an empty one. -/
def slotFd (h : SppHandler) (devFds : Fin maxSppBusDevices → Nat)
    (slot : Fin maxSppBusDevices) : Option Nat :=
  if h.devHandlers slot then some (devFds slot) else none

def addDevicePollFds (h : SppHandler) (devFds : Fin maxSppBusDevices → Nat) :
    List (Fin maxSppBusDevices) → List PolledFd → List PolledFd
  | [], fds => fds
  | slot :: slots, fds =>
      if fds.length ≥ numGpios + numDbusFds then fds
      else addDevicePollFds h devFds slots (fds ++ [⟨slotFd h devFds slot, true, false, false⟩])

/-- `target_get_fds`. -/
def targetGetFds (t : TargetControlHandle) (h : SppHandler)
    (devFds : Fin maxSppBusDevices → Nat) : Option (List PolledFd) :=
  if !t.initialized then none
  else
    let fds := t.pinPollFds TargetPin.all ⟨false, false, false⟩ ++ t.dbusPollFds
    some (if t.spp then addDevicePollFds h devFds h.countedSlots fds else fds)

end TargetControlHandle

end Descriptors

section Events

/-- What an event meets: the drivers at its start and ten milliseconds later, the reading
of the event of a line, and what the bus has. -/
structure TargetEventIo where
  levels : PinIo
  later : PinIo
  lineRead : TargetControlGpios → Bool
  wakeup : BusWakeup

/-- `target_clear_gpio_event`. -/
def targetClearGpioEvent (g : TargetControlGpio) (lineRead : Bool) : Status :=
  if g.type = .gpiod ∧ lineRead = false then .err else .ok

/-- The event, whatever the status, and what was driven. -/
structure HandlerResult where
  status : Status
  event : Option PinEvent
  drives : List PinDrive

/-- A power pin: the event of its level. -/
def onPower (pin : TargetControlGpios) (restored failed : PinEvent) (t : TargetControlHandle)
    (io : PinIo) : HandlerResult :=
  match readPin t pin io 0 with
  | (.ok, value) => ⟨.ok, some (if value = 1 then restored else failed), []⟩
  | (status, _) => ⟨status, none, []⟩

def onPowerEvent : TargetControlHandle → PinIo → HandlerResult :=
  onPower .bmcCpuPwrgd .pwrRestore .pwrFail

def onPower2Event : TargetControlHandle → PinIo → HandlerResult :=
  onPower .bmcPwrgd2 .pwrRestore2 .pwrFail2

def onPower3Event : TargetControlHandle → PinIo → HandlerResult :=
  onPower .bmcPwrgd3 .pwrRestore3 .pwrFail3

def onPlatformResetEvent (t : TargetControlHandle) (io : PinIo) : HandlerResult :=
  match readPin t .bmcPltrstB io 0 with
  | (.ok, value) =>
      if value = 0 then
        if t.eventCfg.resetBreak then
          let (status, drives) := writePin t .bmcPreqN io 1
          ⟨status, some .plrstDeassrt, drives⟩
        else ⟨.ok, some .plrstDeassrt, []⟩
      else ⟨.ok, some .plrstAssert, []⟩
  | (status, _) => ⟨status, none, []⟩

/-- PREQ is asserted, and taken back after a while unless it is to break at a reset. -/
def onPrdyEvent (t : TargetControlHandle) (io later : PinIo) : HandlerResult :=
  if t.eventCfg.breakAll then
    match writePin t .bmcPreqN io 1 with
    | (.ok, drives) =>
        if t.eventCfg.resetBreak then ⟨.ok, some .prdyEvent, drives⟩
        else
          let (status, more) := writePin t .bmcPreqN later 0
          ⟨status, some .prdyEvent, drives ++ more⟩
    | (status, drives) => ⟨status, some .prdyEvent, drives⟩
  else ⟨.ok, some .prdyEvent, []⟩

def onXdpPresentEvent : HandlerResult := ⟨.ok, some .xdpPresent, []⟩

def TargetEventHandler.run (handler : TargetEventHandler) (t : TargetControlHandle)
    (io : TargetEventIo) : HandlerResult :=
  match handler with
  | .prdy => onPrdyEvent t io.levels io.later
  | .power => onPowerEvent t io.levels
  | .platformReset => onPlatformResetEvent t io.levels
  | .xdpPresent => onXdpPresentEvent
  | .power2 => onPower2Event t io.levels
  | .power3 => onPower3Event t io.levels

def asdEventOf (event : Option PinEvent) : AsdEvent := event.elim .none fun e => .pin e.toUInt8

namespace TargetControlHandle

/-- The pin that a descriptor is found at, the first in the order of the pins. -/
def pinOfFd (t : TargetControlHandle) (fd : Option Nat) : Option TargetControlGpios :=
  TargetControlGpios.all.find? fun pin => (t.gpios pin).fd = fd

/-- The part for the pins; a poll with an error needs no test of its own. -/
def pinEvent (t : TargetControlHandle) (io : TargetEventIo) (p : PolledFd) :
    TargetControlHandle × Status × AsdEvent × List PinDrive :=
  if p.events.pollIn ∨ p.events.pollPri ∨ p.events.pollPri ∧ p.events.pollErr then
    match t.pinOfFd p.fd with
    | none => (t, if t.spp then .ok else .err, .none, [])
    | some pin =>
        if targetClearGpioEvent (t.gpios pin) (io.lineRead pin) = .ok then
          match (t.gpios pin).handler with
          | none => (t, .err, .none, [])
          | some handler =>
              let result := handler.run t io
              (t, result.status, asdEventOf result.event, result.drives)
        else (t, .err, .none, [])
  else (t, .ok, .none, [])

/-- `target_event`: the handle behind it, its status, the event, and what was driven. -/
def targetEvent (t : TargetControlHandle) (h : SppHandler)
    (devFds : Fin maxSppBusDevices → Nat) (io : TargetEventIo) (p : PolledFd) :
    TargetControlHandle × Status × AsdEvent × List PinDrive :=
  if !t.initialized then (t, .err, .none, [])
  else
    match if t.spp ∧ p.events.pollIn then
        h.countedSlots.find? fun slot => slotFd h devFds slot = p.fd
      else none with
    | some slot =>
        if i3cIbiStatus eventBufferSize = .ok then (t, .ok, .bpk slot, [])
        else (t, .err, .none, [])
    | none =>
        match t.dbus with
        | some dbus =>
            if dbus.fd = p.fd ∧ p.events.pollIn then
              let (dbus, status, event) := dbusProcessEvent dbus io.wakeup
              ({ t with dbus := some dbus }, status, asdEventOf event, [])
            else t.pinEvent io p
        | none => t.pinEvent io p

end TargetControlHandle

end Events

section Client

/-- `ASD_PIN_TO_GPIO`. -/
def Pin.gpio : Pin → TargetControlGpios
  | .pwrgood => .bmcCpuPwrgd
  | .preq => .bmcPreqN
  | .resetButton => .resetBtn
  | .powerButton => .powerBtn
  | .earlyBootStall => .bmcPwrDebugN
  | .sysPwrOk => .bmcSyspwrok
  | .prdy => .bmcPrdyN
  | .tckMuxSelect => .bmcTckMuxSel

/-- The bits of an event configuration that a client can write. -/
inductive WriteConfig where
  | breakAll | resetBreak | reportPrdy | reportPltrst | reportMbp
  deriving DecidableEq, Repr

namespace TargetControlHandle

def targetWrite (t : TargetControlHandle) (pin : Pin) (assert : Bool) (io : PinIo) :
    Status × List PinDrive :=
  if !t.initialized then (.err, [])
  else
    match pin with
    | .resetButton | .powerButton | .preq | .tckMuxSelect | .sysPwrOk | .earlyBootStall =>
        writePin t pin.gpio io (if assert then 1 else 0)
    | .pwrgood | .prdy => (.err, [])

def targetRead (t : TargetControlHandle) (pin : Pin) (io : PinIo) : Status × Bool :=
  if !t.initialized then (.err, false)
  else
    match pin with
    | .pwrgood | .prdy | .preq | .sysPwrOk | .earlyBootStall =>
        match readPin t pin.gpio io 0 with
        | (.ok, value) => (.ok, decide (value ≠ 0))
        | (status, _) => (status, false)
    | .resetButton | .powerButton | .tckMuxSelect => (.err, false)

/-- `target_write_event_config`. The PRDY pin is read first, whatever comes of it. -/
def targetWriteEventConfig (t : TargetControlHandle) (config : WriteConfig) (enable : Bool) :
    TargetControlHandle × Status :=
  if !t.initialized then (t, .err)
  else
    match config with
    | .breakAll => ({ t with eventCfg := { t.eventCfg with breakAll := enable } }, .ok)
    | .resetBreak => ({ t with eventCfg := { t.eventCfg with resetBreak := enable } }, .ok)
    | .reportPrdy => ({ t with eventCfg := { t.eventCfg with reportPrdy := enable } }, .ok)
    | .reportPltrst => ({ t with eventCfg := { t.eventCfg with reportPltrst := enable } }, .ok)
    | .reportMbp => ({ t with eventCfg := { t.eventCfg with reportMbp := enable } }, .ok)

end TargetControlHandle

end Client

namespace TargetControlHandle

section Refines

variable {t : TargetControlHandle} {h : SppHandler} {devFds : Fin maxSppBusDevices → Nat}

/-- The handle as `SppDevices` sees it. -/
def coarse (t : TargetControlHandle) : TargetHandler where
  initialized := t.initialized
  reportPrdy := t.eventCfg.reportPrdy
  opened pin := (t.gpios pin.gpio).fd.isSome
  cpuPwrgdGpiod := decide (t.gpios .bmcCpuPwrgd).type.HasDriver
  dbus := t.dbusFd.isSome
  spp := t.spp

/-- The number behind a descriptor. -/
def fdOf (t : TargetControlHandle) (devFds : Fin maxSppBusDevices → Nat) :
    Descriptor → Option Nat
  | .pin pin => (t.gpios pin.gpio).fd
  | .dbus => t.dbusFd
  | .device slot => some (devFds slot)
  | .closed => none

theorem slotFd_eq (t : TargetControlHandle) (h : SppHandler)
    (devFds : Fin maxSppBusDevices → Nat) (slot : Fin maxSppBusDevices) :
    slotFd h devFds slot = t.fdOf devFds (h.descriptor slot) := by
  rw [slotFd, SppHandler.descriptor]
  split
  · rfl
  · rfl

theorem map_pinPollFds (t : TargetControlHandle) (pins : List TargetPin) (events : PollEvents) :
    (t.pinPollFds pins events).map PolledFd.fd =
      (pins.filter fun pin => t.reports pin && (t.gpios pin.gpio).fd.isSome).map fun pin =>
        (t.gpios pin.gpio).fd := by
  induction pins generalizing events with
  | nil => rfl
  | cons pin pins ih =>
      simp only [pinPollFds, List.filter_cons]
      split
      · simp only [List.map_cons, ih]
      · exact ih _

theorem pinFds_coarse (t : TargetControlHandle) :
    pinFds t.coarse =
      (TargetPin.all.filter fun pin => t.reports pin && (t.gpios pin.gpio).fd.isSome).map
        Descriptor.pin ++ (if t.dbusFd.isSome then [.dbus] else []) := by
  have hcons (b : Bool) (d : TargetPin) (ds : List TargetPin) :
      (if b then d :: ds else ds).map Descriptor.pin =
        (if b then [.pin d] else []) ++ ds.map Descriptor.pin := by
    cases b with
    | true => rfl
    | false => rfl
  simp only [TargetPin.all, List.filter_cons, hcons, List.filter_nil, List.map_nil,
    List.append_nil, reports, Bool.true_and, pinFds, coarse, List.append_assoc]
  rfl

theorem map_dbusPollFds (t : TargetControlHandle) :
    t.dbusPollFds.map PolledFd.fd =
      (if t.dbusFd.isSome then [Descriptor.dbus] else []).map (t.fdOf devFds) := by
  rw [dbusPollFds]
  split
  · rfl
  · rfl

theorem map_addDevicePollFds (t : TargetControlHandle) (slots : List (Fin maxSppBusDevices))
    {fds : List PolledFd} {descriptors : List Descriptor}
    (hfds : fds.map PolledFd.fd = descriptors.map (t.fdOf devFds)) :
    (addDevicePollFds h devFds slots fds).map PolledFd.fd =
      (addDevices h slots descriptors).map (t.fdOf devFds) := by
  have hlength : fds.length = descriptors.length := by
    rw [← List.length_map PolledFd.fd, hfds, List.length_map]
  induction slots generalizing fds descriptors with
  | nil => exact hfds
  | cons slot slots ih =>
      rw [addDevicePollFds, addDevices, hlength]
      split
      · exact hfds
      · apply ih
        · rw [List.map_append, List.map_append, hfds, List.map_singleton, List.map_singleton,
            slotFd_eq t]
        · rw [List.length_append, List.length_append, hlength]
          rfl

/-- The descriptors to poll are those of the coarse list, in its order. -/
theorem map_targetGetFds (t : TargetControlHandle) (h : SppHandler)
    (devFds : Fin maxSppBusDevices → Nat) :
    (t.targetGetFds h devFds).map (List.map PolledFd.fd) =
      (AtScaleDebug.targetGetFds t.coarse h).map (List.map (t.fdOf devFds)) := by
  have hpins : (t.pinPollFds TargetPin.all ⟨false, false, false⟩ ++ t.dbusPollFds).map PolledFd.fd =
      (pinFds t.coarse).map (t.fdOf devFds) := by
    rw [List.map_append, map_pinPollFds, map_dbusPollFds, pinFds_coarse,
      List.map_append, List.map_map]
    rfl
  rw [targetGetFds, AtScaleDebug.targetGetFds]
  change Option.map _ (if !t.initialized then _ else _) =
    Option.map _ (if !t.initialized then _ else _)
  cases t.initialized with
  | false => rfl
  | true =>
      change some (List.map _ (if t.spp then _ else _)) =
        some (List.map _ (if t.spp then _ else _))
      cases t.spp with
      | false => exact congrArg some hpins
      | true => exact congrArg some (map_addDevicePollFds t h.countedSlots hpins)

/-- Descriptors that are open at the same time are different numbers. -/
structure Distinct (t : TargetControlHandle) (h : SppHandler)
    (devFds : Fin maxSppBusDevices → Nat) : Prop where
  pins : ∀ p q fd, (t.gpios p).fd = some fd → (t.gpios q).fd = some fd → p = q
  dbus : ∀ p fd, t.dbusFd = some fd → (t.gpios p).fd ≠ some fd
  slots : ∀ i j, h.devHandlers i = true → h.devHandlers j = true → devFds i = devFds j → i = j
  slotPins : ∀ i p, h.devHandlers i = true → (t.gpios p).fd ≠ some (devFds i)
  slotDbus : ∀ i, h.devHandlers i = true → t.dbusFd ≠ some (devFds i)

/-- A descriptor that has a number, and is a device only if that is open. -/
def Polled (t : TargetControlHandle) (h : SppHandler) (devFds : Fin maxSppBusDevices → Nat)
    (d : Descriptor) : Prop :=
  (t.fdOf devFds d).isSome ∧ ∀ slot, d = .device slot → h.devHandlers slot = true

theorem gpio_injective {p q : TargetPin} (hpq : p.gpio = q.gpio) : p = q := by
  cases p <;> cases q <;> first | rfl | cases hpq

theorem fdOf_injective (hdistinct : t.Distinct h devFds) {d d' : Descriptor}
    (hd : t.Polled h devFds d) (hd' : t.Polled h devFds d')
    (hfd : t.fdOf devFds d = t.fdOf devFds d') : d = d' := by
  cases d with
  | closed => exact absurd hd.1 Bool.false_ne_true
  | pin p =>
      obtain ⟨fd, hp⟩ := Option.isSome_iff_exists.mp hd.1
      have hp' := hfd.symm.trans hp
      cases d' with
      | closed => cases hp'
      | pin q => exact congrArg Descriptor.pin (gpio_injective (hdistinct.pins _ _ fd hp hp'))
      | dbus => exact absurd hp (hdistinct.dbus p.gpio fd hp')
      | device slot => exact absurd (hp.trans hp'.symm) (hdistinct.slotPins slot _ (hd'.2 slot rfl))
  | dbus =>
      obtain ⟨fd, hdbus⟩ := Option.isSome_iff_exists.mp hd.1
      have hdbus' := hfd.symm.trans hdbus
      cases d' with
      | closed => cases hdbus'
      | pin q => exact absurd hdbus' (hdistinct.dbus q.gpio fd hdbus)
      | dbus => rfl
      | device slot =>
          exact absurd (hdbus.trans hdbus'.symm) (hdistinct.slotDbus slot (hd'.2 slot rfl))
  | device slot =>
      have hopen := hd.2 slot rfl
      cases d' with
      | closed => cases hfd
      | pin q => exact absurd hfd.symm (hdistinct.slotPins slot q.gpio hopen)
      | dbus => exact absurd hfd.symm (hdistinct.slotDbus slot hopen)
      | device other =>
          exact congrArg Descriptor.device
            (hdistinct.slots slot other hopen (hd'.2 other rfl) (Option.some.inj hfd))

/-- The device with the number of a descriptor is found as that with the descriptor. -/
theorem find_slot (hdistinct : t.Distinct h devFds) {d : Descriptor} (hd : t.Polled h devFds d)
    (slots : List (Fin maxSppBusDevices)) :
    slots.find? (fun slot => slotFd h devFds slot = t.fdOf devFds d) =
      slots.find? (fun slot => h.descriptor slot = d) := by
  apply congrArg fun found => slots.find? found
  funext slot
  rw [slotFd_eq t, decide_eq_decide]
  constructor
  · intro hfd
    refine fdOf_injective hdistinct ⟨hfd ▸ hd.1, fun other hother => ?_⟩ hd hfd
    rw [SppHandler.descriptor] at hother
    split at hother
    · next hopen =>
        cases hother
        exact hopen
    · cases hother
  · intro hslot
    rw [hslot]

theorem pinOfFd_pin (hdistinct : t.Distinct h devFds) {p : TargetPin}
    (hp : (t.gpios p.gpio).fd.isSome) :
    t.pinOfFd (t.fdOf devFds (.pin p)) = some p.gpio := by
  obtain ⟨fd, hfd⟩ := Option.isSome_iff_exists.mp hp
  cases hfind : t.pinOfFd (t.fdOf devFds (.pin p)) with
  | none =>
      have hnone := List.find?_eq_none.mp hfind p.gpio (TargetControlGpios.mem_all p.gpio)
      exact absurd (decide_eq_true rfl) hnone
  | some q =>
      have hfound := List.find?_some hfind
      have hq : (t.gpios q).fd = (t.gpios p.gpio).fd := of_decide_eq_true hfound
      exact congrArg some (hdistinct.pins q p.gpio fd (hq.trans hfd) hfd)

theorem pinOfFd_other (hdistinct : t.Distinct h devFds) {d : Descriptor}
    (hd : t.Polled h devFds d) (hother : ∀ p, d ≠ .pin p) : t.pinOfFd (t.fdOf devFds d) = none := by
  apply List.find?_eq_none.mpr
  intro q _ hq
  have hfd : (t.gpios q).fd = t.fdOf devFds d := of_decide_eq_true hq
  cases d with
  | closed => exact absurd hd.1 Bool.false_ne_true
  | pin p => exact hother p rfl
  | dbus =>
      obtain ⟨fd, hdbus⟩ := Option.isSome_iff_exists.mp hd.1
      exact hdistinct.dbus q fd hdbus (hfd.trans hdbus)
  | device slot => exact hdistinct.slotPins slot q (hd.2 slot rfl) hfd

/-- What the coarse dispatch is told of a descriptor. -/
def eventIo (t : TargetControlHandle) (io : TargetEventIo) (d : Descriptor) : EventIo where
  dbus :=
    match t.dbus with
    | some dbus =>
        ((dbusProcessEvent dbus io.wakeup).2.1, asdEventOf (dbusProcessEvent dbus io.wakeup).2.2)
    | none => (.err, .none)
  cleared :=
    match d with
    | .pin p => targetClearGpioEvent (t.gpios p.gpio) (io.lineRead p.gpio)
    | _ => .ok
  handler :=
    match d with
    | .pin p => (t.gpios p.gpio).handler.map fun handler =>
        ((handler.run t io).status, asdEventOf (handler.run t io).event)
    | _ => none

theorem targetClearGpioEvent_ne_ok {g : TargetControlGpio} {lineRead : Bool}
    (h : targetClearGpioEvent g lineRead ≠ .ok) : targetClearGpioEvent g lineRead = .err := by
  rw [targetClearGpioEvent] at h ⊢
  split at h
  · next hfailed => exact if_pos hfailed
  · exact absurd rfl h

theorem pinEvent_refines (hdistinct : t.Distinct h devFds) {d : Descriptor}
    (hd : t.Polled h devFds d) (io : TargetEventIo) (events : PollEvents) :
    ((t.pinEvent io ⟨t.fdOf devFds d, events⟩).2.1,
        (t.pinEvent io ⟨t.fdOf devFds d, events⟩).2.2.1) =
      if events.pollIn = true ∨ events.pollPri = true then
        match d with
        | .pin _ =>
            if (t.eventIo io d).cleared = .ok then (t.eventIo io d).handler.getD (.err, .none)
            else ((t.eventIo io d).cleared, .none)
        | _ => (if t.spp then .ok else .err, .none)
      else (.ok, .none) := by
  have hready : (events.pollIn = true ∨ events.pollPri = true ∨
      events.pollPri = true ∧ events.pollErr = true) ↔
        (events.pollIn = true ∨ events.pollPri = true) :=
    or_congr_right (or_iff_left_of_imp And.left)
  simp only [pinEvent, hready]
  split
  · cases d with
    | pin p =>
        rw [pinOfFd_pin hdistinct hd.1]
        simp only [eventIo]
        by_cases hcleared : targetClearGpioEvent (t.gpios p.gpio) (io.lineRead p.gpio) = .ok
        · simp only [hcleared, if_true]
          cases (t.gpios p.gpio).handler with
          | none => rfl
          | some handler => rfl
        · simp only [targetClearGpioEvent_ne_ok hcleared, reduceCtorEq, if_false]
    | dbus | device slot | closed =>
        rw [pinOfFd_other hdistinct hd nofun]
  · rfl

/-- A descriptor of the list is one of the handle's, and the only one with its number. -/
theorem polled_of_mem {d : Descriptor} (hnumber : (t.fdOf devFds d).isSome)
    (hmem : ∃ fds, AtScaleDebug.targetGetFds t.coarse h = some fds ∧ d ∈ fds) :
    t.Polled h devFds d := by
  refine ⟨hnumber, fun slot hslot => ?_⟩
  obtain ⟨fds, hfds, hd⟩ := hmem
  rw [AtScaleDebug.targetGetFds] at hfds
  split at hfds
  · cases hfds
  · cases hfds
    rw [addDevices_pinFds] at hd
    have hpins : Descriptor.device slot ∉ pinFds t.coarse := by
      rw [pinFds_coarse]
      simp only [List.mem_append, List.mem_map, reduceCtorEq, and_false, exists_false, false_or]
      split
      · simp only [List.mem_singleton, reduceCtorEq, not_false_eq_true]
      · exact List.not_mem_nil
    rw [hslot] at hd
    split at hd
    · cases List.mem_append.mp hd with
      | inl hpin => exact absurd hpin hpins
      | inr hdevice => exact (mem_descriptors.mp hdevice).2
    · exact absurd hd hpins

/-- The handle's list of descriptors is the coarse list with numbers for its descriptors,
and one of them that is ready is dispatched as the coarse dispatch does it, as long as no
two open descriptors have the same number. -/
theorem target_refines (hinit : t.initialized = true) (hdistinct : t.Distinct h devFds) :
    (t.targetGetFds h devFds).map (List.map PolledFd.fd) =
        (AtScaleDebug.targetGetFds t.coarse h).map (List.map (t.fdOf devFds)) ∧
      ∀ d fds, AtScaleDebug.targetGetFds t.coarse h = some fds → d ∈ fds →
        (t.fdOf devFds d).isSome → ∀ io events,
          ((t.targetEvent h devFds io ⟨t.fdOf devFds d, events⟩).2.1,
              (t.targetEvent h devFds io ⟨t.fdOf devFds d, events⟩).2.2.1) =
            AtScaleDebug.targetEvent t.coarse h (t.eventIo io d)
              ⟨d, events.pollIn, events.pollPri⟩ := by
  refine ⟨map_targetGetFds t h devFds, fun d fds hfds hmem hnumber io events => ?_⟩
  have hd := polled_of_mem hnumber ⟨fds, hfds, hmem⟩
  have hpin := pinEvent_refines hdistinct hd io events
  have hslots := find_slot hdistinct hd h.countedSlots
  simp only [targetEvent, AtScaleDebug.targetEvent, coarse, hinit, Bool.not_true,
    Bool.false_eq_true, if_false, hslots]
  generalize (if t.spp = true ∧ events.pollIn = true then
    h.countedSlots.find? fun slot => decide (h.descriptor slot = d) else none) = slot
  cases slot with
  | some slot =>
      have hsize : i3cIbiStatus eventBufferSize = .ok := rfl
      simp only [hsize, if_true]
  | none =>
      cases hdbus : t.dbus with
      | none =>
          have hnone : t.dbusFd = none := by rw [dbusFd, hdbus, Option.bind_none]
          simp only [hnone, Option.isSome_none, Bool.false_eq_true, false_and, if_false]
          exact hpin
      | some dbus =>
          have hfd : t.dbusFd = dbus.fd := by rw [dbusFd, hdbus, Option.bind_some]
          have hiff : dbus.fd = t.fdOf devFds d ↔ t.dbusFd.isSome = true ∧ d = .dbus := by
            constructor
            · intro heq
              have hsame : t.fdOf devFds .dbus = t.fdOf devFds d := hfd.trans heq
              have hpolled : t.Polled h devFds .dbus := by
                refine ⟨?_, fun slot hslot => by cases hslot⟩
                rw [hsame]
                exact hnumber
              exact ⟨hpolled.1, (fdOf_injective hdistinct hpolled hd hsame).symm⟩
            · intro heq
              rw [heq.2]
              exact hfd.symm
          simp only [← and_assoc, ← hiff]
          split
          · simp only [eventIo, hdbus]
          · exact hpin

theorem target_refines_descriptors :
    let t : TargetControlHandle :=
      { targetHandler ⟨fun _ => none, none⟩ (some ⟨true, some 3, .off⟩) with
        initialized := true
        spp := true
        gpios := fun pin =>
          { (platformInit ⟨fun _ => none, none⟩ pin).gpio with
            fd := match pin with
              | .bmcPltrstB => some 7
              | .bmcXdpPrstIn => some 8
              | _ => none } }
    let h : SppHandler :=
      ⟨fun slot => decide (slot.val < 2), 2, firstDevice, none, fun _ => false, false, fun _ => 0,
        false⟩
    let devFds : Fin maxSppBusDevices → Nat := fun slot => 20 + slot.val
    (t.targetGetFds h devFds).map (List.map PolledFd.fd) =
        (AtScaleDebug.targetGetFds t.coarse h).map (List.map (t.fdOf devFds)) ∧
      ∀ d fds, AtScaleDebug.targetGetFds t.coarse h = some fds → d ∈ fds →
        (t.fdOf devFds d).isSome → ∀ io events,
          ((t.targetEvent h devFds io ⟨t.fdOf devFds d, events⟩).2.1,
              (t.targetEvent h devFds io ⟨t.fdOf devFds d, events⟩).2.2.1) =
            AtScaleDebug.targetEvent t.coarse h (t.eventIo io d)
              ⟨d, events.pollIn, events.pollPri⟩ := by
  intro t h devFds
  apply target_refines (t := t) (h := h) rfl
  constructor
  · intro p q fd hp hq
    cases p <;> cases hp <;> cases q <;> first | rfl | cases hq
  · intro p fd hdbus hp
    cases hdbus
    cases p <;> cases hp
  · intro i j _ _ hij
    exact Fin.ext (Nat.add_left_cancel hij)
  · intro i p _ hp
    have hlow : ∀ fd, (t.gpios p).fd = some fd → fd < 20 := by
      intro fd hfd
      cases p <;> cases hfd <;> decide
    exact absurd (hlow _ hp) (Nat.not_lt.mpr (Nat.le_add_right 20 i.val))
  · intro i _ hdbus
    have hthree : 3 = 20 + i.val := Option.some.inj hdbus
    omega

end Refines

section Driven

/-- Every pin with a descriptor has a driver for it. -/
def Driven (t : TargetControlHandle) : Prop :=
  ∀ pin, (t.gpios pin).fd.isSome → (t.gpios pin).type.HasDriver

/-- A pin that is set up or keeps no descriptor: a value file is not opened in vain, and a
pin with a descriptor of an earlier try is found and requested again. -/
def PinDriven (g : TargetControlGpio) (io : PinSetupIo) : Prop :=
  match g.type with
  | .gpio => (g.fd.isSome → (findGpio g.name io.sysfs.base).isSome) ∧ io.sysfs.Keeps g.name
  | .gpiod => g.fd.isSome → io.gpiod.found.isSome ∧ io.gpiod.chip.isSome ∧
      io.gpiod.line = true ∧ io.gpiod.requested = true
  | _ => True

def TryDriven (t : TargetControlHandle) (io : TargetInitIo) : Prop :=
  t.initialized = true ∨ ∀ pin, PinDriven (t.gpios pin) (io.pins pin)

theorem hasDriver_none : ¬ PinType.none.HasDriver := by decide

theorem pinDriven_gpio {g : TargetControlGpio} {io : PinSetupIo} (htype : g.type = .gpio) :
    ((initializePin g io).1.fd.isSome → (initializePin g io).1.type.HasDriver) ↔
      (g.fd.isSome → (findGpio g.name io.sysfs.base).isSome) ∧ io.sysfs.Keeps g.name := by
  simp only [initializePin, htype, initializeGpio, SysfsIo.Keeps]
  cases findGpio g.name io.sysfs.base with
  | none =>
      simp only [hasDriver_none, imp_false, Option.isSome_none, Bool.false_eq_true, false_implies,
        and_true]
  | some num =>
      cases gpioExport io.sysfs.exported with
      | none =>
          simp only [Option.isSome_none, Bool.false_eq_true, false_implies, Option.isSome_some,
            implies_true, and_self]
      | some fd =>
          cases hsteps : io.sysfs.activeLow && io.sysfs.direction && io.sysfs.edge with
          | true =>
              simp only [Bool.and_eq_true, and_assoc] at hsteps
              refine iff_of_true (fun _ => ?_) ⟨fun _ => rfl, fun _ _ => hsteps⟩
              simp only [if_true]
              exact .inl rfl
          | false =>
              simp only [Bool.false_eq_true, if_false, Option.isSome_some, true_implies,
                hasDriver_none, implies_true, true_and, false_iff]
              rw [← and_assoc, ← Bool.and_eq_true, ← Bool.and_eq_true, hsteps]
              exact Bool.false_ne_true

theorem pinDriven_gpiod {g : TargetControlGpio} {io : PinSetupIo} (htype : g.type = .gpiod) :
    ((initializePin g io).1.fd.isSome → (initializePin g io).1.type.HasDriver) ↔
      (g.fd.isSome → io.gpiod.found.isSome ∧ io.gpiod.chip.isSome ∧ io.gpiod.line = true ∧
        io.gpiod.requested = true) := by
  simp only [initializePin, htype, initializeGpiod]
  cases io.gpiod.found with
  | none =>
      simp only [hasDriver_none, imp_false, Option.isSome_none, Bool.false_eq_true, false_and]
  | some offset =>
      cases io.gpiod.chip with
      | none =>
          simp only [hasDriver_none, imp_false, Option.isSome_none, Option.isSome_some,
            Bool.false_eq_true, false_and, and_false]
      | some chip =>
          cases hline : io.gpiod.line && io.gpiod.requested with
          | false =>
              have hnot : (!io.gpiod.line || !io.gpiod.requested) = true := by
                rw [← Bool.not_and, hline]
                rfl
              have hnot' : ¬ (io.gpiod.line = true ∧ io.gpiod.requested = true) := by
                rw [← Bool.and_eq_true, hline]
                exact Bool.false_ne_true
              simp only [hnot, if_true, hasDriver_none, imp_false, hnot', and_false]
          | true =>
              have hnot : (!io.gpiod.line || !io.gpiod.requested) = false := by
                rw [← Bool.not_and, hline]
                rfl
              simp only [Bool.and_eq_true] at hline
              refine iff_of_true ?_ fun _ => ⟨rfl, rfl, hline⟩
              simp only [hnot, Bool.false_eq_true, if_false]
              by_cases hevents : g.HasEvents
              · simp only [if_pos hevents]
                cases io.gpiod.eventFd with
                | none =>
                    intro hfd
                    cases hfd
                | some fd => exact fun _ => .inr rfl
              · simp only [if_neg hevents]
                exact fun _ => .inr rfl

theorem pinDriven_iff {g : TargetControlGpio} (io : PinSetupIo)
    (h : g.fd.isSome → g.type.HasDriver) :
    ((initializePin g io).1.fd.isSome → (initializePin g io).1.type.HasDriver) ↔
      PinDriven g io := by
  rw [PinDriven]
  cases htype : g.type with
  | gpio => exact pinDriven_gpio htype
  | gpiod => exact pinDriven_gpiod htype
  | none | dbus =>
      have hsame : (initializePin g io).1 = g := by simp only [initializePin, htype]
      rw [hsame]
      exact iff_of_true h trivial

/-- A pin that once has a descriptor and no driver stays so. -/
theorem undriven_initializePin {g : TargetControlGpio} {io : PinSetupIo}
    (h : ¬ (g.fd.isSome → g.type.HasDriver)) :
    ¬ ((initializePin g io).1.fd.isSome → (initializePin g io).1.type.HasDriver) := by
  rw [Classical.not_imp, PinType.HasDriver, not_or] at h
  have hsame : (initializePin g io).1 = g := by
    rw [initializePin]
    cases htype : g.type with
    | gpio => exact absurd htype h.2.1
    | gpiod => exact absurd htype h.2.2
    | none | dbus => rfl
  rw [hsame, Classical.not_imp, PinType.HasDriver, not_or]
  exact h

theorem driven_attempt_iff {t : TargetControlHandle} {io : TargetInitIo} (h : t.Driven) :
    (attempt t io).Driven ↔ t.TryDriven io := by
  rw [TryDriven]
  cases hinit : t.initialized with
  | true =>
      have hsame : attempt t io = t := by simp only [attempt, targetInitialize, hinit, if_true]
      rw [hsame]
      exact iff_of_true h (.inl rfl)
  | false =>
      simp only [Bool.false_eq_true, false_or, Driven]
      apply forall_congr'
      intro pin
      rw [attempt_gpios hinit]
      exact pinDriven_iff (io.pins pin) (h pin)

theorem undriven_attempt {t : TargetControlHandle} {io : TargetInitIo} (h : ¬ t.Driven) :
    ¬ (attempt t io).Driven := by
  cases hinit : t.initialized with
  | true =>
      have hsame : attempt t io = t := by simp only [attempt, targetInitialize, hinit, if_true]
      rw [hsame]
      exact h
  | false =>
      obtain ⟨pin, hpin⟩ := Classical.not_forall.mp h
      intro hdriven
      have hafter := hdriven pin
      rw [attempt_gpios hinit] at hafter
      exact undriven_initializePin hpin hafter

/-- After any tries to set a target up, each of its descriptors belongs to a pin that has a
driver, if and only if no try opened a value file in vain or lost a pin with a descriptor. -/
theorem driven_iff (c : PlatformConfig) (dbus : Option DbusHandle) (ios : List TargetInitIo) :
    (Machine.run attempt (targetHandler c dbus) ios).Driven ↔
      Machine.Meets attempt TryDriven (targetHandler c dbus) ios := by
  apply Machine.holds_run_iff (I := fun _ => True) (P := Driven)
  · intro t io _ h
    exact undriven_attempt h
  · intro t io _ h
    exact driven_attempt_iff h
  · intro t io _
    trivial
  · trivial
  · intro pin hfd
    cases hfd

end Driven

section Preq

variable {t : TargetControlHandle}

/-- Whether PREQ is asserted behind what was driven. -/
def preqAfter : Bool → List PinDrive → Bool
  | preq, [] => preq
  | _, .line .bmcPreqN value :: drives => preqAfter (decide (value ≠ 0)) drives
  | _, .file .bmcPreqN one :: drives => preqAfter one drives
  | preq, _ :: drives => preqAfter preq drives

/-- A write to PREQ gets through. -/
def WritesPreq (t : TargetControlHandle) (io : PinIo) : Prop :=
  match (t.gpios .bmcPreqN).write with
  | .gpioPin => (t.gpios .bmcPreqN).type = .gpio ∧ (t.gpios .bmcPreqN).fd.isSome ∧
      io.fileWritten .bmcPreqN = true
  | .gpiodPin => (t.gpios .bmcPreqN).type = .gpiod ∧ io.lineSet .bmcPreqN = true
  | _ => False

/-- The handler that an event reaches. -/
def dispatched (t : TargetControlHandle) (h : SppHandler)
    (devFds : Fin maxSppBusDevices → Nat) (io : TargetEventIo) (p : PolledFd) :
    Option TargetEventHandler :=
  let device := if t.spp ∧ p.events.pollIn then
    h.countedSlots.find? fun slot => slotFd h devFds slot = p.fd else none
  let bus := t.dbus.any fun dbus => dbus.fd = p.fd ∧ p.events.pollIn
  if t.initialized && device.isNone && !bus && (p.events.pollIn || p.events.pollPri) then
    (t.pinOfFd p.fd).bind fun pin =>
      if targetClearGpioEvent (t.gpios pin) (io.lineRead pin) = .ok then (t.gpios pin).handler
      else none
  else none

inductive TargetOp where
  | event (h : SppHandler) (devFds : Fin maxSppBusDevices → Nat) (io : TargetEventIo)
      (p : PolledFd)
  | write (pin : Pin) (assert : Bool) (io : PinIo)
  | config (config : WriteConfig) (enable : Bool)

/-- The handle with the level of PREQ. -/
structure PreqWatch where
  handle : TargetControlHandle
  preq : Bool

def PreqWatch.step (s : PreqWatch) : TargetOp → PreqWatch
  | .event h devFds io p =>
      ⟨(s.handle.targetEvent h devFds io p).1,
        preqAfter s.preq (s.handle.targetEvent h devFds io p).2.2.2⟩
  | .write pin assert io => ⟨s.handle, preqAfter s.preq (s.handle.targetWrite pin assert io).2⟩
  | .config config enable => ⟨(s.handle.targetWriteEventConfig config enable).1, s.preq⟩

/-- The operation does not leave PREQ asserted: a break at PRDY is not one for a reset and
is taken back, a break at the end of a reset and a request of the client do not get
through. -/
def PreqWatch.StepsBack (s : PreqWatch) : TargetOp → Prop
  | .event h devFds io p =>
      match s.handle.dispatched h devFds io p with
      | some .prdy =>
          s.handle.eventCfg.breakAll = true → s.handle.WritesPreq io.levels →
            s.handle.eventCfg.resetBreak = false ∧ s.handle.WritesPreq io.later
      | some .platformReset =>
          s.handle.eventCfg.resetBreak = true →
            readPin s.handle .bmcPltrstB io.levels 0 = (.ok, 0) → ¬ s.handle.WritesPreq io.levels
      | _ => True
  | .write pin assert io =>
      s.handle.initialized = true → pin = .preq → assert = true → ¬ s.handle.WritesPreq io
  | .config _ _ => True

theorem preqAfter_append (preq : Bool) (drives more : List PinDrive) :
    preqAfter preq (drives ++ more) = preqAfter (preqAfter preq drives) more := by
  induction drives generalizing preq with
  | nil => rfl
  | cons drive drives ih =>
      cases drive with
      | request r => exact ih preq
      | line pin value => cases pin <;> exact ih _
      | file pin one => cases pin <;> exact ih _

/-- A writer without a driver of its own. -/
theorem preqAfter_request {pin : TargetControlGpios}
    (h : (t.gpios pin).write ≠ .gpioPin ∧ (t.gpios pin).write ≠ .gpiodPin) (io : PinIo)
    (value : Int) (preq : Bool) : preqAfter preq (writePin t pin io value).2 = preq := by
  have hrequest (r : PowerRequest) : preqAfter preq (dbusPower t.dbus io r).2 = preq := by
    rw [dbusPower]
    split
    · rfl
    · rfl
  rw [writePin]
  cases hwrite : (t.gpios pin).write with
  | gpioPin => exact absurd hwrite h.1
  | gpiodPin => exact absurd hwrite h.2
  | pinNone => rfl
  | dbusPowerButton =>
      dsimp only
      split
      · rfl
      · split
        · exact hrequest .off
        · exact hrequest .on
  | dbusReset =>
      dsimp only
      split
      · rfl
      · exact hrequest .reset

theorem preqAfter_other {pin : TargetControlGpios} (hpin : pin ≠ .bmcPreqN) (io : PinIo)
    (value : Int) (preq : Bool) : preqAfter preq (writePin t pin io value).2 = preq := by
  cases hwrite : (t.gpios pin).write with
  | gpioPin =>
      simp only [writePin, hwrite]
      split
      · cases pin <;> first | rfl | exact absurd rfl hpin
      · rfl
  | gpiodPin =>
      simp only [writePin, hwrite]
      split
      · cases pin <;> first | rfl | exact absurd rfl hpin
      · rfl
  | pinNone | dbusPowerButton | dbusReset =>
      apply preqAfter_request
      rw [hwrite]
      decide

/-- A write that gets through sets PREQ. -/
theorem preqAfter_written {io : PinIo} (h : t.WritesPreq io) (assert preq : Bool) :
    (writePin t .bmcPreqN io (if assert then 1 else 0)).1 = .ok ∧
      preqAfter preq (writePin t .bmcPreqN io (if assert then 1 else 0)).2 = assert := by
  rw [WritesPreq] at h
  cases hwrite : (t.gpios .bmcPreqN).write with
  | gpioPin =>
      rw [hwrite] at h
      simp only [writePin, hwrite, if_pos h]
      cases assert with
      | true | false => exact ⟨trivial, rfl⟩
  | gpiodPin =>
      rw [hwrite] at h
      simp only [writePin, hwrite, if_pos h]
      cases assert with
      | true | false => exact ⟨trivial, rfl⟩
  | pinNone | dbusPowerButton | dbusReset =>
      rw [hwrite] at h
      exact h.elim

/-- One that does not leaves it as it is. -/
theorem preqAfter_unwritten {io : PinIo} (h : ¬ t.WritesPreq io) (value : Int) (preq : Bool) :
    preqAfter preq (writePin t .bmcPreqN io value).2 = preq := by
  rw [WritesPreq] at h
  cases hwrite : (t.gpios .bmcPreqN).write with
  | gpioPin =>
      rw [hwrite] at h
      simp only [writePin, hwrite, if_neg h]
      rfl
  | gpiodPin =>
      rw [hwrite] at h
      simp only [writePin, hwrite, if_neg h]
      rfl
  | pinNone | dbusPowerButton | dbusReset =>
      apply preqAfter_request
      rw [hwrite]
      decide

theorem preqAfter_prdy_iff (t : TargetControlHandle) (io later : PinIo) :
    preqAfter false (onPrdyEvent t io later).drives = false ↔
      (t.eventCfg.breakAll = true → t.WritesPreq io →
        t.eventCfg.resetBreak = false ∧ t.WritesPreq later) := by
  rw [onPrdyEvent]
  cases hbreak : t.eventCfg.breakAll with
  | false => exact iff_of_true rfl nofun
  | true =>
      simp only [if_true, true_implies]
      by_cases hfirst : t.WritesPreq io
      · obtain ⟨hok, hset⟩ := preqAfter_written hfirst true false
        simp only [if_true] at hok hset
        generalize writePin t .bmcPreqN io 1 = first at hok hset
        obtain ⟨status, drives⟩ := first
        cases hok
        simp only [hfirst, true_implies]
        cases t.eventCfg.resetBreak with
        | true =>
            simp only [if_true, hset, Bool.true_eq_false, false_and]
        | false =>
            simp only [Bool.false_eq_true, if_false, preqAfter_append, hset, true_and]
            by_cases hsecond : t.WritesPreq later
            · have hback := (preqAfter_written hsecond false true).2
              simp only [Bool.false_eq_true, if_false] at hback
              exact iff_of_true hback hsecond
            · rw [preqAfter_unwritten hsecond]
              exact iff_of_false Bool.noConfusion hsecond
      · have hfirst' := preqAfter_unwritten hfirst 1 false
        refine iff_of_true ?_ fun hw => absurd hw hfirst
        generalize writePin t .bmcPreqN io 1 = first at hfirst'
        obtain ⟨status, drives⟩ := first
        cases status with
        | ok =>
            dsimp only
            split
            · exact hfirst'
            · simp only [preqAfter_append, hfirst']
              by_cases hsecond : t.WritesPreq later
              · exact (preqAfter_written hsecond false false).2
              · exact preqAfter_unwritten hsecond 0 false
        | err | timeout => exact hfirst'

theorem preqAfter_reset_iff (t : TargetControlHandle) (io : PinIo) :
    preqAfter false (onPlatformResetEvent t io).drives = false ↔
      (t.eventCfg.resetBreak = true → readPin t .bmcPltrstB io 0 = (.ok, 0) →
        ¬ t.WritesPreq io) := by
  rw [onPlatformResetEvent]
  generalize readPin t .bmcPltrstB io 0 = read
  obtain ⟨status, value⟩ := read
  cases status with
  | err | timeout => exact iff_of_true rfl fun _ hread => nomatch hread
  | ok =>
      dsimp only
      by_cases hvalue : value = 0
      · rw [if_pos hvalue, hvalue]
        cases t.eventCfg.resetBreak with
        | false => exact iff_of_true rfl nofun
        | true =>
            simp only [if_true, true_implies]
            by_cases hwrite : t.WritesPreq io
            · have hset := (preqAfter_written hwrite true false).2
              simp only [if_true] at hset
              rw [hset]
              exact iff_of_false Bool.noConfusion fun h => h hwrite
            · exact iff_of_true (preqAfter_unwritten hwrite 1 false) hwrite
      · rw [if_neg hvalue]
        refine iff_of_true rfl fun _ hread => ?_
        cases hread
        exact absurd rfl hvalue

theorem onPower_drives (pin : TargetControlGpios) (restored failed : PinEvent)
    (t : TargetControlHandle) (io : PinIo) : (onPower pin restored failed t io).drives = [] := by
  rw [onPower]
  split
  · rfl
  · rfl

theorem pinEvent_drives (t : TargetControlHandle) (io : TargetEventIo) (p : PolledFd) :
    (t.pinEvent io p).2.2.2 =
      (if (p.events.pollIn || p.events.pollPri) = true then
        (t.pinOfFd p.fd).bind fun pin =>
          if targetClearGpioEvent (t.gpios pin) (io.lineRead pin) = .ok then
            (t.gpios pin).handler else none
      else none).elim [] fun handler => (handler.run t io).drives := by
  have hready : (p.events.pollIn = true ∨ p.events.pollPri = true ∨
      p.events.pollPri = true ∧ p.events.pollErr = true) ↔
        (p.events.pollIn || p.events.pollPri) = true := by
    rw [Bool.or_eq_true]
    exact or_congr_right (or_iff_left_of_imp And.left)
  simp only [pinEvent, hready]
  split
  · cases t.pinOfFd p.fd with
    | none => rfl
    | some pin =>
        simp only [Option.bind_some]
        split
        · cases (t.gpios pin).handler with
          | none => rfl
          | some handler => rfl
        · rfl
  · rfl

/-- An event drives what the handler it reaches drives. -/
theorem targetEvent_drives (t : TargetControlHandle) (h : SppHandler)
    (devFds : Fin maxSppBusDevices → Nat) (io : TargetEventIo) (p : PolledFd) :
    (t.targetEvent h devFds io p).2.2.2 =
      (t.dispatched h devFds io p).elim [] fun handler => (handler.run t io).drives := by
  simp only [targetEvent, dispatched]
  cases t.initialized with
  | false => rfl
  | true =>
      simp only [Bool.not_true, Bool.false_eq_true, if_false, Bool.true_and]
      generalize (if t.spp = true ∧ p.events.pollIn = true then
        h.countedSlots.find? fun slot => decide (slotFd h devFds slot = p.fd) else none) = slot
      cases slot with
      | some slot =>
          have hsize : i3cIbiStatus eventBufferSize = .ok := rfl
          simp only [hsize, if_true, Option.isNone_some, Bool.false_and, Bool.false_eq_true,
            if_false, Option.elim_none]
      | none =>
          simp only [Option.isNone_none, Bool.true_and]
          cases t.dbus with
          | none => exact pinEvent_drives t io p
          | some dbus =>
              simp only [Option.any_some]
              by_cases hbus : dbus.fd = p.fd ∧ p.events.pollIn = true
              · simp only [hbus, and_self, if_true, decide_true, Bool.not_true, Bool.false_and,
                  Bool.false_eq_true, if_false, Option.elim_none]
              · simp only [hbus, if_false, decide_false, Bool.not_false, Bool.true_and]
                exact pinEvent_drives t io p

theorem PreqWatch.step_iff {s : PreqWatch} (hs : s.preq = false) (op : TargetOp) :
    (s.step op).preq = false ↔ s.StepsBack op := by
  cases op with
  | config config enable => exact iff_of_true hs trivial
  | write pin assert io =>
      simp only [PreqWatch.step, PreqWatch.StepsBack, targetWrite, hs]
      cases s.handle.initialized with
      | false => exact iff_of_true rfl nofun
      | true =>
          simp only [Bool.not_true, Bool.false_eq_true, if_false, true_implies]
          cases pin with
          | pwrgood | prdy => exact iff_of_true rfl nofun
          | resetButton | powerButton | earlyBootStall | sysPwrOk | tckMuxSelect =>
              simp only [Pin.gpio]
              refine iff_of_true (preqAfter_other (by decide) io _ false) ?_
              intro hpin
              cases hpin
          | preq =>
              simp only [true_implies]
              by_cases hwrite : s.handle.WritesPreq io
              · have hset := (preqAfter_written hwrite assert false).2
                simp only [Pin.gpio, hset, hwrite, not_true_eq_false, imp_false,
                  Bool.not_eq_true]
              · refine iff_of_true ?_ fun _ => hwrite
                exact preqAfter_unwritten hwrite _ false
  | event h devFds io p =>
      simp only [PreqWatch.step, PreqWatch.StepsBack, targetEvent_drives, hs]
      cases s.handle.dispatched h devFds io p with
      | none => exact iff_of_true rfl trivial
      | some handler =>
          cases handler with
          | prdy => exact preqAfter_prdy_iff s.handle io.levels io.later
          | platformReset => exact preqAfter_reset_iff s.handle io.levels
          | xdpPresent => exact iff_of_true rfl trivial
          | power =>
              have hnone := onPower_drives .bmcCpuPwrgd .pwrRestore .pwrFail s.handle io.levels
              simp only [Option.elim_some, TargetEventHandler.run, onPowerEvent, hnone, preqAfter]
          | power2 =>
              have hnone := onPower_drives .bmcPwrgd2 .pwrRestore2 .pwrFail2 s.handle io.levels
              simp only [Option.elim_some, TargetEventHandler.run, onPower2Event, hnone, preqAfter]
          | power3 =>
              have hnone := onPower_drives .bmcPwrgd3 .pwrRestore3 .pwrFail3 s.handle io.levels
              simp only [Option.elim_some, TargetEventHandler.run, onPower3Event, hnone, preqAfter]

/-- PREQ, which is requested deasserted, is so between any two operations of a run if and
only if every operation steps back from it. -/
theorem preq_released_iff (t : TargetControlHandle) (ops : List TargetOp) :
    Machine.Meets PreqWatch.step (fun s op => (s.step op).preq = false) ⟨t, false⟩ ops ↔
      Machine.Meets PreqWatch.step PreqWatch.StepsBack ⟨t, false⟩ ops := by
  apply Machine.meets_iff_of_invariant (I := fun s => s.preq = false)
  · intro s op hs hback
    exact (PreqWatch.step_iff hs op).mpr hback
  · intro s op hs
    exact PreqWatch.step_iff hs op
  · rfl

end Preq

end TargetControlHandle

end AtScaleDebug
