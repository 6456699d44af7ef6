import AtScaleDebug.Common
import AtScaleDebug.Lib.LastWrite

/-!
The power state of the host, which the target handler keeps from the signals of the
chassis service. A signal carries a dictionary of properties; the callback reads it with
one variable for the names and the values, and looks at what the variable holds at the
end. A wake-up handles all signals there are and announces the difference, unless the bus
fails on the way.
-/

namespace AtScaleDebug

section Handle

inductive PowerState where
  | unknown | off | on
  deriving DecidableEq, Repr

def PowerState.toInt : PowerState → Int
  | .unknown => -1
  | .off => 0
  | .on => 1

/-- The events that the pins and the power state cause. -/
inductive PinEvent where
  | plrstAssert | plrstDeassrt | prdyEvent | pwrRestore | pwrFail | xdpPresent
  | pwrRestore2 | pwrFail2 | pwrRestore3 | pwrFail3
  deriving DecidableEq, Repr

def PinEvent.toUInt8 : PinEvent → UInt8
  | .plrstAssert => 1
  | .plrstDeassrt => 2
  | .prdyEvent => 3
  | .pwrRestore => 4
  | .pwrFail => 5
  | .xdpPresent => 6
  | .pwrRestore2 => 8
  | .pwrFail2 => 9
  | .pwrRestore3 => 10
  | .pwrFail3 => 11

def getPowerStateProperty : String := "CurrentPowerState"
def powerOffProperty : String := "xyz.openbmc_project.State.Chassis.PowerState.Off"
def powerOnProperty : String := "xyz.openbmc_project.State.Chassis.PowerState.On"

/-- `Dbus_Handle`. The descriptor is `none` where the source has a negative number. -/
structure DbusHandle where
  bus : Bool
  fd : Option Nat
  powerState : PowerState
  deriving DecidableEq, Repr

def dbusHelper : DbusHandle := ⟨false, none, .unknown⟩

/-- `dbus_get_powerstate`. The property is read while no state is known, `none` when it
cannot be, and a value that begins like the one for on counts as on. -/
def dbusGetPowerstate (h : DbusHandle) (property : Option String) : Option PowerState :=
  if !h.bus then none
  else if h.powerState ≠ .unknown then some h.powerState
  else property.map fun value =>
    if powerOnProperty.toList.isPrefixOf value.toList then .on else .off

def dbusDeinitialize (h : DbusHandle) (closed : Bool) : DbusHandle × Status :=
  if h.bus then
    (⟨false, if closed then none else h.fd, .unknown⟩, if closed then .ok else .err)
  else (h, .err)

structure DbusInitIo where
  opened : Bool
  fd : Option Nat
  matchAdded : Bool
  property : Option String
  closed : Bool

def dbusInitialize (h : DbusHandle) (io : DbusInitIo) : DbusHandle × Status :=
  if !io.opened then (h, .err)
  else
    let h : DbusHandle := { h with bus := true, fd := io.fd }
    let state := if io.fd.isSome && io.matchAdded then dbusGetPowerstate h io.property else none
    match state with
    | some powerState => ({ h with powerState }, .ok)
    | none =>
        let closed := dbusDeinitialize h io.closed
        (closed.1, .err)

end Handle

section Signals

/-- An entry of the dictionary, as far as it can be read. Names of properties have no dots. -/
structure DictEntry where
  name : Option String
  value : Option String
  noDot : ∀ n, name = some n → '.' ∉ n.toList

/-- A `PropertiesChanged` signal: whether the interface name can be skipped and the
dictionary entered and left, and its entries. -/
structure PropertiesChanged where
  skipped : Bool
  entered : Bool
  entries : List DictEntry
  exited : Bool

/-- The loop of `match_callback`: what `str` and `result` hold behind it. -/
def readEntries : List DictEntry → Option String → Status → Option String × Status
  | [], str, result => (str, result)
  | e :: es, str, result =>
      match e.name with
      | none => (str, .err)
      | some name =>
          if name ≠ getPowerStateProperty then readEntries es (some name) result
          else
            match e.value with
            | none => (some name, .err)
            | some value => readEntries es (some value) .ok

def matchCallback (h : DbusHandle) (msg : PropertiesChanged) : DbusHandle × Status :=
  if !msg.skipped || !msg.entered then (h, .err)
  else
    match readEntries msg.entries none .err with
    | (str, .ok) =>
        ({ h with powerState := if str = some powerOffProperty then .off else .on },
          if msg.exited then .ok else .err)
    | (_, result) => (h, result)

/-- What comes of one wake-up: the signals that are dispatched until the bus has no more,
and whether it failed instead. -/
structure BusWakeup where
  signals : List PropertiesChanged
  failed : Bool

/-- `dbus_process_event`. -/
def dbusProcessEvent (h : DbusHandle) (w : BusWakeup) : DbusHandle × Status × Option PinEvent :=
  let processed := Machine.run (fun h msg => (matchCallback h msg).1) h w.signals
  if w.failed then (processed, .err, none)
  else if processed.powerState ≠ h.powerState then
    (processed, .ok, some (if processed.powerState = .on then .pwrRestore else .pwrFail))
  else (processed, .ok, none)

end Signals

section Reported

def DictEntry.IsState (e : DictEntry) : Prop := e.name = some getPowerStateProperty

instance (e : DictEntry) : Decidable e.IsState :=
  inferInstanceAs (Decidable (e.name = some getPowerStateProperty))

/-- The entry can be read as far as the callback reads it. -/
def DictEntry.Readable (e : DictEntry) : Prop :=
  e.name.isSome ∧ (e.IsState → e.value.isSome)

instance (e : DictEntry) : Decidable e.Readable :=
  inferInstanceAs (Decidable (e.name.isSome ∧ (e.IsState → e.value.isSome)))

def PropertiesChanged.Readable (msg : PropertiesChanged) : Prop :=
  msg.skipped = true ∧ msg.entered = true ∧ ∀ e ∈ msg.entries, e.Readable

instance (msg : PropertiesChanged) : Decidable msg.Readable :=
  inferInstanceAs (Decidable (_ ∧ _ ∧ _))

def DictEntry.state (e : DictEntry) : Option String := if e.IsState then e.value else none

/-- The power state that a signal tells: that of its last entry for it, in a signal that
can be read. -/
def PropertiesChanged.reported (msg : PropertiesChanged) : Option PowerState :=
  if msg.Readable then
    (msg.entries.filterMap DictEntry.state).getLast?.map fun value =>
      if value = powerOffProperty then .off else .on
  else none

/-- No other property follows the power state. -/
def PropertiesChanged.EndsWithState (msg : PropertiesChanged) : Prop :=
  ∃ e, msg.entries.getLast? = some e ∧ e.IsState

theorem powerOffProperty_has_dot : '.' ∈ powerOffProperty.toList := by
  decide

theorem DictEntry.name_ne_off (e : DictEntry) : e.name ≠ some powerOffProperty := by
  intro heq
  exact e.noDot powerOffProperty heq powerOffProperty_has_dot

/-- What `str` holds behind an entry. -/
def DictEntry.str (e : DictEntry) : Option String := if e.IsState then e.value else e.name

theorem readEntries_cons {e : DictEntry} (he : e.Readable) (es : List DictEntry)
    (str : Option String) (result : Status) :
    readEntries (e :: es) str result =
      readEntries es e.str (if e.IsState then .ok else result) := by
  cases hname : e.name with
  | none =>
      have hsome := he.1
      rw [hname] at hsome
      cases hsome
  | some name =>
      by_cases hstate : e.IsState
      · have hname' : name = getPowerStateProperty := Option.some.inj (hname.symm.trans hstate)
        cases hvalue : e.value with
        | none =>
            have hsome := he.2 hstate
            rw [hvalue] at hsome
            cases hsome
        | some value =>
            simp only [readEntries, hname, hname', hvalue, DictEntry.str, if_pos hstate,
              ne_eq, not_true_eq_false, if_false]
      · have hname' : name ≠ getPowerStateProperty := by
          intro heq
          exact hstate (hname.trans (congrArg some heq))
        simp only [readEntries, hname, DictEntry.str, if_neg hstate, if_pos hname']

theorem readEntries_readable {es : List DictEntry} (h : ∀ e ∈ es, e.Readable)
    (str : Option String) (result : Status) :
    readEntries es str result =
      (es.getLast?.elim str DictEntry.str, if ∃ e ∈ es, e.IsState then .ok else result) := by
  induction es generalizing str result with
  | nil => simp only [readEntries, List.getLast?_nil, Option.elim_none, List.not_mem_nil,
      false_and, exists_false, if_false]
  | cons e es ih =>
      have hes : ∀ e ∈ es, e.Readable := fun other hother => h other (.tail e hother)
      have hlast : (e :: es).getLast?.elim str DictEntry.str =
          es.getLast?.elim e.str DictEntry.str := by
        rw [List.getLast?_cons]
        cases es.getLast? with
        | none => rfl
        | some last => rfl
      rw [readEntries_cons (h e List.mem_cons_self), ih hes, hlast]
      simp only [List.exists_mem_cons_iff]
      by_cases he : e.IsState
      · simp only [he, if_true, true_or, ite_self]
      · simp only [he, if_false, false_or]

theorem readEntries_unreadable {es : List DictEntry} (h : ¬ ∀ e ∈ es, e.Readable)
    (str : Option String) (result : Status) : (readEntries es str result).2 = .err := by
  induction es generalizing str result with
  | nil => exact absurd (fun e he => absurd he List.not_mem_nil) h
  | cons e es ih =>
      by_cases he : e.Readable
      · have hes : ¬ ∀ e ∈ es, e.Readable := by
          intro hall
          exact h (List.forall_mem_cons.mpr ⟨he, hall⟩)
        rw [readEntries_cons he]
        exact ih hes _ _
      · cases hname : e.name with
        | none => simp only [readEntries, hname]
        | some name =>
            have hstate : e.IsState ∧ e.value = none := by
              by_contra hnot
              apply he
              refine ⟨by rw [hname]; rfl, fun hstate => ?_⟩
              exact Option.ne_none_iff_isSome.mp fun hnone => hnot ⟨hstate, hnone⟩
            have hname' : name = getPowerStateProperty :=
              Option.some.inj (hname.symm.trans hstate.1)
            simp only [readEntries, hname, hname', hstate.2, ne_eq, not_true_eq_false, if_false]

/-- The value of the last entry for the state, where that is the last of all. -/
theorem getLast?_states {es : List DictEntry} {e : DictEntry} (hlast : es.getLast? = some e)
    (hstate : e.IsState) (hreadable : e.Readable) :
    (es.filterMap DictEntry.state).getLast? = e.value := by
  have hsplit := List.dropLast_append_getLast? e hlast
  cases hvalue : e.value with
  | none =>
      have hsome := hreadable.2 hstate
      rw [hvalue] at hsome
      cases hsome
  | some value =>
      have hone : e.state = some value := by rw [DictEntry.state, if_pos hstate, hvalue]
      rw [← hsplit, List.filterMap_append, List.filterMap_cons_some hone, List.filterMap_nil,
        List.getLast?_concat]

theorem states_ne_nil_iff {es : List DictEntry} (h : ∀ e ∈ es, e.Readable) :
    es.filterMap DictEntry.state ≠ [] ↔ ∃ e ∈ es, e.IsState := by
  rw [Ne, List.filterMap_eq_nil_iff, not_forall]
  simp only [not_forall, exists_prop]
  apply exists_congr
  intro e
  apply and_congr_right
  intro he
  by_cases hstate : e.IsState
  · have hvalue := Option.isSome_iff_ne_none.mp ((h e he).2 hstate)
    simp only [DictEntry.state, hstate, if_true, hvalue, not_false_eq_true]
  · simp only [DictEntry.state, hstate, if_false, not_true_eq_false]

instance (msg : PropertiesChanged) : Decidable msg.EndsWithState :=
  decidable_of_iff (msg.entries.getLast?.any fun e => decide e.IsState) <| by
    simp only [PropertiesChanged.EndsWithState, Option.any_eq_true, decide_eq_true_eq]

/-- A signal that cannot be read changes nothing. -/
theorem matchCallback_unreadable {msg : PropertiesChanged} (h : DbusHandle)
    (hreadable : ¬ msg.Readable) : (matchCallback h msg).1 = h := by
  rw [matchCallback]
  split
  · rfl
  · next hframe =>
      simp only [Bool.or_eq_true, Bool.not_eq_true', not_or, Bool.not_eq_false] at hframe
      have hentries : ¬ ∀ e ∈ msg.entries, e.Readable := by
        intro hall
        exact hreadable ⟨hframe.1, hframe.2, hall⟩
      have herr := readEntries_unreadable hentries none .err
      split
      · next hok =>
          rw [hok] at herr
          cases herr
      · rfl

/-- In a signal without an entry for the state nothing is stored either. -/
theorem matchCallback_readable {msg : PropertiesChanged} (h : DbusHandle)
    (hreadable : msg.Readable) :
    (matchCallback h msg).1.powerState =
      if ∃ e ∈ msg.entries, e.IsState then
        if msg.entries.getLast?.elim none DictEntry.str = some powerOffProperty then .off else .on
      else h.powerState := by
  have hframe : ¬ (!msg.skipped || !msg.entered) = true := by
    rw [hreadable.1, hreadable.2.1]
    decide
  simp only [matchCallback, if_neg hframe, readEntries_readable hreadable.2.2]
  by_cases hany : ∃ e ∈ msg.entries, e.IsState
  · simp only [if_pos hany]
  · simp only [if_neg hany]

theorem str_of_isState {e : DictEntry} (hstate : e.IsState) : e.str = e.value :=
  if_pos hstate

theorem str_ne_off {e : DictEntry} (hstate : ¬ e.IsState) : e.str ≠ some powerOffProperty := by
  rw [DictEntry.str, if_neg hstate]
  exact e.name_ne_off

/-- What the callback stores: what the signal tells, or on when another property follows. -/
theorem matchCallback_powerState (h : DbusHandle) (msg : PropertiesChanged) :
    (matchCallback h msg).1.powerState =
      msg.reported.elim h.powerState fun p => if msg.EndsWithState then p else .on := by
  by_cases hreadable : msg.Readable
  · rw [matchCallback_readable h hreadable, PropertiesChanged.reported, if_pos hreadable]
    have hiff := states_ne_nil_iff hreadable.2.2
    by_cases hany : ∃ e ∈ msg.entries, e.IsState
    · have hstates := hiff.mpr hany
      have htold := List.getLast?_eq_some_getLast hstates
      have hne : msg.entries ≠ [] := by
        intro hnil
        rw [hnil] at hany
        exact hany.elim fun e he => absurd he.1 List.not_mem_nil
      have hlast := List.getLast?_eq_some_getLast hne
      rw [if_pos hany]
      by_cases hstate : (msg.entries.getLast hne).IsState
      · have hends : msg.EndsWithState := ⟨_, hlast, hstate⟩
        have hvalue := getLast?_states hlast hstate (hreadable.2.2 _ (List.getLast_mem hne))
        rw [htold] at hvalue
        simp only [hlast, htold, Option.elim_some, Option.map_some, if_pos hends,
          str_of_isState hstate, ← hvalue, Option.some.injEq]
      · have hends : ¬ msg.EndsWithState := by
          intro hends
          obtain ⟨e, he, hstate'⟩ := hends
          cases Option.some.inj (hlast.symm.trans he)
          exact hstate hstate'
        simp only [hlast, htold, Option.elim_some, Option.map_some, if_neg hends,
          if_neg (str_ne_off hstate)]
    · have hnil := not_not.mp fun hne => hany (hiff.mp hne)
      simp only [if_neg hany, hnil, List.getLast?_nil, Option.map_none, Option.elim_none]
  · rw [matchCallback_unreadable h hreadable, PropertiesChanged.reported, if_neg hreadable,
      Option.elim_none]

end Reported

section Runs

/-- What a wake-up leaves of the handle. -/
def wakeupHandle (h : DbusHandle) (w : BusWakeup) : DbusHandle :=
  Machine.run (fun h msg => (matchCallback h msg).1) h w.signals

theorem dbusProcessEvent_handle (h : DbusHandle) (w : BusWakeup) :
    (dbusProcessEvent h w).1 = wakeupHandle h w := by
  simp only [dbusProcessEvent, wakeupHandle]
  split
  · rfl
  · split
    · rfl
    · rfl

/-- The state a signal tells, and whether that is its last property. -/
def PropertiesChanged.telling (msg : PropertiesChanged) : Option (PowerState × Bool) :=
  msg.reported.map fun p => (p, decide msg.EndsWithState)

theorem wakeups_powerState (h : DbusHandle) (ws : List BusWakeup) :
    (Machine.run (fun h w => (dbusProcessEvent h w).1) h ws).powerState =
      (LastWrite.lastWrite PropertiesChanged.telling (ws.flatMap BusWakeup.signals)).elim
        h.powerState fun told => if told.2 then told.1 else .on := by
  rw [Machine.run_flatMap dbusProcessEvent_handle h ws]
  apply LastWrite.run_assigned DbusHandle.powerState
  intro h msg
  rw [matchCallback_powerState, PropertiesChanged.telling]
  cases msg.reported with
  | none => rfl
  | some p => simp only [Option.elim_some, Option.map_some, decide_eq_true_eq]

/-- After any number of wake-ups, failing ones among them, the stored state is what the
signals told last, if and only if that was on or no other property followed it. -/
theorem stored_last_told_iff (h : DbusHandle) (ws : List BusWakeup) :
    (Machine.run (fun h w => (dbusProcessEvent h w).1) h ws).powerState =
        ((LastWrite.lastWrite PropertiesChanged.telling (ws.flatMap BusWakeup.signals)).map
          Prod.fst).getD h.powerState ↔
      ∀ p last, LastWrite.lastWrite PropertiesChanged.telling (ws.flatMap BusWakeup.signals) =
        some (p, last) → p = .on ∨ last = true := by
  rw [wakeups_powerState]
  cases LastWrite.lastWrite PropertiesChanged.telling (ws.flatMap BusWakeup.signals) with
  | none => exact iff_of_true rfl fun p last hnone => nomatch hnone
  | some told =>
      obtain ⟨p, last⟩ := told
      simp only [Option.elim_some, Option.map_some, Option.getD_some, Option.some.injEq,
        Prod.mk.injEq]
      constructor
      · intro hstored p' last' heq
        cases last with
        | true => exact .inr heq.2.symm
        | false => exact .inl (heq.1 ▸ hstored.symm)
      · intro hall
        cases last with
        | true => rfl
        | false =>
            cases hall p false ⟨rfl, rfl⟩ with
            | inl hon => exact hon.symm
            | inr hfalse => cases hfalse

/-- The handle with what the client was told of it. -/
structure PowerWatch where
  handle : DbusHandle
  announced : PowerState

def announcedBy (announced : PowerState) : Option PinEvent → PowerState
  | some .pwrRestore => .on
  | some .pwrFail => .off
  | _ => announced

def PowerWatch.step (s : PowerWatch) (w : BusWakeup) : PowerWatch :=
  ⟨(dbusProcessEvent s.handle w).1, announcedBy s.announced (dbusProcessEvent s.handle w).2.2⟩

/-- The client knows the stored state, and no event tells it what it knew. -/
def PowerWatch.Faithful (s : PowerWatch) (w : BusWakeup) : Prop :=
  (s.step w).announced = (s.step w).handle.powerState ∧
    ((dbusProcessEvent s.handle w).2.2.isSome → (s.step w).announced ≠ s.announced)

/-- A wake-up that fails changes nothing. -/
def PowerWatch.Harmless (s : PowerWatch) (w : BusWakeup) : Prop :=
  w.failed = true → (wakeupHandle s.handle w).powerState = s.handle.powerState

instance (s : PowerWatch) (w : BusWakeup) : Decidable (s.Harmless w) :=
  inferInstanceAs (Decidable (_ → _))

def PowerWatch.Agrees (s : PowerWatch) : Prop :=
  s.announced = s.handle.powerState ∧ s.handle.powerState ≠ .unknown

theorem wakeupHandle_known {h : DbusHandle} (hknown : h.powerState ≠ .unknown) (w : BusWakeup) :
    (wakeupHandle h w).powerState ≠ .unknown := by
  refine Machine.run_invariant_of_step (I := fun h : DbusHandle => h.powerState ≠ .unknown)
    (fun h msg hh => ?_) w.signals hknown
  rw [matchCallback_powerState]
  simp only [PropertiesChanged.reported]
  split
  · cases (msg.entries.filterMap DictEntry.state).getLast? with
    | none => exact hh
    | some value =>
        simp only [Option.map_some, Option.elim_some]
        split
        · split
          · decide
          · decide
        · decide
  · exact hh

theorem dbusProcessEvent_event (h : DbusHandle) (w : BusWakeup) :
    (dbusProcessEvent h w).2.2 =
      if w.failed = false ∧ (wakeupHandle h w).powerState ≠ h.powerState then
        some (if (wakeupHandle h w).powerState = .on then .pwrRestore else .pwrFail)
      else none := by
  simp only [dbusProcessEvent]
  cases hfailed : w.failed with
  | true => simp only [if_true, Bool.true_eq_false, false_and, if_false]
  | false =>
      simp only [Bool.false_eq_true, if_false, true_and]
      exact apply_ite (fun r : DbusHandle × Status × Option PinEvent => r.2.2) _ _ _

theorem PowerWatch.step_handle (s : PowerWatch) (w : BusWakeup) :
    (s.step w).handle = wakeupHandle s.handle w := dbusProcessEvent_handle s.handle w

/-- A wake-up that does not fail announces the state it stores. -/
theorem PowerWatch.step_of_processed {s : PowerWatch} {w : BusWakeup} (hs : s.Agrees)
    (hfailed : w.failed = false) :
    (s.step w).announced = (wakeupHandle s.handle w).powerState := by
  have hknown := wakeupHandle_known hs.2 w
  simp only [PowerWatch.step, dbusProcessEvent_event, hfailed, true_and]
  by_cases hsame : (wakeupHandle s.handle w).powerState = s.handle.powerState
  · simp only [hsame, ne_eq, not_true_eq_false, if_false, announcedBy, hs.1]
  · simp only [ne_eq, hsame, not_false_eq_true, if_true]
    cases hstate : (wakeupHandle s.handle w).powerState with
    | unknown => exact absurd hstate hknown
    | off => rfl
    | on => rfl

theorem PowerWatch.step_of_failed {s : PowerWatch} {w : BusWakeup} (hfailed : w.failed = true) :
    (s.step w).announced = s.announced := by
  simp only [PowerWatch.step, dbusProcessEvent_event, hfailed, Bool.true_eq_false, false_and,
    if_false, announcedBy]

theorem PowerWatch.faithful_iff {s : PowerWatch} (hs : s.Agrees) (w : BusWakeup) :
    s.Faithful w ↔ s.Harmless w := by
  simp only [PowerWatch.Faithful, PowerWatch.Harmless, PowerWatch.step_handle,
    dbusProcessEvent_event]
  cases hfailed : w.failed with
  | true =>
      simp only [PowerWatch.step_of_failed hfailed, Bool.true_eq_false, false_and, if_false,
        Option.isSome_none, Bool.false_eq_true, false_implies, and_true, true_implies, hs.1]
      exact eq_comm
  | false =>
      simp only [PowerWatch.step_of_processed hs hfailed, true_and, Bool.false_eq_true,
        false_implies, iff_true, hs.1]
      intro hevent hsame
      rw [if_neg fun hne => hne hsame] at hevent
      cases hevent

theorem PowerWatch.agrees_step {s : PowerWatch} {w : BusWakeup} (hs : s.Agrees)
    (hharmless : s.Harmless w) : (s.step w).Agrees := by
  refine ⟨((PowerWatch.faithful_iff hs w).mpr hharmless).1, ?_⟩
  rw [PowerWatch.step_handle]
  exact wakeupHandle_known hs.2 w

theorem dbusGetPowerstate_known {h : DbusHandle} {property : Option String} {p : PowerState}
    (hp : dbusGetPowerstate h property = some p) : p ≠ .unknown := by
  simp only [dbusGetPowerstate] at hp
  split at hp
  · cases hp
  · split at hp
    · next hknown =>
        cases hp
        exact hknown
    · obtain ⟨value, _, hvalue⟩ := Option.map_eq_some_iff.mp hp
      split at hvalue
      · cases hvalue
        decide
      · cases hvalue
        decide

theorem dbusInitialize_known {h : DbusHandle} {io : DbusInitIo}
    (hok : (dbusInitialize h io).2 = .ok) : (dbusInitialize h io).1.powerState ≠ .unknown := by
  simp only [dbusInitialize] at hok ⊢
  split at hok
  · cases hok
  · next hopened =>
      rw [if_neg hopened]
      split at hok
      · next p hp =>
          split at hp
          · exact dbusGetPowerstate_known hp
          · cases hp
      · cases hok

/-- When the handlers have been initialised the client is told of the state at once. -/
def PowerWatch.start (h : DbusHandle) : PowerWatch :=
  ⟨h, if h.powerState = .on then .on else .off⟩

theorem PowerWatch.agrees_start {h : DbusHandle} (hknown : h.powerState ≠ .unknown) :
    (PowerWatch.start h).Agrees := by
  refine ⟨?_, hknown⟩
  cases hstate : h.powerState with
  | unknown => exact absurd hstate hknown
  | off => simp only [PowerWatch.start, hstate, reduceCtorEq, if_false]
  | on => simp only [PowerWatch.start, hstate, if_true]

/-- The client knows the stored state all along a run, and is only told of changes, if and
only if no wake-up of the run stores a new state and then fails. -/
theorem announced_faithful_iff {h : DbusHandle} {io : DbusInitIo}
    (hok : (dbusInitialize h io).2 = .ok) (ws : List BusWakeup) :
    Machine.Meets PowerWatch.step PowerWatch.Faithful
        (PowerWatch.start (dbusInitialize h io).1) ws ↔
      Machine.Meets PowerWatch.step PowerWatch.Harmless
        (PowerWatch.start (dbusInitialize h io).1) ws := by
  apply Machine.meets_iff_of_invariant (I := PowerWatch.Agrees)
  · intro s w hs hharmless
    exact PowerWatch.agrees_step hs hharmless
  · intro s w hs
    exact PowerWatch.faithful_iff hs w
  · exact PowerWatch.agrees_start (dbusInitialize_known hok)

theorem announced_faithful_iff_off_on :
    let off : DictEntry := ⟨some getPowerStateProperty, some powerOffProperty, by decide⟩
    let ws : List BusWakeup := [⟨[⟨true, true, [off], true⟩], false⟩, ⟨[], true⟩]
    let h := (dbusInitialize dbusHelper ⟨true, some 7, true, some powerOnProperty, true⟩).1
    Machine.Meets PowerWatch.step PowerWatch.Faithful (PowerWatch.start h) ws ↔
      Machine.Meets PowerWatch.step PowerWatch.Harmless (PowerWatch.start h) ws :=
  announced_faithful_iff (by decide) _

end Runs

end AtScaleDebug
