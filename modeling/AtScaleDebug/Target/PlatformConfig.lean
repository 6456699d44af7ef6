import AtScaleDebug.Target.BusOptions

/-!
The bus configuration of the platform: `dbus_get_platform_bus_config` reads the
`BusConfig` entries of the ASD object one after the other and places each of them. The
number of an entry that is not there ends the reading; a type that cannot be read or is
unknown makes the call fail, and what was placed is rolled back.

What the object mapper and the property reads answer are arguments. The entries placed
are kept beside the options, in order, to say where they went.
-/

namespace AtScaleDebug

/-- The properties of one entry, `none` where the read fails. -/
structure BusConfigRead where
  busNum : Option UInt64
  busType : Option String

structure Placement where
  index : Nat
  type : BusConfigType
  bus : UInt8
  deriving DecidableEq, Repr

/-- `j` and `k` count the entries of the two parts. -/
structure PlatformState where
  options : BusOptions
  j : Nat
  k : Nat
  placed : List Placement

namespace PlatformState

def place (s : PlatformState) (index : Nat) (type : BusConfigType) (bus : UInt64) :
    PlatformState :=
  { s with
    options := s.options.place index type bus.toUInt8
    placed := s.placed ++ [⟨index, type, bus.toUInt8⟩] }

/-- `busopt->bus_config_map[j]`, `busopt->bus_config_type[j++]`. -/
def placeIxC (s : PlatformState) (type : BusConfigType) (bus : UInt64) : PlatformState :=
  { s.place s.j type bus with j := s.j + 1 }

def placeSpp (s : PlatformState) (bus : UInt64) : PlatformState :=
  { s.place (maxIxCBuses + s.k) .spp bus with k := s.k + 1 }

/-- The first bus of a kind becomes the default bus. -/
def enableI2c (s : PlatformState) (bus : UInt64) : PlatformState :=
  if s.options.enableI2c then s
  else { s with options := { s.options with enableI2c := true, bus := bus.toUInt8 } }

def enableI3c (s : PlatformState) (bus : UInt64) : PlatformState :=
  if s.options.enableI3c then s
  else { s with options := { s.options with enableI3c := true, bus := bus.toUInt8 } }

def enableSpp (s : PlatformState) (bus : UInt64) : PlatformState :=
  if s.options.enableSpp then s
  else { s with options := { s.options with enableSpp := true, bus := bus.toUInt8 } }

end PlatformState

/-- One entry; a status ends the reading with it. -/
def readBusConfig (s : PlatformState) (read : BusConfigRead) : PlatformState × Option Status :=
  match read.busNum with
  | none => (s, some .ok)
  | some bus =>
      match read.busType with
      | none => (s, some .err)
      | some str =>
          -- an entry that is not allowed is placed without a look at the limits
          if str = BusConfigType.notAllowed.string then (s.placeIxC .notAllowed bus, none)
          else if s.j ≥ maxIxCBuses ∨ s.k ≥ maxSppBuses then (s, some .ok)
          else if str = BusConfigType.i2c.string then
            ((s.placeIxC .i2c bus).enableI2c bus, none)
          else if str = BusConfigType.i3c.string then
            ((s.placeIxC .i3c bus).enableI3c bus, none)
          else if str = BusConfigType.spp.string then
            ((s.placeSpp bus).enableSpp bus, none)
          else if str = BusConfigType.i3cDbg.string then
            ((s.placeSpp bus).enableSpp bus, none)
          else (s, some .err)

def readBusConfigs (reads : Nat → BusConfigRead) :
    Nat → Nat → PlatformState → PlatformState × Status
  | 0, _, s => (s, .ok)
  | rounds + 1, i, s =>
      match readBusConfig s (reads i) with
      | (s, none) => readBusConfigs reads rounds (i + 1) s
      | (s, some status) => (s, status)

/-- What a failure clears again. -/
def BusOptions.rollBack (o : BusOptions) : BusOptions :=
  { o with
    enableI2c := false
    enableI3c := false
    busConfigMap := fun i => if i < maxIxCBuses then 0 else o.busConfigMap i
    busConfigType := fun i => if i < maxIxCBuses then .notAllowed else o.busConfigType i }

/-- The default bus is not set back. -/
def BusOptions.disable (o : BusOptions) : BusOptions :=
  ⟨false, false, false, fun _ => 0, fun _ => .notAllowed, o.bus⟩

/-- `path` is the status of `dbus_get_path`, good when the path is known from before. -/
def dbusGetPlatformBusConfig (path : Status) (reads : Nat → BusConfigRead) (o : BusOptions) :
    PlatformState × Status :=
  if path ≠ .ok then (⟨o.disable, 0, 0, []⟩, path)
  else
    match readBusConfigs reads (maxIxCBuses + maxSppBuses) 0 ⟨o.disable, 0, 0, []⟩ with
    | (s, .ok) => (s, .ok)
    | (s, status) => ({ s with options := s.options.rollBack }, status)

section Kinds

/-- What the reading makes of an entry behind `j` I2C, I3C and not-allowed entries and `k`
SPP entries. -/
inductive ReadKind where
  | place (type : BusConfigType)
  | ends
  | fails
  deriving DecidableEq, Repr

def BusConfigRead.kind (read : BusConfigRead) (j k : Nat) : ReadKind :=
  match read.busNum, read.busType with
  | none, _ => .ends
  | some _, none => .fails
  | some _, some str =>
      if str = BusConfigType.notAllowed.string then .place .notAllowed
      else if maxIxCBuses ≤ j ∨ maxSppBuses ≤ k then .ends
      else if str = BusConfigType.i2c.string then .place .i2c
      else if str = BusConfigType.i3c.string then .place .i3c
      else if str = BusConfigType.spp.string then .place .spp
      else if str = BusConfigType.i3cDbg.string then .place .spp
      else .fails

/-- Where the reading ends: no SPP entry before an entry that makes it fail, and otherwise
no more I2C, I3C and not-allowed entries than there is room for. -/
def EndsWell (reads : Nat → BusConfigRead) : Nat → Nat → Nat → Nat → Prop
  | 0, _, j, _ => j ≤ maxIxCBuses
  | rounds + 1, i, j, k =>
      match (reads i).kind j k with
      | .ends => j ≤ maxIxCBuses
      | .fails => k = 0
      | .place .spp => EndsWell reads rounds (i + 1) j (k + 1)
      | .place _ => EndsWell reads rounds (i + 1) (j + 1) k

end Kinds

section Placements

/-- The entry stands in the part of its type. -/
def Placement.WellPlaced (p : Placement) : Prop :=
  if p.type = .spp then maxIxCBuses ≤ p.index ∧ p.index < maxIxCBuses + maxSppBuses
  else p.index < maxIxCBuses

/-- What a placement does; only one that is not allowed goes on without room. -/
inductive PlaceStep (s : PlatformState) : BusConfigType → PlatformState → Prop where
  | notAllowed (bus : UInt64) : PlaceStep s .notAllowed (s.placeIxC .notAllowed bus)
  | i2c (bus : UInt64) (room : s.j < maxIxCBuses) :
      PlaceStep s .i2c ((s.placeIxC .i2c bus).enableI2c bus)
  | i3c (bus : UInt64) (room : s.j < maxIxCBuses) :
      PlaceStep s .i3c ((s.placeIxC .i3c bus).enableI3c bus)
  | spp (bus : UInt64) (below : s.j < maxIxCBuses) (room : s.k < maxSppBuses) :
      PlaceStep s .spp ((s.placeSpp bus).enableSpp bus)

theorem readBusConfig_cases (s : PlatformState) (read : BusConfigRead) :
    (read.kind s.j s.k = .ends ∧ readBusConfig s read = (s, some .ok)) ∨
    (read.kind s.j s.k = .fails ∧ readBusConfig s read = (s, some .err)) ∨
    ∃ type t, read.kind s.j s.k = .place type ∧ PlaceStep s type t ∧
      readBusConfig s read = (t, none) := by
  obtain ⟨busNum, busType⟩ := read
  cases busNum with
  | none => exact .inl ⟨rfl, rfl⟩
  | some bus =>
      cases busType with
      | none => exact .inr (.inl ⟨rfl, rfl⟩)
      | some str =>
          simp only [readBusConfig, BusConfigRead.kind]
          split
          · exact .inr (.inr ⟨_, _, rfl, .notAllowed bus, rfl⟩)
          split
          · exact .inl ⟨rfl, rfl⟩
          next hroom =>
          rw [not_or, not_le, not_le] at hroom
          split
          · exact .inr (.inr ⟨_, _, rfl, .i2c bus hroom.1, rfl⟩)
          split
          · exact .inr (.inr ⟨_, _, rfl, .i3c bus hroom.1, rfl⟩)
          split
          · exact .inr (.inr ⟨_, _, rfl, .spp bus hroom.1 hroom.2, rfl⟩)
          split
          · exact .inr (.inr ⟨_, _, rfl, .spp bus hroom.1 hroom.2, rfl⟩)
          · exact .inr (.inl ⟨rfl, rfl⟩)

/-- Where the entries placed so far stand: one after the other in both parts. -/
structure PlatformState.Counted (s : PlatformState) : Prop where
  ixc : ∀ p ∈ s.placed, p.type ≠ .spp → p.index < s.j
  spp : ∀ p ∈ s.placed, p.type = .spp → maxIxCBuses ≤ p.index ∧ p.index < maxIxCBuses + s.k
  reached : ∀ n < s.j, ∃ p ∈ s.placed, p.type ≠ .spp ∧ p.index = n
  room : s.k ≤ maxSppBuses
  apart : s.j ≤ maxIxCBuses → (s.placed.map Placement.index).Nodup
  kept : (s.placed.map Placement.index).Nodup → ∀ p ∈ s.placed,
    s.options.busConfigType p.index = p.type ∧ s.options.busConfigMap p.index = p.bus

namespace PlatformState.Counted
variable {s : PlatformState}

theorem place_kept (h : s.Counted) {index : Nat} {type : BusConfigType} {bus : UInt64}
    (hnodup : ((s.place index type bus).placed.map Placement.index).Nodup) :
    ∀ p ∈ (s.place index type bus).placed,
      (s.place index type bus).options.busConfigType p.index = p.type ∧
        (s.place index type bus).options.busConfigMap p.index = p.bus := by
  simp only [PlatformState.place, List.map_append, List.map_cons, List.map_nil,
    List.nodup_append, List.mem_singleton] at hnodup
  obtain ⟨hbefore, -, hnew⟩ := hnodup
  intro p hp
  simp only [PlatformState.place, BusOptions.place]
  rcases List.mem_append.mp hp with hold | hp
  · have hne := hnew p.index (List.mem_map_of_mem hold) index rfl
    rw [Function.update_of_ne hne, Function.update_of_ne hne]
    exact h.kept hbefore p hold
  · rw [List.mem_singleton.mp hp, Function.update_self, Function.update_self]
    exact ⟨rfl, rfl⟩

theorem place_nodup (h : s.Counted) {index : Nat} (type : BusConfigType) (bus : UInt64)
    (hj : s.j ≤ maxIxCBuses) (hnew : ∀ p ∈ s.placed, p.index ≠ index) :
    ((s.place index type bus).placed.map Placement.index).Nodup := by
  simp only [PlatformState.place, List.map_append, List.map_cons, List.map_nil,
    List.nodup_append, List.mem_singleton]
  refine ⟨h.apart hj, List.nodup_singleton _, ?_⟩
  rintro i hi _ rfl
  obtain ⟨p, hp, rfl⟩ := List.mem_map.mp hi
  exact hnew p hp

theorem placeIxC (h : s.Counted) {type : BusConfigType} (htype : type ≠ .spp) (bus : UInt64) :
    (s.placeIxC type bus).Counted where
  ixc p hp hp' := by
    rcases List.mem_append.mp hp with hold | hp
    · exact Nat.lt_succ_of_lt (h.ixc p hold hp')
    · rw [List.mem_singleton.mp hp]
      exact Nat.lt_succ_self s.j
  spp p hp hp' := by
    rcases List.mem_append.mp hp with hold | hp
    · exact h.spp p hold hp'
    · rw [List.mem_singleton.mp hp] at hp'
      exact absurd hp' htype
  reached n hn := by
    rcases Nat.lt_succ_iff_lt_or_eq.mp hn with hn | rfl
    · obtain ⟨p, hp, hat⟩ := h.reached n hn
      exact ⟨p, List.mem_append_left _ hp, hat⟩
    · exact ⟨_, List.mem_append_right _ (List.mem_singleton_self _), htype, rfl⟩
  room := h.room
  apart hj := by
    refine h.place_nodup type bus (Nat.le_of_succ_le hj) fun p hp heq => ?_
    have hlt : s.j < maxIxCBuses := hj
    by_cases hspp : p.type = .spp
    · exact absurd (h.spp p hp hspp).1 (Nat.not_le.mpr (heq ▸ hlt))
    · exact absurd (h.ixc p hp hspp) (Nat.not_lt.mpr (Nat.le_of_eq heq.symm))
  kept := h.place_kept

theorem placeSpp (h : s.Counted) (hj : s.j < maxIxCBuses) (hk : s.k < maxSppBuses)
    (bus : UInt64) : (s.placeSpp bus).Counted where
  ixc p hp hp' := by
    rcases List.mem_append.mp hp with hold | hp
    · exact h.ixc p hold hp'
    · rw [List.mem_singleton.mp hp] at hp'
      exact absurd rfl hp'
  spp p hp hp' := by
    rcases List.mem_append.mp hp with hold | hp
    · obtain ⟨hlow, hlt⟩ := h.spp p hold hp'
      exact ⟨hlow, Nat.lt_succ_of_lt hlt⟩
    · rw [List.mem_singleton.mp hp]
      exact ⟨Nat.le_add_right _ _, Nat.lt_succ_self _⟩
  reached n hn := by
    obtain ⟨p, hp, hat⟩ := h.reached n hn
    exact ⟨p, List.mem_append_left _ hp, hat⟩
  room := hk
  apart _ := by
    refine h.place_nodup .spp bus (Nat.le_of_lt hj) fun p hp heq => ?_
    by_cases hspp : p.type = .spp
    · exact absurd (h.spp p hp hspp).2 (Nat.not_lt.mpr (Nat.le_of_eq heq.symm))
    · have hlt := h.ixc p hp hspp
      omega
  kept := h.place_kept

theorem of_same (h : s.Counted) {options : BusOptions}
    (htype : options.busConfigType = s.options.busConfigType)
    (hmap : options.busConfigMap = s.options.busConfigMap) : { s with options }.Counted where
  ixc := h.ixc
  spp := h.spp
  reached := h.reached
  room := h.room
  apart := h.apart
  kept := by
    rw [htype, hmap]
    exact h.kept

theorem enableI2c (h : s.Counted) (bus : UInt64) : (s.enableI2c bus).Counted := by
  rw [PlatformState.enableI2c]
  split
  · exact h
  · exact h.of_same rfl rfl

theorem enableI3c (h : s.Counted) (bus : UInt64) : (s.enableI3c bus).Counted := by
  rw [PlatformState.enableI3c]
  split
  · exact h
  · exact h.of_same rfl rfl

theorem enableSpp (h : s.Counted) (bus : UInt64) : (s.enableSpp bus).Counted := by
  rw [PlatformState.enableSpp]
  split
  · exact h
  · exact h.of_same rfl rfl

theorem step (h : s.Counted) {type : BusConfigType} {t : PlatformState}
    (hstep : PlaceStep s type t) : t.Counted := by
  cases hstep with
  | notAllowed bus => exact h.placeIxC (by decide) bus
  | i2c bus => exact (h.placeIxC (by decide) bus).enableI2c bus
  | i3c bus => exact (h.placeIxC (by decide) bus).enableI3c bus
  | spp bus below room => exact (h.placeSpp below room bus).enableSpp bus

/-- Every entry is in its place if and only if the first part has not run over. -/
theorem wellPlaced_iff (h : s.Counted) :
    (∀ p ∈ s.placed, p.WellPlaced) ↔ s.j ≤ maxIxCBuses := by
  constructor
  · intro hwell
    by_contra hover
    obtain ⟨p, hp, htype, hindex⟩ := h.reached maxIxCBuses (Nat.lt_of_not_le hover)
    have hplaced := hwell p hp
    rw [Placement.WellPlaced, if_neg htype, hindex] at hplaced
    exact Nat.lt_irrefl _ hplaced
  · intro hj p hp
    rw [Placement.WellPlaced]
    split
    · next htype =>
        obtain ⟨hlow, hlt⟩ := h.spp p hp htype
        exact ⟨hlow, Nat.lt_of_lt_of_le hlt (Nat.add_le_add_left h.room _)⟩
    · next htype => exact Nat.lt_of_lt_of_le (h.ixc p hp htype) hj

end PlatformState.Counted

/-- What the options enable. -/
structure PlatformState.Enabled (s : PlatformState) : Prop where
  wf : s.options.Wf
  spp : s.options.enableSpp = true ↔ s.k ≠ 0
  upper : s.k = 0 → ∀ i, maxIxCBuses ≤ i → s.options.busConfigType i = .notAllowed

namespace PlatformState.Enabled
variable {s : PlatformState}

/-- An entry of the first part, with the flags as they are behind it. -/
theorem placeIxC (h : s.Enabled) {type : BusConfigType} {bus : UInt64} {options : BusOptions}
    (htypes : options.busConfigType = Function.update s.options.busConfigType s.j type)
    (hentry : options.IxCEntry type) (hupper : type = .notAllowed ∨ s.j < maxIxCBuses)
    (hi2c : s.options.enableI2c = true → options.enableI2c = true)
    (hi3c : s.options.enableI3c = true → options.enableI3c = true)
    (hspp : options.enableSpp = s.options.enableSpp) :
    { s.placeIxC type bus with options }.Enabled where
  wf i hi := by
    simp only [htypes, Function.update_apply]
    split
    · exact hentry
    · exact (h.wf i hi).mono hi2c hi3c
  spp := hspp ▸ h.spp
  upper hk i hi := by
    simp only [htypes, Function.update_apply]
    split
    · next hat =>
        exact hupper.resolve_right (Nat.not_lt.mpr (hat ▸ hi))
    · exact h.upper hk i hi

theorem placeSpp (h : s.Enabled) {bus : UInt64} {options : BusOptions}
    (htypes : options.busConfigType =
      Function.update s.options.busConfigType (maxIxCBuses + s.k) .spp)
    (hi2c : options.enableI2c = s.options.enableI2c)
    (hi3c : options.enableI3c = s.options.enableI3c) (hspp : options.enableSpp = true) :
    { s.placeSpp bus with options }.Enabled where
  wf i hi := by
    simp only [htypes]
    rw [Function.update_of_ne (by omega)]
    exact (h.wf i hi).mono (hi2c ▸ id) (hi3c ▸ id)
  spp := iff_of_true hspp (Nat.succ_ne_zero s.k)
  upper hk := absurd hk (Nat.succ_ne_zero s.k)

theorem step (h : s.Enabled) {type : BusConfigType} {t : PlatformState}
    (hstep : PlaceStep s type t) : t.Enabled := by
  cases hstep with
  | notAllowed bus => exact h.placeIxC rfl .notAllowed (.inl rfl) id id rfl
  | i2c bus room =>
      rw [PlatformState.enableI2c]
      split
      · next enabled => exact h.placeIxC rfl (.i2c enabled) (.inr room) id id rfl
      · exact h.placeIxC rfl (.i2c rfl) (.inr room) (fun _ => rfl) id rfl
  | i3c bus room =>
      rw [PlatformState.enableI3c]
      split
      · next enabled => exact h.placeIxC rfl (.i3c enabled) (.inr room) id id rfl
      · exact h.placeIxC rfl (.i3c rfl) (.inr room) id (fun _ => rfl) rfl
  | spp bus below room =>
      rw [PlatformState.enableSpp]
      split
      · next enabled => exact h.placeSpp rfl rfl rfl enabled
      · exact h.placeSpp rfl rfl rfl rfl

/-- The roll back clears everything but the SPP entries. -/
theorem rollBack_disabled_iff (h : s.Enabled) : s.options.rollBack.Disabled ↔ s.k = 0 := by
  constructor
  · intro hdisabled
    by_contra hk
    exact Bool.false_ne_true (hdisabled.enableSpp.symm.trans (h.spp.mpr hk))
  · intro hk
    refine ⟨rfl, rfl, Bool.eq_false_of_not_eq_true fun hspp => h.spp.mp hspp hk, ?_⟩
    intro i _
    simp only [BusOptions.rollBack]
    split
    · rfl
    · next hi => exact h.upper hk i (Nat.le_of_not_lt hi)

end PlatformState.Enabled

end Placements

section Reading

/-- Both invariants hold before the first entry. -/
theorem PlatformState.counted_nil (o : BusOptions) :
    PlatformState.Counted ⟨o.disable, 0, 0, []⟩ where
  ixc := by rintro p ⟨⟩
  spp := by rintro p ⟨⟩
  reached := by rintro n ⟨⟩
  room := Nat.zero_le _
  apart _ := List.nodup_nil
  kept := by rintro _ p ⟨⟩

theorem PlatformState.enabled_nil (o : BusOptions) :
    PlatformState.Enabled ⟨o.disable, 0, 0, []⟩ where
  wf _ _ := .notAllowed
  spp := iff_of_false Bool.false_ne_true (not_not.mpr rfl)
  upper _ _ _ := rfl

theorem PlaceStep.counts {s t : PlatformState} {type : BusConfigType} (h : PlaceStep s type t) :
    (type = .spp ∧ t.j = s.j ∧ t.k = s.k + 1) ∨ (type ≠ .spp ∧ t.j = s.j + 1 ∧ t.k = s.k) := by
  cases h with
  | notAllowed bus => exact .inr ⟨by decide, rfl, rfl⟩
  | i2c bus room =>
      refine .inr ⟨by decide, ?_⟩
      rw [PlatformState.enableI2c]
      split
      · exact ⟨rfl, rfl⟩
      · exact ⟨rfl, rfl⟩
  | i3c bus room =>
      refine .inr ⟨by decide, ?_⟩
      rw [PlatformState.enableI3c]
      split
      · exact ⟨rfl, rfl⟩
      · exact ⟨rfl, rfl⟩
  | spp bus below room =>
      refine .inl ⟨rfl, ?_⟩
      rw [PlatformState.enableSpp]
      split
      · exact ⟨rfl, rfl⟩
      · exact ⟨rfl, rfl⟩

theorem endsWell_place {reads : Nat → BusConfigRead} {rounds i : Nat} {s t : PlatformState}
    {type : BusConfigType} (hkind : (reads i).kind s.j s.k = .place type)
    (hstep : PlaceStep s type t) :
    EndsWell reads (rounds + 1) i s.j s.k ↔ EndsWell reads rounds (i + 1) t.j t.k := by
  rw [EndsWell, hkind]
  obtain ⟨rfl, hj, hk⟩ | ⟨htype, hj, hk⟩ := hstep.counts
  · rw [hj, hk]
  · rw [hj, hk]
    cases type with
    | spp => exact absurd rfl htype
    | notAllowed | i2c | i3c | i3cDbg => exact Iff.rfl

/-- After the reading both invariants hold, and it ended well if and only if there is no
SPP entry behind a failure and no overrun otherwise. -/
theorem readBusConfigs_spec (reads : Nat → BusConfigRead) (rounds i : Nat) {s t : PlatformState}
    {status : Status} (hcounted : s.Counted) (henabled : s.Enabled)
    (h : readBusConfigs reads rounds i s = (t, status)) :
    t.Counted ∧ t.Enabled ∧
      ((status = .ok ∧ (EndsWell reads rounds i s.j s.k ↔ t.j ≤ maxIxCBuses)) ∨
        (status = .err ∧ (EndsWell reads rounds i s.j s.k ↔ t.k = 0))) := by
  induction rounds generalizing i s with
  | zero =>
      cases h
      exact ⟨hcounted, henabled, .inl ⟨rfl, Iff.rfl⟩⟩
  | succ rounds ih =>
      rw [readBusConfigs] at h
      obtain ⟨hkind, hread⟩ | ⟨hkind, hread⟩ | ⟨type, u, hkind, hstep, hread⟩ :=
        readBusConfig_cases s (reads i)
      · rw [hread] at h
        cases h
        refine ⟨hcounted, henabled, .inl ⟨rfl, ?_⟩⟩
        rw [EndsWell, hkind]
      · rw [hread] at h
        cases h
        refine ⟨hcounted, henabled, .inr ⟨rfl, ?_⟩⟩
        rw [EndsWell, hkind]
      · rw [hread] at h
        rw [endsWell_place hkind hstep]
        exact ih (i + 1) (hcounted.step hstep) (henabled.step hstep) h

end Reading

section Agreement
variable {s t : PlatformState}

/-- The same entries, and options that agree. -/
def PlatformState.Agree (s t : PlatformState) : Prop :=
  ∃ options, t = { s with options } ∧ s.options.Agree options

namespace PlatformState.Agree

theorem placeIxC (h : s.Agree t) (type : BusConfigType) (bus : UInt64) :
    (s.placeIxC type bus).Agree (t.placeIxC type bus) := by
  obtain ⟨_, rfl, stale, rfl, hbus⟩ := h
  exact ⟨_, rfl, stale, rfl, hbus⟩

theorem placeSpp (h : s.Agree t) (bus : UInt64) : (s.placeSpp bus).Agree (t.placeSpp bus) := by
  obtain ⟨_, rfl, stale, rfl, hbus⟩ := h
  exact ⟨_, rfl, stale, rfl, hbus⟩

theorem enableI2c (h : s.Agree t) (bus : UInt64) : (s.enableI2c bus).Agree (t.enableI2c bus) := by
  obtain ⟨_, rfl, stale, rfl, hbus⟩ := h
  rw [PlatformState.enableI2c, PlatformState.enableI2c]
  split
  · exact ⟨_, rfl, stale, rfl, hbus⟩
  · exact ⟨_, rfl, .refl _⟩

theorem enableI3c (h : s.Agree t) (bus : UInt64) : (s.enableI3c bus).Agree (t.enableI3c bus) := by
  obtain ⟨_, rfl, stale, rfl, hbus⟩ := h
  rw [PlatformState.enableI3c, PlatformState.enableI3c]
  split
  · exact ⟨_, rfl, stale, rfl, hbus⟩
  · exact ⟨_, rfl, .refl _⟩

theorem enableSpp (h : s.Agree t) (bus : UInt64) : (s.enableSpp bus).Agree (t.enableSpp bus) := by
  obtain ⟨_, rfl, stale, rfl, hbus⟩ := h
  rw [PlatformState.enableSpp, PlatformState.enableSpp]
  split
  · exact ⟨_, rfl, stale, rfl, hbus⟩
  · exact ⟨_, rfl, .refl _⟩

end PlatformState.Agree

theorem readBusConfig_agree (h : s.Agree t) (read : BusConfigRead) :
    (readBusConfig s read).1.Agree (readBusConfig t read).1 ∧
      (readBusConfig t read).2 = (readBusConfig s read).2 := by
  have hcounts : t.j = s.j ∧ t.k = s.k := by
    obtain ⟨_, rfl, -⟩ := h
    exact ⟨rfl, rfl⟩
  rw [readBusConfig, readBusConfig, hcounts.1, hcounts.2]
  split
  · exact ⟨h, rfl⟩
  next bus _ =>
  split
  · exact ⟨h, rfl⟩
  split
  · exact ⟨h.placeIxC _ bus, rfl⟩
  split
  · exact ⟨h, rfl⟩
  split
  · exact ⟨(h.placeIxC _ bus).enableI2c bus, rfl⟩
  split
  · exact ⟨(h.placeIxC _ bus).enableI3c bus, rfl⟩
  split
  · exact ⟨(h.placeSpp bus).enableSpp bus, rfl⟩
  split
  · exact ⟨(h.placeSpp bus).enableSpp bus, rfl⟩
  · exact ⟨h, rfl⟩

theorem readBusConfigs_agree (reads : Nat → BusConfigRead) (rounds i : Nat) (h : s.Agree t) :
    (readBusConfigs reads rounds i s).1.Agree (readBusConfigs reads rounds i t).1 ∧
      (readBusConfigs reads rounds i t).2 = (readBusConfigs reads rounds i s).2 := by
  induction rounds generalizing i s t with
  | zero => exact ⟨h, rfl⟩
  | succ rounds ih =>
      obtain ⟨hagree, hstatus⟩ := readBusConfig_agree h (reads i)
      rw [readBusConfigs, readBusConfigs]
      rcases hs : readBusConfig s (reads i) with ⟨u, status⟩
      rcases ht : readBusConfig t (reads i) with ⟨v, status'⟩
      rw [hs, ht] at hagree hstatus
      cases hstatus
      cases status with
      | none => exact ih (i + 1) hagree
      | some status => exact ⟨hagree, rfl⟩

/-- Of the options it finds the reading keeps the default bus, and that only when nothing
is enabled. -/
theorem dbusGetPlatformBusConfig_agree (path : Status) (reads : Nat → BusConfigRead)
    (o u : BusOptions) :
    (dbusGetPlatformBusConfig path reads o).1.options.Agree
      (dbusGetPlatformBusConfig path reads u).1.options := by
  have hdisable : o.disable.Agree u.disable :=
    ⟨u.bus, rfl, fun henabled => absurd henabled Bool.false_ne_true⟩
  rw [dbusGetPlatformBusConfig, dbusGetPlatformBusConfig]
  split
  · exact hdisable
  have hstart : PlatformState.Agree ⟨o.disable, 0, 0, []⟩ ⟨u.disable, 0, 0, []⟩ :=
    ⟨u.disable, rfl, hdisable⟩
  obtain ⟨hagree, hstatus⟩ :=
    readBusConfigs_agree reads (maxIxCBuses + maxSppBuses) 0 hstart
  rcases hs : readBusConfigs reads (maxIxCBuses + maxSppBuses) 0 ⟨o.disable, 0, 0, []⟩
    with ⟨s, status⟩
  rcases ht : readBusConfigs reads (maxIxCBuses + maxSppBuses) 0 ⟨u.disable, 0, 0, []⟩
    with ⟨t, status'⟩
  rw [hs, ht] at hagree hstatus
  cases hstatus
  obtain ⟨_, rfl, bus, rfl, hbus⟩ := hagree
  cases status with
  | ok => exact ⟨bus, rfl, hbus⟩
  | err | timeout =>
      refine ⟨bus, rfl, fun henabled => hbus ?_⟩
      -- what the roll-back leaves enabled was enabled before
      have hspp : s.options.enableSpp = true := by
        simpa [BusOptions.enables, BusOptions.rollBack] using henabled
      rw [BusOptions.enables, hspp, Bool.or_true]

end Agreement

section Platform
variable (path : Status) (reads : Nat → BusConfigRead) (o : BusOptions)

/-- The entries, read from the first one on, end well. -/
def PlatformEndsWell : Prop := EndsWell reads (maxIxCBuses + maxSppBuses) 0 0 0

theorem dbusGetPlatformBusConfig_cases :
    (path ≠ .ok ∧ dbusGetPlatformBusConfig path reads o = (⟨o.disable, 0, 0, []⟩, path)) ∨
    (path = .ok ∧ ∃ t : PlatformState, t.Counted ∧ t.Enabled ∧
      ((dbusGetPlatformBusConfig path reads o = (t, .ok) ∧
          (PlatformEndsWell reads ↔ t.j ≤ maxIxCBuses)) ∨
        (dbusGetPlatformBusConfig path reads o =
            ({ t with options := t.options.rollBack }, .err) ∧
          (PlatformEndsWell reads ↔ t.k = 0)))) := by
  rw [dbusGetPlatformBusConfig]
  split
  · next hpath => exact .inl ⟨hpath, rfl⟩
  next hpath =>
  refine .inr ⟨not_not.mp hpath, ?_⟩
  rcases hread : readBusConfigs reads (maxIxCBuses + maxSppBuses) 0 ⟨o.disable, 0, 0, []⟩ with
    ⟨t, status⟩
  obtain ⟨hcounted, henabled, ⟨rfl, hwell⟩ | ⟨rfl, hwell⟩⟩ :=
    readBusConfigs_spec reads _ 0 (PlatformState.counted_nil o) (PlatformState.enabled_nil o) hread
  · exact ⟨t, hcounted, henabled, .inl ⟨rfl, hwell⟩⟩
  · exact ⟨t, hcounted, henabled, .inr ⟨rfl, hwell⟩⟩

theorem BusOptions.disable_disabled : o.disable.Disabled := ⟨rfl, rfl, rfl, fun _ _ => rfl⟩

/-- Whatever is read, the handlers can work with the first part of the options. -/
theorem dbusGetPlatformBusConfig_wf : (dbusGetPlatformBusConfig path reads o).1.options.Wf := by
  obtain ⟨-, heq⟩ | ⟨-, t, -, henabled, ⟨heq, -⟩ | ⟨heq, -⟩⟩ :=
    dbusGetPlatformBusConfig_cases path reads o
  · rw [heq]
    exact o.disable_disabled.wf
  · rw [heq]
    exact henabled.wf
  · rw [heq]
    intro i hi
    simp only [BusOptions.rollBack, if_pos hi]
    exact .notAllowed

/-- A failure leaves nothing enabled or allowed, and otherwise every entry is in the part
of its type and still as it was placed. -/
structure AllOrNothing (result : PlatformState × Status) : Prop where
  nothing : result.2 ≠ .ok → result.1.options.Disabled
  wellPlaced : result.2 = .ok → ∀ p ∈ result.1.placed, p.WellPlaced
  apart : result.2 = .ok → (result.1.placed.map Placement.index).Nodup
  kept : result.2 = .ok → ∀ p ∈ result.1.placed,
    result.1.options.busConfigType p.index = p.type ∧
      result.1.options.busConfigMap p.index = p.bus

theorem allOrNothing_of_ok {t : PlatformState} (h : t.Counted) :
    AllOrNothing (t, .ok) ↔ t.j ≤ maxIxCBuses := by
  constructor
  · exact fun hall => h.wellPlaced_iff.mp (hall.wellPlaced rfl)
  · intro hj
    exact ⟨fun hnot => absurd rfl hnot, fun _ => h.wellPlaced_iff.mpr hj, fun _ => h.apart hj,
      fun _ => h.kept (h.apart hj)⟩

theorem allOrNothing_of_failed {t : PlatformState} {status : Status} (hnot : status ≠ .ok) :
    AllOrNothing (t, status) ↔ t.options.Disabled := by
  constructor
  · exact fun hall => hall.nothing hnot
  · intro hdisabled
    refine ⟨fun _ => hdisabled, ?_, ?_, ?_⟩
    all_goals exact fun hok => absurd hok hnot

/-- For every sequence of entries, wherever a read fails, the configuration is all or
nothing and well placed if and only if the object path is not found or the reading ends
well. -/
theorem platform_config_all_or_nothing :
    AllOrNothing (dbusGetPlatformBusConfig path reads o) ↔
      (path = .ok → PlatformEndsWell reads) := by
  obtain ⟨hpath, heq⟩ | ⟨hpath, t, hcounted, henabled, ⟨heq, hwell⟩ | ⟨heq, hwell⟩⟩ :=
    dbusGetPlatformBusConfig_cases path reads o
  · rw [heq, allOrNothing_of_failed hpath]
    exact iff_of_true o.disable_disabled fun hok => absurd hok hpath
  · rw [heq, imp_iff_right hpath, hwell]
    exact allOrNothing_of_ok hcounted
  · rw [heq, imp_iff_right hpath, hwell, allOrNothing_of_failed (by decide)]
    exact henabled.rollBack_disabled_iff

/-- An SPP bus and then an entry of an unknown type leave SPP enabled; an SPP bus and then
nine entries that are not allowed leave it enabled without an entry. -/
theorem platform_config_keeps_spp :
    let unknown : Nat → BusConfigRead := fun
      | 0 => ⟨some 3, some "BUS_CONFIG_SPP"⟩
      | _ => ⟨some 4, some "BUS_CONFIG_SPI"⟩
    let crowded : Nat → BusConfigRead := fun
      | 0 => ⟨some 3, some "BUS_CONFIG_SPP"⟩
      | i => if i < 10 then ⟨some 4, some "BUS_CONFIG_NOT_ALLOWED"⟩ else ⟨none, none⟩
    let o : BusOptions := ⟨false, false, false, fun _ => 0, fun _ => .notAllowed, 0⟩
    let failed := dbusGetPlatformBusConfig .ok unknown o
    let full := dbusGetPlatformBusConfig .ok crowded o
    (failed.2 = .err ∧ failed.1.options.enableSpp = true ∧
      failed.1.options.busConfigType 8 = .spp ∧ ¬ AllOrNothing failed) ∧
    (full.2 = .ok ∧ full.1.placed.head? = some ⟨8, .spp, 3⟩ ∧
      full.1.options.busConfigType 8 = .notAllowed ∧ ¬ AllOrNothing full) := by
  intro unknown crowded o failed full
  have herr : failed.2 = .err := by decide
  have hspp : failed.1.options.enableSpp = true := by decide
  have hok : full.2 = .ok := by decide
  have hplaced : full.1.placed.head? = some ⟨8, .spp, 3⟩ := by decide
  have hlost : full.1.options.busConfigType 8 = .notAllowed := by decide
  refine ⟨⟨herr, hspp, by decide, fun hall => ?_⟩, hok, hplaced, hlost, fun hall => ?_⟩
  · have hdisabled := hall.nothing (by rw [herr]; decide)
    exact Bool.false_ne_true (hdisabled.enableSpp.symm.trans hspp)
  · have hkept := (hall.kept hok _ (List.mem_of_mem_head? hplaced)).1
    rw [hlost] at hkept
    cases hkept

variable {path reads o}

/-- A client without buses on the command line then has none after a failure. -/
theorem onClientConnectOptions_of_failed {args : BusOptions} (hargs : args.enables = false)
    (hwell : path = .ok → PlatformEndsWell reads)
    (hfailed : (dbusGetPlatformBusConfig path reads o).2 ≠ .ok) :
    (onClientConnectOptions args (dbusGetPlatformBusConfig path reads o).1.options).Disabled := by
  refine onClientConnectOptions_disabled hargs ?_
  obtain ⟨-, heq⟩ | ⟨hpath, t, -, henabled, ⟨heq, -⟩ | ⟨heq, hends⟩⟩ :=
    dbusGetPlatformBusConfig_cases path reads o
  · rw [heq]
    exact o.disable_disabled
  · rw [heq] at hfailed
    exact absurd rfl hfailed
  · rw [heq]
    exact henabled.rollBack_disabled_iff.mpr (hends.mp (hwell hpath))

end Platform

end AtScaleDebug
