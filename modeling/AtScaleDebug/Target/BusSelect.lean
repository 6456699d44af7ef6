import AtScaleDebug.Target.BusMonitor

/-!
One bus select, from a state in which the handlers and the monitor agree.

The invariant comes in two strengths. Between messages the I3C handler may
still be without a bus, and a device file may be missing; inside a message the
default bus is locked, which rules most of this out. The main result is that a
bus select leads from the stronger one to itself exactly when it meets
`SelectKeeps`, and otherwise leaves the handlers visibly off the selected bus.
-/

namespace AtScaleDebug

section Invariant

/-- The I3C handler while `bus` is the default bus. After a bus select it has a
token and an open device file. -/
structure I3cHandler.Settled (h : I3cHandler) (bus : UInt8) (named : Prop) : Prop where
  consistent : h.Consistent
  bus : h.Opened → h.i3cBus = bus
  named : named → h.busToken = true ∧ h.Opened

/-- What holds between two messages. -/
structure Between (c : BusConfig) (s : BusState) (w : BusWatch) : Prop where
  default : s.defaultBus = w.selected
  i2c : s.i2c.Consistent
  i3c : s.i3c.Consistent
  settled : busType c s.defaultBus = .i3c → s.i3c.Settled s.defaultBus w.named.isSome

/-- What holds inside a message. -/
structure Aligned (c : BusConfig) (s : BusState) (w : BusWatch) : Prop extends Between c s w where
  allowed : busType c s.defaultBus ≠ .notAllowed
  onI2c : busType c s.defaultBus = .i2c →
    s.i2c.i2cBus = s.defaultBus ∧ s.i2c.driverHandle.isSome
  onI3c : busType c s.defaultBus = .i3c →
    s.i3c.busToken = true ∧ s.i3c.i3cBus ≠ i3cBusAddressReserved
  queued : ∀ q ∈ w.queue, q.2 = w.selected

variable {c : BusConfig} {s t : BusState} {w : BusWatch} {bus : UInt8}

theorem I3cHandler.opened_of_mem {h : I3cHandler} {i : Fin i3cMaxDevHandlers} {d : BusDevice}
    (hd : d ∈ h.driverHandlers i) : h.Opened := by
  refine ⟨i, ?_⟩
  rw [Option.mem_def.mp hd]
  rfl

theorem Aligned.serves (h : Aligned c s w) : s.Serves c w.selected := by
  refine ⟨h.default, ?_⟩
  rw [← h.default]
  cases htype : busType c s.defaultBus with
  | notAllowed => exact h.allowed htype
  | i2c =>
      obtain ⟨hbus, hopen⟩ := h.onI2c htype
      obtain ⟨d, hd⟩ := Option.isSome_iff_exists.mp hopen
      exact ⟨d, hd, (h.i2c d hd).trans hbus⟩
  | i3c =>
      exact fun i d hd => (h.i3c.device i d hd).trans
        ((h.settled htype).bus (I3cHandler.opened_of_mem hd))

theorem Aligned.agrees (h : Aligned c s w) : Agrees c s w := by
  refine ⟨h.serves, fun named => ⟨h.serves, fun htype => ?_⟩, h.queued⟩
  rw [← h.default] at htype
  exact ((h.settled htype).named named).2

/-- A state that keeps the handler in charge of the default bus, up to locks,
stays aligned whatever happens to the other one. -/
theorem Aligned.stays (h : Aligned c s w) (hdefault : t.defaultBus = s.defaultBus)
    (i2c : t.i2c.Consistent) (i3c : t.i3c.Consistent)
    (onI2c : busType c s.defaultBus = .i2c → s.i2c.Relocked t.i2c)
    (onI3c : busType c s.defaultBus = .i3c → s.i3c.Relocked t.i3c) : Aligned c t w where
  default := hdefault.trans h.default
  i2c := i2c
  i3c := i3c
  settled := by
    rw [hdefault]
    intro htype
    have hlock := onI3c htype
    have hsettled := h.settled htype
    refine ⟨i3c, ?_, ?_⟩
    · rw [hlock.opened, hlock.bus]
      exact hsettled.bus
    · rw [hlock.token, hlock.opened]
      exact hsettled.named
  allowed := by
    rw [hdefault]
    exact h.allowed
  onI2c := by
    rw [hdefault]
    intro htype
    rw [(onI2c htype).bus, (onI2c htype).isSome]
    exact h.onI2c htype
  onI3c := by
    rw [hdefault]
    intro htype
    rw [(onI3c htype).token, (onI3c htype).bus]
    exact h.onI3c htype
  queued := h.queued

theorem Aligned.i2c_of_not_i3c (h : Aligned c s w) (hnot : busType c s.defaultBus ≠ .i3c) :
    busType c s.defaultBus = .i2c := by
  cases htype : busType c s.defaultBus with
  | i2c => rfl
  | i3c => exact (hnot htype).elim
  | notAllowed => exact (h.allowed htype).elim

/-- The default bus is an I2C bus, and what happened to the I3C handler is its own affair. -/
theorem Aligned.of_i3c (h : Aligned c s w) (htype : busType c s.defaultBus = .i2c)
    {t : I3cHandler} (ht : t.Consistent) : Aligned c { s with i3c := t } w :=
  h.stays rfl h.i2c ht (fun _ => .refl s.i2c) (fun h3 => by simp [htype] at h3)

theorem Aligned.of_i3c_relocked (h : Aligned c s w) {t : I3cHandler} (ht : s.i3c.Relocked t) :
    Aligned c { s with i3c := t } w :=
  h.stays rfl h.i2c (ht.consistent h.i3c) (fun _ => .refl s.i2c) (fun _ => ht)

/-- The I3C device files were closed, and no bus select has named their bus. -/
theorem Aligned.of_closed (h : Aligned c s w) {t : I3cHandler} (hnot : ¬ t.Opened)
    (htoken : t.busToken = s.i3c.busToken) (hbus : t.i3cBus ≠ i3cBusAddressReserved)
    (hnamed : busType c s.defaultBus = .i3c → w.named = none) :
    Aligned c { s with i3c := t } w where
  default := h.default
  i2c := h.i2c
  i3c := I3cHandler.consistent_of_closed hnot
  settled htype := ⟨I3cHandler.consistent_of_closed hnot, fun hopen => (hnot hopen).elim,
    fun hn => by simp [hnamed htype] at hn⟩
  allowed := h.allowed
  onI2c := h.onI2c
  onI3c htype := ⟨htoken.trans (h.onI3c htype).1, hbus⟩
  queued := h.queued

theorem Between.requeue (h : Between c s w) (queue : List (I2cMsg × UInt8)) :
    Between c s { w with queue } := ⟨h.default, h.i2c, h.i3c, h.settled⟩

theorem Aligned.requeue (h : Aligned c s w) {queue : List (I2cMsg × UInt8)}
    (queued : ∀ q ∈ queue, q.2 = w.selected) : Aligned c s { w with queue } :=
  ⟨h.toBetween.requeue queue, h.allowed, h.onI2c, h.onI3c, queued⟩

/-- The default bus is selected once more. -/
theorem Aligned.renamed (h : Aligned c s w) (hbus : s.defaultBus = bus)
    (hopen : busType c s.defaultBus = .i3c → s.i3c.Opened) :
    Aligned c s { w with named := some bus } where
  default := hbus
  i2c := h.i2c
  i3c := h.i3c
  settled htype := ⟨h.i3c, (h.settled htype).bus, fun _ => ⟨(h.onI3c htype).1, hopen htype⟩⟩
  allowed := h.allowed
  onI2c := h.onI2c
  onI3c := h.onI3c
  queued q hq := (h.queued q hq).trans (h.default.symm.trans hbus)

/-- An I3C bus is the default bus with its device files open. -/
theorem aligned_of_moved (htype : busType c bus = .i3c) (hdefault : t.defaultBus = bus)
    (i2c : t.i2c.Consistent) (i3c : t.i3c.Consistent) (htoken : t.i3c.busToken = true)
    (hbus : t.i3c.i3cBus = bus) (hopen : t.i3c.Opened)
    (hqueue : ∀ q ∈ w.queue, q.2 = bus) : Aligned c t { w with named := some bus } where
  default := hdefault
  i2c := i2c
  i3c := i3c
  settled _ := ⟨i3c, fun _ => hbus.trans hdefault.symm, fun _ => ⟨htoken, hopen⟩⟩
  allowed := by simp [hdefault, htype]
  onI2c h := by simp [hdefault, htype] at h
  onI3c _ := ⟨htoken, i3c.bus hopen⟩
  queued := hqueue

end Invariant

section DefaultLock
variable {c : BusConfig} {s : BusState} {w : BusWatch} {bus : UInt8} {named : Prop}

theorem settled_of_openOn (io : I3cOpenIo) {h : I3cHandler} (hopens : io.Opens bus)
    (htoken : named → h.busToken = true) : (h.openOn io bus).Settled bus named :=
  ⟨openOn_consistent hopens.1 h, fun _ => rfl, fun hn => ⟨htoken hn, openOn_opened hopens h⟩⟩

theorem I3cHandler.Settled.relocked {h t : I3cHandler} (hs : h.Settled bus named)
    (ht : h.Relocked t) : t.Settled bus named := by
  refine ⟨ht.consistent hs.consistent, ?_, ?_⟩
  · rw [ht.opened, ht.bus]
    exact hs.bus
  · rw [ht.token, ht.opened]
    exact hs.named

theorem settled_of_closed {h : I3cHandler} (hnot : ¬ h.Opened) (hunnamed : ¬ named) :
    h.Settled bus named :=
  ⟨I3cHandler.consistent_of_closed hnot, fun hopen => (hnot hopen).elim,
    fun hn => (hunnamed hn).elim⟩

/-- Locking the device files of the default bus, which may select it first. -/
theorem i3cBusFlockDevHandlers_settled (io : I3cFlockIo) (op : LockOp)
    (htype : busType c s.defaultBus = .i3c) (hs : s.i3c.Settled s.defaultBus named) :
    ∃ t status, i3cBusFlockDevHandlers c io s s.defaultBus op = ({ s with i3c := t }, status) ∧
      t.Settled s.defaultBus named ∧ t.busToken = s.i3c.busToken ∧
      (status = .ok → t.i3cBus ≠ i3cBusAddressReserved) := by
  by_cases hbus : s.i3c.i3cBus = i3cBusAddressReserved
  · have hclosed : ¬ s.i3c.Opened := fun hopen => hs.consistent.bus hopen hbus
    by_cases hopens : io.opens.Opens s.defaultBus
    · have hopened : (s.i3c.openOn io.opens s.defaultBus).Settled s.defaultBus named :=
        settled_of_openOn io.opens hopens fun hn => (hs.named hn).1
      exact ⟨_, _, i3cBusFlockDevHandlers_of_opens op htype hbus hopens,
        hopened.relocked (flockDevices_relocked _ op io.flocks), rfl,
        fun _ => hopens.1.ne_reserved⟩
    · obtain ⟨t, heq, htoken, hnot, _⟩ :=
        i3cBusFlockDevHandlers_of_not_opens op htype hbus hclosed hopens
      exact ⟨t, .err, heq, settled_of_closed hnot fun hn => hclosed (hs.named hn).2, htoken,
        fun hok => by cases hok⟩
  · exact ⟨_, _, i3cBusFlockDevHandlers_of_ne op hbus,
      hs.relocked (flockDevices_relocked _ op io.flocks), rfl, fun _ => hbus⟩

theorem i3cRequestOwnership_settled (io : I3cLockIo) {h : I3cHandler} (hs : h.Settled bus named) :
    ∃ t status, i3cRequestOwnership io h bus = (t, status) ∧ t.Settled bus named ∧
      (status = .ok ∧ t.busToken = true ∨ status = .err) := by
  cases htoken : h.busToken with
  | true => exact ⟨h, .ok, i3cRequestOwnership_of_token io bus htoken, hs, .inl ⟨rfl, htoken⟩⟩
  | false =>
      have hunnamed : ¬ named := fun hn => by simp [(hs.named hn).1] at htoken
      obtain ⟨_, hopens, heq⟩ | ⟨_, t, heq, ht⟩ := i3cRequestOwnership_cases io bus htoken
      · exact ⟨_, .ok, heq, settled_of_openOn io.opens hopens fun _ => rfl, .inl ⟨rfl, rfl⟩⟩
      · refine ⟨t, .err, heq, ?_, .inr rfl⟩
        obtain ⟨hbus, hdevices⟩ | hnot := ht
        · refine ⟨hs.consistent.of_same hbus hdevices, ?_, fun hn => (hunnamed hn).elim⟩
          rw [hbus, I3cHandler.Opened, hdevices]
          exact hs.bus
        · exact settled_of_closed hnot hunnamed

/-- The lock of an I3C default bus. -/
theorem i3cBusFlock_settled (io : I3cLockIo) (op : LockOp) (htype : busType c s.defaultBus = .i3c)
    (hs : s.i3c.Settled s.defaultBus named) :
    ∃ t status, i3cBusFlock c io s s.defaultBus op = ({ s with i3c := t }, status) ∧
      t.Settled s.defaultBus named ∧
      (status = .ok → t.busToken = true ∧ t.i3cBus ≠ i3cBusAddressReserved) := by
  obtain ⟨h, status, hrequest, hh, ⟨rfl, htoken⟩ | rfl⟩ := i3cRequestOwnership_settled io hs
  · by_cases howner : io.owner = some .bmc
    · obtain ⟨t, status, hlock, ht, htoken', hok⟩ :=
        i3cBusFlockDevHandlers_settled (s := { s with i3c := h }) io.lock op htype hh
      obtain ⟨u, _, hrelease, hu, _⟩ :=
        i3cBusFlockDevHandlers_settled (s := { s with i3c := t }) io.release .un htype ht
      have heq := i3cBusFlock_of_locked hrequest howner hlock
      rw [hrelease] at heq
      by_cases hfail : status ≠ .ok ∧ op = .ex
      · rw [if_pos hfail] at heq
        exact ⟨u, status, heq, hu, fun h => (hfail.1 h).elim⟩
      · rw [if_neg hfail] at heq
        exact ⟨t, status, heq, ht, fun h => ⟨htoken'.trans htoken, hok h⟩⟩
    · refine ⟨h, .err, ?_, hh, fun hok => by cases hok⟩
      simp only [i3cBusFlock, hrequest, howner, if_false]
  · exact ⟨h, .err, i3cBusFlock_of_denied op hrequest, hh, fun hok => by cases hok⟩

/-- Taking or releasing the lock of the default bus, between messages or around one. -/
theorem devFlock_between (h : Between c s w) (io : LockIo) (op : LockOp) :
    ∃ t status, devFlock c io s s.defaultBus op = (t, status) ∧ Between c t w ∧
      (status = .ok → w.queue = [] → Aligned c t w) := by
  cases htype : busType c s.defaultBus with
  | notAllowed => exact ⟨s, .err, by simp [devFlock, htype], h, fun hok => by cases hok⟩
  | i2c =>
      have hc := i2cBusFlock_consistent io.i2c op s.defaultBus h.i2c
      refine ⟨_, _, devFlock_i2c io op htype, ?_, fun hok hqueue => ?_⟩
      · exact ⟨h.default, hc, h.i3c, fun h3 => by simp [htype] at h3⟩
      · refine ⟨⟨h.default, hc, h.i3c, fun h3 => by simp [htype] at h3⟩, by simp [htype],
          fun _ => ⟨i2cBusFlock_bus io.i2c op s.i2c s.defaultBus,
            i2cBusFlock_isSome io.i2c op hok⟩, fun h3 => by simp [htype] at h3, ?_⟩
        simp [hqueue]
  | i3c =>
      obtain ⟨t, status, heq, ht, hok⟩ := i3cBusFlock_settled io.i3c op htype (h.settled htype)
      refine ⟨_, status, (devFlock_i3c io op htype).trans heq, ?_, fun hst hqueue => ?_⟩
      · exact ⟨h.default, h.i2c, ht.consistent, fun _ => ht⟩
      · refine ⟨⟨h.default, h.i2c, ht.consistent, fun _ => ht⟩, by simp [htype],
          fun h2 => by simp [htype] at h2, fun _ => hok hst, ?_⟩
        simp [hqueue]

/-- Inside a message the lock of the default bus moves nothing. -/
theorem devFlock_relocked (h : Aligned c s w) (io : LockIo) (op : LockOp) :
    ∃ i2c i3c status, devFlock c io s s.defaultBus op = ({ s with i2c, i3c }, status) ∧
      s.i2c.Relocked i2c ∧ s.i3c.Relocked i3c := by
  cases htype : busType c s.defaultBus with
  | notAllowed => exact (h.allowed htype).elim
  | i2c =>
      exact ⟨_, s.i3c, _, devFlock_i2c io op htype,
        i2cBusFlock_same io.i2c op (h.onI2c htype).1, .refl s.i3c⟩
  | i3c =>
      obtain ⟨htoken, hne⟩ := h.onI3c htype
      obtain ⟨t, heq, ht⟩ := i3cBusFlock_of_request (c := c) op
        (i3cRequestOwnership_of_token io.i3c s.defaultBus htoken) hne
      exact ⟨s.i2c, t, _, (devFlock_i3c io op htype).trans heq, .refl s.i2c, ht⟩

end DefaultLock

section Decides
variable {c : BusConfig} {s t : BusState} {w : BusWatch} {bus : UInt8} {status : Status}
  {kept : Prop}

/-- The state a bus select ends in tells whether the select met `kept`, and if it
did, the handlers are where the monitor expects them. -/
structure Decides (c : BusConfig) (w : BusWatch) (t : BusState) (bus : UInt8) (status : Status)
    (kept : Prop) : Prop where
  keeps : Agrees c t (w.select bus status) → kept
  aligned : kept → Aligned c t (w.select bus status)

theorem Aligned.decides (h : Aligned c t (w.select bus status)) (hkept : kept) :
    Decides c w t bus status kept := ⟨fun _ => hkept, fun _ => h⟩

/-- A bus select that succeeds is to change the default bus. -/
theorem decides_of_default (hdefault : t.defaultBus ≠ bus) (hkept : ¬ kept) :
    Decides c w t bus .ok kept :=
  ⟨fun h => (hdefault h.1.1).elim, fun h => (hkept h).elim⟩

/-- A bus select that fails is not to change it. -/
theorem decides_of_moved (hdefault : t.defaultBus ≠ w.selected) (hkept : ¬ kept) :
    Decides c w t bus .err kept :=
  ⟨fun h => (hdefault h.1.1).elim, fun h => (hkept h).elim⟩

/-- A bus select that opened the bus is to find nothing queued. -/
theorem decides_of_opened (h : Aligned c s w) (hbus : s.defaultBus ≠ bus)
    (htype : busType c bus = .i3c) (hdefault : t.defaultBus = bus)
    (i2c : t.i2c.Consistent) (i3c : t.i3c.Consistent) (htoken : t.i3c.busToken = true)
    (hto : t.i3c.i3cBus = bus) (hopen : t.i3c.Opened) (hkept : kept ↔ w.queue = []) :
    Decides c w t bus .ok kept := by
  constructor
  · rintro ⟨_, _, hqueue⟩
    refine hkept.mpr (List.eq_nil_iff_forall_not_mem.mpr fun q hq => hbus ?_)
    exact h.default.trans ((h.queued q hq).symm.trans (hqueue q hq))
  · intro hk
    refine aligned_of_moved htype hdefault i2c i3c htoken hto hopen ?_
    simp [hkept.mp hk]

end Decides

section I3cSelect
variable {c : BusConfig} {s : BusState} {w : BusWatch} {bus : UInt8} {io : SelectIo}

/-- The lock and the selection of an I3C bus other than the default bus. -/
def I3cSelects (c : BusConfig) (s : BusState) (bus : UInt8) (io : SelectIo) (t : BusState)
    (status : Status) : Prop :=
  (i3cBusFlock c io.lock.i3c s bus .ex = (t, .err) ∧ status = .err) ∨
  ∃ u, i3cBusFlock c io.lock.i3c s bus .ex = (u, .ok) ∧
    i3cBusSelect c io.i3cOpens u bus = (t, status)

theorem openOn_flockFails (h : I3cHandler) (io : I3cOpenIo)
    (flocks : Fin i3cMaxDevHandlers → Bool) :
    (h.openOn io bus).FlockFails flocks ↔ io.Refuses flocks := by
  refine exists_congr fun i => and_congr_left fun _ => ?_
  cases hi : io.devices i <;> simp [I3cHandler.openOn, hi]

theorem firstLock_decides (h : Aligned c s w) (htype : busType c bus = .i3c)
    (hbus : s.defaultBus ≠ bus) (htoken : s.i3c.busToken = false) :
    ∃ t status, I3cSelects c s bus io t status ∧
      Decides c w t bus status (FirstLockRefused bus io.lock.i3c) := by
  have hi2c := h.i2c_of_not_i3c fun hi3c => by simp [(h.onI3c hi3c).1] at htoken
  obtain ⟨hgranted, hopens, heq⟩ | ⟨hnot, t, heq, ht⟩ :=
    i3cRequestOwnership_cases io.lock.i3c bus htoken
  · obtain ⟨t, hlock, ht⟩ := i3cBusFlock_of_request (c := c) .ex heq hopens.1.ne_reserved
    simp only [openOn_flockFails] at hlock
    have hrefused : FirstLockRefused bus io.lock.i3c ↔ ¬ (io.lock.i3c.owner = some .bmc ∧
        ¬ io.lock.i3c.opens.Refuses io.lock.i3c.lock.flocks) := by
      simp [FirstLockRefused, hgranted, hopens, imp_iff_not_or]
    split at hlock
    · next htaken =>
        -- the lock has opened the bus, which the selection then takes for selected
        refine ⟨_, .ok, .inr ⟨_, hlock, i3cBusSelect_of_opened htype ht.bus ?_⟩,
          decides_of_default hbus ?_⟩
        · exact ht.opened.mpr (openOn_opened hopens _)
        · rw [hrefused]
          exact not_not.mpr htaken
    · next hfail =>
        refine ⟨_, .err, .inl ⟨hlock, rfl⟩, Aligned.decides ?_ (hrefused.mpr hfail)⟩
        exact h.of_i3c hi2c (ht.consistent (openOn_consistent hopens.1 _))
  · refine ⟨_, .err, .inl ⟨i3cBusFlock_of_denied .ex heq, rfl⟩,
      Aligned.decides (h.of_i3c hi2c ?_) ?_⟩
    · obtain ⟨hsame, hdevices⟩ | hclosed := ht
      · exact h.i3c.of_same hsame hdevices
      · exact I3cHandler.consistent_of_closed hclosed
    · exact (not_and_or.mp hnot).elim .inl fun hopens => .inr (.inl hopens)

theorem reserved_decides (h : Aligned c s w) (htype : busType c bus = .i3c)
    (hbus : s.defaultBus ≠ bus) (htoken : s.i3c.busToken = true)
    (hreserved : s.i3c.i3cBus = i3cBusAddressReserved)
    (howner : io.lock.i3c.owner = some .bmc) :
    ∃ t status, I3cSelects c s bus io t status ∧
      Decides c w t bus status (ReservedKeeps w bus io.lock.i3c) := by
  have hi2c := h.i2c_of_not_i3c fun hi3c => (h.onI3c hi3c).2 hreserved
  have hmoved : bus ≠ w.selected := fun hsame => hbus (h.default.trans hsame.symm)
  have hclosed : ¬ s.i3c.Opened := fun hopen => h.i3c.bus hopen hreserved
  have hrequest := i3cRequestOwnership_of_token io.lock.i3c bus htoken
  by_cases hopens : io.lock.i3c.lock.opens.Opens bus
  · have hlock := i3cBusFlockDevHandlers_of_opens .ex htype hreserved hopens
    simp only [openOn_flockFails] at hlock
    have hfinal := i3cBusFlock_of_locked hrequest howner hlock
    have hto := flockDevices_relocked (s.i3c.openOn io.lock.i3c.lock.opens bus) .ex
      io.lock.i3c.lock.flocks
    by_cases hrefuses : io.lock.i3c.lock.opens.Refuses io.lock.i3c.lock.flocks
    · rw [if_pos hrefuses, if_pos (by simp), i3cBusFlockDevHandlers_of_ne _ hopens.1.ne_reserved]
        at hfinal
      refine ⟨_, .err, .inl ⟨hfinal, rfl⟩, decides_of_moved hmoved ?_⟩
      simp [ReservedKeeps, hopens, hrefuses]
    · rw [if_neg hrefuses, if_neg (by simp)] at hfinal
      have hopened := hto.opened.mpr (openOn_opened hopens s.i3c)
      refine ⟨_, .ok, .inr ⟨_, hfinal, i3cBusSelect_of_opened htype rfl hopened⟩, ?_⟩
      refine decides_of_opened h hbus htype rfl h.i2c
        (hto.consistent (openOn_consistent hopens.1 s.i3c)) htoken rfl hopened ?_
      simp [ReservedKeeps, hopens, hrefuses]
  · obtain ⟨t, hlock, _, hnot, hto⟩ :=
      i3cBusFlockDevHandlers_of_not_opens .ex htype hreserved hclosed hopens
    have hfinal := i3cBusFlock_of_locked hrequest howner hlock
    rw [if_pos (by simp)] at hfinal
    have hkeeps : ReservedKeeps w bus io.lock.i3c ↔
        io.lock.i3c.lock.opens.Mapped bus ∨ ¬ io.lock.i3c.release.opens.Opens bus := by
      rw [ReservedKeeps, if_neg hopens]
    by_cases hmapped : io.lock.i3c.lock.opens.Mapped bus
    · rw [if_pos hmapped] at hto
      have hne : t.i3cBus ≠ i3cBusAddressReserved := by
        rw [hto]
        exact hmapped.ne_reserved
      rw [i3cBusFlockDevHandlers_of_ne (s := { s with i3c := t }) .un hne] at hfinal
      refine ⟨_, .err, .inl ⟨hfinal, rfl⟩, Aligned.decides ?_ (hkeeps.mpr (.inl hmapped))⟩
      exact h.of_i3c hi2c ((flockDevices_relocked t .un _).consistent
        (I3cHandler.consistent_of_closed hnot))
    · rw [if_neg hmapped] at hto
      by_cases hsecond : io.lock.i3c.release.opens.Opens bus
      · rw [i3cBusFlockDevHandlers_of_opens (s := { s with i3c := t }) .un htype hto hsecond]
          at hfinal
        refine ⟨_, .err, .inl ⟨hfinal, rfl⟩, decides_of_moved hmoved ?_⟩
        simp [hkeeps, hmapped, hsecond]
      · obtain ⟨u, hrelease, _, hu, _⟩ :=
          i3cBusFlockDevHandlers_of_not_opens (s := { s with i3c := t }) .un htype hto hnot hsecond
        rw [hrelease] at hfinal
        refine ⟨_, .err, .inl ⟨hfinal, rfl⟩, Aligned.decides ?_ (hkeeps.mpr (.inr hsecond))⟩
        exact h.of_i3c hi2c (I3cHandler.consistent_of_closed hu)

/-- A handler that is on some bus, once the lock of its device files is taken. -/
theorem i3cBusSelect_decides (h : Aligned c s w) (htype : busType c bus = .i3c)
    (hbus : s.defaultBus ≠ bus) (htoken : s.i3c.busToken = true)
    (hreserved : s.i3c.i3cBus ≠ i3cBusAddressReserved)
    (htaken : ¬ s.i3c.FlockFails io.lock.i3c.lock.flocks) :
    ∃ t status, i3cBusSelect c io.i3cOpens s bus = (t, status) ∧
      Decides c w t bus status (MoveKeeps c w s bus io) := by
  by_cases hopens : io.i3cOpens.Opens bus
  · by_cases hsame : s.i3c.i3cBus = bus
    · have hkept : ¬ MoveKeeps c w s bus io := by simp [MoveKeeps, htaken, hopens, hsame]
      by_cases hopen : s.i3c.Opened
      · exact ⟨s, .ok, i3cBusSelect_of_opened htype hsame hopen, decides_of_default hbus hkept⟩
      · exact ⟨_, .ok, i3cBusSelect_of_reopens htype hsame hopen hopens,
          decides_of_default hbus hkept⟩
    · refine ⟨_, .ok, i3cBusSelect_of_opens htype hsame hopens, ?_⟩
      refine decides_of_opened h hbus htype rfl h.i2c (openOn_consistent hopens.1 s.i3c) htoken rfl
        (openOn_opened hopens s.i3c) ?_
      simp [MoveKeeps, htaken, hopens, hsame]
  · by_cases hheld : s.i3c.i3cBus = bus ∧ s.i3c.Opened
    · refine ⟨s, .ok, i3cBusSelect_of_opened htype hheld.1 hheld.2, decides_of_default hbus ?_⟩
      simp [MoveKeeps, htaken, hopens, hheld]
    · have hclosed : s.i3c.i3cBus = bus → ¬ s.i3c.Opened := not_and.mp hheld
      obtain ⟨t, heq, ht, hnot, hto⟩ := i3cBusSelect_of_not_opens htype hclosed hopens
      have hne : t.i3cBus ≠ i3cBusAddressReserved := by
        rw [hto]
        split
        · next hmapped => exact hmapped.ne_reserved
        · exact hreserved
      have hkeeps : MoveKeeps c w s bus io ↔ (busType c s.defaultBus = .i3c → w.named = none) := by
        simp only [MoveKeeps, htaken, false_or, if_neg hopens]
        exact and_iff_left hclosed
      refine ⟨_, .err, heq, fun hagrees => hkeeps.mpr fun hi3c => ?_,
        fun hkept => h.of_closed hnot ht hne (hkeeps.mp hkept)⟩
      rw [h.default] at hi3c
      exact Option.not_isSome_iff_eq_none.mp fun hnamed => hnot ((hagrees.2.1 hnamed).2 hi3c)

theorem MoveKeeps.relocked {i2c : I2cHandler} {i3c : I3cHandler} (hlock : s.i3c.Relocked i3c) :
    MoveKeeps c w { s with i2c, i3c } bus io ↔ MoveKeeps c w s bus io := by
  simp only [MoveKeeps, hlock.bus, hlock.flockFails, hlock.opened]

theorem move_decides (h : Aligned c s w) (htype : busType c bus = .i3c)
    (hbus : s.defaultBus ≠ bus) (htoken : s.i3c.busToken = true)
    (hreserved : s.i3c.i3cBus ≠ i3cBusAddressReserved)
    (howner : io.lock.i3c.owner = some .bmc) :
    ∃ t status, I3cSelects c s bus io t status ∧
      Decides c w t bus status (MoveKeeps c w s bus io) := by
  obtain ⟨t, heq, ht⟩ := i3cBusFlock_of_request (c := c) .ex
    (i3cRequestOwnership_of_token io.lock.i3c bus htoken) hreserved
  have haligned := h.of_i3c_relocked ht
  by_cases hfails : s.i3c.FlockFails io.lock.i3c.lock.flocks
  · rw [if_neg (by simp [hfails])] at heq
    exact ⟨_, .err, .inl ⟨heq, rfl⟩, Aligned.decides haligned (.inl hfails)⟩
  · rw [if_pos ⟨howner, hfails⟩] at heq
    rw [← ht.token] at htoken
    rw [← ht.bus] at hreserved
    rw [← ht.flockFails] at hfails
    obtain ⟨u, status, hselect, hu⟩ := i3cBusSelect_decides haligned htype hbus htoken hreserved
      hfails
    exact ⟨u, status, .inr ⟨_, heq, hselect⟩, by rwa [MoveKeeps.relocked ht] at hu⟩

theorem i3c_decides (h : Aligned c s w) (htype : busType c bus = .i3c) (hbus : s.defaultBus ≠ bus) :
    ∃ t status, I3cSelects c s bus io t status ∧
      Decides c w t bus status (I3cKeeps c w s bus io) := by
  cases htoken : s.i3c.busToken with
  | false =>
      simp only [I3cKeeps, htoken, Bool.false_eq_true, if_false]
      exact firstLock_decides h htype hbus htoken
  | true =>
      simp only [I3cKeeps, htoken, if_true]
      by_cases howner : io.lock.i3c.owner = some .bmc
      · simp only [howner, ne_eq, not_true_eq_false, false_or]
        split
        · next hreserved => exact reserved_decides h htype hbus htoken hreserved howner
        · next hreserved => exact move_decides h htype hbus htoken hreserved howner
      · refine ⟨s, .err, .inl ⟨?_, rfl⟩, Aligned.decides h (.inl howner)⟩
        simp only [i3cBusFlock, i3cRequestOwnership_of_token _ _ htoken, howner, if_false]

end I3cSelect

section Select
variable {c : BusConfig} {s : BusState} {w : BusWatch} {bus : UInt8} {io : SelectIo}

theorem i2cBusFlock_ok_iff (h : I2cHandler) (bus : UInt8) (io : I2cLockIo) (op : LockOp) :
    (i2cBusFlock io h bus op).2 = .ok ↔ ¬ I2cRefuses h bus io := by
  rw [I2cRefuses]
  by_cases hbus : bus = h.i2cBus
  · rw [if_pos hbus.symm]
    cases hhandle : h.driverHandle <;> cases hflocks : io.flocks <;>
      simp [i2cBusFlock, hbus, hhandle, flockDevice, hflocks]
  · rw [if_neg (Ne.symm hbus)]
    cases hopens : io.opens <;> cases hflocks : io.flocks <;>
      simp [i2cBusFlock, hbus, i2cOpenDriver, hopens, flockDevice, hflocks]

/-- The lock and the selection of an I2C bus other than the default bus. The
selection has nothing left to do. -/
theorem i2c_decides (h : Aligned c s w) (htype : busType c bus = .i2c) (hbus : s.defaultBus ≠ bus)
    (io : SelectIo) :
    let t := { s with i2c := (i2cBusFlock io.lock.i2c s.i2c bus .ex).1 }
    i2cBusSelect c io.i2cOpens t bus = (t, .ok) ∧
      Decides c w t bus (if I2cRefuses s.i2c bus io.lock.i2c then .err else .ok)
        (OtherKeeps c w s bus io .i2c) := by
  have hto := i2cBusFlock_bus io.lock.i2c .ex s.i2c bus
  have hc := i2cBusFlock_consistent io.lock.i2c .ex bus h.i2c
  refine ⟨by simp [i2cBusSelect, enableI2c_of_busType htype, hto], ?_⟩
  by_cases hrefused : I2cRefuses s.i2c bus io.lock.i2c
  · rw [if_pos hrefused]
    refine ⟨fun hagrees => ⟨?_, hrefused⟩, fun hkept => ?_⟩
    · cases hdefault : busType c s.defaultBus with
      | i3c => rfl
      | notAllowed => exact (h.allowed hdefault).elim
      | i2c =>
          -- the lock was refused on the new bus, and the device file is open there or nowhere
          have hholds := hagrees.1.2
          rw [show (w.select bus .err).selected = s.defaultBus from h.default.symm, hdefault]
            at hholds
          obtain ⟨d, hd, hd'⟩ := hholds
          exact (hbus (hd'.symm.trans ((hc d hd).trans hto))).elim
    · exact h.stays rfl hc h.i3c (fun hi2c => by simp [hkept.1] at hi2c) fun _ => .refl s.i3c
  · rw [if_neg hrefused]
    exact decides_of_default hbus fun hkept => hrefused hkept.2

/-- Selecting the default bus once more, without any lock. -/
theorem default_selects (h : Aligned c s w) (io : I3cOpenIo)
    (htype : busType c s.defaultBus = .i3c) :
    ∃ t status, i3cBusSelect c io s s.defaultBus = (t, status) ∧
      Aligned c t (w.select s.defaultBus status) := by
  obtain ⟨htoken, hreserved⟩ := h.onI3c htype
  have hsettled := h.settled htype
  by_cases hopen : s.i3c.Opened
  · exact ⟨s, .ok, i3cBusSelect_of_opened htype (hsettled.bus hopen) hopen,
      h.renamed rfl fun _ => hopen⟩
  by_cases hopens : io.Opens s.defaultBus
  · have hmoved : Aligned c { s with i3c := s.i3c.openOn io s.defaultBus }
        (w.select s.defaultBus .ok) :=
      aligned_of_moved htype rfl h.i2c (openOn_consistent hopens.1 s.i3c) htoken rfl
        (openOn_opened hopens s.i3c) fun q hq => (h.queued q hq).trans h.default.symm
    by_cases hbus : s.i3c.i3cBus = s.defaultBus
    · exact ⟨_, .ok, i3cBusSelect_of_reopens htype hbus hopen hopens, hmoved⟩
    · exact ⟨_, .ok, i3cBusSelect_of_opens htype hbus hopens, hmoved⟩
  · obtain ⟨t, heq, ht, hnot, hto⟩ := i3cBusSelect_of_not_opens htype (fun _ => hopen) hopens
    refine ⟨_, .err, heq, h.of_closed hnot ht ?_ fun _ => ?_⟩
    · rw [hto]
      split
      · next hmapped => exact hmapped.ne_reserved
      · exact hreserved
    · exact Option.not_isSome_iff_eq_none.mp fun hnamed => hopen (hsettled.named hnamed).2

theorem doBusSelect_of_not_locked {t u : BusState} {unlocked locked : Status}
    (hbus : s.defaultBus ≠ bus)
    (hunlock : devFlock c io.unlock s s.defaultBus .un = (t, unlocked))
    (hlock : devFlock c io.lock t bus .ex = (u, locked)) (hfail : locked ≠ .ok) :
    ∃ errors, doBusSelect c io s bus = (u, errors, .err) :=
  ⟨_, by simp only [doBusSelect, hbus, ne_eq, not_false_eq_true, if_true, hunlock, hlock, hfail,
    if_false, reduceCtorEq]; rfl⟩

theorem doBusSelect_of_locked {t u v : BusState} {unlocked status : Status}
    (hbus : s.defaultBus ≠ bus)
    (hunlock : devFlock c io.unlock s s.defaultBus .un = (t, unlocked))
    (hlock : devFlock c io.lock t bus .ex = (u, .ok))
    (hselect : busType c bus = .i2c ∧ i2cBusSelect c io.i2cOpens u bus = (v, status) ∨
      busType c bus = .i3c ∧ i3cBusSelect c io.i3cOpens u bus = (v, status)) :
    ∃ errors, doBusSelect c io s bus = (v, errors, status) := by
  obtain ⟨htype, hselect⟩ | ⟨htype, hselect⟩ := hselect <;>
    exact ⟨_, by simp only [doBusSelect, hbus, ne_eq, not_false_eq_true, if_true, hunlock, hlock,
      htype, hselect]; rfl⟩

/-- The condition does not depend on locks. -/
theorem OtherKeeps.relocked {i2c : I2cHandler} {i3c : I3cHandler} (h2 : s.i2c.Relocked i2c)
    (h3 : s.i3c.Relocked i3c) (type : BusType) :
    OtherKeeps c w { s with i2c, i3c } bus io type ↔ OtherKeeps c w s bus io type := by
  cases type with
  | notAllowed => rfl
  | i2c => simp only [OtherKeeps, I2cRefuses, h2.bus, h2.isSome]
  | i3c => simp only [OtherKeeps, I3cKeeps, MoveKeeps.relocked h3, h3.token, h3.bus]

theorem doBusSelect_default (h : Aligned c s w) :
    ∃ t errors status, doBusSelect c io s s.defaultBus = (t, errors, status) ∧
      Aligned c t (w.select s.defaultBus status) := by
  cases htype : busType c s.defaultBus with
  | notAllowed => exact (h.allowed htype).elim
  | i2c =>
      have hselect : i2cBusSelect c io.i2cOpens s s.defaultBus = (s, .ok) := by
        simp [i2cBusSelect, enableI2c_of_busType htype, (h.onI2c htype).1]
      refine ⟨s, [], .ok, by simp [doBusSelect, htype, hselect], ?_⟩
      exact h.renamed rfl fun h3 => by simp [htype] at h3
  | i3c =>
      obtain ⟨t, status, hselect, ht⟩ := default_selects h io.i3cOpens htype
      exact ⟨t, [], status, by simp [doBusSelect, htype, hselect], ht⟩

/-- A bus select leaves the handlers where the monitor expects them exactly when
it meets the condition. -/
theorem doBusSelect_decides (h : Aligned c s w) (io : SelectIo) (bus : UInt8) :
    ∃ t errors status, doBusSelect c io s bus = (t, errors, status) ∧
      Decides c w t bus status (SelectKeeps c w s bus io) := by
  by_cases hbus : s.defaultBus = bus
  · subst hbus
    obtain ⟨t, errors, status, heq, ht⟩ := doBusSelect_default h
    exact ⟨t, errors, status, heq, Aligned.decides ht (.inl rfl)⟩
  · obtain ⟨i2c, i3c, unlocked, hunlock, h2, h3⟩ := devFlock_relocked h io.unlock .un
    have haligned : Aligned c { s with i2c, i3c } w :=
      h.stays rfl (h2.consistent h.i2c) (h3.consistent h.i3c) (fun _ => h2) (fun _ => h3)
    simp only [SelectKeeps, hbus, false_or, ← OtherKeeps.relocked h2 h3]
    cases htype : busType c bus with
    | notAllowed =>
        obtain ⟨errors, heq⟩ := doBusSelect_of_not_locked (c := c) (u := { s with i2c, i3c }) hbus
          hunlock (by simp only [devFlock, htype]; rfl) (by simp)
        exact ⟨_, errors, .err, heq, Aligned.decides haligned True.intro⟩
    | i2c =>
        obtain ⟨hselect, hdecides⟩ := i2c_decides haligned htype hbus io
        have hok := i2cBusFlock_ok_iff i2c bus io.lock.i2c .ex
        have hlock := devFlock_i2c (s := { s with i2c, i3c }) io.lock .ex htype
        split at hdecides
        · next hrefused =>
            obtain ⟨errors, heq⟩ := doBusSelect_of_not_locked hbus hunlock hlock
              fun h => hok.mp h hrefused
            exact ⟨_, errors, .err, heq, hdecides⟩
        · next hrefused =>
            rw [hok.mpr hrefused] at hlock
            obtain ⟨errors, heq⟩ := doBusSelect_of_locked hbus hunlock hlock
              (.inl ⟨htype, hselect⟩)
            exact ⟨_, errors, .ok, heq, hdecides⟩
    | i3c =>
        obtain ⟨t, status, hselects, hdecides⟩ := i3c_decides haligned htype hbus
        obtain ⟨hlock, rfl⟩ | ⟨u, hlock, hselect⟩ := hselects
        · obtain ⟨errors, heq⟩ := doBusSelect_of_not_locked hbus hunlock
            ((devFlock_i3c io.lock .ex htype).trans hlock) (by simp)
          exact ⟨t, errors, .err, heq, hdecides⟩
        · obtain ⟨errors, heq⟩ := doBusSelect_of_locked hbus hunlock
            ((devFlock_i3c io.lock .ex htype).trans hlock) (.inr ⟨htype, hselect⟩)
          exact ⟨t, errors, status, heq, hdecides⟩

end Select

end AtScaleDebug
