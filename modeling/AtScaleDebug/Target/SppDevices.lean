import AtScaleDebug.Target.ClientSession

/-!
The SPP devices of a target. Any of the eight slots may fail to open, so the handles are
a sparse array with a count beside it, and four traversals take the count for the number
of the first slots: the two lists of descriptors to poll, the dispatch of an event, and
the clear command at the end of a session. The handler and the descriptors are modelled
here as far as these need them.
-/

namespace AtScaleDebug

section Handler

/-- `spp_open_driver`. A slot that cannot be opened stays empty and the count is that of
the slots that could. -/
def sppOpenDriver (h : SppHandler) (opens : Fin maxSppBusDevices → Bool) : SppHandler × Status :=
  let deviceCount := (List.finRange maxSppBusDevices).countP opens
  ({ h with devHandlers := opens, deviceCount }, if deviceCount = 0 then .err else .ok)

/-- What `spp_bus_select` finds of the bus it is asked for, and of the devices. -/
structure SppSelect where
  sameBus : Bool
  allowed : Bool
  opens : Fin maxSppBusDevices → Bool

def sppBusSelect (enableSpp : Bool) (h : SppHandler) (io : SppSelect) : SppHandler × Status :=
  if !enableSpp then (h, .err)
  else if io.sameBus ∧ h.deviceCount > 0 then (h, .ok)
  else if io.allowed then
    match sppOpenDriver (sppCloseDriver h) io.opens with
    | (h, .ok) =>
        match sppDeviceSelect h 0 with
        | some h => (h, .ok)
        | none => (h, .err)
    | (h, status) => (h, status)
  else (h, .err)

/-- What `spp_bus_flock` finds of its bus and of the devices, and which of them it can lock. -/
structure SppFlock where
  sameBus : Bool
  opens : Fin maxSppBusDevices → Bool
  locks : Fin maxSppBusDevices → Bool

/-- The devices that are locked: those in front of the first that cannot be. -/
def sppFlockCount (h : SppHandler) (locks : Fin maxSppBusDevices → Bool) : Nat :=
  (((List.finRange maxSppBusDevices).filter h.devHandlers).takeWhile locks).length

/-- `spp_bus_flock`. The devices of another bus are opened first. -/
def sppBusFlock (h : SppHandler) (io : SppFlock) : SppHandler × Status :=
  match if io.sameBus then (h, Status.ok) else sppOpenDriver (sppCloseDriver h) io.opens with
  | (h, .ok) => (h, if sppFlockCount h io.locks = h.deviceCount then .ok else .err)
  | (h, status) => (h, status)

/-- The broadcast file is looked for when the bus was selected. -/
def sppInitialize (enableSpp : Bool) (h : SppHandler) (io : SppSelect) (broadcastFilepath : Bool) :
    SppHandler × Status :=
  match sppBusSelect enableSpp h io with
  | (h, .ok) => ({ h with broadcastFilepath }, .ok)
  | (h, status) => (h, status)

def spasenclearCmd : List UInt8 :=
  [0x52, 0x30, 0x04, 0x00, 0xCC, 0x00, 0x00, 0x00, 0xFF, 0xFF, 0xFF, 0xFF]

/-- The loop of `disconnect` over the given slots: the slots that the clear command was
sent to. It leaves at a slot that cannot be selected and at a send that fails. -/
def disconnectSlots (io : Nat → SppIo) : List Nat → SppHandler → List Nat × Status
  | [], _ => ([], .ok)
  | slot :: slots, h =>
      match sppDeviceSelect h slot with
      | none => ([], .err)
      | some h =>
          match sppSend (io slot) h spasenclearCmd with
          | (h, .ok) =>
              let (cleared, status) := disconnectSlots io slots (sppReceive (io slot) h).1
              (slot :: cleared, status)
          | _ => ([slot], .ok)

def disconnect (io : Nat → SppIo) (h : SppHandler) : List Nat × Status :=
  disconnectSlots io (List.range h.deviceCount) h

end Handler

section Target

/-- The pins that may be polled. -/
inductive TargetPin where
  | prdy | pltrst | cpuPwrgd | xdpPresent | pwrgd2 | pwrgd3
  deriving DecidableEq, Repr

/-- What a descriptor belongs to. `closed` is the handle of an empty slot. -/
inductive Descriptor where
  | pin (pin : TargetPin)
  | dbus
  | device (slot : Fin maxSppBusDevices)
  | closed
  deriving DecidableEq, Repr

/-- The target handler: which of its pins have a descriptor, and whether it knows the SPP
handler. -/
structure TargetHandler where
  initialized : Bool
  reportPrdy : Bool
  opened : TargetPin → Bool
  cpuPwrgdGpiod : Bool
  dbus : Bool
  spp : Bool

/-- The first slots, as many as devices were opened. -/
def SppHandler.countedSlots (h : SppHandler) : List (Fin maxSppBusDevices) :=
  (List.finRange maxSppBusDevices).take h.deviceCount

def SppHandler.descriptor (h : SppHandler) (slot : Fin maxSppBusDevices) : Descriptor :=
  if h.devHandlers slot then .device slot else .closed

/-- `target_get_spp_fds`. -/
def targetGetSppFds (t : TargetHandler) (h : SppHandler) : Option (List Descriptor) :=
  if !t.initialized then none
  else some (if t.spp then h.countedSlots.map h.descriptor else [])

def pinFds (t : TargetHandler) : List Descriptor :=
  (if t.reportPrdy && t.opened .prdy then [.pin .prdy] else []) ++
  (if t.opened .pltrst then [.pin .pltrst] else []) ++
  (if t.cpuPwrgdGpiod && t.opened .cpuPwrgd then [.pin .cpuPwrgd] else []) ++
  (if t.opened .xdpPresent then [.pin .xdpPresent] else []) ++
  (if t.opened .pwrgd2 then [.pin .pwrgd2] else []) ++
  (if t.opened .pwrgd3 then [.pin .pwrgd3] else []) ++
  (if t.dbus then [.dbus] else [])

/-- The devices are added while the array has room. -/
def addDevices (h : SppHandler) :
    List (Fin maxSppBusDevices) → List Descriptor → List Descriptor
  | [], fds => fds
  | slot :: slots, fds =>
      if fds.length ≥ numGpios + numDbusFds then fds
      else addDevices h slots (fds ++ [h.descriptor slot])

/-- `target_get_fds`. -/
def targetGetFds (t : TargetHandler) (h : SppHandler) : Option (List Descriptor) :=
  if !t.initialized then none
  else some (if t.spp then addDevices h h.countedSlots (pinFds t) else pinFds t)

/-- A descriptor with what the poll says of it. -/
structure TargetPollFd where
  fd : Descriptor
  pollIn : Bool
  pollPri : Bool

inductive AsdEvent where
  | none
  | pin (event : UInt8)
  | bpk (addr : Fin maxSppBusDevices)
  deriving DecidableEq, Repr

/-- What the handlers below `target_event` make of a descriptor that is ready. A pin that
has no handler is `none`. -/
structure EventIo where
  dbus : Status × AsdEvent
  cleared : Status
  handler : Option (Status × AsdEvent)

/-- `i3c_ibi_handler` looks at the size of the buffer, and not at the outcome of
`GET_EVENT_DATA`. -/
def i3cIbiStatus (size : Nat) : Status := if size > 0xFFFF then .err else .ok

def targetEvent (t : TargetHandler) (h : SppHandler) (io : EventIo) (p : TargetPollFd) :
    Status × AsdEvent :=
  if !t.initialized then (.err, .none)
  else
    match if t.spp ∧ p.pollIn then h.countedSlots.find? fun slot => h.descriptor slot = p.fd
      else none with
    | some slot =>
        -- a handle of -1 is never polled as readable
        if i3cIbiStatus eventBufferSize = .ok then (.ok, .bpk slot) else (.err, .none)
    | none =>
        if t.dbus ∧ p.fd = .dbus ∧ p.pollIn then io.dbus
        else if p.pollIn ∨ p.pollPri then
          match p.fd with
          | .pin _ =>
              if io.cleared = .ok then io.handler.getD (.err, .none) else (io.cleared, .none)
          | _ => (if t.spp then .ok else .err, .none)
        else (.ok, .none)

end Target

section Slots
variable {h : SppHandler}

/-- The count is that of the open slots. -/
def SppHandler.Counted (h : SppHandler) : Prop :=
  h.deviceCount = (List.finRange maxSppBusDevices).countP h.devHandlers

/-- Below the open slots there is no empty one, as many as there are. -/
def SppHandler.Contiguous (h : SppHandler) : Prop :=
  ∀ slot, h.devHandlers slot = true → slot.val < h.deviceCount

instance (h : SppHandler) : Decidable h.Contiguous :=
  inferInstanceAs (Decidable (∀ slot, h.devHandlers slot = true → slot.val < h.deviceCount))

theorem mem_countedSlots {slot : Fin maxSppBusDevices} :
    slot ∈ h.countedSlots ↔ slot.val < h.deviceCount := by
  rw [SppHandler.countedSlots, List.mem_take_iff_getElem]
  constructor
  · rintro ⟨i, hi, rfl⟩
    rw [List.getElem_finRange]
    exact (Nat.lt_min.mp hi).1
  · intro hslot
    refine ⟨slot.val, ?_, ?_⟩
    · rw [List.length_finRange]
      exact Nat.lt_min.mpr ⟨hslot, slot.isLt⟩
    · rw [List.getElem_finRange]
      rfl

theorem mem_descriptors {slot : Fin maxSppBusDevices} :
    .device slot ∈ h.countedSlots.map h.descriptor ↔
      slot.val < h.deviceCount ∧ h.devHandlers slot = true := by
  rw [List.mem_map]
  constructor
  · rintro ⟨other, hother, heq⟩
    rw [SppHandler.descriptor] at heq
    split at heq
    · next hopen =>
        cases heq
        exact ⟨mem_countedSlots.mp hother, hopen⟩
    · cases heq
  · rintro ⟨hslot, hopen⟩
    exact ⟨slot, mem_countedSlots.mpr hslot, if_pos hopen⟩

/-- Without a gap the first slots are all open. -/
theorem SppHandler.Contiguous.opened (hcounted : h.Counted) (hcontiguous : h.Contiguous)
    {slot : Fin maxSppBusDevices} (hslot : slot.val < h.deviceCount) :
    h.devHandlers slot = true := by
  have hsplit := List.take_append_drop h.deviceCount (List.finRange maxSppBusDevices)
  have hsum := congrArg (List.countP h.devHandlers) hsplit
  rw [List.countP_append, ← hcounted] at hsum
  have hbehind :
      ((List.finRange maxSppBusDevices).drop h.deviceCount).countP h.devHandlers = 0 := by
    rw [List.countP_eq_zero]
    intro other hother hopen
    obtain ⟨i, hi, rfl⟩ := List.mem_drop_iff_getElem.mp hother
    have hlt := hcontiguous _ hopen
    rw [List.getElem_finRange] at hlt
    exact absurd hlt (Nat.not_lt.mpr (Nat.le_add_right _ _))
  rw [hbehind, Nat.add_zero] at hsum
  have hlength : h.countedSlots.countP h.devHandlers = h.countedSlots.length := by
    refine Nat.le_antisymm List.countP_le_length ?_
    rw [SppHandler.countedSlots, hsum]
    exact List.length_take_le _ _
  exact List.countP_eq_length.mp hlength slot (mem_countedSlots.mpr hslot)

theorem addDevices_eq (h : SppHandler) (slots : List (Fin maxSppBusDevices))
    (fds : List Descriptor) (hroom : fds.length + slots.length ≤ numGpios + numDbusFds) :
    addDevices h slots fds = fds ++ slots.map h.descriptor := by
  induction slots generalizing fds with
  | nil => exact (List.append_nil fds).symm
  | cons slot slots ih =>
      rw [List.length_cons] at hroom
      rw [addDevices, if_neg (by omega), ih, List.append_assoc]
      · rfl
      · rw [List.length_append, List.length_singleton]
        omega

theorem length_pinFds_le (t : TargetHandler) : (pinFds t).length ≤ 7 := by
  have hsome (b : Bool) (fd : Descriptor) : (if b then [fd] else []).length ≤ 1 := by
    cases b with
    | false => exact Nat.zero_le 1
    | true => exact Nat.le_refl 1
  simp only [pinFds, List.length_append]
  have h1 := hsome (t.reportPrdy && t.opened .prdy) (.pin .prdy)
  have h2 := hsome (t.opened .pltrst) (.pin .pltrst)
  have h3 := hsome (t.cpuPwrgdGpiod && t.opened .cpuPwrgd) (.pin .cpuPwrgd)
  have h4 := hsome (t.opened .xdpPresent) (.pin .xdpPresent)
  have h5 := hsome (t.opened .pwrgd2) (.pin .pwrgd2)
  have h6 := hsome (t.opened .pwrgd3) (.pin .pwrgd3)
  have h7 := hsome t.dbus .dbus
  omega

/-- The array has room for every pin and every device. -/
theorem addDevices_pinFds (t : TargetHandler) (h : SppHandler) :
    addDevices h h.countedSlots (pinFds t) = pinFds t ++ h.countedSlots.map h.descriptor := by
  refine addDevices_eq h h.countedSlots (pinFds t) ?_
  have hpins := length_pinFds_le t
  have hslots : h.countedSlots.length ≤ 8 :=
    (List.length_take_le' _ _).trans (Nat.le_of_eq List.length_finRange)
  rw [numGpios, numDbusFds]
  omega

end Slots

section Served
variable {t : TargetHandler} {h : SppHandler}

/-- An open device is polled for by both lists, a readable poll is reported as its event,
and the clear command is sent to it. -/
structure DeviceServed (t : TargetHandler) (h : SppHandler) (io : Nat → SppIo)
    (slot : Fin maxSppBusDevices) : Prop where
  fds : ∃ fds, targetGetFds t h = some fds ∧ .device slot ∈ fds
  sppFds : ∃ fds, targetGetSppFds t h = some fds ∧ .device slot ∈ fds
  event : ∀ events pollPri, targetEvent t h events ⟨.device slot, true, pollPri⟩ = (.ok, .bpk slot)
  cleared : slot.val ∈ (disconnect io h).1

theorem find_descriptor {slot : Fin maxSppBusDevices} (hopen : h.devHandlers slot = true)
    (hslot : slot.val < h.deviceCount) :
    h.countedSlots.find? (fun other => h.descriptor other = .device slot) = some slot := by
  cases hfind : h.countedSlots.find? (fun other => h.descriptor other = .device slot) with
  | none =>
      have hnone := List.find?_eq_none.mp hfind slot (mem_countedSlots.mpr hslot)
      rw [SppHandler.descriptor, if_pos hopen] at hnone
      exact absurd (decide_eq_true rfl) hnone
  | some other =>
      have hsome := List.find?_some hfind
      have hother : h.descriptor other = .device slot := of_decide_eq_true hsome
      rw [SppHandler.descriptor] at hother
      split at hother
      · cases hother
        rfl
      · cases hother

theorem targetEvent_device (hinit : t.initialized = true) (hspp : t.spp = true)
    {slot : Fin maxSppBusDevices} (hopen : h.devHandlers slot = true)
    (hslot : slot.val < h.deviceCount) (events : EventIo) (pollPri : Bool) :
    targetEvent t h events ⟨.device slot, true, pollPri⟩ = (.ok, .bpk slot) := by
  have hnot : ¬ (!t.initialized) = true := by rw [hinit]; decide
  rw [targetEvent, if_neg hnot]
  dsimp only
  rw [if_pos ⟨hspp, rfl⟩, find_descriptor hopen hslot]
  rfl

/-- `disconnect` gets from the one slot to the other: every slot on the way can be selected,
and is written to. -/
structure DisconnectReaches (io : Nat → SppIo) (h : SppHandler) (start slot : Nat) : Prop where
  ordered : start ≤ slot
  selected : ∀ j, start ≤ j → j ≤ slot → (sppDeviceSelect h j).isSome
  written : ∀ j, start ≤ j → j < slot → (io j).written = true

theorem disconnectReaches_iff (io : Nat → SppIo) {h : SppHandler} {start : Nat}
    (hfirst : (sppDeviceSelect h start).isSome) (slot : Nat) :
    DisconnectReaches io h start slot ↔
      slot = start ∨ (io start).written = true ∧ DisconnectReaches io h (start + 1) slot := by
  constructor
  · intro hreaches
    obtain rfl | hlt := Nat.eq_or_lt_of_le hreaches.ordered
    · exact .inl rfl
    · refine .inr ⟨hreaches.written start (Nat.le_refl start) hlt, hlt, fun j hj => ?_,
        fun j hj => ?_⟩
      · exact hreaches.selected j (Nat.le_of_succ_le hj)
      · exact hreaches.written j (Nat.le_of_succ_le hj)
  · rintro (rfl | ⟨hwritten, hrest⟩)
    · refine ⟨Nat.le_refl slot, fun j hle hge => ?_, fun j hle hlt => ?_⟩
      · exact Nat.le_antisymm hle hge ▸ hfirst
      · exact absurd hlt (Nat.not_lt.mpr hle)
    · refine ⟨Nat.le_of_succ_le hrest.ordered, fun j hj hge => ?_, fun j hj hlt => ?_⟩
      · obtain rfl | hj := Nat.eq_or_lt_of_le hj
        · exact hfirst
        · exact hrest.selected j hj hge
      · obtain rfl | hj := Nat.eq_or_lt_of_le hj
        · exact hwritten
        · exact hrest.written j hj hlt

theorem disconnectReaches_congr (io : Nat → SppIo) {h k : SppHandler} (hkeep : h.SameDevices k)
    (start slot : Nat) :
    DisconnectReaches io k start slot ↔ DisconnectReaches io h start slot := by
  constructor
  · intro hreaches
    refine ⟨hreaches.ordered, fun j hj hge => ?_, hreaches.written⟩
    exact (sppDeviceSelect_isSome_congr hkeep j).symm.trans (hreaches.selected j hj hge)
  · intro hreaches
    refine ⟨hreaches.ordered, fun j hj hge => ?_, hreaches.written⟩
    exact (sppDeviceSelect_isSome_congr hkeep j).trans (hreaches.selected j hj hge)

/-- The slots that `disconnect` gets to. -/
theorem mem_disconnectSlots (io : Nat → SppIo) (h : SppHandler) (start count slot : Nat) :
    slot ∈ (disconnectSlots io (List.range' start count) h).1 ↔
      slot < start + count ∧ DisconnectReaches io h start slot := by
  induction count generalizing start h with
  | zero =>
      refine iff_of_false List.not_mem_nil fun hreaches => ?_
      exact absurd hreaches.1 (Nat.not_lt.mpr hreaches.2.ordered)
  | succ count ih =>
      rw [List.range'_succ, disconnectSlots]
      cases hselect : sppDeviceSelect h start with
      | none =>
          refine iff_of_false List.not_mem_nil fun hreaches => ?_
          have hstart := hreaches.2.selected start (Nat.le_refl start) hreaches.2.ordered
          rw [hselect] at hstart
          cases hstart
      | some g =>
          obtain ⟨hkeep, hopen⟩ := sppDeviceSelect_keeps hselect
          have hok : (sppSend (io start) g spasenclearCmd).2 = .ok ↔ _ := sppSend_ok_iff hopen
          have hsend := sppSend_keeps (io start) g spasenclearCmd
          have hfirst : (sppDeviceSelect h start).isSome := by rw [hselect]; rfl
          rw [disconnectReaches_iff io hfirst]
          dsimp only
          generalize sppSend (io start) g spasenclearCmd = result at hok hsend ⊢
          obtain ⟨k, status⟩ := result
          cases status with
          | ok =>
              have hwritten := (hok.mp rfl).2
              have hdevices := ((hkeep.trans hsend).trans
                (sppReceive_spec (io start) k).1).toSameDevices
              dsimp only
              rw [List.mem_cons, ih (sppReceive (io start) k).1 (start + 1),
                disconnectReaches_congr io hdevices]
              simp only [hwritten, true_and]
              constructor
              · rintro (rfl | ⟨hlt, hrest⟩)
                · exact ⟨by omega, .inl rfl⟩
                · exact ⟨by omega, .inr hrest⟩
              · rintro ⟨hlt, rfl | hrest⟩
                · exact .inl rfl
                · exact .inr ⟨by omega, hrest⟩
          | err | timeout =>
              have hbroken : (io start).written ≠ true := fun hwritten => by
                have hnot := hok.mpr ⟨by decide, hwritten⟩
                cases hnot
              rw [List.mem_singleton]
              constructor
              · rintro rfl
                exact ⟨by omega, .inl rfl⟩
              · rintro ⟨_, heq | hrest⟩
                · exact heq
                · exact absurd hrest.1 hbroken

theorem sppDeviceSelect_isSome (h : SppHandler) (slot : Fin maxSppBusDevices) :
    (sppDeviceSelect h slot.val).isSome = h.devHandlers slot := by
  rw [sppDeviceSelect, dif_pos slot.isLt]
  cases h.devHandlers slot with
  | false | true => rfl

theorem mem_disconnect (hcounted : h.Counted) (hcontiguous : h.Contiguous) (io : Nat → SppIo)
    {slot : Fin maxSppBusDevices} (hslot : slot.val < h.deviceCount) :
    slot.val ∈ (disconnect io h).1 ↔ ∀ j, j < slot.val → (io j).written = true := by
  rw [disconnect, List.range_eq_range', mem_disconnectSlots]
  have hselects : ∀ j, 0 ≤ j → j ≤ slot.val → (sppDeviceSelect h j).isSome := by
    intro j _ hj
    have hopen : h.devHandlers ⟨j, hj.trans_lt slot.isLt⟩ = true :=
      hcontiguous.opened hcounted (hj.trans_lt hslot)
    exact (sppDeviceSelect_isSome h ⟨j, hj.trans_lt slot.isLt⟩).trans hopen
  constructor
  · rintro ⟨_, _, _, hwrites⟩ j hj
    exact hwrites j (Nat.zero_le j) hj
  · intro hwrites
    exact ⟨by omega, Nat.zero_le _, hselects, fun j _ => hwrites j⟩

theorem devices_served_iff (hinit : t.initialized = true)
    (hspp : ∀ slot, h.devHandlers slot = true → t.spp = true) (hcounted : h.Counted)
    (io : Nat → SppIo) :
    (∀ slot, h.devHandlers slot = true → DeviceServed t h io slot) ↔
      h.Contiguous ∧ ∀ slot, slot + 1 < h.deviceCount → (io slot).written = true := by
  have hnot : ¬ (!t.initialized) = true := by rw [hinit]; decide
  have hfds (slot : Fin maxSppBusDevices) (hopen : h.devHandlers slot = true) :
      (∃ fds, targetGetSppFds t h = some fds ∧ .device slot ∈ fds) ↔ slot.val < h.deviceCount := by
    rw [targetGetSppFds, if_neg hnot, if_pos (hspp slot hopen)]
    simp only [Option.some.injEq, exists_eq_left', mem_descriptors, hopen, and_true]
  constructor
  · intro hserved
    have hcontiguous : h.Contiguous := fun slot hopen =>
      (hfds slot hopen).mp (hserved slot hopen).sppFds
    refine ⟨hcontiguous, fun slot hslot => ?_⟩
    have hle : h.deviceCount ≤ maxSppBusDevices := by
      rw [hcounted]
      exact List.countP_le_length.trans (Nat.le_of_eq List.length_finRange)
    have hopen : h.devHandlers ⟨slot + 1, hslot.trans_le hle⟩ = true :=
      hcontiguous.opened hcounted hslot
    have hcleared := (hserved _ hopen).cleared
    rw [mem_disconnect hcounted hcontiguous io hslot] at hcleared
    exact hcleared slot (Nat.lt_succ_self slot)
  · rintro ⟨hcontiguous, hwritten⟩ slot hopen
    have hslot := hcontiguous slot hopen
    refine ⟨?_, (hfds slot hopen).mpr hslot, ?_, ?_⟩
    · rw [targetGetFds, if_neg hnot, if_pos (hspp slot hopen), addDevices_pinFds]
      exact ⟨_, rfl, List.mem_append_right _ (mem_descriptors.mpr ⟨hslot, hopen⟩)⟩
    · exact targetEvent_device hinit (hspp slot hopen) hopen hslot
    · rw [mem_disconnect hcounted hcontiguous io hslot]
      exact fun j hj => hwritten j (by omega)

end Served

section Kept

theorem sppLoop_devices {h : SppHandler} (io : Nat → SppIo) (request : MessageHeader)
    (rounds k : Nat) {s : SppState} (same : h.SameDevices s.handler) (packet : List UInt8) :
    h.SameDevices (sppLoop io request rounds k s packet).1.handler := by
  induction rounds generalizing k s packet with
  | zero => exact same
  | succ rounds ih =>
      cases packet with
      | nil => exact same
      | cons byte packet =>
          rw [sppLoop]
          split
          · exact same
          · next hroom =>
              split
              · exact same
              · next bulkAddress command rest _ =>
                  have hexec := executeSppCommand_executes (s := { s with bulkAddress }) (io k)
                    request same (Nat.lt_of_not_le hroom) command
                  generalize executeSppCommand (io k) request { s with bulkAddress } command =
                    result at hexec ⊢
                  obtain ⟨u, flow⟩ := result
                  cases flow with
                  | next => exact ih (k + 1) hexec.devices rest
                  | broke | returned => exact hexec.devices

theorem sppBulkTail_devices (tail : SppTailIo) (s : SppState) :
    s.handler.SameDevices (sppBulkTail tail s).1.handler := by
  simp only [sppBulkTail]
  split
  · next ha =>
      have hwait := (awaitHandshake_keeps tail.handshake s.handler
        ⟨s.bulkAddress.toNat, ha⟩).1.toSameDevices
      split
      · have hdrain := hwait.trans (asdMsgCheckSppIbi_keeps tail.autocmd _).1.toSameDevices
        exact ⟨hdrain.devHandlers, hdrain.deviceCount, hdrain.broadcastFilepath⟩
      · exact ⟨hwait.devHandlers, hwait.deviceCount, hwait.broadcastFilepath⟩
  · exact ⟨rfl, rfl, rfl⟩

/-- A message neither opens nor closes devices. -/
theorem processSppRequest_devices (s : SppSession) (r : SppRequest) :
    s.handler.SameDevices (processSppRequest s r).1.handler := by
  obtain ⟨io, tail, heq⟩ := processSppRequest_fst s r
  rw [← congrArg Prod.fst heq, processSppMessage]
  cases getMessageSize r.header with
  | none => exact ⟨rfl, rfl, rfl⟩
  | some size =>
      have hloop := sppLoop_devices (h := s.handler) io r.header size 0
        (s := ⟨{ s.handler with bulkMode := false }, .initial, 0, []⟩) ⟨rfl, rfl, rfl⟩
        (sppPayload r.header r.buffer)
      dsimp only
      generalize sppLoop io r.header size 0 ⟨{ s.handler with bulkMode := false }, .initial, 0, []⟩
        (sppPayload r.header r.buffer) = result at hloop ⊢
      obtain ⟨t, flow⟩ := result
      cases flow with
      | next | broke =>
          dsimp only
          split
          · exact hloop.trans (sppBulkTail_devices tail t)
          · exact hloop
      | returned => exact hloop

end Kept

section Reachable

/-- The SPP session of a client with the target handler beside it. -/
structure DeviceState where
  config : MsgConfig
  session : SppSession
  target : TargetHandler

/-- What reaches the devices: a new client, the initialisation of the handlers with the
target that it finds, the lock that a bus select moves and the selection, SPP messages and
events, the query for the devices, and changes of what is polled besides. -/
inductive DeviceInput where
  | client (config : MsgConfig)
  | start (io : SppSelect) (broadcastFilepath : Bool) (ready : Option TargetHandler)
  | flock (io : SppFlock)
  | select (io : SppSelect)
  | message (r : SppRequest)
  | event (enabled : Bool) (p : PolledIbi)
  | deviceMap (opens : Fin maxSppBusDevices → Bool)
  | pins (t : TargetHandler)

def DeviceState.connected (config : MsgConfig) (session : SppSession) : DeviceState :=
  ⟨config, { session with handler := sppHandler },
    ⟨false, false, fun _ => false, false, false, false⟩⟩

def DeviceState.withHandler (s : DeviceState) (handler : SppHandler) : DeviceState :=
  { s with session := { s.session with handler } }

/-- With SPP enabled the handler is initialised and made known to the target handler. -/
def DeviceState.startSpp (s : DeviceState) (io : SppSelect) (broadcastFilepath : Bool) :
    DeviceState :=
  if s.config.enableSpp then
    { s.withHandler (sppInitialize s.config.enableSpp s.session.handler io broadcastFilepath).1 with
      target := { s.target with spp := true } }
  else s

/-- The handlers are initialised once, and the messages that need them come behind. -/
def deviceStep (s : DeviceState) : DeviceInput → DeviceState
  | .client config => .connected config s.session
  | .start io broadcastFilepath ready =>
      if s.target.initialized then s
      else
        let s := s.startSpp io broadcastFilepath
        match ready with
        | none => s
        | some t => { s with target := { t with initialized := true, spp := s.target.spp } }
  | .flock io =>
      -- `dev_flock` needs a bus of the type, and the options that add one enable SPP
      if s.target.initialized ∧ s.config.enableSpp then
        s.withHandler (sppBusFlock s.session.handler io).1
      else s
  | .select io =>
      if s.target.initialized then
        s.withHandler (sppBusSelect s.config.enableSpp s.session.handler io).1
      else s
  | .message r =>
      if s.target.initialized ∧ s.config.enableSpp then
        { s with session := sppStep s.session (.message r) }
      else s
  | .event enabled p =>
      if s.target.initialized then { s with session := sppStep s.session (.event enabled p) } else s
  | .deviceMap opens => s.withHandler (sppBusGetDeviceMap s.config s.session.handler opens).1
  | .pins t =>
      { s with target := { t with initialized := s.target.initialized, spp := s.target.spp } }

/-- The open slots are counted, and a target handler in use knows of them. -/
structure DeviceState.Consistent (s : DeviceState) : Prop where
  counted : s.session.handler.Counted
  known : ∀ slot, s.session.handler.devHandlers slot = true → s.target.spp = true
  started : s.target.initialized = true → s.config.enableSpp = true → s.target.spp = true

theorem sppOpenDriver_counted (h : SppHandler) (opens : Fin maxSppBusDevices → Bool) :
    (sppOpenDriver h opens).1.Counted := rfl

theorem sppCloseDriver_counted (h : SppHandler) : (sppCloseDriver h).Counted := by
  refine (List.countP_eq_zero.mpr ?_).symm
  exact fun _ _ => Bool.false_ne_true

theorem SppHandler.SameDevices.counted {h g : SppHandler} (same : h.SameDevices g)
    (hcounted : h.Counted) : g.Counted := by
  rw [SppHandler.Counted, same.deviceCount, same.devHandlers]
  exact hcounted

theorem sppBusSelect_counted (enableSpp : Bool) {h : SppHandler} (hcounted : h.Counted)
    (io : SppSelect) : (sppBusSelect enableSpp h io).1.Counted := by
  rw [sppBusSelect]
  split
  · exact hcounted
  split
  · exact hcounted
  split
  · have hopened := sppOpenDriver_counted (sppCloseDriver h) io.opens
    generalize sppOpenDriver (sppCloseDriver h) io.opens = result at hopened ⊢
    obtain ⟨g, status⟩ := result
    cases status with
    | ok =>
        dsimp only
        cases hselect : sppDeviceSelect g 0 with
        | none => exact hopened
        | some k => exact (sppDeviceSelect_keeps hselect).1.toSameDevices.counted hopened
    | err | timeout => exact hopened
  · exact hcounted

theorem sppBusFlock_counted {h : SppHandler} (hcounted : h.Counted) (io : SppFlock) :
    (sppBusFlock h io).1.Counted := by
  rw [sppBusFlock]
  cases io.sameBus with
  | true => exact hcounted
  | false =>
      have hopened := sppOpenDriver_counted (sppCloseDriver h) io.opens
      rw [if_neg Bool.false_ne_true]
      generalize sppOpenDriver (sppCloseDriver h) io.opens = result at hopened ⊢
      obtain ⟨g, status⟩ := result
      cases status with
      | ok | err | timeout => exact hopened

theorem sppInitialize_counted (enableSpp : Bool) {h : SppHandler} (hcounted : h.Counted)
    (io : SppSelect) (broadcastFilepath : Bool) :
    (sppInitialize enableSpp h io broadcastFilepath).1.Counted := by
  have hselect := sppBusSelect_counted enableSpp hcounted io
  rw [sppInitialize]
  generalize sppBusSelect enableSpp h io = result at hselect ⊢
  obtain ⟨g, status⟩ := result
  cases status with
  | ok | err | timeout => exact hselect

theorem connected_consistent (config : MsgConfig) (session : SppSession) :
    (DeviceState.connected config session).Consistent := by
  refine ⟨sppCloseDriver_counted sppHandler, fun _ hopen => ?_, fun hinit => ?_⟩
  · exact absurd hopen Bool.false_ne_true
  · exact absurd hinit Bool.false_ne_true

theorem DeviceState.Consistent.startSpp {s : DeviceState} (h : s.Consistent) (io : SppSelect)
    (broadcastFilepath : Bool) : (s.startSpp io broadcastFilepath).Consistent ∧
      (s.config.enableSpp = true → (s.startSpp io broadcastFilepath).target.spp = true) := by
  rw [DeviceState.startSpp]
  split
  · refine ⟨⟨?_, fun _ _ => rfl, fun _ _ => rfl⟩, fun _ => rfl⟩
    exact sppInitialize_counted s.config.enableSpp h.counted io broadcastFilepath
  · next hdisabled => exact ⟨h, fun henabled => absurd henabled hdisabled⟩

theorem deviceStep_consistent (s : DeviceState) (i : DeviceInput) (h : s.Consistent) :
    (deviceStep s i).Consistent := by
  cases i with
  | client config => exact connected_consistent config s.session
  | start io broadcastFilepath ready =>
      rw [deviceStep]
      split
      · exact h
      · obtain ⟨hstart, hknown⟩ := h.startSpp io broadcastFilepath
        have hconfig : (s.startSpp io broadcastFilepath).config = s.config := by
          rw [DeviceState.startSpp]
          split
          · rfl
          · rfl
        cases ready with
        | none => exact hstart
        | some t =>
            exact ⟨hstart.counted, hstart.known, fun _ henabled => hknown (hconfig ▸ henabled)⟩
  | flock io =>
      rw [deviceStep]
      split
      · next hready =>
          refine ⟨sppBusFlock_counted h.counted io, fun _ _ => ?_, h.started⟩
          exact h.started hready.1 hready.2
      · exact h
  | select io =>
      rw [deviceStep]
      split
      · next hready =>
          refine ⟨sppBusSelect_counted s.config.enableSpp h.counted io, fun slot hopen => ?_,
            h.started⟩
          cases henabled : s.config.enableSpp with
          | true => exact h.started hready henabled
          | false =>
              refine h.known slot ?_
              rw [DeviceState.withHandler, henabled] at hopen
              exact hopen
      · exact h
  | message r =>
      rw [deviceStep]
      split
      · next hready =>
          refine ⟨(processSppRequest_devices s.session r).counted h.counted, fun _ _ => ?_,
            h.started⟩
          exact h.started hready.1 hready.2
      · exact h
  | event enabled p =>
      rw [deviceStep]
      split
      · have hsame := (i3cIbiHandler_keeps s.session.handler (p.device, p.kind)).1.toSameDevices
        refine ⟨hsame.counted h.counted, fun slot hopen => h.known slot ?_, h.started⟩
        rw [← hsame.devHandlers]
        exact hopen
      · exact h
  | deviceMap opens =>
      rw [deviceStep, sppBusGetDeviceMap]
      split
      · exact h
      · refine ⟨sppCloseDriver_counted s.session.handler, fun _ hopen => ?_, h.started⟩
        exact absurd hopen Bool.false_ne_true
  | pins t => exact ⟨h.counted, h.known, h.started⟩

/-- In every state that a session reaches with the target handler initialised, each open
device is served if and only if there is no gap below the open slots and no send of the
clear command fails before the last. -/
theorem open_devices_served (config : MsgConfig) (session : SppSession)
    (inputs : List DeviceInput) (io : Nat → SppIo)
    (hinit :
      (Machine.run deviceStep (.connected config session) inputs).target.initialized = true) :
    let s := Machine.run deviceStep (.connected config session) inputs
    (∀ slot, s.session.handler.devHandlers slot = true →
        DeviceServed s.target s.session.handler io slot) ↔
      s.session.handler.Contiguous ∧
        ∀ slot, slot + 1 < s.session.handler.deviceCount → (io slot).written = true := by
  intro s
  have hconsistent : s.Consistent := Machine.run_invariant_of_step deviceStep_consistent inputs
    (connected_consistent config session)
  exact devices_served_iff hinit hconsistent.known hconsistent.counted io

/-- The state when the given slots could be opened at the first message. -/
def openedSlots (opens : Fin maxSppBusDevices → Bool) : DeviceState :=
  Machine.run deviceStep (.connected plainArgs.defaults ⟨sppHandler, .initial, fun _ => 0⟩)
    [.start ⟨false, true, opens⟩ true (some ⟨true, false, fun _ => true, true, true, false⟩)]

/-- The first two slots are open and every send succeeds. -/
theorem open_devices_served_first_two :
    let s := openedSlots fun slot => slot.val < 2
    s.target.initialized = true ∧ ∀ slot, s.session.handler.devHandlers slot = true →
      DeviceServed s.target s.session.handler (fun _ => workingDevice) slot := by
  intro s
  have hopened : s.target.initialized = true ∧ s.session.handler.Contiguous := by decide +kernel
  refine ⟨hopened.1, (open_devices_served plainArgs.defaults ⟨sppHandler, .initial, fun _ => 0⟩ _
    (fun _ => workingDevice) hopened.1).mpr ⟨hopened.2, fun _ _ => rfl⟩⟩

/-- The second slot cannot be opened: the third is not polled, its event is not reported,
and the clear command does not get to it. -/
theorem open_device_unserved :
    let s := openedSlots fun slot => slot.val = 0 ∨ slot.val = 2
    let third : Fin maxSppBusDevices := ⟨2, by decide⟩
    s.target.initialized = true ∧ s.session.handler.devHandlers third = true ∧
      targetGetSppFds s.target s.session.handler = some [.device firstDevice, .closed] ∧
      targetEvent s.target s.session.handler ⟨(.ok, .none), .ok, none⟩
          ⟨.device third, true, false⟩ =
        (.ok, .none) ∧
      disconnect (fun _ => workingDevice) s.session.handler = ([0], .err) ∧
      ¬ DeviceServed s.target s.session.handler (fun _ => workingDevice) third := by
  intro s third
  have hfds : targetGetSppFds s.target s.session.handler = some [.device firstDevice, .closed] := by
    decide +kernel
  refine ⟨by decide +kernel, by decide +kernel, hfds, by decide +kernel, by decide +kernel, ?_⟩
  intro hserved
  obtain ⟨fds, heq, hmem⟩ := hserved.sppFds
  rw [hfds] at heq
  cases heq
  exact absurd hmem (by decide)

end Reachable

end AtScaleDebug
