import AtScaleDebug.Target.BusAttribution

/-!
The transfer of the queue on an I3C bus. Every device of the bus has a device file of its
own, but the whole queue goes to one of them in a single call: the first that is open
under the address of a message. The others are transferred there too, or, if their own
device file is not open, all the same. The number of the request says how many bytes of
transfers there are, in a field that has no room for those of a long queue, and then it
says that there are none.
-/

namespace AtScaleDebug

section Transfer

/-- `struct i3c_ioc_priv_xfer`. -/
structure I3cPrivXfer where
  rnw : Bool
  data : List UInt8
  deriving DecidableEq

def I2cMsg.xfer (m : I2cMsg) : I3cPrivXfer := ⟨m.read, m.buffer⟩

/-- The slot of an address, if its device file is open. -/
def I3cHandler.openSlot (h : I3cHandler) (address : UInt8) : Option (Fin i3cMaxDevHandlers) :=
  if ha : address.toNat < i3cMaxDevHandlers then
    if (h.driverHandlers ⟨address.toNat, ha⟩).isSome then some ⟨address.toNat, ha⟩ else none
  else none

/-- The loop over the messages: what is to be transferred, and the handle, which is looked
up for as long as none is found. -/
def i3cXfers (h : I3cHandler) :
    Option (Fin i3cMaxDevHandlers) → List I2cMsg →
      List I3cPrivXfer × Option (Fin i3cMaxDevHandlers)
  | handle, [] => ([], handle)
  | handle, m :: msgs =>
      let handle := if handle.isNone then h.openSlot m.address else handle
      let (xfers, handle) := i3cXfers h handle msgs
      (m.xfer :: xfers, handle)

/-- `sizeof(struct i3c_ioc_priv_xfer)`. -/
def i3cIocPrivXferSize : Nat := 16

/-- `_IOC_SIZEBITS`. -/
def iocSizebits : Nat := 14

/-- `I3C_PRIV_XFER_SIZE`, the size in the number of the request. -/
def i3cPrivXferSize (nmsgs : Nat) : Nat :=
  if i3cIocPrivXferSize * nmsgs < 1 <<< iocSizebits then i3cIocPrivXferSize * nmsgs else 0

/-- An `I3C_IOC_PRIV_XFER` on the device file of a slot: the size in its number and the array
of transfers. -/
structure I3cIoctl where
  slot : Fin i3cMaxDevHandlers
  size : Nat
  xfers : List I3cPrivXfer
  deriving DecidableEq

/-- `i3c_read_write` with the call it makes. -/
def i3cReadWriteIoctl (c : BusConfig) (io : TransferIo) (h : I3cHandler) (msgs : List I2cMsg) :
    Option I3cIoctl × Status :=
  if !c.enableI3c then (none, .err)
  else
    match i3cXfers h none msgs with
    | (xfers, some slot) =>
        (some ⟨slot, i3cPrivXferSize msgs.length, xfers⟩, if io.done then .ok else .err)
    | (_, none) => (none, .err)

/-- What is transferred on which device file, in order: as many transfers as the size says. -/
def I3cIoctl.transferred (call : I3cIoctl) : List (Nat × I3cPrivXfer) :=
  (call.xfers.take (call.size / i3cIocPrivXferSize)).map fun xfer => (call.slot.val, xfer)

def I2cMsg.addressed (m : I2cMsg) : Nat × I3cPrivXfer := (m.address.toNat, m.xfer)

end Transfer

section Addressees
variable {c : BusConfig} {io : TransferIo} {h : I3cHandler} {msgs : List I2cMsg}

theorem openSlot_eq_some {address : UInt8} {slot : Fin i3cMaxDevHandlers}
    (hslot : h.openSlot address = some slot) :
    slot.val = address.toNat ∧ (h.driverHandlers slot).isSome = true := by
  rw [I3cHandler.openSlot] at hslot
  split at hslot
  · split at hslot
    · next hopen =>
        cases hslot
        exact ⟨rfl, hopen⟩
    · cases hslot
  · cases hslot

theorem i3cXfers_eq (h : I3cHandler) (handle : Option (Fin i3cMaxDevHandlers))
    (msgs : List I2cMsg) :
    i3cXfers h handle msgs =
      (msgs.map I2cMsg.xfer, handle.or (msgs.findSome? fun m => h.openSlot m.address)) := by
  induction msgs generalizing handle with
  | nil => simp [i3cXfers]
  | cons m msgs ih =>
      simp only [i3cXfers, ih, List.map_cons, List.findSome?_cons]
      cases handle with
      | some slot => rfl
      | none => cases h.openSlot m.address <;> rfl

theorem i3cReadWriteIoctl_found {slot : Fin i3cMaxDevHandlers} (henabled : c.enableI3c = true)
    (hfound : (msgs.findSome? fun m => h.openSlot m.address) = some slot) :
    i3cReadWriteIoctl c io h msgs =
      (some ⟨slot, i3cPrivXferSize msgs.length, msgs.map I2cMsg.xfer⟩,
        if io.done then .ok else .err) := by
  simp only [i3cReadWriteIoctl, henabled, Bool.not_true, Bool.false_eq_true, if_false, i3cXfers_eq,
    Option.none_or, hfound]

theorem i3cReadWriteIoctl_ok (hok : (i3cReadWriteIoctl c io h msgs).2 = .ok) :
    c.enableI3c = true ∧ io.done = true ∧
      ∃ slot, (msgs.findSome? fun m => h.openSlot m.address) = some slot := by
  cases henabled : c.enableI3c with
  | false =>
      rw [i3cReadWriteIoctl, henabled] at hok
      cases hok
  | true =>
      cases hfound : msgs.findSome? fun m => h.openSlot m.address with
      | none =>
          simp only [i3cReadWriteIoctl, henabled, Bool.not_true, Bool.false_eq_true, if_false,
            i3cXfers_eq, Option.none_or, hfound] at hok
          cases hok
      | some slot =>
          rw [i3cReadWriteIoctl_found henabled hfound] at hok
          refine ⟨rfl, ?_, slot, rfl⟩
          by_contra hfailed
          rw [if_neg hfailed] at hok
          cases hok

theorem i3cReadWriteIoctl_status :
    (i3cReadWriteIoctl c io h msgs).2 = .ok ∨ (i3cReadWriteIoctl c io h msgs).2 = .err := by
  rw [i3cReadWriteIoctl]
  split
  · exact .inr rfl
  split
  · cases io.done
    · exact .inr rfl
    · exact .inl rfl
  · exact .inr rfl

theorem openSlot_bind (address : UInt8) :
    (h.openSlot address).bind h.driverHandlers =
      if ha : address.toNat < i3cMaxDevHandlers then h.driverHandlers ⟨address.toNat, ha⟩
      else none := by
  rw [I3cHandler.openSlot]
  split
  · next ha =>
      cases hhandle : h.driverHandlers ⟨address.toNat, ha⟩ with
      | none => rfl
      | some d => exact hhandle
  · rfl

/-- The device file of the slot that is found is the one found first. -/
theorem findSome?_openSlot (msgs : List I2cMsg) :
    (msgs.findSome? fun m => h.openSlot m.address).bind h.driverHandlers =
      msgs.findSome? fun m => (h.openSlot m.address).bind h.driverHandlers := by
  induction msgs with
  | nil => rfl
  | cons m msgs ih =>
      rw [List.findSome?_cons, List.findSome?_cons]
      cases hslot : h.openSlot m.address with
      | none => exact ih
      | some slot =>
          obtain ⟨d, hd⟩ := Option.isSome_iff_exists.mp (openSlot_eq_some hslot).2
          simp only [Option.bind_some, hd]

/-- The call is made on the device file that the model of the flush names. -/
theorem i3cReadWrite_eq (c : BusConfig) (io : TransferIo) (h : I3cHandler) (msgs : List I2cMsg) :
    i3cReadWrite c io h msgs =
      ((i3cReadWriteIoctl c io h msgs).1.bind fun call => h.driverHandlers call.slot,
        (i3cReadWriteIoctl c io h msgs).2) := by
  cases henabled : c.enableI3c with
  | false => simp [i3cReadWrite, i3cReadWriteIoctl, henabled]
  | true =>
      have hfind := findSome?_openSlot (h := h) msgs
      simp only [openSlot_bind] at hfind
      simp only [i3cReadWrite, i3cReadWriteIoctl, henabled, Bool.not_true, Bool.false_eq_true,
        if_false, i3cXfers_eq, Option.none_or, ← hfind]
      cases hfound : msgs.findSome? fun m => h.openSlot m.address with
      | none => rfl
      | some slot =>
          obtain ⟨m, _, hslot⟩ := List.exists_of_findSome?_eq_some hfound
          obtain ⟨d, hd⟩ := Option.isSome_iff_exists.mp (openSlot_eq_some hslot).2
          simp only [Option.bind_some, hd]

/-- When it succeeds every message was transferred, in order, on the open device file of its
own address; and it fails when one of the addresses has none open. -/
structure ReachesAddressees (c : BusConfig) (io : TransferIo) (h : I3cHandler)
    (msgs : List I2cMsg) : Prop where
  reached : (i3cReadWriteIoctl c io h msgs).2 = .ok →
    ∃ call, (i3cReadWriteIoctl c io h msgs).1 = some call ∧
      (h.driverHandlers call.slot).isSome = true ∧
      call.transferred = msgs.map I2cMsg.addressed
  refused : (∃ m ∈ msgs, h.openSlot m.address = none) → (i3cReadWriteIoctl c io h msgs).2 = .err

/-- The size of 1024 transfers does not fit. -/
theorem announced_eq (nmsgs : Nat) :
    i3cPrivXferSize nmsgs / i3cIocPrivXferSize = if nmsgs < 1024 then nmsgs else 0 := by
  rw [i3cPrivXferSize, i3cIocPrivXferSize, iocSizebits]
  split
  · next hfits =>
      rw [if_pos (by omega)]
      exact Nat.mul_div_cancel_left nmsgs (by decide)
  · next hlarge => rw [if_neg (by omega)]

theorem transferred_iff (slot : Fin i3cMaxDevHandlers) :
    I3cIoctl.transferred ⟨slot, i3cPrivXferSize msgs.length, msgs.map I2cMsg.xfer⟩ =
        msgs.map I2cMsg.addressed ↔
      msgs.length < 1024 ∧ ∀ m ∈ msgs, slot.val = m.address.toNat := by
  rw [I3cIoctl.transferred, announced_eq]
  by_cases hfits : msgs.length < 1024
  · have hall : (msgs.map I2cMsg.xfer).take msgs.length = msgs.map I2cMsg.xfer :=
      List.take_of_length_le (Nat.le_of_eq (List.length_map _))
    rw [if_pos hfits, and_iff_right hfits, hall, List.map_map, List.map_inj_left]
    refine forall₂_congr fun m _ => ?_
    simp [I2cMsg.addressed]
  · rw [if_neg hfits, List.take_zero, List.map_nil]
    refine iff_of_false (fun hnil => ?_) fun h => hfits h.1
    have hlength := congrArg List.length hnil
    rw [List.length_nil, List.length_map] at hlength
    omega

/-- Every list of messages reaches its addressees if and only if it is not transferred, or
all of it has one address and its size can be announced. -/
theorem i3c_reaches_addressees (c : BusConfig) (io : TransferIo) (h : I3cHandler)
    (msgs : List I2cMsg) :
    ReachesAddressees c io h msgs ↔
      (c.enableI3c = true → io.done = true → (∃ m ∈ msgs, h.openSlot m.address ≠ none) →
        msgs.length < 1024 ∧ ∀ m ∈ msgs, ∀ n ∈ msgs, m.address = n.address) := by
  constructor
  · rintro ⟨hreached, -⟩ henabled hdone ⟨m, hm, hopen⟩
    obtain ⟨slot, hfound⟩ : ∃ slot, (msgs.findSome? fun m => h.openSlot m.address) = some slot := by
      refine Option.isSome_iff_exists.mp (List.findSome?_isSome_iff.mpr ⟨m, hm, ?_⟩)
      exact Option.isSome_iff_ne_none.mpr hopen
    rw [i3cReadWriteIoctl_found henabled hfound, if_pos hdone] at hreached
    obtain ⟨call, hcall, -, htransferred⟩ := hreached rfl
    cases hcall
    obtain ⟨hfits, hslot⟩ := (transferred_iff slot).mp htransferred
    refine ⟨hfits, fun n hn k hk => ?_⟩
    rw [← UInt8.toNat_inj, ← hslot n hn, ← hslot k hk]
  · intro hsame
    have hfirst (hok : (i3cReadWriteIoctl c io h msgs).2 = .ok) :
        ∃ slot, (i3cReadWriteIoctl c io h msgs).1 =
            some ⟨slot, i3cPrivXferSize msgs.length, msgs.map I2cMsg.xfer⟩ ∧
          (h.driverHandlers slot).isSome = true ∧ msgs.length < 1024 ∧
          ∀ n ∈ msgs, h.openSlot n.address = some slot ∧ slot.val = n.address.toNat := by
      obtain ⟨henabled, hdone, slot, hfound⟩ := i3cReadWriteIoctl_ok hok
      obtain ⟨m, hm, hslot⟩ := List.exists_of_findSome?_eq_some hfound
      obtain ⟨haddress, hopen⟩ := openSlot_eq_some hslot
      obtain ⟨hfits, hsame⟩ := hsame henabled hdone ⟨m, hm, by rw [hslot]; rintro ⟨⟩⟩
      refine ⟨slot, by rw [i3cReadWriteIoctl_found henabled hfound], hopen, hfits, fun n hn => ?_⟩
      rw [hsame n hn m hm]
      exact ⟨hslot, haddress⟩
    refine ⟨fun hok => ?_, ?_⟩
    · obtain ⟨slot, hcall, hopen, hfits, hall⟩ := hfirst hok
      exact ⟨_, hcall, hopen, (transferred_iff slot).mpr ⟨hfits, fun n hn => (hall n hn).2⟩⟩
    · rintro ⟨n, hn, hclosed⟩
      refine i3cReadWriteIoctl_status.resolve_left fun hok => ?_
      obtain ⟨slot, -, -, -, hall⟩ := hfirst hok
      rw [(hall n hn).1] at hclosed
      cases hclosed

/-- Two reads, for devices 1 and 2. With both open the second read is made on device 1 too;
with only the second one open both are made on it, and the transfer succeeds. Of 1024 reads
for one device none is made. -/
theorem i3c_transfers_astray :
    let c := twoBuses .i3c 3 5
    let io : TransferIo := ⟨true, fun _ => []⟩
    let opened (devices : List Nat) : I3cHandler :=
      ⟨3, fun i => if i.val ∈ devices then some ⟨3, false⟩ else none, true⟩
    let read (address : UInt8) : I2cMsg := ⟨true, address, [0], by decide⟩
    let msgs := [read 1, read 2]
    let many := List.replicate 1024 (read 1)
    i3cReadWriteIoctl c io (opened [1, 2]) msgs =
      (some ⟨⟨1, by decide⟩, 32, msgs.map I2cMsg.xfer⟩, .ok) ∧
      ¬ ReachesAddressees c io (opened [1, 2]) msgs ∧
      (opened [2]).openSlot 1 = none ∧ (i3cReadWriteIoctl c io (opened [2]) msgs).2 = .ok ∧
      i3cReadWriteIoctl c io (opened [1]) many =
        (some ⟨⟨1, by decide⟩, 0, many.map I2cMsg.xfer⟩, .ok) ∧
      ¬ ReachesAddressees c io (opened [1]) many := by
  intro c io opened read msgs many
  have hfound : (many.findSome? fun m => (opened [1]).openSlot m.address) =
      some ⟨1, by decide⟩ := by
    rw [List.findSome?_replicate]
    rfl
  have hmany : i3cReadWriteIoctl c io (opened [1]) many =
      (some ⟨_, i3cPrivXferSize many.length, many.map I2cMsg.xfer⟩, .ok) :=
    i3cReadWriteIoctl_found rfl hfound
  have hlength : many.length = 1024 := List.length_replicate
  refine ⟨by decide, ?_, by decide, by decide, ?_, ?_⟩
  · rintro ⟨hreached, -⟩
    obtain ⟨call, hcall, -, htransferred⟩ := hreached (by decide)
    cases hcall
    exact absurd htransferred (by decide)
  · rw [hmany, hlength]
    rfl
  · rintro ⟨hreached, -⟩
    rw [hmany] at hreached
    obtain ⟨call, hcall, -, htransferred⟩ := hreached rfl
    cases hcall
    exact absurd ((transferred_iff _).mp htransferred).1 (by rw [hlength]; decide)

end Addressees

end AtScaleDebug
