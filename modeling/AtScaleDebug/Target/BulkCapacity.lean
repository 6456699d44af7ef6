import AtScaleDebug.Target.SppSession

/-!
The bulk packet stays inside its buffer, but for one byte. The test for room adds the
data of the event to the fill level and leaves out the two bytes stored in front of
it. An event that would fill the packet to one byte short of its end by this count is
therefore stored up to one byte past the end. Every other store is in bounds, and the
size fields of a bulk packet always agree with its fill level.
-/

namespace AtScaleDebug

open ByteBuffer

section Bounds

/-- The value of the two size fields. -/
def headerSize (header : MessageHeader) : Nat :=
  (header.sizeLsb &&& 0xFF).toNat ||| ((header.sizeMsb &&& 0x1F).toNat <<< 8)

/-- Bytes are stored below the end of the buffer, so that the fill level stays in it,
and the header of a packet announces what was accumulated. -/
def BulkRecord.InBounds : BulkRecord → Prop
  | .saved e position => position + e.entry.length ≤ maxDataSize
  | .packed count header _ => headerSize header = count
  | _ => True

structure SppBulk.InBounds (b : SppBulk) : Prop where
  count : b.bufferCount ≤ maxDataSize
  log : ∀ r ∈ b.log, r.InBounds

/-- The event does not end one byte short of the buffer without its own two bytes. -/
def BulkRecord.LeavesRoom : BulkRecord → Prop
  | .saved e position => position + e.data.length + 1 ≠ maxDataSize
  | _ => True

instance : (r : BulkRecord) → Decidable r.InBounds
  | .saved e position => inferInstanceAs (Decidable (position + e.entry.length ≤ maxDataSize))
  | .packed count header _ => inferInstanceAs (Decidable (headerSize header = count))
  | .started | .alone _ => inferInstanceAs (Decidable True)

instance : (r : BulkRecord) → Decidable r.LeavesRoom
  | .saved e position =>
      inferInstanceAs (Decidable (position + e.data.length + 1 ≠ maxDataSize))
  | .packed _ _ _ | .started | .alone _ => inferInstanceAs (Decidable True)

/-- The two size fields hold the fill levels a bulk packet can have. -/
theorem headerSize_eventHeader {n : Nat} (h : n ≤ maxDataSize + 1) :
    headerSize (eventHeader n) = n :=
  sizeFields_of_lt (Nat.lt_of_le_of_lt h (by decide))

end Bounds

section Invariant

/-- What holds of every record: there was room for the event by the count of the code. -/
def BulkRecord.Sound : BulkRecord → Prop
  | .saved e position => position + e.data.length < maxDataSize
  | .packed count header _ => headerSize header = count
  | _ => True

/-- What holds of the bulk packet in every state: at most one byte too many, and that
only behind an event that does not leave room. -/
structure SppBulk.Filled (b : SppBulk) : Prop where
  count : b.bufferCount ≤ maxDataSize ∨
    b.bufferCount = maxDataSize + 1 ∧ ∃ r ∈ b.log, ¬ r.LeavesRoom
  log : ∀ r ∈ b.log, r.Sound

theorem SppBulk.Filled.bufferCount_le {b : SppBulk} (h : b.Filled) :
    b.bufferCount ≤ maxDataSize + 1 := by
  obtain hle | ⟨heq, _⟩ := h.count
  · omega
  · omega

theorem SppBulk.Filled.record {b : SppBulk} (h : b.Filled) {r : BulkRecord} (hr : r.Sound) :
    (b.record r).Filled := by
  refine ⟨?_, List.forall_mem_append.mpr ⟨h.log, List.forall_mem_singleton.mpr hr⟩⟩
  obtain hle | ⟨heq, t, ht, hroom⟩ := h.count
  · exact .inl hle
  · exact .inr ⟨heq, t, List.mem_append_left _ ht, hroom⟩

/-- After a restart nothing of the fill level is left. -/
theorem filled_of_count {b t : SppBulk} (h : b.Filled) (hlog : t.log = b.log)
    (hcount : t.bufferCount ≤ maxDataSize) : t.Filled :=
  ⟨.inl hcount, hlog ▸ h.log⟩

theorem sendBulkBpkEvent_filled {b : SppBulk} (h : b.Filled) (written : Bool) :
    (sendBulkBpkEvent b written).1.Filled := by
  have hbuffer (buffer : Nat → UInt8) : SppBulk.Filled { b with buffer } := ⟨h.count, h.log⟩
  exact (hbuffer _).record (headerSize_eventHeader h.bufferCount_le)

theorem SppBulk.Filled.save {b : SppBulk} (h : b.Filled) {e : BpkEvent}
    (hroom : b.bufferCount + e.data.length < maxDataSize) : (b.save e).Filled := by
  refine ⟨?_, List.forall_mem_append.mpr ⟨h.log, List.forall_mem_singleton.mpr hroom⟩⟩
  by_cases hlast : b.bufferCount + e.data.length + 1 = maxDataSize
  · refine .inr ⟨?_, .saved e b.bufferCount, ?_, fun hleaves => hleaves hlast⟩
    · rw [save_bufferCount]
      omega
    · rw [save_log]
      exact List.mem_append_right _ (List.mem_singleton_self _)
  · refine .inl ?_
    rw [save_bufferCount]
    omega

/-- One step of the bulk packet. -/
theorem bulkStep_filled (b : SppBulk) (action : BulkAction) (h : b.Filled) :
    (bulkStep b action).Filled := by
  cases action with
  | start =>
      have hrestart : b.clear.restart.Filled :=
        filled_of_count h rfl (show 2 ≤ maxDataSize by decide)
      exact hrestart.record True.intro
  | refused => exact ⟨h.count, h.log⟩
  | finish written =>
      exact filled_of_count (sendBulkBpkEvent_filled h written) rfl (Nat.zero_le _)
  | event enabled e io =>
      obtain ⟨_, _, heq⟩ | ⟨_, hroom, heq⟩ | ⟨_, heq⟩ := sendBpkEvent_cases b e enabled io
      · rw [bulkStep, heq]
        have hrestart : (sendBulkBpkEvent b io.flushed).1.restart.Filled :=
          filled_of_count (sendBulkBpkEvent_filled h io.flushed) rfl
            (show 2 ≤ maxDataSize by decide)
        refine hrestart.save (Nat.lt_of_le_of_lt (Nat.add_le_add_left e.fits 2) (by decide))
      · rw [bulkStep, heq]
        refine h.save ?_
        simp only [MakesRoom, not_or] at hroom
        omega
      · rw [bulkStep, heq]
        exact h.record True.intro

end Invariant

section Capacity

theorem inBounds_iff {r : BulkRecord} (h : r.Sound) : r.InBounds ↔ r.LeavesRoom := by
  cases r with
  | saved e position =>
      simp only [BulkRecord.Sound, BulkRecord.InBounds, BulkRecord.LeavesRoom,
        BpkEvent.length_entry] at h ⊢
      omega
  | packed count header payload => exact iff_of_true h True.intro
  | started | alone => exact Iff.rfl

theorem SppBulk.Filled.inBounds_iff {b : SppBulk} (h : b.Filled) :
    b.InBounds ↔ ∀ r ∈ b.log, r.LeavesRoom := by
  constructor
  · intro hbounds r hr
    exact (AtScaleDebug.inBounds_iff (h.log r hr)).mp (hbounds.log r hr)
  · intro hleaves
    refine ⟨?_, fun r hr => (AtScaleDebug.inBounds_iff (h.log r hr)).mpr (hleaves r hr)⟩
    obtain hle | ⟨_, r, hr, hroom⟩ := h.count
    · exact hle
    · exact absurd (hleaves r hr) hroom

/-- In every session the bulk packet is kept inside its buffer, with the right sizes
in its headers, if and only if every event stored in it leaves room. -/
theorem bulk_capacity (handler : SppHandler) (buffer : Nat → UInt8) (inputs : List SppInput) :
    let bulk := (Machine.run sppStep ⟨handler, .initial, buffer⟩ inputs).bulk
    bulk.InBounds ↔ ∀ r ∈ bulk.log, r.LeavesRoom := by
  have hinitial : SppBulk.initial.Filled := ⟨.inl (by decide), by rintro r ⟨⟩⟩
  obtain ⟨actions, heq⟩ := session_reaches ⟨handler, .initial, buffer⟩ inputs
  have hfilled := Machine.run_invariant_of_step bulkStep_filled actions hinitial
  dsimp only
  rw [heq]
  exact hfilled.inBounds_iff

/-- An interrupt of the first device that says that data is ready, with `length` bytes. -/
def dataReadyIbi (length : Nat) : Polled :=
  .ibi ⟨firstDevice, some (sppIbiDataReady :: sppIbiSubreasonBufferThreshold ::
    List.replicate (length - 2) 0), ⟨true, true⟩⟩

/-- A handler with one open device, which has not confirmed its last data. -/
def awaitingHandler : SppHandler where
  devHandlers := fun device => device = firstDevice
  deviceCount := 1
  deviceIndex := firstDevice
  driverHandle := some firstDevice
  thresholdStatus := fun device => device = firstDevice
  bulkMode := false
  bulkAutocmdCount := fun _ => 0
  broadcastFilepath := false

/-- A message that only starts a bulk, and the interrupts drained at its end. -/
def bulkRequest (handshake : List Polled) : SppRequest where
  header := ⟨0, 0, 0, 7, 2, 0, 0, 0⟩
  buffer := fun k => [0x60, 1].getD k 0
  enabled := true
  io := fun _ => ⟨⟨[], true, none, none, true, true, true⟩, []⟩
  handshake := handshake
  autocmd := []
  written := true

/-- Six events, the last of them with 427 bytes where 426 would still fit. -/
theorem bulk_overflows :
    let events := [512, 512, 512, 512, 512, 427].map dataReadyIbi
    let bulk := (Machine.run sppStep ⟨awaitingHandler, .initial, fun _ => 0⟩
      [.message (bulkRequest events)]).bulk
    ¬ bulk.InBounds ∧ (bulk.log.filter fun r => ¬ r.InBounds).length = 1 := by
  refine ⟨fun h => ?_, by decide +kernel⟩
  exact absurd h.log (by decide +kernel)

end Capacity

end AtScaleDebug
