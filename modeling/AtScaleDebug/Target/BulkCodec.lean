import AtScaleDebug.Target.BulkCapacity

/-!
What a client reads off the bulk packets. It decodes each packet by itself: the kind,
the number of events, and for each event a byte for its size, a byte for its device and
its data. One byte is not enough for the sizes the event buffer allows, and a packet
filled past its end is refused by `send_response`, so the events decoded are those
accumulated exactly when no event is longer than 255 bytes and each leaves room.
-/

namespace AtScaleDebug

open ByteBuffer

section Decode

def decodeEntry : List UInt8 → Option (BpkEvent × List UInt8)
  | size :: addr :: bytes =>
      if haddr : addr.toNat < maxSppBusDevices then
        if size.toNat ≤ bytes.length then
          some (⟨⟨addr.toNat, haddr⟩, bytes.take size.toNat, by
            have hsize := size.toNat_lt
            simp only [List.length_take, eventBufferSize]
            omega⟩, bytes.drop size.toNat)
        else none
      else none
  | _ => none

/-- The given number of events and nothing behind them. -/
def decodeEntries : Nat → List UInt8 → Option (List BpkEvent)
  | 0, bytes => if bytes = [] then some [] else none
  | n + 1, bytes =>
      match decodeEntry bytes with
      | none => none
      | some (e, bytes) => (decodeEntries n bytes).map (e :: ·)

def decodeBulk : List UInt8 → Option (List BpkEvent)
  | kind :: count :: bytes =>
      if kind = asdEventBulkBpk then decodeEntries count.toNat bytes else none
  | _ => none

/-- The events of all packets, in order. -/
def decodePackets : List (List UInt8) → Option (List BpkEvent)
  | [] => some []
  | payload :: payloads =>
      (decodeBulk payload).bind fun events => (decodePackets payloads).map (events ++ ·)

/-- The payload of a bulk packet that `send_response` accepts. -/
def BulkRecord.payload? : BulkRecord → Option (List UInt8)
  | .packed _ header payload => if (getMessageSize header).isSome then some payload else none
  | _ => none

def BulkRecord.saved? : BulkRecord → Option BpkEvent
  | .saved e _ => some e
  | _ => none

def bulkPackets (log : List BulkRecord) : List (List UInt8) := log.filterMap BulkRecord.payload?

/-- The events accumulated. -/
def savedEvents (log : List BulkRecord) : List BpkEvent := log.filterMap BulkRecord.saved?

end Decode

section RoundTrip

theorem decodeEntry_small {bytes rest : List UInt8} {e : BpkEvent}
    (h : decodeEntry bytes = some (e, rest)) : e.data.length ≤ 255 := by
  cases bytes with
  | nil => cases h
  | cons size bytes =>
      cases bytes with
      | nil => cases h
      | cons addr bytes =>
          simp only [decodeEntry] at h
          split at h
          · split at h
            · cases h
              have hsize := size.toNat_lt
              simp only [List.length_take]
              omega
            · cases h
          · cases h

theorem decodeEntries_small {n : Nat} {bytes : List UInt8} {events : List BpkEvent}
    (h : decodeEntries n bytes = some events) : ∀ e ∈ events, e.data.length ≤ 255 := by
  induction n generalizing bytes events with
  | zero =>
      simp only [decodeEntries] at h
      split at h
      · cases h
        rintro e ⟨⟩
      · cases h
  | succ n ih =>
      simp only [decodeEntries] at h
      split at h
      · cases h
      · next e rest hentry =>
          obtain ⟨tail, htail, rfl⟩ := Option.map_eq_some_iff.mp h
          intro f hf
          obtain rfl | hf := List.mem_cons.mp hf
          · exact decodeEntry_small hentry
          · exact ih htail f hf

/-- Whatever is decoded has a size of one byte. -/
theorem decodePackets_small {payloads : List (List UInt8)} {events : List BpkEvent}
    (h : decodePackets payloads = some events) : ∀ e ∈ events, e.data.length ≤ 255 := by
  induction payloads generalizing events with
  | nil =>
      cases h
      rintro e ⟨⟩
  | cons payload payloads ih =>
      rw [decodePackets] at h
      obtain ⟨first, hfirst, hmap⟩ := Option.bind_eq_some_iff.mp h
      obtain ⟨rest, hrest, rfl⟩ := Option.map_eq_some_iff.mp hmap
      intro e he
      obtain he | he := List.mem_append.mp he
      · cases payload with
        | nil => cases hfirst
        | cons kind payload =>
            cases payload with
            | nil => cases hfirst
            | cons count bytes =>
                simp only [decodeBulk] at hfirst
                split at hfirst
                · exact decodeEntries_small hfirst e he
                · cases hfirst
      · exact ih hrest e he

theorem decodeEntry_entry {e : BpkEvent} (hsize : e.data.length ≤ 255) (bytes : List UInt8) :
    decodeEntry (e.entry ++ bytes) = some (e, bytes) := by
  have hlength : (UInt8.ofNat (e.data.length &&& 0xFF)).toNat = e.data.length := by
    rw [Nat.and_two_pow_sub_one_eq_mod e.data.length 8, UInt8.toNat_ofNat']
    omega
  have haddr := e.toNat_addr
  obtain ⟨addr, data, fits⟩ := e
  simp only [BpkEvent.entry, List.cons_append, List.nil_append, decodeEntry] at hlength haddr ⊢
  rw [dif_pos (by rw [haddr]; exact addr.isLt), if_pos (by rw [hlength]; simp)]
  simp only [hlength, haddr, List.take_left, List.drop_left]

theorem decodeEntries_entries {events : List BpkEvent} (hsize : ∀ e ∈ events, e.data.length ≤ 255) :
    decodeEntries events.length (events.flatMap BpkEvent.entry) = some events := by
  induction events with
  | nil => rfl
  | cons e events ih =>
      have he := hsize e List.mem_cons_self
      have htail := ih fun f hf => hsize f (List.mem_cons_of_mem e hf)
      rw [List.flatMap_cons, List.length_cons, decodeEntries, decodeEntry_entry he]
      simp only [htail, Option.map_some]

theorem decodePackets_append (first second : List (List UInt8)) :
    decodePackets (first ++ second) =
      (decodePackets first).bind fun events => (decodePackets second).map (events ++ ·) := by
  induction first with
  | nil =>
      cases h : decodePackets second <;> simp [decodePackets, h]
  | cons payload first ih =>
      simp only [List.cons_append, decodePackets, ih]
      cases decodeBulk payload with
      | none => rfl
      | some events =>
          cases decodePackets first with
          | none => rfl
          | some more => cases decodePackets second <;> simp

end RoundTrip

section Track

/-- The buffer holds these events behind its first two bytes. -/
structure SppBulk.Holds (b : SppBulk) (pending : List BpkEvent) : Prop where
  bytes : ∃ head, head.length = 2 ∧
    slice b.buffer 0 b.bufferCount = head ++ pending.flatMap BpkEvent.entry
  ibiCount : b.ibiCount = pending.length
  few : pending.length ≤ sppBulkResponseIbiMaxCount

theorem SppBulk.Holds.two_le {b : SppBulk} {pending : List BpkEvent} (h : b.Holds pending) :
    2 ≤ b.bufferCount := by
  obtain ⟨head, hhead, hslice⟩ := h.bytes
  have hlength := congrArg List.length hslice
  rw [length_slice, List.length_append, hhead] at hlength
  omega

theorem SppBulk.Holds.count_of_nil {b : SppBulk} (h : b.Holds []) : b.bufferCount = 2 := by
  obtain ⟨head, hhead, hslice⟩ := h.bytes
  have hlength := congrArg List.length hslice
  rwa [length_slice, List.flatMap_nil, List.append_nil, hhead] at hlength

theorem holds_restart (b : SppBulk) : b.restart.Holds [] := by
  refine ⟨⟨slice b.buffer 0 2, length_slice _ _ _, ?_⟩, rfl, Nat.zero_le _⟩
  exact (List.append_nil _).symm

theorem SppBulk.Holds.save {b : SppBulk} {pending : List BpkEvent} (h : b.Holds pending)
    (e : BpkEvent) (hfew : b.ibiCount < sppBulkResponseIbiMaxCount) :
    (b.save e).Holds (pending ++ [e]) := by
  obtain ⟨head, hhead, hslice⟩ := h.bytes
  refine ⟨⟨head, hhead, ?_⟩, ?_, ?_⟩
  · change slice (blit b.buffer b.bufferCount e.entry) 0 (b.bufferCount + e.entry.length) = _
    rw [slice_blit_append, hslice, List.flatMap_append, List.flatMap_singleton, List.append_assoc]
  · rw [save_ibiCount, h.ibiCount, List.length_append, List.length_singleton]
  · rw [List.length_append, List.length_singleton, ← h.ibiCount]
    exact hfew

/-- What a client decodes from the packet that is sent now. -/
theorem decodeBulk_of_holds {b : SppBulk} {pending : List BpkEvent} (h : b.Holds pending)
    (hsize : ∀ e ∈ pending, e.data.length ≤ 255) :
    decodeBulk (slice b.sealed.buffer 0 b.bufferCount) = some pending := by
  obtain ⟨head, hhead, hslice⟩ := h.bytes
  have hcount : (UInt8.ofNat b.ibiCount).toNat = pending.length := by
    have hfew := h.few
    rw [sppBulkResponseIbiMaxCount] at hfew
    rw [h.ibiCount, UInt8.toNat_ofNat']
    omega
  have hfront : [asdEventBulkBpk, UInt8.ofNat b.ibiCount].length = head.length := hhead.symm
  rw [SppBulk.sealed, slice_blit_front _ _ h.two_le, hslice, hfront, List.drop_left]
  simp only [List.cons_append, List.nil_append, decodeBulk, if_true, hcount]
  exact decodeEntries_entries hsize

/-- The packets sent so far decode to `done`; `lost` events were in packets that were
refused. -/
structure SppBulk.Tracks (b : SppBulk) (log : List BulkRecord) (pending done : List BpkEvent)
    (lost : Nat) : Prop where
  holds : b.Holds pending
  decoded : decodePackets (bulkPackets log) = some done
  length : done.length + lost + pending.length = (savedEvents log).length
  exact : lost = 0 → savedEvents log = done ++ pending
  room : lost = 0 ∧ b.bufferCount ≤ maxDataSize ↔ ∀ r ∈ log, r.LeavesRoom
  count : b.bufferCount ≤ maxDataSize + 1

theorem SppBulk.Tracks.save {b : SppBulk} {log : List BulkRecord} {pending done : List BpkEvent}
    {lost : Nat} (h : b.Tracks log pending done lost) {e : BpkEvent} (hroom : ¬ MakesRoom b e) :
    (b.save e).Tracks (log ++ [.saved e b.bufferCount]) (pending ++ [e]) done lost := by
  simp only [MakesRoom, not_or, not_le] at hroom
  have hfew : b.ibiCount < sppBulkResponseIbiMaxCount := by
    have hle := h.holds.few
    rw [← h.holds.ibiCount] at hle
    omega
  have hlog : bulkPackets (log ++ [.saved e b.bufferCount]) = bulkPackets log := by
    simp [bulkPackets, BulkRecord.payload?]
  have hsaved : savedEvents (log ++ [.saved e b.bufferCount]) = savedEvents log ++ [e] := by
    simp [savedEvents, BulkRecord.saved?]
  refine ⟨h.holds.save e hfew, hlog ▸ h.decoded, ?_, fun hlost => ?_, ?_, ?_⟩
  · rw [hsaved, List.length_append, List.length_append, ← h.length]
    omega
  · rw [hsaved, h.exact hlost, List.append_assoc]
  · have hall : (∀ r ∈ log ++ [.saved e b.bufferCount], r.LeavesRoom) ↔
        (∀ r ∈ log, r.LeavesRoom) ∧ b.bufferCount + e.data.length + 1 ≠ maxDataSize := by
      simp only [List.mem_append, List.mem_singleton, or_imp, forall_and, forall_eq]
      rfl
    rw [hall, ← h.room, save_bufferCount]
    omega
  · rw [save_bufferCount]
    omega

theorem getMessageSize_eventHeader {n : Nat} (h : n ≤ maxDataSize + 1) :
    getMessageSize (eventHeader n) = if n ≤ maxDataSize then some n else none := by
  have hsize := headerSize_eventHeader h
  rw [headerSize] at hsize
  simp only [getMessageSize, hsize]
  split
  · rw [if_neg (by omega)]
  · rw [if_pos (by omega)]

/-- A packet is sent and the next one begun. -/
theorem SppBulk.Tracks.pack {b t : SppBulk} {log : List BulkRecord} {pending done : List BpkEvent}
    {lost : Nat} (h : b.Tracks log pending done lost)
    (hsize : ∀ e ∈ pending, e.data.length ≤ 255) (ht : t.Holds []) :
    ∃ done lost, t.Tracks (log ++ [b.packet]) [] done lost := by
  have hcount : t.bufferCount ≤ maxDataSize := ht.count_of_nil ▸ by decide
  have hsaved : savedEvents (log ++ [b.packet]) = savedEvents log := by
    simp [savedEvents, SppBulk.packet, BulkRecord.saved?]
  have hall : (∀ r ∈ log ++ [b.packet], r.LeavesRoom) ↔ ∀ r ∈ log, r.LeavesRoom := by
    simp [SppBulk.packet, BulkRecord.LeavesRoom, or_imp, forall_and]
  by_cases hfits : b.bufferCount ≤ maxDataSize
  · have hpacket : b.packet.payload? = some (slice b.sealed.buffer 0 b.bufferCount) := by
      simp [SppBulk.packet, BulkRecord.payload?, getMessageSize_eventHeader h.count, hfits]
    have hpackets : bulkPackets (log ++ [b.packet]) =
        bulkPackets log ++ [slice b.sealed.buffer 0 b.bufferCount] := by
      simp [bulkPackets, hpacket]
    refine ⟨done ++ pending, lost, ht, ?_, ?_, fun hlost => ?_, ?_, by omega⟩
    · rw [hpackets, decodePackets_append, h.decoded]
      simp [decodePackets, decodeBulk_of_holds h.holds hsize]
    · rw [hsaved, ← h.length, List.length_append, List.length_nil]
      omega
    · rw [hsaved, h.exact hlost, List.append_nil]
    · rw [hall, ← h.room]
      simp only [hcount, hfits]
  · have hpacket : b.packet.payload? = none := by
      simp [SppBulk.packet, BulkRecord.payload?, getMessageSize_eventHeader h.count, hfits]
    have hpackets : bulkPackets (log ++ [b.packet]) = bulkPackets log := by
      simp [bulkPackets, hpacket]
    -- an empty packet is never too long
    have hsome : 0 < pending.length := by
      rw [List.length_pos_iff]
      rintro rfl
      have hcount := h.holds.count_of_nil
      rw [maxDataSize] at hfits
      omega
    refine ⟨done, lost + pending.length, ht, hpackets ▸ h.decoded, ?_, by omega, ?_, by omega⟩
    · rw [hsaved, ← h.length, List.length_nil]
      omega
    · rw [hall, ← h.room]
      omega

theorem SppBulk.Tracks.alone {b : SppBulk} {log : List BulkRecord} {pending done : List BpkEvent}
    {lost : Nat} (h : b.Tracks log pending done lost) (e : BpkEvent) :
    (b.record (.alone e)).Tracks (log ++ [.alone e]) pending done lost := by
  have hlog : bulkPackets (log ++ [.alone e]) = bulkPackets log := by
    simp [bulkPackets, BulkRecord.payload?]
  have hsaved : savedEvents (log ++ [.alone e]) = savedEvents log := by
    simp [savedEvents, BulkRecord.saved?]
  have hall : (∀ r ∈ log ++ [.alone e], r.LeavesRoom) ↔ ∀ r ∈ log, r.LeavesRoom := by
    simp [BulkRecord.LeavesRoom, or_imp, forall_and]
  exact ⟨⟨h.holds.bytes, h.holds.ibiCount, h.holds.few⟩, hlog ▸ h.decoded, hsaved ▸ h.length,
    fun hlost => hsaved ▸ h.exact hlost, h.room.trans hall.symm, h.count⟩

/-- The run since `start` is tracked, with short events only. -/
def TracksSince (start : List BulkRecord) (b : SppBulk) : Prop :=
  ∃ log pending done lost, b.log = start ++ log ∧ b.Tracks log pending done lost ∧
    ∀ e ∈ pending, e.data.length ≤ 255

/-- One event, which is stored behind a bulk packet, stored, or sent by itself. -/
theorem TracksSince.event {start : List BulkRecord} {b : SppBulk} (h : TracksSince start b)
    {e : BpkEvent} (he : checkSppAutoCmdEvent e = true → e.data.length ≤ 255) (io : BpkIo) :
    TracksSince start (bulkStep b (.event true e io)) := by
  obtain ⟨log, pending, done, lost, hlog, htracks, hsize⟩ := h
  have hstored (pending : List BpkEvent) (hsize : ∀ e ∈ pending, e.data.length ≤ 255)
      (hauto : checkSppAutoCmdEvent e = true) : ∀ f ∈ pending ++ [e], f.data.length ≤ 255 := by
    intro f hf
    obtain hf | hf := List.mem_append.mp hf
    · exact hsize f hf
    · rw [List.mem_singleton.mp hf]
      exact he hauto
  obtain ⟨hstores, _, heq⟩ | ⟨hstores, hroom, heq⟩ | ⟨_, heq⟩ := sendBpkEvent_cases b e true io
  · obtain ⟨done, lost, hpacked⟩ :=
      htracks.pack hsize (holds_restart (sendBulkBpkEvent b io.flushed).1)
    have hroom : ¬ MakesRoom (sendBulkBpkEvent b io.flushed).1.restart e := by
      have hfits := e.fits
      simp only [MakesRoom, SppBulk.restart, maxDataSize, sppBulkResponseIbiMaxCount, not_or]
      rw [eventBufferSize] at hfits
      omega
    refine ⟨_, _, _, _, ?_, heq ▸ hpacked.save hroom, hstored [] (by rintro f ⟨⟩) hstores.2.1⟩
    rw [bulkStep, heq, save_log, restart_log, sendBulkBpkEvent, record_log]
    change b.log ++ [b.packet] ++ _ = _
    rw [hlog, List.append_assoc, List.append_assoc, List.append_assoc]
  · refine ⟨_, _, _, _, ?_, heq ▸ htracks.save hroom, hstored pending hsize hstores.2.1⟩
    rw [bulkStep, heq, save_log, hlog, List.append_assoc]
  · refine ⟨_, _, _, _, ?_, heq ▸ htracks.alone e, hsize⟩
    rw [bulkStep, heq, record_log, hlog, List.append_assoc]

theorem TracksSince.eventRun {start : List BulkRecord} {b : SppBulk} (h : TracksSince start b)
    {events : List (BpkEvent × BpkIo)}
    (hsize : ∀ p ∈ events, checkSppAutoCmdEvent p.1 = true → p.1.data.length ≤ 255) :
    TracksSince start (eventRun true b events) := by
  induction events generalizing b with
  | nil => exact h
  | cons p events ih =>
      refine ih (h.event (hsize p List.mem_cons_self) p.2) ?_
      exact fun q hq => hsize q (List.mem_cons_of_mem p hq)

end Track

section Theorem

/-- The events of a bulk: it is started, the events arrive, and it is sent. -/
def bulkRun (b : SppBulk) (events : List (BpkEvent × BpkIo)) (written : Bool) : SppBulk :=
  bulkStep (eventRun true (bulkStep b .start) events) (.finish written)

/-- The events that belong into the bulk packets. -/
def autoCmdEvents (events : List (BpkEvent × BpkIo)) : List BpkEvent :=
  (events.map Prod.fst).filter checkSppAutoCmdEvent

theorem bulkStep_saved {b : SppBulk} (hstarted : 0 < b.bufferCount) (p : BpkEvent × BpkIo) :
    0 < (bulkStep b (.event true p.1 p.2)).bufferCount ∧
      ∃ log, (bulkStep b (.event true p.1 p.2)).log = b.log ++ log ∧
        savedEvents log = autoCmdEvents [p] := by
  have hauto (h : checkSppAutoCmdEvent p.1 = true) : autoCmdEvents [p] = [p.1] := by
    simp [autoCmdEvents, h]
  obtain ⟨hstores, _, heq⟩ | ⟨hstores, _, heq⟩ | ⟨hstores, heq⟩ :=
    sendBpkEvent_cases b p.1 true p.2
  · rw [bulkStep, heq, hauto hstores.2.1]
    refine ⟨Nat.lt_add_left _ (Nat.succ_pos _), [b.packet, .saved p.1 2], ?_, ?_⟩
    · rw [save_log, restart_log, sendBulkBpkEvent, record_log, List.append_assoc]
      rfl
    · rfl
  · rw [bulkStep, heq, hauto hstores.2.1]
    exact ⟨Nat.lt_add_left _ (Nat.succ_pos _), [.saved p.1 b.bufferCount], rfl, rfl⟩
  · have hnot : checkSppAutoCmdEvent p.1 = false :=
      Bool.eq_false_of_not_eq_true fun h => hstores ⟨rfl, h, hstarted⟩
    rw [bulkStep, heq]
    exact ⟨hstarted, [.alone p.1], rfl,
      by simp [savedEvents, BulkRecord.saved?, autoCmdEvents, hnot]⟩

theorem eventRun_saved {b : SppBulk} (hstarted : 0 < b.bufferCount)
    (events : List (BpkEvent × BpkIo)) :
    ∃ log, (eventRun true b events).log = b.log ++ log ∧
      savedEvents log = autoCmdEvents events := by
  induction events generalizing b with
  | nil => exact ⟨[], (List.append_nil _).symm, rfl⟩
  | cons p events ih =>
      obtain ⟨hpositive, first, hfirst, hsaved⟩ := bulkStep_saved hstarted p
      obtain ⟨rest, hrest, hevents⟩ := ih hpositive
      refine ⟨first ++ rest, ?_, ?_⟩
      · rw [← List.append_assoc, ← hfirst]
        exact hrest
      · rw [savedEvents, List.filterMap_append, ← savedEvents, ← savedEvents, hsaved, hevents,
          autoCmdEvents, autoCmdEvents, autoCmdEvents, ← List.filter_append, ← List.map_append]
        rfl

theorem tracksSince_start (b : SppBulk) : TracksSince b.log (bulkStep b .start) := by
  refine ⟨[.started], [], [], 0, rfl, ⟨?_, rfl, rfl, fun _ => rfl, ?_, ?_⟩, by rintro e ⟨⟩⟩
  · exact ⟨⟨slice (fun _ => 0) 0 2, length_slice _ _ _, (List.append_nil _).symm⟩, rfl,
      Nat.zero_le _⟩
  · refine iff_of_true ⟨rfl, show 2 ≤ maxDataSize by decide⟩ fun r hr => ?_
    rw [List.mem_singleton.mp hr]
    exact True.intro
  · exact show 2 ≤ maxDataSize + 1 by decide

/-- For every sequence of events, the client decodes exactly those accumulated if and
only if each of them has at most 255 bytes and leaves room in its packet. -/
theorem bulk_round_trip (b : SppBulk) (events : List (BpkEvent × BpkIo)) (written : Bool) :
    ∃ log, (bulkRun b events written).log = b.log ++ log ∧
      savedEvents log = autoCmdEvents events ∧
      (decodePackets (bulkPackets log) = some (autoCmdEvents events) ↔
        (∀ e ∈ autoCmdEvents events, e.data.length ≤ 255) ∧ ∀ r ∈ log, r.LeavesRoom) := by
  have hpositive : 0 < (bulkStep b .start).bufferCount := show 0 < 2 by decide
  obtain ⟨log, hlog, hsaved⟩ := eventRun_saved hpositive events
  have hstarted : (bulkStep b .start).log = b.log ++ [.started] := rfl
  rw [hstarted, List.append_assoc] at hlog
  have hrun : (bulkRun b events written).log = b.log ++
      ([.started] ++ log ++ [(eventRun true (bulkStep b .start) events).packet]) := by
    change (eventRun true (bulkStep b .start) events).log ++ _ = _
    rw [hlog, List.append_assoc]
  have hevents : savedEvents
      ([.started] ++ log ++ [(eventRun true (bulkStep b .start) events).packet]) =
      autoCmdEvents events := by
    rw [← hsaved, savedEvents, List.filterMap_append, List.filterMap_append]
    exact List.append_nil _
  refine ⟨_, hrun, hevents, ?_⟩
  by_cases hsize : ∀ e ∈ autoCmdEvents events, e.data.length ≤ 255
  · have hshort : ∀ p ∈ events, checkSppAutoCmdEvent p.1 = true → p.1.data.length ≤ 255 :=
      fun p hp hauto => hsize p.1 (List.mem_filter.mpr ⟨List.mem_map_of_mem hp, hauto⟩)
    obtain ⟨since, pending, done, lost, hsince, htracks, hpending⟩ :=
      (tracksSince_start b).eventRun hshort
    obtain rfl : [.started] ++ log = since := List.append_cancel_left (hlog.symm.trans hsince)
    obtain ⟨done, lost, hpacked⟩ := htracks.pack hpending (holds_restart b)
    have hlength := hpacked.length
    rw [hevents, List.length_nil, Nat.add_zero] at hlength
    have hcount : b.restart.bufferCount ≤ maxDataSize := show 2 ≤ maxDataSize by decide
    rw [hpacked.decoded, Option.some_inj, ← hpacked.room]
    constructor
    · intro hdone
      refine ⟨hsize, ?_, hcount⟩
      rw [hdone] at hlength
      omega
    · intro h
      rw [← hevents, hpacked.exact h.2.1, List.append_nil]
  · refine iff_of_false (fun hdecoded => hsize ?_) fun h => hsize h.1
    exact decodePackets_small hdecoded

/-- An event that says that data is ready, with the given number of bytes. -/
def dataReadyEvent (length : Fin (eventBufferSize + 1)) : BpkEvent :=
  ⟨firstDevice, (sppIbiDataReady :: sppIbiSubreasonBufferThreshold ::
    List.replicate (length.val - 2) 0).take length.val, by
      rw [List.length_take]
      exact (Nat.min_le_left _ _).trans (Nat.le_of_lt_succ length.isLt)⟩

/-- An event of 257 bytes is announced with one. -/
theorem bulk_misread :
    let e := dataReadyEvent ⟨257, by decide⟩
    let log := (bulkRun .initial [(e, ⟨true, true⟩)] true).log
    savedEvents log = [e] ∧ decodePackets (bulkPackets log) = none := by
  decide +kernel

end Theorem

end AtScaleDebug
