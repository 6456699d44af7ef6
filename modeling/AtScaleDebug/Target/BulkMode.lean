import AtScaleDebug.Target.BulkCodec
import AtScaleDebug.Target.SppResponse

/-!
Bulk mode and the message that starts it. A message leaves bulk mode, with the bulk
packet closed and every event stored in it handed to `send_response`, as long as no
second `SPP_BULK` gets in the way: one that cannot be answered returns in the middle of
the bulk, and one that is answered starts a new packet over the events stored so far.
-/

namespace AtScaleDebug

open ByteBuffer

section Log

/-- The event stored at `position` is in the next packet, before another is started.
The bytes are those of the packet if its header can announce them. -/
def Ships (e : BpkEvent) (position : Nat) : List BulkRecord → Prop
  | [] | .started :: _ => False
  | .packed count header payload :: _ =>
      position + e.entry.length ≤ count ∧
        ((getMessageSize header).isSome →
          (payload.drop position).take e.entry.length = e.entry)
  | .saved _ _ :: log | .alone _ :: log => Ships e position log

/-- Every event that is stored is shipped. -/
def AllShipped : List BulkRecord → Prop
  | [] => True
  | .saved e position :: log => Ships e position log ∧ AllShipped log
  | .started :: log | .packed _ _ _ :: log | .alone _ :: log => AllShipped log

instance decidableShips (e : BpkEvent) (position : Nat) :
    ∀ log : List BulkRecord, Decidable (Ships e position log)
  | [] | .started :: _ => inferInstanceAs (Decidable False)
  | .packed _ _ _ :: _ => inferInstanceAs (Decidable (_ ∧ (_ → _)))
  | .saved _ _ :: log | .alone _ :: log => decidableShips e position log

instance decidableAllShipped : ∀ log : List BulkRecord, Decidable (AllShipped log)
  | [] => inferInstanceAs (Decidable True)
  | .saved e position :: log =>
      have := decidableAllShipped log
      inferInstanceAs (Decidable (Ships e position log ∧ AllShipped log))
  | .started :: log | .packed _ _ _ :: log | .alone _ :: log => decidableAllShipped log

/-- Neither a packet nor the start of one. -/
def BulkRecord.Waits : BulkRecord → Prop
  | .saved _ _ | .alone _ => True
  | .started | .packed _ _ _ => False

variable {e : BpkEvent} {position : Nat} {log more : List BulkRecord}

theorem Ships.append (h : Ships e position log) (more : List BulkRecord) :
    Ships e position (log ++ more) := by
  induction log with
  | nil => exact h.elim
  | cons r log ih =>
      cases r with
      | started => exact h.elim
      | packed count header payload => exact h
      | saved | alone => exact ih h

theorem AllShipped.append (h : AllShipped log) (hmore : AllShipped more) :
    AllShipped (log ++ more) := by
  induction log with
  | nil => exact hmore
  | cons r log ih =>
      cases r with
      | saved e position => exact ⟨h.1.append more, ih h.2⟩
      | started | packed | alone => exact ih h

theorem AllShipped.right (h : AllShipped (log ++ more)) : AllShipped more := by
  induction log with
  | nil => exact h
  | cons r log ih =>
      cases r with
      | saved e position => exact ih h.2
      | started | packed | alone => exact ih h

/-- Nothing is stored, so nothing is left behind. -/
theorem allShipped_of_savedEvents (h : savedEvents log = []) : AllShipped log := by
  induction log with
  | nil => exact True.intro
  | cons r log ih =>
      cases r with
      | saved e position => cases h
      | started | packed | alone => exact ih h

/-- What waits does not ship anything. -/
theorem ships_append_iff (hwaits : ∀ r ∈ log, r.Waits) :
    Ships e position (log ++ more) ↔ Ships e position more := by
  induction log with
  | nil => exact Iff.rfl
  | cons r log ih =>
      have hrest := ih fun q hq => hwaits q (List.mem_cons_of_mem r hq)
      have hr := hwaits r List.mem_cons_self
      cases r with
      | started | packed => exact hr.elim
      | saved | alone => exact hrest

/-- A packet that is started over stored events loses them. -/
theorem not_allShipped_started (hwaits : ∀ r ∈ log, r.Waits) (hsaved : savedEvents log ≠ []) :
    ¬ AllShipped (log ++ .started :: more) := by
  induction log with
  | nil => exact absurd rfl hsaved
  | cons r log ih =>
      have hrest (q : BulkRecord) (hq : q ∈ log) := hwaits q (List.mem_cons_of_mem r hq)
      cases r with
      | started => exact (hwaits _ List.mem_cons_self).elim
      | packed => exact (hwaits _ List.mem_cons_self).elim
      | saved e position => exact fun h => ((ships_append_iff hrest).mp h.1).elim
      | alone e => exact ih hrest hsaved

/-- A packet ships everything stored since the one before. -/
theorem allShipped_packet {r : BulkRecord} (hr : AllShipped [r]) (hwaits : ∀ q ∈ log, q.Waits)
    (hstored : ∀ e position, .saved e position ∈ log → Ships e position [r]) :
    AllShipped (log ++ [r]) := by
  induction log with
  | nil => exact hr
  | cons q log ih =>
      have hwaitsTail (t : BulkRecord) (ht : t ∈ log) := hwaits t (List.mem_cons_of_mem q ht)
      have hrest := ih hwaitsTail fun e position hmem =>
        hstored e position (List.mem_cons_of_mem q hmem)
      cases q with
      | started => exact (hwaits _ List.mem_cons_self).elim
      | packed => exact (hwaits _ List.mem_cons_self).elim
      | saved e position =>
          refine ⟨(ships_append_iff hwaitsTail).mpr ?_, hrest⟩
          exact hstored e position List.mem_cons_self
      | alone e => exact hrest

end Log

section Invariant

/-- What was recorded since the last packet or start, and where it is in the buffer. -/
structure SppBulk.Waiting (b : SppBulk) (log : List BulkRecord) : Prop where
  waits : ∀ r ∈ log, r.Waits
  stored : ∀ e position, .saved e position ∈ log → 2 ≤ position ∧
    position + e.entry.length ≤ b.bufferCount ∧ slice b.buffer position e.entry.length = e.entry
  ibiCount : b.ibiCount = (savedEvents log).length
  count : b.bufferCount = 0 ∨ 2 ≤ b.bufferCount
  fits : b.bufferCount ≤ maxDataSize + 1

theorem waiting_nil {b : SppBulk} (hcount : b.bufferCount = 0 ∨ b.bufferCount = 2)
    (hnone : b.ibiCount = 0) : b.Waiting [] := by
  refine ⟨by rintro r ⟨⟩, by rintro e position ⟨⟩, hnone, hcount.imp_right Eq.ge, ?_⟩
  rw [maxDataSize]
  omega

theorem SppBulk.Waiting.savedEvents_of_zero {b : SppBulk} {log : List BulkRecord}
    (h : b.Waiting log) (hzero : b.bufferCount = 0) : savedEvents log = [] := by
  refine List.filterMap_eq_nil_iff.mpr fun r hr => ?_
  cases r with
  | saved e position =>
      have hle := (h.stored e position hr).2.1
      rw [BpkEvent.length_entry] at hle
      omega
  | started | packed | alone => rfl

theorem SppBulk.Waiting.save {b : SppBulk} {log : List BulkRecord} (h : b.Waiting log)
    (e : BpkEvent) (hstarted : 0 < b.bufferCount) (hroom : ¬ MakesRoom b e) :
    (b.save e).Waiting (log ++ [.saved e b.bufferCount]) := by
  have hsaved : savedEvents (log ++ [.saved e b.bufferCount]) = savedEvents log ++ [e] := by
    simp [savedEvents, BulkRecord.saved?]
  have htwo : 2 ≤ b.bufferCount := by
    have hcount := h.count
    omega
  refine ⟨?_, fun f position hf => ?_, ?_, .inr ?_, ?_⟩
  · exact List.forall_mem_append.mpr ⟨h.waits, List.forall_mem_singleton.mpr True.intro⟩
  · obtain hf | hf := List.mem_append.mp hf
    · obtain ⟨hposition, hend, hslice⟩ := h.stored f position hf
      refine ⟨hposition, hend.trans (Nat.le_add_right _ _), ?_⟩
      exact (slice_blit_before b.buffer e.entry hend).trans hslice
    · cases List.mem_singleton.mp hf
      exact ⟨htwo, Nat.le_refl _, slice_blit b.buffer b.bufferCount e.entry⟩
  · rw [save_ibiCount, h.ibiCount, hsaved, List.length_append, List.length_singleton]
  · rw [save_bufferCount]
    omega
  · simp only [MakesRoom, not_or] at hroom
    rw [save_bufferCount]
    omega

theorem SppBulk.Waiting.alone {b : SppBulk} {log : List BulkRecord} (h : b.Waiting log)
    (e : BpkEvent) : (b.record (.alone e)).Waiting (log ++ [.alone e]) := by
  have hsaved : savedEvents (log ++ [.alone e]) = savedEvents log := by
    simp [savedEvents, BulkRecord.saved?]
  refine ⟨?_, fun f position hf => ?_, hsaved ▸ h.ibiCount, h.count, h.fits⟩
  · exact List.forall_mem_append.mpr ⟨h.waits, List.forall_mem_singleton.mpr True.intro⟩
  · obtain hf | hf := List.mem_append.mp hf
    · exact h.stored f position hf
    · cases List.mem_singleton.mp hf

/-- The packet that is sent now ships what waits. -/
theorem SppBulk.Waiting.packet {b : SppBulk} {log : List BulkRecord} (h : b.Waiting log) :
    AllShipped (log ++ [b.packet]) := by
  refine allShipped_packet True.intro h.waits fun e position hmem => ?_
  obtain ⟨hposition, hend, hslice⟩ := h.stored e position hmem
  refine ⟨hend, fun hsome => ?_⟩
  have hsize : getMessageSize (eventHeader b.bufferCount) = some b.bufferCount := by
    rw [getMessageSize_eventHeader h.fits] at hsome ⊢
    split at hsome
    · next hle => rw [if_pos hle]
    · cases hsome
  rw [hsize, Option.getD_some, take_drop_slice _ hend]
  have hfront : 0 + [asdEventBulkBpk, .ofNat b.ibiCount].length ≤ position :=
    show 0 + 2 ≤ position by omega
  exact (slice_blit_behind b.buffer _ hfront).trans hslice

/-- Everything recorded since `start` was shipped or waits in the buffer. -/
def Collects (start : List BulkRecord) (b : SppBulk) : Prop :=
  ∃ older newer, b.log = start ++ (older ++ newer) ∧ AllShipped older ∧ b.Waiting newer

theorem Collects.event {start : List BulkRecord} {b : SppBulk} (h : Collects start b)
    (enabled : Bool) (e : BpkEvent) (io : BpkIo) :
    Collects start (bulkStep b (.event enabled e io)) := by
  obtain ⟨older, newer, hlog, holder, hnewer⟩ := h
  obtain ⟨hstores, _, heq⟩ | ⟨hstores, hroom, heq⟩ | ⟨_, heq⟩ := sendBpkEvent_cases b e enabled io
  · have hempty := waiting_nil (b := (sendBulkBpkEvent b io.flushed).1.restart) (.inr rfl) rfl
    have hroom : ¬ MakesRoom (sendBulkBpkEvent b io.flushed).1.restart e := by
      have hfits := e.fits
      simp only [MakesRoom, SppBulk.restart, maxDataSize, sppBulkResponseIbiMaxCount, not_or]
      rw [eventBufferSize] at hfits
      omega
    refine ⟨older ++ (newer ++ [b.packet]), _, ?_, holder.append hnewer.packet,
      heq ▸ hempty.save e (show 0 < 2 by decide) hroom⟩
    rw [bulkStep, heq, save_log, restart_log, sendBulkBpkEvent, record_log]
    change b.log ++ [b.packet] ++ _ = _
    simp only [hlog, List.append_assoc, List.nil_append]
  · refine ⟨older, _, ?_, holder, heq ▸ hnewer.save e hstores.2.2 hroom⟩
    rw [bulkStep, heq, save_log, hlog]
    simp only [List.append_assoc]
  · refine ⟨older, _, ?_, holder, heq ▸ hnewer.alone e⟩
    rw [bulkStep, heq, record_log, hlog]
    simp only [List.append_assoc]

/-- Events neither open nor close a bulk. -/
theorem bulkStep_event_zero (b : SppBulk) (enabled : Bool) (e : BpkEvent) (io : BpkIo) :
    (bulkStep b (.event enabled e io)).bufferCount = 0 ↔ b.bufferCount = 0 := by
  obtain ⟨hstores, _, heq⟩ | ⟨hstores, _, heq⟩ | ⟨_, heq⟩ := sendBpkEvent_cases b e enabled io
  · have hpositive := hstores.2.2
    rw [bulkStep, heq, save_bufferCount]
    omega
  · have hpositive := hstores.2.2
    rw [bulkStep, heq, save_bufferCount]
    omega
  · rw [bulkStep, heq, record_bufferCount]

theorem Collects.eventRun {start : List BulkRecord} {b : SppBulk} (h : Collects start b)
    (enabled : Bool) (events : List (BpkEvent × BpkIo)) :
    Collects start (eventRun enabled b events) ∧
      ((AtScaleDebug.eventRun enabled b events).bufferCount = 0 ↔ b.bufferCount = 0) := by
  induction events generalizing b with
  | nil => exact ⟨h, Iff.rfl⟩
  | cons p events ih =>
      obtain ⟨hcollects, hzero⟩ := ih (h.event enabled p.1 p.2)
      exact ⟨hcollects, hzero.trans (bulkStep_event_zero b enabled p.1 p.2)⟩

theorem Collects.start {start : List BulkRecord} {b : SppBulk} (h : Collects start b)
    (hnone : b.bufferCount = 0 ∨ b.ibiCount = 0) : Collects start (bulkStep b .start) := by
  obtain ⟨older, newer, hlog, holder, hnewer⟩ := h
  have hsaved : savedEvents newer = [] := by
    obtain hzero | hnone := hnone
    · exact hnewer.savedEvents_of_zero hzero
    · exact List.eq_nil_of_length_eq_zero (hnewer.ibiCount.symm.trans hnone)
  have hstarted : AllShipped [.started] := True.intro
  refine ⟨older ++ (newer ++ [.started]), [], ?_,
    holder.append ((allShipped_of_savedEvents hsaved).append hstarted), ?_⟩
  · change b.log ++ [.started] = _
    simp only [hlog, List.append_assoc, List.append_nil]
  · exact waiting_nil (.inr rfl) rfl

/-- Events were stored and the packet started over them. -/
def Drops (start : List BulkRecord) (b : SppBulk) : Prop :=
  ∃ log, b.log = start ++ log ∧ ∀ more, ¬ AllShipped (log ++ more)

theorem Collects.drops {start : List BulkRecord} {b : SppBulk} (h : Collects start b)
    (hsome : b.ibiCount ≠ 0) : Drops start (bulkStep b .start) := by
  obtain ⟨older, newer, hlog, holder, hnewer⟩ := h
  have hsaved : savedEvents newer ≠ [] := by
    intro hnil
    rw [hnewer.ibiCount, hnil] at hsome
    exact hsome rfl
  refine ⟨older ++ (newer ++ [.started]), ?_, fun more hall => ?_⟩
  · change b.log ++ [.started] = _
    simp only [hlog, List.append_assoc]
  · simp only [List.append_assoc] at hall
    exact not_allShipped_started hnewer.waits hsaved hall.right

theorem bulkStep_log (b : SppBulk) (action : BulkAction) :
    ∃ more, (bulkStep b action).log = b.log ++ more := by
  cases action with
  | start => exact ⟨[.started], rfl⟩
  | refused => exact ⟨[], (List.append_nil _).symm⟩
  | finish written => exact ⟨[b.packet], rfl⟩
  | event enabled e io =>
      obtain ⟨_, _, heq⟩ | ⟨_, _, heq⟩ | ⟨_, heq⟩ := sendBpkEvent_cases b e enabled io
      · refine ⟨[b.packet, .saved e 2], ?_⟩
        rw [bulkStep, heq]
        exact List.append_assoc _ _ _
      · exact ⟨[.saved e b.bufferCount], by rw [bulkStep, heq, save_log]⟩
      · exact ⟨[.alone e], by rw [bulkStep, heq, record_log]⟩

theorem Drops.of_reaches {start : List BulkRecord} {b t : SppBulk} (h : Drops start b)
    (hreaches : BulkReaches b t) : Drops start t := by
  obtain ⟨actions, rfl⟩ := hreaches
  refine Machine.run_invariant_of_step (fun b action h => ?_) actions h
  obtain ⟨log, hlog, hnever⟩ := h
  obtain ⟨more, hmore⟩ := bulkStep_log b action
  refine ⟨log ++ more, by rw [hmore, hlog, List.append_assoc], fun rest => ?_⟩
  rw [List.append_assoc]
  exact hnever (more ++ rest)

end Invariant

section Loop

/-- Every `SPP_BULK` that the loop executes in bulk mode can be answered, and finds no
event in the packet it starts over. -/
def RestartsEmpty (enabled : Bool) (io : Nat → SppPollIo) (request : MessageHeader) :
    Nat → Nat → SppState → SppBulk → List UInt8 → Prop
  | 0, _, _, _, _ | _ + 1, _, _, _, [] => True
  | rounds + 1, k, s, b, byte :: packet =>
      s.out.responseCnt < maxDataSize →
        match nextSppCommand s.handler.bulkMode s.bulkAddress (byte :: packet) with
        | (_, none) => True
        | (bulkAddress, some (command, rest)) =>
            (command.isBulk = true → s.handler.bulkMode = true →
              (io k).answers request s = true ∧ b.ibiCount = 0) ∧
            let (ibis, b) := drainCommand enabled s.handler b (io k).polled command
            match executeSppCommand ((io k).outcomes request s ibis) request
              { s with bulkAddress } command with
            | (s, .next) =>
                RestartsEmpty enabled io request rounds (k + 1) s (bulkAfter b .next command) rest
            | _ => True

/-- Only an `SPP_BULK` changes the mode and sends a response, and no other command ends
the processing without the tail. -/
theorem executeSppCommand_mode (io : SppIo) (request : MessageHeader) (s : SppState)
    {command : SppCommand} (h : command.isBulk = false) :
    (executeSppCommand io request s command).1.handler.bulkMode = s.handler.bulkMode ∧
      (executeSppCommand io request s command).1.bulkAddress = s.bulkAddress ∧
      (executeSppCommand io request s command).1.responses = s.responses ∧
      (executeSppCommand io request s command).2 ≠ .returned := by
  cases command with
  | bulk count => cases h
  | config | setSimData => exact ⟨rfl, rfl, rfl, by rintro ⟨⟩⟩
  | send address msb lsb data =>
      rw [executeSppCommand, executeSend]
      split
      · exact ⟨rfl, rfl, rfl, by rintro ⟨⟩⟩
      · next g hg =>
          have hall := ((sppDeviceSelect_keeps hg).1.trans
            (awaitHandshake_keeps io g g.deviceIndex).1).trans (sppSend_keeps io _ data)
          split
          · next k heq => exact ⟨by simpa only [heq] using hall.bulkMode, rfl, rfl, by rintro ⟨⟩⟩
          · next k _ _ heq =>
              exact ⟨by simpa only [heq] using hall.bulkMode, rfl, rfl, by rintro ⟨⟩⟩
  | receive address msb lsb =>
      rw [executeSppCommand, executeReceive]
      split
      · exact ⟨rfl, rfl, rfl, by rintro ⟨⟩⟩
      · next g hg =>
          have hall := (sppDeviceSelect_keeps hg).1.trans (sppReceive_spec io g).1
          dsimp only
          split
          · next k _ heq => exact ⟨by simpa only [heq] using hall.bulkMode, rfl, rfl, by rintro ⟨⟩⟩
          · next k heq => exact ⟨by simpa only [heq] using hall.bulkMode, rfl, rfl, by rintro ⟨⟩⟩
  | sendCmd address msb lsb sppCommand data =>
      rw [executeSppCommand, executeSendCmd]
      split
      · exact ⟨rfl, rfl, rfl, by rintro ⟨⟩⟩
      · next g hg =>
          have hall := (sppDeviceSelect_keeps hg).1.trans
            (awaitHandshake_keeps io g g.deviceIndex).1
          dsimp only
          split
          · exact ⟨hall.bulkMode, rfl, rfl, by rintro ⟨⟩⟩
          · exact ⟨hall.bulkMode, rfl, rfl, by rintro ⟨⟩⟩
  | sendReceiveCmd address msbW lsbW sppCommand msbR lsbR data =>
      rw [executeSppCommand, executeSendReceiveCmd]
      split
      · exact ⟨rfl, rfl, rfl, by rintro ⟨⟩⟩
      · next g hg =>
          have hall := (sppDeviceSelect_keeps hg).1.trans
            (awaitHandshake_keeps io g g.deviceIndex).1
          dsimp only
          split
          · exact ⟨hall.bulkMode, rfl, rfl, by rintro ⟨⟩⟩
          split
          · exact ⟨hall.bulkMode, rfl, rfl, by rintro ⟨⟩⟩
          · exact ⟨hall.bulkMode, rfl, rfl, by rintro ⟨⟩⟩

/-- An `SPP_BULK` that is answered turns bulk mode on, one that is not changes nothing. -/
theorem executeSppCommand_bulk {io : SppIo} {request : MessageHeader} {s t : SppState}
    {count : UInt8} {flow : SppFlow}
    (h : executeSppCommand io request s (.bulk count) = (t, flow)) :
    t.bulkAddress = s.bulkAddress ∧
      ((io.delivered = true ∧ flow = .next ∧ t.handler.bulkMode = true) ∨
        (io.delivered = false ∧ flow = .returned ∧ t.handler.bulkMode = s.handler.bulkMode)) := by
  simp only [executeSppCommand, executeBulk] at h
  split at h
  · next hdelivered =>
      cases h
      exact ⟨rfl, .inl ⟨hdelivered, rfl, rfl⟩⟩
  · next hdelivered =>
      cases h
      exact ⟨rfl, .inr ⟨Bool.eq_false_of_not_eq_true hdelivered, rfl, rfl⟩⟩

theorem nextSppCommand_address (bulkMode : Bool) {bulkAddress : UInt8}
    (h : bulkAddress.toNat < maxSppBusDevices) (packet : List UInt8) :
    (nextSppCommand bulkMode bulkAddress packet).1.toNat < maxSppBusDevices := by
  have haddressed (operands : UInt8 → List UInt8 → Option (SppCommand × List UInt8))
      (packet : List UInt8) :
      (addressed bulkMode bulkAddress operands packet).1.toNat < maxSppBusDevices := by
    cases packet with
    | nil => exact h
    | cons address packet =>
        rw [addressed]
        split
        · split
          · exact h
          · next hin => exact Nat.lt_of_not_le hin
        · exact h
  cases packet with
  | nil => exact h
  | cons cmd packet =>
      rw [nextSppCommand]
      repeat' split
      all_goals first | exact h | exact haddressed _ _

/-- What the loop keeps: the events are accounted for, and the packet is open exactly
in bulk mode. -/
structure BulkKept (start : List BulkRecord) (s : SppState) (b : SppBulk) : Prop where
  collects : Collects start b
  mode : s.handler.bulkMode = true ↔ b.bufferCount ≠ 0
  address : s.bulkAddress.toNat < maxSppBusDevices

theorem BulkKept.bufferCount_eq_zero {start : List BulkRecord} {s : SppState} {b : SppBulk}
    (h : BulkKept start s b) (hoff : s.handler.bulkMode = false) : b.bufferCount = 0 := by
  by_contra hne
  exact ne_true_of_eq_false hoff (h.mode.mpr hne)

/-- A command other than `SPP_BULK`. -/
theorem BulkKept.command {start : List BulkRecord} {s : SppState} {b : SppBulk}
    (h : BulkKept start s b) (enabled : Bool) (io : SppPollIo) (request : MessageHeader)
    {bulkAddress : UInt8} (haddress : bulkAddress.toNat < maxSppBusDevices)
    {command : SppCommand} (hbulk : command.isBulk = false) (outcomes : SppIo) :
    BulkKept start (executeSppCommand outcomes request { s with bulkAddress } command).1
      (drainCommand enabled s.handler b io.polled command).2 := by
  obtain ⟨hmode, hsame, _, _⟩ :=
    executeSppCommand_mode outcomes request { s with bulkAddress } hbulk
  obtain ⟨events, hevents⟩ := drainCommand_run enabled s.handler b io.polled command
  obtain ⟨hcollects, hzero⟩ := h.collects.eventRun enabled events
  rw [hevents]
  refine ⟨hcollects, ?_, ?_⟩
  · rw [hmode, ne_eq, hzero]
    exact h.mode
  · rw [hsame]
    exact haddress

section Step
variable {enabled : Bool} {io : Nat → SppPollIo} {request : MessageHeader} {k : Nat}
  {s t : SppState} {b : SppBulk} {byte bulkAddress : UInt8} {packet rest : List UInt8}
  {command : SppCommand} {flow : SppFlow} (rounds : Nat)
  (hroom : s.out.responseCnt < maxDataSize)
  (hnext : nextSppCommand s.handler.bulkMode s.bulkAddress (byte :: packet) =
    (bulkAddress, some (command, rest)))
  (hexecute : executeSppCommand
    ((io k).outcomes request s (drainCommand enabled s.handler b (io k).polled command).1) request
    { s with bulkAddress } command = (t, flow))

include hroom hnext hexecute

theorem restartsEmpty_step :
    RestartsEmpty enabled io request (rounds + 1) k s b (byte :: packet) ↔
      (command.isBulk = true → s.handler.bulkMode = true →
        (io k).answers request s = true ∧ b.ibiCount = 0) ∧
      (flow = .next → RestartsEmpty enabled io request rounds (k + 1) t
        (bulkAfter (drainCommand enabled s.handler b (io k).polled command).2 .next command)
        rest) := by
  simp only [RestartsEmpty, hroom, true_imp_iff, hnext, hexecute]
  refine and_congr_right fun _ => ?_
  cases flow with
  | next => exact ⟨fun h _ => h, fun h => h rfl⟩
  | broke | returned => exact ⟨fun _ => by rintro ⟨⟩, fun _ => True.intro⟩

end Step

theorem bulkAfter_of_not_bulk {command : SppCommand} (h : command.isBulk = false) (b : SppBulk)
    (flow : SppFlow) : bulkAfter b flow command = b := by
  cases command with
  | bulk count => cases h
  | config | send | receive | sendCmd | sendReceiveCmd | setSimData => rfl

/-- An `SPP_BULK` outside of bulk mode that cannot be answered. -/
theorem Collects.refused {start : List BulkRecord} {b : SppBulk} (h : Collects start b)
    (hzero : b.bufferCount = 0) : Collects start (bulkStep b .refused) := by
  obtain ⟨older, newer, hlog, holder, hnewer⟩ := h
  refine ⟨older, newer, hlog, holder, hnewer.waits, fun e position hmem => ?_, hnewer.ibiCount,
    hnewer.count, hnewer.fits⟩
  have hle := (hnewer.stored e position hmem).2.1
  rw [BpkEvent.length_entry] at hle
  omega

/-- An `SPP_BULK`. In bulk mode it loses the events stored so far if it is answered, and
leaves the mode on if it is not. -/
theorem BulkKept.bulk {start : List BulkRecord} {s t : SppState} {b : SppBulk}
    (h : BulkKept start s b) {io : SppIo} {request : MessageHeader} {bulkAddress count : UInt8}
    {flow : SppFlow} (haddress : bulkAddress.toNat < maxSppBusDevices)
    (hexecute : executeSppCommand io request { s with bulkAddress } (.bulk count) = (t, flow)) :
    (flow = .next ∧ (s.handler.bulkMode = true → io.delivered = true ∧ b.ibiCount = 0) ∧
      BulkKept start t (bulkStep b .start)) ∨
    (flow = .next ∧ ¬ (s.handler.bulkMode = true → io.delivered = true ∧ b.ibiCount = 0) ∧
      Drops start (bulkStep b .start)) ∨
    (flow = .returned ∧ ¬ (s.handler.bulkMode = true → io.delivered = true ∧ b.ibiCount = 0) ∧
      t.handler.bulkMode = true) ∨
    (flow = .returned ∧ (s.handler.bulkMode = false ∧ t.handler.bulkMode = false) ∧
      BulkKept start t (bulkStep b .refused)) := by
  obtain ⟨hsame, ⟨hdelivered, hflow, hon⟩ | ⟨hdelivered, hflow, hmode⟩⟩ :=
    executeSppCommand_bulk hexecute
  · by_cases hnone : b.bufferCount = 0 ∨ b.ibiCount = 0
    · refine .inl ⟨hflow, fun hmode => ⟨hdelivered, hnone.resolve_left (h.mode.mp hmode)⟩, ?_⟩
      refine ⟨h.collects.start hnone, ?_, hsame ▸ haddress⟩
      exact iff_of_true hon (show 2 ≠ 0 by decide)
    · rw [not_or] at hnone
      refine .inr (.inl ⟨hflow, fun hok => hnone.2 ?_, h.collects.drops hnone.2⟩)
      exact (hok (h.mode.mpr hnone.1)).2
  · cases hold : s.handler.bulkMode with
    | true =>
        refine .inr (.inr (.inl ⟨hflow, fun hok => ?_, hmode.trans hold⟩))
        exact ne_true_of_eq_false hdelivered (hok rfl).1
    | false =>
        have hoff : t.handler.bulkMode = false := hmode.trans hold
        have hzero := h.bufferCount_eq_zero hold
        refine .inr (.inr (.inr ⟨hflow, ⟨rfl, hoff⟩, ?_⟩))
        refine ⟨h.collects.refused hzero, ?_, hsame ▸ haddress⟩
        exact iff_of_false (ne_true_of_eq_false hoff) (not_not.mpr hzero)

/-- One command of the loop: either the events stay accounted for, or it is an `SPP_BULK` in
bulk mode that finds events stored or cannot be answered. -/
theorem BulkKept.round {start : List BulkRecord} {s t : SppState} {b : SppBulk}
    (h : BulkKept start s b) (enabled : Bool) {io : SppPollIo} {request : MessageHeader}
    {bulkAddress : UInt8} {command : SppCommand} {flow : SppFlow}
    (haddress : bulkAddress.toNat < maxSppBusDevices)
    (hexecute : executeSppCommand
      (io.outcomes request s (drainCommand enabled s.handler b io.polled command).1) request
      { s with bulkAddress } command = (t, flow)) :
    let after := bulkAfter (drainCommand enabled s.handler b io.polled command).2 flow command
    let restarts := command.isBulk = true → s.handler.bulkMode = true →
      io.answers request s = true ∧ b.ibiCount = 0
    (restarts ∧ BulkKept start t after ∧ (flow = .returned → t.handler.bulkMode = false)) ∨
      (¬ restarts ∧
        (flow = .next ∧ Drops start after ∨ flow = .returned ∧ t.handler.bulkMode = true)) := by
  intro after restarts
  cases hbulk : command.isBulk with
  | false =>
      have hkept := h.command enabled io request haddress hbulk
        (io.outcomes request s (drainCommand enabled s.handler b io.polled command).1)
      have hnot := (executeSppCommand_mode
        (io.outcomes request s (drainCommand enabled s.handler b io.polled command).1) request
        { s with bulkAddress } hbulk).2.2.2
      rw [hexecute] at hkept hnot
      have hafter : after = (drainCommand enabled s.handler b io.polled command).2 :=
        bulkAfter_of_not_bulk hbulk _ flow
      refine .inl ⟨fun hyes => ?_, hafter ▸ hkept, fun hreturned => absurd hreturned hnot⟩
      exact absurd (hbulk.symm.trans hyes) Bool.false_ne_true
  | true =>
      cases command with
      | bulk count =>
          obtain ⟨rfl, hok, hkept⟩ | ⟨rfl, hnot, hdrops⟩ | ⟨rfl, hnot, hon⟩ |
            ⟨rfl, hoff, hkept⟩ := h.bulk haddress hexecute
          · exact .inl ⟨fun _ => hok, hkept, by rintro ⟨⟩⟩
          · exact .inr ⟨fun hok => hnot (hok rfl), .inl ⟨rfl, hdrops⟩⟩
          · exact .inr ⟨fun hok => hnot (hok rfl), .inr ⟨rfl, hon⟩⟩
          · refine .inl ⟨fun _ hon => ?_, hkept, fun _ => hoff.2⟩
            exact absurd hon (ne_true_of_eq_false hoff.1)
      | config | send | receive | sendCmd | sendReceiveCmd | setSimData => cases hbulk

/-- After the loop every event is accounted for, or one of the two failures has happened. -/
theorem sppBulkLoop_kept (enabled : Bool) (io : Nat → SppPollIo) (request : MessageHeader)
    {start : List BulkRecord} (rounds k : Nat) {s t : SppState} {b c : SppBulk} {flow : SppFlow}
    (packet : List UInt8) (h : BulkKept start s b)
    (hloop : sppBulkLoop enabled io request rounds k s b packet = (t, c, flow)) :
    (RestartsEmpty enabled io request rounds k s b packet ∧ BulkKept start t c ∧
        (flow = .returned → t.handler.bulkMode = false)) ∨
      (¬ RestartsEmpty enabled io request rounds k s b packet ∧
        (Drops start c ∨ flow = .returned ∧ t.handler.bulkMode = true)) := by
  induction rounds generalizing k s b packet with
  | zero =>
      cases hloop
      exact .inl ⟨True.intro, h, by rintro ⟨⟩⟩
  | succ rounds ih =>
      cases packet with
      | nil =>
          cases hloop
          exact .inl ⟨True.intro, h, by rintro ⟨⟩⟩
      | cons byte packet =>
          have haddress := nextSppCommand_address s.handler.bulkMode h.address (byte :: packet)
          obtain ⟨hfull, hround⟩ | ⟨bulkAddress, hroom, hnext, hround⟩ |
            ⟨bulkAddress, command, rest, u, step, hroom, hnext, hexecute, hround⟩ :=
            sppBulkLoop_round enabled io request rounds k s b byte packet
          · cases hround.symm.trans hloop
            exact .inl ⟨fun hroom => absurd hfull (Nat.not_le.mpr hroom), h, by rintro ⟨⟩⟩
          · cases hround.symm.trans hloop
            rw [hnext] at haddress
            refine .inl ⟨?_, ⟨h.collects, h.mode, haddress⟩, by rintro ⟨⟩⟩
            simp only [RestartsEmpty, hnext, implies_true]
          · rw [hnext] at haddress
            rw [hround] at hloop
            rw [restartsEmpty_step rounds hroom hnext hexecute]
            obtain ⟨hok, hkept, hreturned⟩ | ⟨hnot, hfails⟩ := h.round enabled haddress hexecute
            · rw [and_iff_right hok]
              cases step with
              | next =>
                  simp only [true_imp_iff]
                  exact ih (k + 1) rest hkept hloop
              | broke | returned =>
                  cases hloop
                  exact .inl ⟨by rintro ⟨⟩, hkept, hreturned⟩
            · refine .inr ⟨fun hall => hnot hall.1, ?_⟩
              obtain ⟨rfl, hdrops⟩ | ⟨rfl, hon⟩ := hfails
              · have hreaches := sppBulkLoop_reaches enabled io request rounds (k + 1) u
                  (bulkAfter (drainCommand enabled s.handler b (io k).polled command).2 .next
                    command) rest
                rw [if_pos rfl] at hloop
                rw [hloop] at hreaches
                exact .inl (hdrops.of_reaches hreaches)
              · cases hloop
                exact .inr ⟨rfl, hon⟩

end Loop

section Message

/-- No bulk is under way. -/
structure SppBulk.Closed (b : SppBulk) : Prop where
  bufferCount : b.bufferCount = 0
  ibiCount : b.ibiCount = 0

/-- How a message has to end. -/
structure BulkEnds (s : SppSession) (r : SppRequest) : Prop where
  mode : (processSppRequest s r).1.handler.bulkMode = false
  count : (processSppRequest s r).2.1.bufferCount = 0
  shipped : AllShipped ((processSppRequest s r).2.1.log.drop s.bulk.log.length)

/-- The message executes no `SPP_BULK` in bulk mode that cannot be answered or finds
events stored. -/
def SppRequest.RestartsEmpty (r : SppRequest) (s : SppSession) : Prop :=
  ∀ size, getMessageSize r.header = some size →
    AtScaleDebug.RestartsEmpty r.enabled r.io r.header size 0
      ⟨{ s.handler with bulkMode := false }, .initial, 0, []⟩ s.bulk (sppPayload r.header r.buffer)

/-- The state after a message that ends as it should. -/
structure Settled (start : List BulkRecord) (s : SppState) (b : SppBulk) : Prop
    extends b.Closed where
  mode : s.handler.bulkMode = false
  shipped : AllShipped (b.log.drop start.length)

theorem drop_log {start log : List BulkRecord} {b : SppBulk} (h : b.log = start ++ log) :
    b.log.drop start.length = log := by
  rw [h, List.drop_left]

theorem Drops.not_shipped {start : List BulkRecord} {b : SppBulk} (h : Drops start b) :
    ¬ AllShipped (b.log.drop start.length) := by
  obtain ⟨log, hlog, hnever⟩ := h
  have hall := hnever []
  rwa [drop_log hlog, ← List.append_nil log]

theorem BulkKept.of_closed (handler : SppHandler) {b : SppBulk} (h : b.Closed) :
    BulkKept b.log ⟨{ handler with bulkMode := false }, .initial, 0, []⟩ b := by
  refine ⟨⟨[], [], (List.append_nil _).symm, True.intro, ?_⟩, ?_, ?_⟩
  · exact waiting_nil (.inl h.bufferCount) h.ibiCount
  · exact iff_of_false Bool.false_ne_true (not_not.mpr h.bufferCount)
  · exact show (0 : UInt8).toNat < maxSppBusDevices by decide

/-- A message that is not in bulk mode at its end. -/
theorem BulkKept.settled {start : List BulkRecord} {s : SppState} {b : SppBulk}
    (h : BulkKept start s b) (hmode : s.handler.bulkMode = false) : Settled start s b := by
  have hzero := h.bufferCount_eq_zero hmode
  obtain ⟨older, newer, hlog, holder, hnewer⟩ := h.collects
  have hsaved := hnewer.savedEvents_of_zero hzero
  refine ⟨⟨hzero, ?_⟩, hmode, ?_⟩
  · rw [hnewer.ibiCount, hsaved]
    rfl
  · rw [drop_log hlog]
    exact holder.append (allShipped_of_savedEvents hsaved)

/-- The tail of a message in bulk mode. -/
theorem BulkKept.finish {start : List BulkRecord} {s : SppState} {b : SppBulk}
    (h : BulkKept start s b) (r : SppRequest) :
    Settled start (finishBulk r s b).1 (finishBulk r s b).2.1 := by
  rw [finishBulk, dif_pos h.address]
  obtain ⟨events, hevents⟩ := drainTail_run r ⟨s.bulkAddress.toNat, h.address⟩ s.handler b
  obtain ⟨older, newer, hlog, holder, hnewer⟩ := (h.collects.eventRun r.enabled events).1
  rw [← hevents] at hlog hnewer
  have hfinished : (bulkStep (drainTail r ⟨s.bulkAddress.toNat, h.address⟩ s.handler b).2.2
      (.finish r.written)).log = start ++ (older ++ (newer ++
        [(drainTail r ⟨s.bulkAddress.toNat, h.address⟩ s.handler b).2.2.packet])) := by
    change (drainTail r ⟨s.bulkAddress.toNat, h.address⟩ s.handler b).2.2.log ++ _ = _
    rw [hlog]
    simp only [List.append_assoc]
  refine ⟨⟨rfl, rfl⟩, ?_, ?_⟩
  · dsimp only
    rw [sppBulkTail, dif_pos h.address]
  · dsimp only
    rw [drop_log hfinished]
    exact holder.append hnewer.packet

theorem processSppRequest_settled {s : SppSession} (h : s.bulk.Closed) {r : SppRequest}
    (hempty : r.RestartsEmpty s) :
    Settled s.bulk.log (processSppRequest s r).1 (processSppRequest s r).2.1 := by
  have hkept := BulkKept.of_closed s.handler h
  cases hsize : getMessageSize r.header with
  | none =>
      have hsettled := hkept.settled rfl
      simp only [processSppRequest, hsize]
      exact ⟨hsettled.toClosed, rfl, hsettled.shipped⟩
  | some size =>
      obtain ⟨t, b, flow, hloop, hresult⟩ := processSppRequest_loop s hsize
      obtain ⟨_, hafter, hreturned⟩ | ⟨hnot, _⟩ :=
        sppBulkLoop_kept r.enabled r.io r.header size 0 _ hkept hloop
      · rw [hresult]
        split
        · next hflow => exact hafter.settled (hreturned hflow)
        split
        · exact hafter.finish r
        · next hmode =>
            have hsettled := hafter.settled (Bool.eq_false_of_not_eq_true hmode)
            split
            · exact ⟨hsettled.toClosed, hsettled.mode, hsettled.shipped⟩
            · exact hsettled
      · exact absurd (hempty size hsize) hnot

theorem not_bulkEnds {s : SppSession} (h : s.bulk.Closed) {r : SppRequest}
    (hnot : ¬ r.RestartsEmpty s) : ¬ BulkEnds s r := by
  simp only [SppRequest.RestartsEmpty, not_forall] at hnot
  obtain ⟨size, hsize, hnot⟩ := hnot
  obtain ⟨t, b, flow, hloop, hresult⟩ := processSppRequest_loop s hsize
  obtain ⟨hempty, _⟩ | ⟨_, hdrops | ⟨hreturned, hmode⟩⟩ :=
    sppBulkLoop_kept r.enabled r.io r.header size 0 _ (.of_closed s.handler h) hloop
  · exact absurd hempty hnot
  · intro hends
    have hdropped := hdrops.of_reaches (afterLoop_reaches r t b flow)
    rw [← hresult] at hdropped
    exact hdropped.not_shipped hends.shipped
  · intro hends
    have hoff := hends.mode
    rw [hresult, if_pos hreturned] at hoff
    exact ne_true_of_eq_false hoff hmode

theorem bulkEnds_iff {s : SppSession} (h : s.bulk.Closed) (r : SppRequest) :
    BulkEnds s r ↔ r.RestartsEmpty s := by
  constructor
  · intro hends
    by_contra hnot
    exact not_bulkEnds h hnot hends
  · intro hempty
    have hsettled := processSppRequest_settled h hempty
    exact ⟨hsettled.mode, hsettled.bufferCount, hsettled.shipped⟩

end Message

section Session

/-- A message ends its bulk, and an event between messages is sent by itself. -/
def SppInput.Kept (s : SppSession) : SppInput → Prop
  | .message r => BulkEnds s r
  | .event enabled p => ¬ Stores s.bulk (p.event clearEventBuffer) enabled
  | .client _ => True

def SppInput.RestartsEmpty (s : SppSession) : SppInput → Prop
  | .message r => r.RestartsEmpty s
  | .event _ _ | .client _ => True

theorem sppStep_closed {s : SppSession} {input : SppInput} (h : s.bulk.Closed)
    (hempty : input.RestartsEmpty s) : (sppStep s input).bulk.Closed := by
  cases input with
  | message r => exact (processSppRequest_settled h hempty).toClosed
  | client handler => exact h
  | event enabled p =>
      have hstores : ¬ Stores s.bulk (p.event clearEventBuffer) enabled := fun hstores =>
        absurd h.bufferCount (Nat.ne_of_gt hstores.2.2)
      rw [sppStep, sendBpkEvent, if_neg hstores]
      exact ⟨h.bufferCount, h.ibiCount⟩

theorem kept_iff {s : SppSession} (h : s.bulk.Closed) (input : SppInput) :
    input.Kept s ↔ input.RestartsEmpty s := by
  cases input with
  | message r => exact bulkEnds_iff h r
  | client handler => exact Iff.rfl
  | event enabled p =>
      refine iff_of_true (fun hstores => ?_) True.intro
      exact absurd h.bufferCount (Nat.ne_of_gt hstores.2.2)

/-- Over every session, with events and further clients between the messages: each
message ends its bulk mode with all events shipped and no event is held back between
messages, if and only if no message starts a bulk over one that has events or that it
cannot go on with. -/
theorem bulk_mode_ends (handler : SppHandler) (buffer : Nat → UInt8) (inputs : List SppInput) :
    Machine.Meets sppStep SppInput.Kept ⟨handler, .initial, buffer⟩ inputs ↔
      Machine.Meets sppStep SppInput.RestartsEmpty ⟨handler, .initial, buffer⟩ inputs :=
  Machine.meets_iff_of_invariant (I := fun s : SppSession => s.bulk.Closed)
    (fun _ _ => sppStep_closed) (fun _ input h => kept_iff h input) ⟨rfl, rfl⟩ inputs

/-- A message with the given payload, whose `SPP_BULK` are answered as given and whose
commands find the interrupts given. -/
def restartRequest (payload : List UInt8) (answered : Nat → Bool) (polled : List Polled) :
    SppRequest where
  header := ⟨0, 0, 0, 7, .ofNat payload.length, 0, 0, 0⟩
  buffer := fun k => payload.getD k 0
  enabled := true
  io := fun k => ⟨⟨[], true, none, none, true, true, answered k⟩, polled⟩
  handshake := []
  autocmd := []
  written := true

/-- The second `SPP_BULK` of a message is not answered, and the next event is stored in a
packet that nobody sends; or it is answered, and the event of the send before it is lost. -/
theorem bulk_mode_outlives :
    let s : SppSession := ⟨awaitingHandler, .initial, fun _ => 0⟩
    let unanswered := restartRequest [0x60, 1, 0x60, 1] (fun k => k = 0) []
    let dropping := restartRequest [0x60, 1, 0x10, 0, 0, 1, 0xAA, 0x60, 1] (fun _ => true)
      [dataReadyIbi 4]
    ((processSppRequest s unanswered).1.handler.bulkMode = true ∧
      Stores (sppStep s (.message unanswered)).bulk (dataReadyEvent ⟨4, by decide⟩) true) ∧
    ¬ AllShipped (processSppRequest s dropping).2.1.log := by
  decide +kernel

end Session

end AtScaleDebug
