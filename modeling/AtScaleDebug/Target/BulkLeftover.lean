import AtScaleDebug.Target.SppSession

/-!
The bulk packet in two runs. It is a global that outlives the session, and two runs with
different pasts may find different things in it. Nothing of that matters as long as its
fill level is zero, or the runs agree on what is in it: the same messages and events then
lead to the same responses and records, whatever is stored and sent meanwhile.
-/

namespace AtScaleDebug

open ByteBuffer

section Bulk
variable {base other : List BulkRecord} {b c : SppBulk}

/-- The bulk packets of two runs, after the same records have been added to each log. An
empty packet may be anything. -/
structure SppBulk.Alike (base other : List BulkRecord) (b c : SppBulk) : Prop where
  log : ∃ records, b.log = base ++ records ∧ c.log = other ++ records
  bufferCount : c.bufferCount = b.bufferCount
  content : b.bufferCount ≠ 0 → c.buffer = b.buffer ∧ c.ibiCount = b.ibiCount

namespace SppBulk.Alike

theorem record (h : Alike base other b c) (r : BulkRecord) :
    Alike base other (b.record r) (c.record r) := by
  obtain ⟨records, hb, hc⟩ := h.log
  refine ⟨⟨records ++ [r], ?_, ?_⟩, h.bufferCount, h.content⟩
  · rw [record_log, hb, List.append_assoc]
  · rw [record_log, hc, List.append_assoc]

theorem packet_eq (h : Alike base other b c) : c.packet = b.packet := by
  rw [SppBulk.packet, SppBulk.packet, h.bufferCount]
  by_cases hcount : b.bufferCount = 0
  · rw [hcount]
    rfl
  · obtain ⟨hbuffer, hibis⟩ := h.content hcount
    rw [SppBulk.sealed, SppBulk.sealed, hbuffer, hibis]

theorem sealed (h : Alike base other b c) : Alike base other b.sealed c.sealed := by
  refine ⟨h.log, h.bufferCount, fun hcount => ?_⟩
  obtain ⟨hbuffer, hibis⟩ := h.content hcount
  exact ⟨by rw [SppBulk.sealed, SppBulk.sealed, hbuffer, hibis], hibis⟩

theorem sendBulkBpkEvent (h : Alike base other b c) (written : Bool) :
    (AtScaleDebug.sendBulkBpkEvent c written).2 = (AtScaleDebug.sendBulkBpkEvent b written).2 ∧
      Alike base other (AtScaleDebug.sendBulkBpkEvent b written).1
        (AtScaleDebug.sendBulkBpkEvent c written).1 := by
  rw [AtScaleDebug.sendBulkBpkEvent, AtScaleDebug.sendBulkBpkEvent, h.bufferCount, h.packet_eq]
  exact ⟨rfl, h.sealed.record b.packet⟩

theorem restart (h : Alike base other b c) (hcount : b.bufferCount ≠ 0) :
    Alike base other b.restart c.restart :=
  ⟨h.log, rfl, fun _ => ⟨(h.content hcount).1, rfl⟩⟩

theorem clear (h : Alike base other b c) : Alike base other b.clear c.clear :=
  ⟨h.log, h.bufferCount, fun hcount => ⟨rfl, (h.content hcount).2⟩⟩

theorem save (h : Alike base other b c) (hcount : b.bufferCount ≠ 0) (e : BpkEvent) :
    Alike base other (b.save e) (c.save e) := by
  obtain ⟨hbuffer, hibis⟩ := h.content hcount
  rw [SppBulk.save, SppBulk.save, h.bufferCount, hbuffer, hibis]
  refine record ?_ (.saved e b.bufferCount)
  exact ⟨h.log, rfl, fun _ => ⟨rfl, rfl⟩⟩

theorem sendBpkEvent (h : Alike base other b c) (enabled : Bool) (e : BpkEvent) (io : BpkIo) :
    (AtScaleDebug.sendBpkEvent enabled c e io).2 = (AtScaleDebug.sendBpkEvent enabled b e io).2 ∧
      Alike base other (AtScaleDebug.sendBpkEvent enabled b e io).1
        (AtScaleDebug.sendBpkEvent enabled c e io).1 := by
  have hstores : Stores c e enabled ↔ Stores b e enabled := by
    rw [Stores, Stores, h.bufferCount]
  rw [AtScaleDebug.sendBpkEvent, AtScaleDebug.sendBpkEvent]
  by_cases hs : Stores b e enabled
  · have hcount : b.bufferCount ≠ 0 := Nat.ne_of_gt hs.2.2
    have hroom : MakesRoom c e ↔ MakesRoom b e := by
      rw [MakesRoom, MakesRoom, h.bufferCount, (h.content hcount).2]
    rw [if_pos hs, if_pos (hstores.mpr hs)]
    by_cases hr : MakesRoom b e
    · rw [if_pos hr, if_pos (hroom.mpr hr)]
      obtain ⟨hstatus, hsent⟩ := h.sendBulkBpkEvent io.flushed
      exact ⟨hstatus, (hsent.restart hcount).save (Nat.succ_ne_zero 1) e⟩
    · rw [if_neg hr, if_neg fun hc => hr (hroom.mp hc)]
      exact ⟨rfl, h.save hcount e⟩
  · rw [if_neg hs, if_neg fun hc => hs (hstores.mp hc)]
    exact ⟨rfl, h.record (.alone e)⟩

theorem bulkStep (h : Alike base other b c) (action : BulkAction) :
    Alike base other (AtScaleDebug.bulkStep b action) (AtScaleDebug.bulkStep c action) := by
  cases action with
  | start =>
      refine record ?_ .started
      exact ⟨h.log, rfl, fun _ => ⟨rfl, rfl⟩⟩
  | refused => exact h.clear
  | event enabled e io => exact (h.sendBpkEvent enabled e io).2
  | finish written =>
      obtain ⟨-, hsent⟩ := h.sendBulkBpkEvent written
      exact ⟨hsent.log, rfl, fun hcount => absurd rfl hcount⟩

end SppBulk.Alike

/-- Every interrupt is stored or sent alike, so that the loop goes equally far. -/
theorem drain_alike (enabled : Bool) (ready : SppHandler → Bool) (exits : Bool)
    (buffer : List UInt8) (h : SppHandler) (polled : List Polled)
    (halike : SppBulk.Alike base other b c) :
    (drain enabled ready exits buffer h c polled).1 =
        (drain enabled ready exits buffer h b polled).1 ∧
      SppBulk.Alike base other (drain enabled ready exits buffer h b polled).2
        (drain enabled ready exits buffer h c polled).2 := by
  induction polled generalizing exits buffer h b c with
  | nil => exact ⟨rfl, halike⟩
  | cons p polled ih =>
      cases p with
      | quiet => exact ih exits buffer h halike
      | failed => exact ⟨rfl, halike⟩
      | ibi p =>
          obtain ⟨hstatus, hsent⟩ := halike.sendBpkEvent enabled (p.event buffer) p.io
          simp only [drain]
          generalize sendBpkEvent enabled b (p.event buffer) p.io = first at hstatus hsent ⊢
          generalize sendBpkEvent enabled c (p.event buffer) p.io = second at hstatus hsent ⊢
          obtain ⟨b, status⟩ := first
          obtain ⟨c, status⟩ := second
          dsimp only at hstatus hsent
          subst hstatus
          cases status with
          | ok =>
              dsimp only
              split
              · exact ⟨rfl, hsent⟩
              · obtain ⟨hibis, hrest⟩ := ih (exits && !checkSppPrdyEvent (p.event buffer))
                  (p.fill buffer) (i3cIbiHandler h (p.device, p.kind)) hsent
                exact ⟨congrArg ((p.device, p.kind) :: ·) hibis, hrest⟩
          | err | timeout => exact ⟨rfl, hsent⟩

theorem drainCommand_alike (enabled : Bool) (h : SppHandler) (polled : List Polled)
    (command : SppCommand) (halike : SppBulk.Alike base other b c) :
    (drainCommand enabled h c polled command).1 = (drainCommand enabled h b polled command).1 ∧
      SppBulk.Alike base other (drainCommand enabled h b polled command).2
        (drainCommand enabled h c polled command).2 := by
  rw [drainCommand, drainCommand]
  cases waitingHandler h command with
  | none => exact ⟨rfl, halike⟩
  | some h => exact drain_alike enabled _ _ _ h polled halike

theorem bulkAfter_alike (halike : SppBulk.Alike base other b c) (flow : SppFlow)
    (command : SppCommand) :
    SppBulk.Alike base other (bulkAfter b flow command) (bulkAfter c flow command) := by
  cases command with
  | bulk => exact halike.bulkStep _
  | config | send | receive | sendCmd | sendReceiveCmd | setSimData => exact halike

theorem sppBulkLoop_alike (enabled : Bool) (io : Nat → SppPollIo) (request : MessageHeader)
    (rounds k : Nat) (s : SppState) (packet : List UInt8)
    (halike : SppBulk.Alike base other b c) :
    (sppBulkLoop enabled io request rounds k s c packet).1 =
        (sppBulkLoop enabled io request rounds k s b packet).1 ∧
      (sppBulkLoop enabled io request rounds k s c packet).2.2 =
        (sppBulkLoop enabled io request rounds k s b packet).2.2 ∧
      SppBulk.Alike base other (sppBulkLoop enabled io request rounds k s b packet).2.1
        (sppBulkLoop enabled io request rounds k s c packet).2.1 := by
  induction rounds generalizing k s b c packet with
  | zero => exact ⟨rfl, rfl, halike⟩
  | succ rounds ih =>
      cases packet with
      | nil => exact ⟨rfl, rfl, halike⟩
      | cons byte packet =>
          rw [sppBulkLoop, sppBulkLoop]
          split
          · exact ⟨rfl, rfl, halike⟩
          generalize nextSppCommand s.handler.bulkMode s.bulkAddress (byte :: packet) = decoded
          obtain ⟨bulkAddress, command⟩ := decoded
          cases command with
          | none => exact ⟨rfl, rfl, halike⟩
          | some next =>
              obtain ⟨command, rest⟩ := next
              obtain ⟨hibis, hdrained⟩ :=
                drainCommand_alike enabled s.handler (io k).polled command halike
              dsimp only
              generalize drainCommand enabled s.handler b (io k).polled command = first
                at hibis hdrained ⊢
              generalize drainCommand enabled s.handler c (io k).polled command = second
                at hibis hdrained ⊢
              obtain ⟨_, b⟩ := first
              obtain ⟨ibis, c⟩ := second
              dsimp only at hibis hdrained ⊢
              subst hibis
              generalize executeSppCommand ((io k).outcomes request s ibis) request
                { s with bulkAddress } command = result
              obtain ⟨t, flow⟩ := result
              cases flow with
              | next => exact ih (k + 1) t rest (bulkAfter_alike hdrained .next command)
              | broke => exact ⟨rfl, rfl, bulkAfter_alike hdrained .broke command⟩
              | returned => exact ⟨rfl, rfl, bulkAfter_alike hdrained .returned command⟩

theorem drainTail_alike (r : SppRequest) (device : Fin maxSppBusDevices) (h : SppHandler)
    (halike : SppBulk.Alike base other b c) :
    (drainTail r device h c).1 = (drainTail r device h b).1 ∧
      (drainTail r device h c).2.1 = (drainTail r device h b).2.1 ∧
      SppBulk.Alike base other (drainTail r device h b).2.2 (drainTail r device h c).2.2 := by
  have hfirst : (if h.thresholdStatus device then drainHandshake r.enabled device h c r.handshake
        else ([], c)).1 = (if h.thresholdStatus device then
          drainHandshake r.enabled device h b r.handshake else ([], b)).1 ∧
      SppBulk.Alike base other (if h.thresholdStatus device then
          drainHandshake r.enabled device h b r.handshake else ([], b)).2
        (if h.thresholdStatus device then drainHandshake r.enabled device h c r.handshake
          else ([], c)).2 := by
    split
    · exact drain_alike r.enabled _ _ _ h r.handshake halike
    · exact ⟨rfl, halike⟩
  simp only [drainTail]
  generalize (if h.thresholdStatus device then drainHandshake r.enabled device h b r.handshake
    else ([], b)) = first at hfirst ⊢
  generalize (if h.thresholdStatus device then drainHandshake r.enabled device h c r.handshake
    else ([], c)) = second at hfirst ⊢
  obtain ⟨handshake, b⟩ := first
  obtain ⟨_, c⟩ := second
  obtain ⟨hhandshake, hdrained⟩ := hfirst
  dsimp only at hhandshake hdrained ⊢
  subst hhandshake
  refine ⟨rfl, ?_⟩
  split
  · exact drain_alike r.enabled _ _ _ _ r.autocmd hdrained
  · exact ⟨rfl, hdrained⟩

theorem finishBulk_alike (r : SppRequest) (s : SppState) (halike : SppBulk.Alike base other b c) :
    (finishBulk r s c).1 = (finishBulk r s b).1 ∧
      (finishBulk r s c).2.2 = (finishBulk r s b).2.2 ∧
      SppBulk.Alike base other (finishBulk r s b).2.1 (finishBulk r s c).2.1 := by
  rw [finishBulk, finishBulk]
  split
  · next ha =>
      obtain ⟨hhandshake, hautocmd, hdrained⟩ :=
        drainTail_alike r ⟨s.bulkAddress.toNat, ha⟩ s.handler halike
      generalize drainTail r ⟨s.bulkAddress.toNat, ha⟩ s.handler b = first
        at hhandshake hautocmd hdrained ⊢
      generalize drainTail r ⟨s.bulkAddress.toNat, ha⟩ s.handler c = second
        at hhandshake hautocmd hdrained ⊢
      obtain ⟨handshake, autocmd, b⟩ := first
      obtain ⟨_, _, c⟩ := second
      dsimp only at hhandshake hautocmd hdrained ⊢
      subst hhandshake hautocmd
      rw [(hdrained.sendBulkBpkEvent r.written).1]
      exact ⟨rfl, rfl, hdrained.bulkStep (.finish r.written)⟩
  · exact ⟨rfl, rfl, halike⟩

theorem SppBulk.Alike.rebase (h : SppBulk.Alike base other b c) :
    SppBulk.Alike b.log c.log b c :=
  ⟨⟨[], (List.append_nil _).symm, (List.append_nil _).symm⟩, h.bufferCount, h.content⟩

theorem processSppRequest_alike (s : SppSession) (buffer : Nat → UInt8) (r : SppRequest)
    (halike : SppBulk.Alike base other s.bulk c) :
    let first := processSppRequest s r
    let second := processSppRequest ⟨s.handler, c, buffer⟩ r
    second.1.handler = first.1.handler ∧ second.1.sent = first.1.sent ∧
      second.2.2 = first.2.2 ∧ SppBulk.Alike base other first.2.1 second.2.1 := by
  intro first second
  cases hsize : getMessageSize r.header with
  | none =>
      simp only [first, second, processSppRequest, hsize, true_and]
      exact ⟨rfl, halike⟩
  | some size =>
      obtain ⟨hstate, hflow, hbulk⟩ := sppBulkLoop_alike r.enabled r.io r.header size 0
        ⟨{ s.handler with bulkMode := false }, .initial, 0, []⟩ (sppPayload r.header r.buffer)
        halike
      obtain ⟨t, b, flow, hloop, hfirst⟩ := processSppRequest_loop s hsize
      obtain ⟨u, d, flow', hloop', hsecond⟩ :=
        processSppRequest_loop ⟨s.handler, c, buffer⟩ hsize
      rw [hloop] at hstate hflow hbulk
      rw [hloop'] at hstate hflow hbulk
      dsimp only at hstate hflow hbulk
      subst hstate hflow
      simp only [first, second, hfirst, hsecond]
      obtain ⟨hfinished, hstatus, hfinish⟩ := finishBulk_alike r u hbulk
      split
      · exact ⟨rfl, rfl, rfl, hbulk⟩
      split
      · exact ⟨by rw [hfinished], by rw [hfinished], hstatus, hfinish⟩
      split
      · exact ⟨rfl, rfl, rfl, hbulk⟩
      · exact ⟨rfl, rfl, rfl, hbulk⟩

theorem processMessageSpp_alike (enableSpp : Bool) (s : SppSession) (buffer : Nat → UInt8)
    (r : SppRequest) (halike : SppBulk.Alike s.bulk.log c.log s.bulk c) :
    let first := processMessageSpp enableSpp s r
    let second := processMessageSpp enableSpp ⟨s.handler, c, buffer⟩ r
    second.2 = first.2 ∧ second.1.handler = first.1.handler ∧
      SppBulk.Alike first.1.bulk.log second.1.bulk.log first.1.bulk second.1.bulk := by
  intro first second
  simp only [first, second, processMessageSpp]
  split
  · exact ⟨rfl, rfl, halike⟩
  split
  · exact ⟨rfl, rfl, halike⟩
  obtain ⟨hhandler, hsent, hstatus, hbulk⟩ := processSppRequest_alike s buffer r halike
  obtain ⟨records, hfirst, hsecond⟩ := hbulk.log
  refine ⟨?_, hhandler, hbulk.rebase⟩
  simp only [SppSession.packets, hsent, hstatus, hfirst, hsecond, List.drop_left]

end Bulk

end AtScaleDebug
