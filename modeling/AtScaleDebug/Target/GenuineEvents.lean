import AtScaleDebug.Target.BulkCodec

/-!
The events a client receives, against the calls of `GET_EVENT_DATA` they come from. A
session is traced: every call, and what happens to the bulk packet in between. A call that
fails is not told from one that succeeds, and the event buffer is sent with whatever it
holds. Beside that, an event in the bulk packet may be too long for its size byte, may be
wiped out by an `SPP_BULK` that is not answered, and is overtaken by events that are sent
by themselves.
-/

namespace AtScaleDebug

open ByteBuffer

section Trace

/-- What a session does about events: a call of `GET_EVENT_DATA` with the buffer it finds,
an `SPP_BULK` that was answered or not, and the end of a message in bulk mode. -/
inductive TraceItem where
  | call (enabled : Bool) (buffer : List UInt8) (p : PolledIbi)
  | bulk (answered : Bool)
  | finish (written : Bool)

def TraceItem.action : TraceItem → BulkAction
  | .call enabled buffer p => .event enabled (p.event buffer) p.io
  | .bulk answered => if answered then .start else .refused
  | .finish written => .finish written

/-- The call was successful: its device with its data. -/
def TraceItem.fetched : TraceItem → Option BpkEvent
  | .call _ _ p => p.data.map fun bytes =>
      ⟨p.device, bytes.take eventBufferSize, List.length_take_le _ _⟩
  | .bulk _ | .finish _ => none

def Polled.ibi? : Polled → Option PolledIbi
  | .ibi p => some p
  | .quiet | .failed => none

/-- The calls of a drain, as many as it took interrupts. -/
def takenIbis (polled : List Polled) (ibis : List (Fin maxSppBusDevices × SppIbi)) :
    List PolledIbi := (polled.filterMap Polled.ibi?).take ibis.length

/-- The calls share the event buffer. -/
def callTrace (enabled : Bool) : List UInt8 → List PolledIbi → List TraceItem
  | _, [] => []
  | buffer, p :: ps => .call enabled buffer p :: callTrace enabled (p.fill buffer) ps

def drainTrace (enabled : Bool) (polled : List Polled)
    (ibis : List (Fin maxSppBusDevices × SppIbi)) : List TraceItem :=
  callTrace enabled clearEventBuffer (takenIbis polled ibis)

def bulkTrace (flow : SppFlow) : SppCommand → List TraceItem
  | .bulk _ => [.bulk (flow = .next)]
  | _ => []

def sppBulkLoopTrace (enabled : Bool) (io : Nat → SppPollIo) (request : MessageHeader) :
    Nat → Nat → SppState → SppBulk → List UInt8 → List TraceItem
  | 0, _, _, _, _ => []
  | _ + 1, _, _, _, [] => []
  | rounds + 1, k, s, b, byte :: packet =>
      if s.out.responseCnt ≥ maxDataSize then []
      else
        match nextSppCommand s.handler.bulkMode s.bulkAddress (byte :: packet) with
        | (_, none) => []
        | (bulkAddress, some (command, rest)) =>
            let (ibis, b) := drainCommand enabled s.handler b (io k).polled command
            drainTrace enabled (io k).polled ibis ++
              match executeSppCommand ((io k).outcomes request s ibis) request
                { s with bulkAddress } command with
              | (s, .next) =>
                  bulkTrace .next command ++
                    sppBulkLoopTrace enabled io request rounds (k + 1) s
                      (bulkAfter b .next command) rest
              | (_, flow) => bulkTrace flow command

def finishTrace (r : SppRequest) (s : SppState) (b : SppBulk) : List TraceItem :=
  if ha : s.bulkAddress.toNat < maxSppBusDevices then
    let (handshake, autocmd, _) := drainTail r ⟨s.bulkAddress.toNat, ha⟩ s.handler b
    drainTrace r.enabled r.handshake handshake ++ drainTrace r.enabled r.autocmd autocmd ++
      [.finish r.written]
  else []

def requestTrace (s : SppSession) (r : SppRequest) : List TraceItem :=
  let handler := { s.handler with bulkMode := false }
  match getMessageSize r.header with
  | none => []
  | some size =>
      let loop := sppBulkLoopTrace r.enabled r.io r.header size 0 ⟨handler, .initial, 0, []⟩ s.bulk
        (sppPayload r.header r.buffer)
      match sppBulkLoop r.enabled r.io r.header size 0 ⟨handler, .initial, 0, []⟩ s.bulk
        (sppPayload r.header r.buffer) with
      | (_, _, .returned) => loop
      | (t, b, _) => if t.handler.bulkMode then loop ++ finishTrace r t b else loop

def stepTrace (s : SppSession) : SppInput → List TraceItem
  | .message r => requestTrace s r
  | .event enabled p => [.call enabled clearEventBuffer p]
  | .client _ => []

/-- The trace of a session. -/
def sessionTrace : SppSession → List SppInput → List TraceItem
  | _, [] => []
  | s, input :: inputs => stepTrace s input ++ sessionTrace (sppStep s input) inputs

def traceStep (b : SppBulk) (item : TraceItem) : SppBulk := bulkStep b item.action

end Trace

section Faithful

theorem drain_trace (enabled : Bool) (ready : SppHandler → Bool) (exits : Bool)
    (buffer : List UInt8) (h : SppHandler) (b : SppBulk) (polled : List Polled) :
    (drain enabled ready exits buffer h b polled).2 =
      Machine.run traceStep b (callTrace enabled buffer
        (takenIbis polled (drain enabled ready exits buffer h b polled).1)) := by
  induction polled generalizing exits buffer h b with
  | nil => rfl
  | cons p polled ih =>
      cases p with
      | quiet => exact ih exits buffer h b
      | failed => rfl
      | ibi p =>
          have hfirst : traceStep b (.call enabled buffer p) =
              (sendBpkEvent enabled b (p.event buffer) p.io).1 := rfl
          simp only [drain]
          split
          · next t heq =>
              rw [heq] at hfirst
              split
              · exact hfirst.symm
              · refine (ih (exits && !checkSppPrdyEvent (p.event buffer)) (p.fill buffer)
                  (i3cIbiHandler h (p.device, p.kind)) t).trans ?_
                simp only [takenIbis, List.filterMap_cons, Polled.ibi?, List.length_cons,
                  List.take_succ_cons, callTrace, Machine.run_cons, hfirst]
          · next t _ _ heq =>
              rw [heq] at hfirst
              exact hfirst.symm

theorem drainCommand_trace (enabled : Bool) (h : SppHandler) (b : SppBulk) (polled : List Polled)
    (command : SppCommand) :
    (drainCommand enabled h b polled command).2 = Machine.run traceStep b
      (drainTrace enabled polled (drainCommand enabled h b polled command).1) := by
  rw [drainCommand]
  split
  · exact drain_trace enabled _ _ _ _ b polled
  · rfl

theorem bulkAfter_trace (b : SppBulk) (flow : SppFlow) (command : SppCommand) :
    bulkAfter b flow command = Machine.run traceStep b (bulkTrace flow command) := by
  cases command with
  | bulk =>
      cases flow with
      | next | broke | returned => rfl
  | config | send | receive | sendCmd | sendReceiveCmd | setSimData => rfl

theorem sppBulkLoop_trace (enabled : Bool) (io : Nat → SppPollIo) (request : MessageHeader)
    (rounds k : Nat) (s : SppState) (b : SppBulk) (packet : List UInt8) :
    (sppBulkLoop enabled io request rounds k s b packet).2.1 =
      Machine.run traceStep b (sppBulkLoopTrace enabled io request rounds k s b packet) := by
  induction rounds generalizing k s b packet with
  | zero => rfl
  | succ rounds ih =>
      cases packet with
      | nil => rfl
      | cons byte packet =>
          rw [sppBulkLoop, sppBulkLoopTrace]
          split
          · rfl
          generalize nextSppCommand s.handler.bulkMode s.bulkAddress (byte :: packet) = decoded
          obtain ⟨bulkAddress, command⟩ := decoded
          cases command with
          | none => rfl
          | some next =>
              obtain ⟨command, rest⟩ := next
              have hdrain := drainCommand_trace enabled s.handler b (io k).polled command
              dsimp only
              generalize drainCommand enabled s.handler b (io k).polled command = drained
                at hdrain ⊢
              obtain ⟨ibis, drainedBulk⟩ := drained
              dsimp only at hdrain ⊢
              rw [Machine.run_append, ← hdrain]
              generalize executeSppCommand ((io k).outcomes request s ibis) request
                { s with bulkAddress } command = result
              obtain ⟨t, flow⟩ := result
              cases flow with
              | next =>
                  dsimp only
                  rw [Machine.run_append, ← bulkAfter_trace]
                  exact ih (k + 1) t _ rest
              | broke | returned => exact bulkAfter_trace _ _ _

theorem drainTail_trace (r : SppRequest) (device : Fin maxSppBusDevices) (h : SppHandler)
    (b : SppBulk) :
    (drainTail r device h b).2.2 = Machine.run traceStep b
      (drainTrace r.enabled r.handshake (drainTail r device h b).1 ++
        drainTrace r.enabled r.autocmd (drainTail r device h b).2.1) := by
  have hfirst : (if h.thresholdStatus device then drainHandshake r.enabled device h b r.handshake
      else ([], b)).2 = Machine.run traceStep b (drainTrace r.enabled r.handshake
        (if h.thresholdStatus device then drainHandshake r.enabled device h b r.handshake
          else ([], b)).1) := by
    split
    · exact drain_trace r.enabled _ _ _ h b r.handshake
    · rfl
  simp only [drainTail]
  generalize (if h.thresholdStatus device then drainHandshake r.enabled device h b r.handshake
    else ([], b)) = first at hfirst ⊢
  obtain ⟨handshake, t⟩ := first
  dsimp only at hfirst ⊢
  rw [Machine.run_append, ← hfirst]
  split
  · exact drain_trace r.enabled _ _ _ _ t r.autocmd
  · rfl

theorem finishBulk_trace (r : SppRequest) (s : SppState) (b : SppBulk) :
    (finishBulk r s b).2.1 = Machine.run traceStep b (finishTrace r s b) := by
  rw [finishBulk, finishTrace]
  split
  · next ha =>
      have htail := drainTail_trace r ⟨s.bulkAddress.toNat, ha⟩ s.handler b
      generalize drainTail r ⟨s.bulkAddress.toNat, ha⟩ s.handler b = tail at htail ⊢
      obtain ⟨handshake, autocmd, t⟩ := tail
      dsimp only at htail ⊢
      rw [Machine.run_append, ← htail]
      rfl
  · rfl

theorem processSppRequest_trace (s : SppSession) (r : SppRequest) :
    (processSppRequest s r).2.1 = Machine.run traceStep s.bulk (requestTrace s r) := by
  rw [processSppRequest, requestTrace]
  cases getMessageSize r.header with
  | none => rfl
  | some size =>
      have hloop := sppBulkLoop_trace r.enabled r.io r.header size 0
        ⟨{ s.handler with bulkMode := false }, .initial, 0, []⟩ s.bulk
        (sppPayload r.header r.buffer)
      dsimp only
      generalize sppBulkLoop r.enabled r.io r.header size 0
        ⟨{ s.handler with bulkMode := false }, .initial, 0, []⟩ s.bulk
        (sppPayload r.header r.buffer) = result at hloop ⊢
      obtain ⟨t, b, flow⟩ := result
      cases flow with
      | returned => exact hloop
      | next | broke =>
          dsimp only at hloop ⊢
          by_cases hmode : t.handler.bulkMode = true
          · rw [if_pos hmode, if_pos hmode, Machine.run_append, ← hloop]
            exact finishBulk_trace r t b
          · rw [if_neg hmode, if_neg hmode, ← hloop]
            rfl

theorem sppStep_trace (s : SppSession) (input : SppInput) :
    (sppStep s input).bulk = Machine.run traceStep s.bulk (stepTrace s input) := by
  cases input with
  | message r => exact processSppRequest_trace s r
  | event | client => rfl

/-- The trace says all that happens to the bulk packet and to its log. -/
theorem session_trace (s : SppSession) (inputs : List SppInput) :
    (Machine.run sppStep s inputs).bulk = Machine.run traceStep s.bulk (sessionTrace s inputs) := by
  induction inputs generalizing s with
  | nil => rfl
  | cons input inputs ih =>
      rw [Machine.run_cons, ih, sppStep_trace, sessionTrace, Machine.run_append]

end Faithful

section Received

def decodeAlone : List UInt8 → Option (List BpkEvent)
  | addr :: data =>
      if haddr : addr.toNat < maxSppBusDevices then
        if hdata : data.length ≤ eventBufferSize then some [⟨⟨addr.toNat, haddr⟩, data, hdata⟩]
        else none
      else none
  | [] => none

/-- The events in the payload of an event packet; an empty payload has none. -/
def decodeEvents : List UInt8 → Option (List BpkEvent)
  | [] => some []
  | kind :: bytes => if kind = asdEventBpk then decodeAlone bytes else decodeBulk (kind :: bytes)

/-- The events that the client reads off the packets, in the order in which it gets them. -/
def receivedEvents : List Packet → Option (List BpkEvent)
  | [] => some []
  | p :: packets =>
      (decodeEvents p.2).bind fun events => (receivedEvents packets).map (events ++ ·)

def SppBulk.received (b : SppBulk) : Option (List BpkEvent) :=
  receivedEvents (b.log.filterMap BulkRecord.packet?)

theorem receivedEvents_append {packets more : List Packet} {first second : List BpkEvent}
    (hfirst : receivedEvents packets = some first) (hsecond : receivedEvents more = some second) :
    receivedEvents (packets ++ more) = some (first ++ second) := by
  induction packets generalizing first with
  | nil =>
      cases hfirst
      exact hsecond
  | cons p packets ih =>
      rw [receivedEvents] at hfirst
      obtain ⟨events, hevents, hmap⟩ := Option.bind_eq_some_iff.mp hfirst
      obtain ⟨rest, hrest, rfl⟩ := Option.map_eq_some_iff.mp hmap
      rw [List.cons_append, receivedEvents, hevents, ih hrest]
      exact congrArg some (List.append_assoc events rest second).symm

theorem decodeEvents_packet (e : BpkEvent) : decodeEvents e.packet.2 = some [e] := by
  have haddr := e.toNat_addr
  rw [BpkEvent.packet, decodeEvents, if_pos rfl, decodeAlone,
    dif_pos (by rw [haddr]; exact e.addr.isLt), dif_pos e.fits]
  obtain ⟨addr, data, fits⟩ := e
  simp only [haddr]

theorem decodeEvents_of_bulk {payload : List UInt8} {events : List BpkEvent}
    (h : decodeBulk payload = some events) : decodeEvents payload = some events := by
  cases payload with
  | nil => cases h
  | cons kind bytes =>
      rw [decodeEvents]
      split
      · next hkind =>
          subst hkind
          cases bytes with
          | nil => cases h
          | cons count bytes => cases h
      · exact h

/-- A record at the end of the log adds the events of its packet. -/
theorem received_record {b t : SppBulk} {r : BulkRecord} {received : List BpkEvent}
    (events : List BpkEvent) (hlog : t.log = b.log ++ [r]) (hreceived : b.received = some received)
    (hpacket : receivedEvents r.packet?.toList = some events) :
    t.received = some (received ++ events) := by
  rw [SppBulk.received, hlog, List.filterMap_append]
  refine receivedEvents_append hreceived ?_
  rw [← hpacket]
  cases hr : r.packet? with
  | none => simp [hr]
  | some p => simp [hr]

end Received

section Genuine

/-- No call fails, an event that goes into the bulk packet has at most 255 bytes, one that
is sent by itself does not overtake any in the packet, and no `SPP_BULK` that is not
answered comes while there are some in it. -/
def TraceItem.Genuine (b : SppBulk) : TraceItem → Prop
  | .call enabled buffer p =>
      p.data.isSome ∧
        if Stores b (p.event buffer) enabled then (p.event buffer).data.length ≤ 255
        else b.ibiCount = 0
  | .bulk answered => answered = false → b.ibiCount = 0
  | .finish _ => True

instance (b : SppBulk) : (item : TraceItem) → Decidable (item.Genuine b)
  | .call _ _ _ => inferInstanceAs (Decidable (_ ∧ ite _ _ _))
  | .bulk _ => inferInstanceAs (Decidable (_ → _))
  | .finish _ => inferInstanceAs (Decidable True)

/-- The events received and those in the bulk packet were fetched in this order. -/
structure Delivers (b : SppBulk) (fetched pending : List BpkEvent) : Prop where
  collected : b.bufferCount = 0 ∧ b.ibiCount = 0 ∧ pending = [] ∨ b.Holds pending
  short : ∀ e ∈ pending, e.data.length ≤ 255
  count : b.bufferCount ≤ maxDataSize + 1
  ordered : ∃ received, b.received = some received ∧ (received ++ pending).Sublist fetched

variable {b t : SppBulk} {fetched pending : List BpkEvent}

theorem Delivers.ibiCount (h : Delivers b fetched pending) : b.ibiCount = pending.length := by
  obtain ⟨_, hcount, rfl⟩ | hholds := h.collected
  · exact hcount
  · exact hholds.ibiCount

theorem Delivers.pending_nil (h : Delivers b fetched pending) (hcount : b.ibiCount = 0) :
    pending = [] := List.eq_nil_of_length_eq_zero (h.ibiCount.symm.trans hcount)

/-- The bulk packet as the client reads it: all that is in it, or nothing when it is
refused. -/
theorem Delivers.packet (h : Delivers b fetched pending) :
    ∃ events, receivedEvents b.packet.packet?.toList = some events ∧ events.Sublist pending := by
  rw [SppBulk.packet, BulkRecord.packet?, getMessageSize_eventHeader h.count]
  by_cases hfits : b.bufferCount ≤ maxDataSize
  · rw [if_pos hfits]
    simp only [Option.isSome_some, if_true, Option.toList_some, Option.getD_some, receivedEvents]
    obtain ⟨hcount, _, rfl⟩ | hholds := h.collected
    · rw [hcount]
      exact ⟨[], rfl, List.Sublist.refl []⟩
    · rw [decodeEvents_of_bulk (decodeBulk_of_holds hholds h.short)]
      exact ⟨pending, by simp, List.Sublist.refl pending⟩
  · rw [if_neg hfits]
    exact ⟨[], rfl, List.nil_sublist pending⟩

theorem Delivers.start (h : Delivers b fetched pending) :
    Delivers (bulkStep b .start) fetched [] := by
  obtain ⟨received, hreceived, hsub⟩ := h.ordered
  have hholds := holds_restart b.clear
  refine ⟨.inr ⟨hholds.bytes, hholds.ibiCount, hholds.few⟩, List.forall_mem_nil _,
    show 2 ≤ maxDataSize + 1 by decide, received, ?_, ?_⟩
  · have hrecord := received_record (t := bulkStep b .start) (r := .started) [] rfl hreceived
      rfl
    rwa [List.append_nil] at hrecord
  · rw [List.append_nil]
    exact (List.sublist_append_left received pending).trans hsub

theorem Delivers.refused (h : Delivers b fetched pending) (hcount : b.ibiCount = 0) :
    Delivers (bulkStep b .refused) fetched [] := by
  obtain rfl := h.pending_nil hcount
  refine ⟨?_, h.short, h.count, h.ordered⟩
  obtain ⟨hzero, _, _⟩ | hholds := h.collected
  · exact .inl ⟨hzero, hcount, rfl⟩
  · refine .inr ⟨⟨slice (fun _ => 0) 0 2, length_slice _ _ _, ?_⟩, hcount, Nat.zero_le _⟩
    change slice (fun _ => 0) 0 b.bufferCount = _
    rw [hholds.count_of_nil]
    exact (List.append_nil _).symm

/-- What the client has received once the bulk packet is sent. -/
theorem Delivers.shipped (h : Delivers b fetched pending) {t : SppBulk}
    (hlog : t.log = b.log ++ [b.packet]) :
    ∃ received, t.received = some received ∧ (received ++ []).Sublist fetched := by
  obtain ⟨received, hreceived, hsub⟩ := h.ordered
  obtain ⟨events, hevents, hpending⟩ := h.packet
  refine ⟨received ++ events, received_record _ hlog hreceived hevents, ?_⟩
  rw [List.append_nil]
  exact (List.Sublist.append (List.Sublist.refl received) hpending).trans hsub

theorem Delivers.finish (h : Delivers b fetched pending) (written : Bool) :
    Delivers (bulkStep b (.finish written)) fetched [] :=
  ⟨.inl ⟨rfl, rfl, rfl⟩, List.forall_mem_nil _, Nat.zero_le _, h.shipped rfl⟩

theorem Delivers.alone (h : Delivers b fetched pending) (hcount : b.ibiCount = 0) (e : BpkEvent) :
    Delivers (b.record (.alone e)) (fetched ++ [e]) [] := by
  obtain rfl := h.pending_nil hcount
  obtain ⟨received, hreceived, hsub⟩ := h.ordered
  rw [List.append_nil] at hsub
  refine ⟨?_, h.short, h.count, received ++ [e], ?_, ?_⟩
  · exact h.collected.imp id fun hholds => ⟨hholds.bytes, hholds.ibiCount, hholds.few⟩
  · refine received_record _ (record_log b (.alone e)) hreceived ?_
    rw [BulkRecord.packet?, Option.toList_some, receivedEvents, decodeEvents_packet]
    rfl
  · rw [List.append_nil]
    exact List.Sublist.append hsub (List.Sublist.refl [e])

theorem Delivers.save (h : Delivers b fetched pending) (hholds : b.Holds pending) {e : BpkEvent}
    (hroom : ¬ MakesRoom b e) (hshort : e.data.length ≤ 255) :
    Delivers (b.save e) (fetched ++ [e]) (pending ++ [e]) := by
  simp only [MakesRoom, not_or, not_le] at hroom
  have hfew : b.ibiCount < sppBulkResponseIbiMaxCount := by
    have hle := hholds.few
    rw [← hholds.ibiCount] at hle
    omega
  obtain ⟨received, hreceived, hsub⟩ := h.ordered
  refine ⟨.inr (hholds.save e hfew), fun f hf => ?_, ?_, received, ?_, ?_⟩
  · obtain hf | hf := List.mem_append.mp hf
    · exact h.short f hf
    · rw [List.mem_singleton.mp hf]
      exact hshort
  · rw [save_bufferCount]
    omega
  · have hrecord := received_record (t := b.save e) [] (save_log b e) hreceived rfl
    rwa [List.append_nil] at hrecord
  · rw [← List.append_assoc]
    exact List.Sublist.append hsub (List.Sublist.refl [e])

/-- The packet is sent to make room. -/
theorem Delivers.flush (h : Delivers b fetched pending) (flushed : Bool) :
    Delivers (sendBulkBpkEvent b flushed).1.restart fetched [] :=
  ⟨.inr (holds_restart _), List.forall_mem_nil _, show 2 ≤ maxDataSize + 1 by decide, h.shipped rfl⟩

theorem Delivers.event (h : Delivers b fetched pending) (enabled : Bool) (e : BpkEvent) (io : BpkIo)
    (hgenuine : if Stores b e enabled then e.data.length ≤ 255 else b.ibiCount = 0) :
    ∃ pending, Delivers (bulkStep b (.event enabled e io)) (fetched ++ [e]) pending := by
  have hroom : ¬ MakesRoom (sendBulkBpkEvent b io.flushed).1.restart e := by
    have hfits := e.fits
    simp only [MakesRoom, SppBulk.restart, maxDataSize, sppBulkResponseIbiMaxCount, not_or]
    rw [eventBufferSize] at hfits
    omega
  obtain ⟨hstores, _, heq⟩ | ⟨hstores, hnot, heq⟩ | ⟨hstores, heq⟩ :=
    sendBpkEvent_cases b e enabled io
  · rw [if_pos hstores] at hgenuine
    rw [bulkStep, heq]
    exact ⟨_, (h.flush io.flushed).save (holds_restart _) hroom hgenuine⟩
  · rw [if_pos hstores] at hgenuine
    have hholds : b.Holds pending := h.collected.resolve_left fun hzero => by
      have hpositive := hstores.2.2
      omega
    rw [bulkStep, heq]
    exact ⟨_, h.save hholds hnot hgenuine⟩
  · rw [if_neg hstores] at hgenuine
    rw [bulkStep, heq]
    exact ⟨_, h.alone hgenuine e⟩

/-- A successful call does not depend on what the buffer held. -/
theorem fetched_call {enabled : Bool} {buffer : List UInt8} {p : PolledIbi}
    (h : p.data.isSome) : TraceItem.fetched (.call enabled buffer p) = some (p.event buffer) := by
  rw [TraceItem.fetched]
  obtain ⟨bytes, hbytes⟩ := Option.isSome_iff_exists.mp h
  simp only [hbytes, Option.map_some, PolledIbi.event, Option.getD_some]

theorem Delivers.item (h : Delivers b fetched pending) {item : TraceItem}
    (hgenuine : item.Genuine b) :
    ∃ pending, Delivers (traceStep b item) (fetched ++ item.fetched.toList) pending := by
  cases item with
  | call enabled buffer p =>
      rw [fetched_call hgenuine.1]
      exact h.event enabled (p.event buffer) p.io hgenuine.2
  | bulk answered =>
      rw [TraceItem.fetched, Option.toList_none, List.append_nil]
      cases answered with
      | true => exact ⟨[], h.start⟩
      | false => exact ⟨[], h.refused (hgenuine rfl)⟩
  | finish written =>
      rw [TraceItem.fetched, Option.toList_none, List.append_nil]
      exact ⟨[], h.finish written⟩

theorem Delivers.trace (h : Delivers b fetched pending) {items : List TraceItem}
    (hgenuine : Machine.Meets traceStep TraceItem.Genuine b items) :
    ∃ pending, Delivers (Machine.run traceStep b items)
      (fetched ++ items.filterMap TraceItem.fetched) pending := by
  induction items generalizing b fetched pending with
  | nil =>
      rw [List.filterMap_nil, List.append_nil]
      exact ⟨pending, h⟩
  | cons item items ih =>
      obtain ⟨pending, hitem⟩ := h.item hgenuine.1
      obtain ⟨pending, hrest⟩ := ih hitem hgenuine.2
      refine ⟨pending, ?_⟩
      rw [Machine.run_cons]
      convert hrest using 1
      rw [List.append_assoc, List.filterMap_cons]
      cases item.fetched with
      | none => rfl
      | some e => rfl

theorem delivers_initial : Delivers .initial [] [] :=
  ⟨.inl ⟨rfl, rfl, rfl⟩, by rintro e ⟨⟩, Nat.zero_le _, [], rfl, List.Sublist.refl []⟩

/-- In every session whose calls and bulk packets meet the condition, the client reads
events off all packets, and they are the data of successful calls, each of its own and in
their order. -/
theorem bpk_events_genuine (handler : SppHandler) (buffer : Nat → UInt8) (inputs : List SppInput)
    (hgenuine : Machine.Meets traceStep TraceItem.Genuine .initial
      (sessionTrace ⟨handler, .initial, buffer⟩ inputs)) :
    ∃ received,
      (Machine.run sppStep ⟨handler, .initial, buffer⟩ inputs).bulk.received = some received ∧
        received.Sublist
          ((sessionTrace ⟨handler, .initial, buffer⟩ inputs).filterMap TraceItem.fetched) := by
  obtain ⟨pending, hdelivers⟩ := delivers_initial.trace hgenuine
  obtain ⟨received, hreceived, hsub⟩ := hdelivers.ordered
  refine ⟨received, ?_, (List.sublist_append_left received pending).trans hsub⟩
  rw [session_trace]
  exact hreceived

/-- One event with its data. -/
theorem bpk_events_genuine_data_ready :
    let s : SppSession := ⟨awaitingHandler, .initial, fun _ => 0⟩
    let inputs := [.event false ⟨firstDevice, some [sppIbiDataReady, 0, 0x11], ⟨true, true⟩⟩]
    Machine.Meets traceStep TraceItem.Genuine .initial (sessionTrace s inputs) ∧
      ∃ received, (Machine.run sppStep s inputs).bulk.received = some received ∧
        received.Sublist ((sessionTrace s inputs).filterMap TraceItem.fetched) :=
  ⟨by decide, bpk_events_genuine awaitingHandler (fun _ => 0) _ (by decide)⟩

/-- The data of the only event cannot be read: the client receives an event of 512 zero
bytes, and no call was successful. -/
theorem bpk_event_invented :
    let s : SppSession := ⟨awaitingHandler, .initial, fun _ => 0⟩
    let inputs := [.event false ⟨firstDevice, none, ⟨true, true⟩⟩]
    (Machine.run sppStep s inputs).bulk.received =
        some [⟨firstDevice, clearEventBuffer, Nat.le_of_eq List.length_replicate⟩] ∧
      (sessionTrace s inputs).filterMap TraceItem.fetched = [] := by
  decide +kernel

end Genuine

end AtScaleDebug
