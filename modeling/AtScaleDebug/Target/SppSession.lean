import AtScaleDebug.Target.SppBulk
import AtScaleDebug.Target.SppMessage

/-!
Streaming probe messages together with the events that arrive while they are
processed. A command that has to wait for a handshake drains the interrupts of all
devices; each of them is an event that is stored in the bulk packet or sent by itself.
What is drained is decided by what the polls find, and the processing of the commands
is the one of `SppMessage` with exactly these interrupts.
-/

namespace AtScaleDebug

open ByteBuffer

section Drain

/-- An interrupt that a poll finds: what `GET_EVENT_DATA` stores, or `none` when it
fails, and the writes of its event. -/
structure PolledIbi where
  device : Fin maxSppBusDevices
  data : Option (List UInt8)
  io : BpkIo

/-- One call of `target_event` on a polled descriptor. The list of them ends with the
poll that times out. -/
inductive Polled where
  | quiet
  | failed
  | ibi (p : PolledIbi)

def clearEventBuffer : List UInt8 := List.replicate eventBufferSize 0

/-- The event buffer as the interrupt leaves it. -/
def PolledIbi.fill (p : PolledIbi) (buffer : List UInt8) : List UInt8 :=
  match p.data with
  | some bytes => bytes.take eventBufferSize ++ buffer.drop (bytes.take eventBufferSize).length
  | none => buffer

/-- The event. When its data cannot be read the whole buffer is taken for it, with
whatever it holds. -/
def PolledIbi.event (p : PolledIbi) (buffer : List UInt8) : BpkEvent where
  addr := p.device
  data := (p.data.getD buffer).take eventBufferSize
  fits := List.length_take_le _ _

/-- What the handler makes of the interrupt. -/
def PolledIbi.kind (p : PolledIbi) : SppIbi :=
  match p.data with
  | some (reason :: subreason :: _) =>
      if subreason ≠ sppIbiSubreasonBufferThreshold then .other
      else if reason = sppIbiStatusChanged then .statusChanged
      else if reason = sppIbiDataReady then .dataReady
      else .other
  | _ => .other

/-- The loop of `asd_msg_check_spp_ibi` and of `asd_msg_check_spp_ibi_data`, which
differ in what they wait for: the interrupts it takes and the bulk packet after them.
A PRDY event makes it go on past the handshake. -/
def drain (enabled : Bool) (ready : SppHandler → Bool) :
    Bool → List UInt8 → SppHandler → SppBulk → List Polled →
      List (Fin maxSppBusDevices × SppIbi) × SppBulk
  | _, _, _, b, [] => ([], b)
  | exits, buffer, h, b, .quiet :: polled => drain enabled ready exits buffer h b polled
  | _, _, _, b, .failed :: _ => ([], b)
  | exits, buffer, h, b, .ibi p :: polled =>
      let ibi := (p.device, p.kind)
      let h := i3cIbiHandler h ibi
      let exits := exits && !checkSppPrdyEvent (p.event buffer)
      match sendBpkEvent enabled b (p.event buffer) p.io with
      | (b, .ok) =>
          if ready h && exits then ([ibi], b)
          else
            let (ibis, b) := drain enabled ready exits (p.fill buffer) h b polled
            (ibi :: ibis, b)
      | (b, _) => ([ibi], b)

def drainHandshake (enabled : Bool) (device : Fin maxSppBusDevices) (h : SppHandler)
    (b : SppBulk) (polled : List Polled) : List (Fin maxSppBusDevices × SppIbi) × SppBulk :=
  drain enabled (fun h => !h.thresholdStatus device) true clearEventBuffer h b polled

def drainAutocmd (enabled : Bool) (device : Fin maxSppBusDevices) (h : SppHandler)
    (b : SppBulk) (polled : List Polled) : List (Fin maxSppBusDevices × SppIbi) × SppBulk :=
  drain enabled (fun h => h.bulkAutocmdCount device = 0) true clearEventBuffer h b polled

end Drain

section Commands

/-- The outcomes of a command; the interrupts it drains are those it takes off `polled`,
and `io.delivered` is whether the socket takes the answer of an `SPP_BULK`. -/
structure SppPollIo where
  io : SppIo
  polled : List Polled

/-- `send_response` does not refuse a response of this length. -/
def announces (request : MessageHeader) (responseCnt : Nat) : Bool :=
  (getMessageSize { request with
    sizeLsb := lsbFromMsgSize responseCnt
    sizeMsb := msbFromMsgSize responseCnt
    cmdStat := 0 }).isSome

/-- The answer of an `SPP_BULK` that is executed in the given state can be sent. -/
def SppPollIo.answers (p : SppPollIo) (request : MessageHeader) (s : SppState) : Bool :=
  p.io.delivered && announces request (s.out.responseCnt + 2)

def SppPollIo.outcomes (p : SppPollIo) (request : MessageHeader) (s : SppState)
    (ibis : List (Fin maxSppBusDevices × SppIbi)) : SppIo :=
  { p.io with ibis, delivered := p.answers request s }

/-- The handler with the device selected on which the command waits for a handshake. -/
def waitingHandler (h : SppHandler) : SppCommand → Option SppHandler
  | .send address _ _ _ | .sendCmd address _ _ _ _ | .sendReceiveCmd address _ _ _ _ _ _ =>
      (sppDeviceSelect h address.toNat).filter fun h => h.thresholdStatus h.deviceIndex
  | _ => none

def drainCommand (enabled : Bool) (h : SppHandler) (b : SppBulk) (polled : List Polled)
    (command : SppCommand) : List (Fin maxSppBusDevices × SppIbi) × SppBulk :=
  match waitingHandler h command with
  | some h => drainHandshake enabled h.deviceIndex h b polled
  | none => ([], b)

/-- An `SPP_BULK` starts a new bulk packet, unless its answer cannot be sent. -/
def bulkAfter (b : SppBulk) (flow : SppFlow) : SppCommand → SppBulk
  | .bulk _ => bulkStep b (if flow = .next then .start else .refused)
  | _ => b

/-- The command loop with the bulk packet. -/
def sppBulkLoop (enabled : Bool) (io : Nat → SppPollIo) (request : MessageHeader) :
    Nat → Nat → SppState → SppBulk → List UInt8 → SppState × SppBulk × SppFlow
  | 0, _, s, b, _ => (s, b, .next)
  | _ + 1, _, s, b, [] => (s, b, .next)
  | rounds + 1, k, s, b, byte :: packet =>
      if s.out.responseCnt ≥ maxDataSize then (s, b, .broke)
      else
        match nextSppCommand s.handler.bulkMode s.bulkAddress (byte :: packet) with
        | (bulkAddress, none) => ({ s with bulkAddress }, b, .broke)
        | (bulkAddress, some (command, rest)) =>
            let (ibis, b) := drainCommand enabled s.handler b (io k).polled command
            match executeSppCommand ((io k).outcomes request s ibis) request
              { s with bulkAddress } command with
            | (s, .next) =>
                sppBulkLoop enabled io request rounds (k + 1) s (bulkAfter b .next command) rest
            | (s, flow) => (s, bulkAfter b flow command, flow)

/-- What a round of the loop can do: the response is full, there is no command to be
read, or the command is executed. -/
theorem sppBulkLoop_round (enabled : Bool) (io : Nat → SppPollIo) (request : MessageHeader)
    (rounds k : Nat) (s : SppState) (b : SppBulk) (byte : UInt8) (packet : List UInt8) :
    (maxDataSize ≤ s.out.responseCnt ∧
      sppBulkLoop enabled io request (rounds + 1) k s b (byte :: packet) = (s, b, .broke)) ∨
    (∃ bulkAddress, s.out.responseCnt < maxDataSize ∧
      nextSppCommand s.handler.bulkMode s.bulkAddress (byte :: packet) = (bulkAddress, none) ∧
      sppBulkLoop enabled io request (rounds + 1) k s b (byte :: packet) =
        ({ s with bulkAddress }, b, .broke)) ∨
    ∃ bulkAddress command rest t flow, s.out.responseCnt < maxDataSize ∧
      nextSppCommand s.handler.bulkMode s.bulkAddress (byte :: packet) =
        (bulkAddress, some (command, rest)) ∧
      executeSppCommand ((io k).outcomes request s
        (drainCommand enabled s.handler b (io k).polled command).1) request { s with bulkAddress }
        command = (t, flow) ∧
      sppBulkLoop enabled io request (rounds + 1) k s b (byte :: packet) =
        if flow = .next then
          sppBulkLoop enabled io request rounds (k + 1) t
            (bulkAfter (drainCommand enabled s.handler b (io k).polled command).2 .next command)
            rest
        else
          (t, bulkAfter (drainCommand enabled s.handler b (io k).polled command).2 flow command,
            flow) := by
  simp only [sppBulkLoop]
  split
  · next hfull => exact .inl ⟨hfull, rfl⟩
  · next hroom =>
      have hroom : s.out.responseCnt < maxDataSize := Nat.lt_of_not_le hroom
      split
      · next bulkAddress hnext => exact .inr (.inl ⟨bulkAddress, hroom, hnext, rfl⟩)
      · next bulkAddress command rest hnext =>
          split
          · next t hexecute =>
              exact .inr (.inr ⟨bulkAddress, command, rest, t, .next, hroom, hnext, hexecute, rfl⟩)
          · next t flow hflow hexecute =>
              refine .inr (.inr ⟨bulkAddress, command, rest, t, flow, hroom, hnext, hexecute, ?_⟩)
              rw [if_neg hflow]

end Commands

section Message

/-- A message with the outcomes of every call it leads to. `written` is for the last
packet, which in bulk mode is the bulk packet. -/
structure SppRequest where
  header : MessageHeader
  buffer : Nat → UInt8
  enabled : Bool
  io : Nat → SppPollIo
  handshake : List Polled
  autocmd : List Polled
  written : Bool

/-- Outcomes with nothing but the given interrupts. -/
def SppIo.draining (ibis : List (Fin maxSppBusDevices × SppIbi)) : SppIo :=
  ⟨ibis, false, none, none, false, false, false⟩

/-- The two waits at the end of a message in bulk mode: for the last handshake and for
the data of the last automatic command. -/
def drainTail (r : SppRequest) (device : Fin maxSppBusDevices) (h : SppHandler) (b : SppBulk) :
    List (Fin maxSppBusDevices × SppIbi) × List (Fin maxSppBusDevices × SppIbi) × SppBulk :=
  let (handshake, b) :=
    if h.thresholdStatus device then drainHandshake r.enabled device h b r.handshake else ([], b)
  let h := handshake.foldl i3cIbiHandler h
  let (autocmd, b) :=
    if h.bulkAutocmdCount device ≠ 0 then drainAutocmd r.enabled device h b r.autocmd
    else ([], b)
  (handshake, autocmd, b)

/-- The end of a message in bulk mode. The bulk address is always in range. -/
def finishBulk (r : SppRequest) (s : SppState) (b : SppBulk) : SppState × SppBulk × Status :=
  if ha : s.bulkAddress.toNat < maxSppBusDevices then
    let (handshake, autocmd, b) := drainTail r ⟨s.bulkAddress.toNat, ha⟩ s.handler b
    let status := (sendBulkBpkEvent b r.written).2
    let (s, status) := sppBulkTail ⟨.draining handshake, .draining autocmd, status = .ok⟩ s
    (s, bulkStep b (.finish r.written), status)
  else
    let (s, status) := sppBulkTail ⟨.draining [], .draining [], false⟩ s
    (s, b, status)

/-- What a session keeps between messages. -/
structure SppSession where
  handler : SppHandler
  bulk : SppBulk
  buffer : Nat → UInt8

/-- `process_spp_message`. -/
def processSppRequest (s : SppSession) (r : SppRequest) : SppState × SppBulk × Status :=
  let handler := { s.handler with bulkMode := false }
  match getMessageSize r.header with
  | none => (⟨handler, ⟨s.buffer, 0, [], []⟩, 0, []⟩, s.bulk, .err)
  | some size =>
      match sppBulkLoop r.enabled r.io r.header size 0 ⟨handler, .initial, 0, []⟩ s.bulk
        (sppPayload r.header r.buffer) with
      | (t, b, .returned) => (t, b, .err)
      | (t, b, flow) =>
          if t.handler.bulkMode then finishBulk r t b
          else if flow = .next then
            (t.respond r.header, b,
              if r.written && announces r.header t.out.responseCnt then .ok else .err)
          else (t, b, .err)

/-- A message of a known size, by the result of its command loop. -/
theorem processSppRequest_loop (s : SppSession) {r : SppRequest} {size : Nat}
    (hsize : getMessageSize r.header = some size) :
    ∃ t b flow, sppBulkLoop r.enabled r.io r.header size 0
        ⟨{ s.handler with bulkMode := false }, .initial, 0, []⟩ s.bulk
        (sppPayload r.header r.buffer) = (t, b, flow) ∧
      processSppRequest s r =
        if flow = .returned then (t, b, .err)
        else if t.handler.bulkMode then finishBulk r t b
        else if flow = .next then
          (t.respond r.header, b,
            if r.written && announces r.header t.out.responseCnt then .ok else .err)
        else (t, b, .err) := by
  obtain ⟨⟨t, b, flow⟩, hloop⟩ : ∃ result, sppBulkLoop r.enabled r.io r.header size 0
    ⟨{ s.handler with bulkMode := false }, .initial, 0, []⟩ s.bulk
    (sppPayload r.header r.buffer) = result := ⟨_, rfl⟩
  refine ⟨t, b, flow, hloop, ?_⟩
  simp only [processSppRequest, hsize, hloop]
  cases flow with
  | next | broke | returned => rfl

/-- The packet that `send_response` makes of an event or of a bulk packet. -/
def BulkRecord.packet? : BulkRecord → Option Packet
  | .packed _ header payload =>
      if (getMessageSize header).isSome then some (header, payload) else none
  | .alone e => some e.packet
  | .started | .saved _ _ => none

/-- The responses that `send_response` does not refuse. -/
def SppState.sent (s : SppState) : List Packet :=
  s.responses.filter fun p => (getMessageSize p.1).isSome

/-- What a message that is processed in `s` sends: its responses and the events that
arrive meanwhile. -/
def SppSession.packets (s : SppSession) (t : SppState) (b : SppBulk) : List Packet :=
  t.sent ++ (b.log.drop s.bulk.log.length).filterMap BulkRecord.packet?

/-- The commands that `process_message` lets through. -/
def Supported (header : MessageHeader) : Prop :=
  header.cmdStat = 0 ∨ header.cmdStat = 0x80 ∨ header.cmdStat = 1

theorem not_supported_iff {header : MessageHeader} :
    (header.cmdStat ≠ 0 ∧ header.cmdStat ≠ 0x80 ∧ header.cmdStat ≠ 1) ↔ ¬ Supported header := by
  simp only [Supported, not_or, ne_eq]

/-- The SPP part of `process_message`. There is no answer when SPP is not enabled. -/
def processMessageSpp (enableSpp : Bool) (s : SppSession) (r : SppRequest) :
    SppSession × List Packet :=
  if r.header.cmdStat ≠ 0 ∧ r.header.cmdStat ≠ 0x80 ∧ r.header.cmdStat ≠ 1 then
    (s, [errorMessage r.header asdMsgNotSupported])
  else if !enableSpp then (s, [])
  else
    let (t, b, status) := processSppRequest s r
    let failed := if status = .ok then [] else [errorMessage r.header asdFailureProcessSppMsg]
    (⟨t.handler, b, t.out.buffer⟩, s.packets t b ++ failed)

/-- What reaches a session: a message, an event between two messages, or the next
client, for whom the handler is made anew while the globals stay. -/
inductive SppInput where
  | message (r : SppRequest)
  | event (enabled : Bool) (p : PolledIbi)
  | client (handler : SppHandler)

def sppStep (s : SppSession) : SppInput → SppSession
  | .message r =>
      let (t, b, _) := processSppRequest s r
      ⟨t.handler, b, t.out.buffer⟩
  | .event enabled p =>
      { s with
        handler := i3cIbiHandler s.handler (p.device, p.kind)
        bulk := (sendBpkEvent enabled s.bulk (p.event clearEventBuffer) p.io).1 }
  | .client handler => { s with handler }

end Message

section Projection

theorem sppLoop_congr {first second : Nat → SppIo} (request : MessageHeader) (rounds k : Nat)
    (s : SppState) (packet : List UInt8) (h : ∀ j, k ≤ j → first j = second j) :
    sppLoop first request rounds k s packet = sppLoop second request rounds k s packet := by
  induction rounds generalizing k s packet with
  | zero => rfl
  | succ rounds ih =>
      cases packet with
      | nil => rfl
      | cons byte packet =>
          simp only [sppLoop, h k (Nat.le_refl k)]
          split
          · rfl
          split
          · rfl
          · split
            · exact ih (k + 1) _ _ fun j hj => h j (Nat.le_of_succ_le hj)
            · rfl

/-- Without the bulk packet the loop is that of `SppMessage`. -/
theorem sppBulkLoop_fst (enabled : Bool) (io : Nat → SppPollIo) (request : MessageHeader)
    (rounds k : Nat) (s : SppState) (b : SppBulk) (packet : List UInt8) :
    ∃ outcomes, sppLoop outcomes request rounds k s packet =
      ((sppBulkLoop enabled io request rounds k s b packet).1,
        (sppBulkLoop enabled io request rounds k s b packet).2.2) := by
  induction rounds generalizing k s b packet with
  | zero => exact ⟨fun j => (io j).io, rfl⟩
  | succ rounds ih =>
      cases packet with
      | nil => exact ⟨fun j => (io j).io, rfl⟩
      | cons byte packet =>
          obtain ⟨hfull, hround⟩ | ⟨_, hroom, hnext, hround⟩ |
            ⟨bulkAddress, command, rest, t, flow, hroom, hnext, hexecute, hround⟩ :=
            sppBulkLoop_round enabled io request rounds k s b byte packet
          · exact ⟨fun j => (io j).io, by rw [hround, sppLoop, if_pos hfull]⟩
          · refine ⟨fun j => (io j).io, ?_⟩
            simp only [hround, sppLoop, if_neg (Nat.not_le.mpr hroom), hnext]
          · obtain ⟨outcomes, hrest⟩ := ih (k + 1) t
              (bulkAfter (drainCommand enabled s.handler b (io k).polled command).2 .next command)
              rest
            refine ⟨fun j => if j = k then (io k).outcomes request s
              (drainCommand enabled s.handler b (io k).polled command).1 else outcomes j, ?_⟩
            simp only [hround, sppLoop, if_neg (Nat.not_le.mpr hroom), hnext, if_true, hexecute]
            cases flow with
            | next =>
                rw [if_pos rfl, ← hrest]
                refine sppLoop_congr request rounds (k + 1) t rest fun j hj => ?_
                exact if_neg (by omega)
            | broke | returned => rfl

/-- Without the bulk packet `process_spp_message` is that of `SppMessage`, for some
outcomes of its calls. -/
theorem processSppRequest_fst (s : SppSession) (r : SppRequest) :
    ∃ io tail, processSppMessage io tail s.handler s.buffer r.header r.buffer =
      ((processSppRequest s r).1, (processSppRequest s r).2.2) := by
  cases hsize : getMessageSize r.header with
  | none =>
      exact ⟨fun k => (r.io k).io, ⟨.draining [], .draining [], r.written⟩, by
        simp only [processSppMessage, processSppRequest, hsize]⟩
  | some size =>
      obtain ⟨t, b, flow, hbulk, hresult⟩ := processSppRequest_loop s hsize
      obtain ⟨io, hloop⟩ := sppBulkLoop_fst r.enabled r.io r.header size 0
        ⟨{ s.handler with bulkMode := false }, .initial, 0, []⟩ s.bulk
        (sppPayload r.header r.buffer)
      rw [hbulk] at hloop
      have hfinish :
          ∃ tail, sppBulkTail tail t = ((finishBulk r t b).1, (finishBulk r t b).2.2) := by
        rw [finishBulk]
        split
        · exact ⟨_, rfl⟩
        · exact ⟨_, rfl⟩
      by_cases hmode : t.handler.bulkMode = true
      · obtain ⟨tail, htail⟩ := hfinish
        refine ⟨io, tail, ?_⟩
        simp only [processSppMessage, hresult, hsize, hloop]
        cases flow with
        | next | broke => simp only [hmode, if_true, htail]; rfl
        | returned => rfl
      · refine ⟨io, ⟨.draining [], .draining [],
          r.written && announces r.header t.out.responseCnt⟩, ?_⟩
        simp only [processSppMessage, hresult, hsize, hloop]
        cases flow with
        | next | broke => simp only [hmode, Bool.false_eq_true, if_false]; rfl
        | returned => rfl

end Projection

section Runs

/-- The bulk packet goes through the given events. -/
def eventRun (enabled : Bool) (b : SppBulk) (events : List (BpkEvent × BpkIo)) : SppBulk :=
  Machine.run bulkStep b (events.map fun (e, io) => .event enabled e io)

theorem eventRun_append (enabled : Bool) (b : SppBulk) (events more : List (BpkEvent × BpkIo)) :
    eventRun enabled b (events ++ more) = eventRun enabled (eventRun enabled b events) more := by
  rw [eventRun, List.map_append, Machine.run_append]
  rfl

/-- The events of all interrupts that the polls find; `buffer` is what the event buffer holds
before them. -/
def polledEvents : List UInt8 → List Polled → List (BpkEvent × BpkIo)
  | _, [] | _, .failed :: _ => []
  | buffer, .quiet :: polled => polledEvents buffer polled
  | buffer, .ibi p :: polled => (p.event buffer, p.io) :: polledEvents (p.fill buffer) polled

/-- A drain is a run over the events of the interrupts that it takes. -/
theorem drain_events (enabled : Bool) (ready : SppHandler → Bool) (exits : Bool)
    (buffer : List UInt8) (h : SppHandler) (b : SppBulk) (polled : List Polled) :
    (drain enabled ready exits buffer h b polled).2 = eventRun enabled b
      ((polledEvents buffer polled).take
        (drain enabled ready exits buffer h b polled).1.length) := by
  induction polled generalizing exits buffer h b with
  | nil => rfl
  | cons p polled ih =>
      cases p with
      | quiet => exact ih exits buffer h b
      | failed => rfl
      | ibi p =>
          have hfirst : (sendBpkEvent enabled b (p.event buffer) p.io).1 =
              eventRun enabled b [(p.event buffer, p.io)] := rfl
          simp only [drain]
          split
          · next t heq =>
              rw [heq] at hfirst
              split
              · exact hfirst
              · have hrest := ih (exits && !checkSppPrdyEvent (p.event buffer)) (p.fill buffer)
                  (i3cIbiHandler h (p.device, p.kind)) t
                exact hrest.trans (congrArg (eventRun enabled · _) hfirst)
          · next t _ _ heq =>
              rw [heq] at hfirst
              exact hfirst

theorem drain_run (enabled : Bool) (ready : SppHandler → Bool) (exits : Bool)
    (buffer : List UInt8) (h : SppHandler) (b : SppBulk) (polled : List Polled) :
    ∃ events, (drain enabled ready exits buffer h b polled).2 = eventRun enabled b events :=
  ⟨_, drain_events enabled ready exits buffer h b polled⟩

theorem drainCommand_run (enabled : Bool) (h : SppHandler) (b : SppBulk) (polled : List Polled)
    (command : SppCommand) :
    ∃ events, (drainCommand enabled h b polled command).2 = eventRun enabled b events := by
  rw [drainCommand]
  split
  · exact drain_run enabled _ _ _ _ b polled
  · exact ⟨[], rfl⟩

/-- The events of the interrupts that the two waits take. -/
def tailEvents (r : SppRequest) (device : Fin maxSppBusDevices) (h : SppHandler) (b : SppBulk) :
    List (BpkEvent × BpkIo) :=
  let (handshake, autocmd, _) := drainTail r device h b
  (polledEvents clearEventBuffer r.handshake).take handshake.length ++
    (polledEvents clearEventBuffer r.autocmd).take autocmd.length

theorem drainTail_events (r : SppRequest) (device : Fin maxSppBusDevices) (h : SppHandler)
    (b : SppBulk) :
    (drainTail r device h b).2.2 = eventRun r.enabled b (tailEvents r device h b) := by
  obtain ⟨⟨handshake, t⟩, heq⟩ : ∃ drained, (if h.thresholdStatus device then
      drainHandshake r.enabled device h b r.handshake else ([], b)) = drained := ⟨_, rfl⟩
  have hfirst : t = eventRun r.enabled b
      ((polledEvents clearEventBuffer r.handshake).take handshake.length) := by
    split at heq
    · have hevents := drain_events r.enabled (fun h => !h.thresholdStatus device) true
        clearEventBuffer h b r.handshake
      rw [drainHandshake] at heq
      rw [heq] at hevents
      exact hevents
    · cases heq
      rfl
  simp only [tailEvents, drainTail, heq]
  rw [eventRun_append, ← hfirst]
  split
  · exact drain_events r.enabled (fun h => h.bulkAutocmdCount device = 0) true
      clearEventBuffer (handshake.foldl i3cIbiHandler h) t r.autocmd
  · rfl

theorem drainTail_run (r : SppRequest) (device : Fin maxSppBusDevices) (h : SppHandler)
    (b : SppBulk) : ∃ events, (drainTail r device h b).2.2 = eventRun r.enabled b events :=
  ⟨_, drainTail_events r device h b⟩

/-- The bulk packet can get from one state to the other. -/
def BulkReaches (b t : SppBulk) : Prop := ∃ actions, t = Machine.run bulkStep b actions

theorem BulkReaches.refl (b : SppBulk) : BulkReaches b b := ⟨[], rfl⟩

theorem BulkReaches.trans {a b c : SppBulk} (hab : BulkReaches a b) (hbc : BulkReaches b c) :
    BulkReaches a c := by
  obtain ⟨first, rfl⟩ := hab
  obtain ⟨second, rfl⟩ := hbc
  exact ⟨first ++ second, (Machine.run_append bulkStep a first second).symm⟩

theorem BulkReaches.step (b : SppBulk) (action : BulkAction) :
    BulkReaches b (bulkStep b action) := ⟨[action], rfl⟩

theorem BulkReaches.of_run {enabled : Bool} {b t : SppBulk}
    (h : ∃ events, t = eventRun enabled b events) : BulkReaches b t := by
  obtain ⟨events, rfl⟩ := h
  exact ⟨_, rfl⟩

theorem bulkAfter_reaches (b : SppBulk) (flow : SppFlow) (command : SppCommand) :
    BulkReaches b (bulkAfter b flow command) := by
  cases command with
  | bulk count => exact .step b _
  | config | send | receive | sendCmd | sendReceiveCmd | setSimData => exact .refl b

theorem sppBulkLoop_reaches (enabled : Bool) (io : Nat → SppPollIo) (request : MessageHeader)
    (rounds k : Nat) (s : SppState) (b : SppBulk) (packet : List UInt8) :
    BulkReaches b (sppBulkLoop enabled io request rounds k s b packet).2.1 := by
  induction rounds generalizing k s b packet with
  | zero => exact .refl b
  | succ rounds ih =>
      cases packet with
      | nil => exact .refl b
      | cons byte packet =>
          obtain ⟨_, hround⟩ | ⟨_, _, _, hround⟩ |
            ⟨_, command, rest, t, flow, _, _, _, hround⟩ :=
            sppBulkLoop_round enabled io request rounds k s b byte packet
          · exact hround ▸ .refl b
          · exact hround ▸ .refl b
          · have hdrained := BulkReaches.of_run
              (drainCommand_run enabled s.handler b (io k).polled command)
            rw [hround]
            split
            · exact hdrained.trans ((bulkAfter_reaches _ _ _).trans (ih _ _ _ rest))
            · exact hdrained.trans (bulkAfter_reaches _ _ _)

theorem finishBulk_reaches (r : SppRequest) (s : SppState) (b : SppBulk) :
    BulkReaches b (finishBulk r s b).2.1 := by
  rw [finishBulk]
  split
  · dsimp only
    exact (BulkReaches.of_run (drainTail_run r _ s.handler b)).trans (.step _ _)
  · exact .refl b

/-- From the bulk packet of the loop to that of the message. -/
theorem afterLoop_reaches (r : SppRequest) (t : SppState) (b : SppBulk) (flow : SppFlow) :
    BulkReaches b (if flow = .returned then (t, b, Status.err)
      else if t.handler.bulkMode then finishBulk r t b
      else if flow = .next then
        (t.respond r.header, b,
          if r.written && announces r.header t.out.responseCnt then Status.ok else Status.err)
      else (t, b, Status.err)).2.1 := by
  split
  · exact .refl b
  split
  · exact finishBulk_reaches r t b
  split
  · exact .refl b
  · exact .refl b

theorem processSppRequest_reaches (s : SppSession) (r : SppRequest) :
    BulkReaches s.bulk (processSppRequest s r).2.1 := by
  cases hsize : getMessageSize r.header with
  | none =>
      rw [processSppRequest, hsize]
      exact .refl s.bulk
  | some size =>
      obtain ⟨t, b, flow, hloop, hresult⟩ := processSppRequest_loop s hsize
      have hreaches := sppBulkLoop_reaches r.enabled r.io r.header size 0
        ⟨{ s.handler with bulkMode := false }, .initial, 0, []⟩ s.bulk
        (sppPayload r.header r.buffer)
      rw [hloop] at hreaches
      rw [hresult]
      exact hreaches.trans (afterLoop_reaches r t b flow)

/-- Whatever reaches the session, the bulk packet only makes steps of its own machine. -/
theorem sppStep_reaches (s : SppSession) (input : SppInput) :
    BulkReaches s.bulk (sppStep s input).bulk := by
  cases input with
  | message r => exact processSppRequest_reaches s r
  | event enabled p => exact .step s.bulk (.event enabled (p.event clearEventBuffer) p.io)
  | client handler => exact .refl s.bulk

theorem session_reaches (s : SppSession) (inputs : List SppInput) :
    BulkReaches s.bulk (Machine.run sppStep s inputs).bulk := by
  induction inputs generalizing s with
  | nil => exact .refl _
  | cons input inputs ih => exact (sppStep_reaches s input).trans (ih (sppStep s input))

end Runs

end AtScaleDebug
