import Mathlib.Data.List.Forall2
import AtScaleDebug.Target.BusAttribution

/-!
Which reads and writes of an I2C message are executed and which are reported. They
are queued and handed over together, at a forced stop or at the end of the packet,
and the response goes out in pieces when it gets too long. Two steps break the
count. A bus select that fails answers with the response collected so far and
leaves it in place, so those entries go out again with the next packet; and it
skips the test for the end of the packet, so when it comes last what is queued is
never executed. The condition below says exactly when neither happens.
-/

namespace AtScaleDebug

section Account

/-- The packet is these commands. -/
inductive DecodesI2c : List UInt8 → List I2cCommand → Prop where
  | done : DecodesI2c [] []
  | command {packet rest : List UInt8} {command : I2cCommand} {commands : List I2cCommand}
      (next : nextI2cCommand packet = some (command, rest)) (tail : DecodesI2c rest commands) :
      DecodesI2c packet (command :: commands)

theorem DecodesI2c.eq_nil_iff {packet : List UInt8} {commands : List I2cCommand}
    (h : DecodesI2c packet commands) : packet = [] ↔ commands = [] := by
  cases h with
  | done => exact ⟨fun _ => rfl, fun _ => rfl⟩
  | command next tail =>
      refine ⟨?_, fun h => absurd h (List.cons_ne_nil _ _)⟩
      rintro rfl
      cases next

def I2cCommand.transferred : I2cCommand → List I2cMsg
  | .transfer msg _ => [msg]
  | _ => []

def I2cCommand.stops : I2cCommand → Bool
  | .transfer _ forceStop => forceStop
  | _ => false

/-- The reads and writes among the commands. -/
def transfers (commands : List I2cCommand) : List I2cMsg :=
  commands.flatMap I2cCommand.transferred

theorem transfers_append (commands others : List I2cCommand) :
    transfers (commands ++ others) = transfers commands ++ transfers others :=
  List.flatMap_append

theorem transfers_singleton (command : I2cCommand) :
    transfers [command] = command.transferred := List.flatMap_singleton _ _

def BusEvent.moved : BusEvent → List I2cMsg
  | .transfer _ _ msgs => msgs
  | _ => []

/-- What `do_read_write` was given. -/
def handedOver (events : List BusEvent) : List I2cMsg := events.flatMap BusEvent.moved

/-- A response entry of the message, whatever the driver read and answered. -/
def Answers (msg : I2cMsg) (entry : List UInt8) : Prop :=
  ∃ bytes ack, entry = (msg.received bytes).entry ack

def I2cMsg.entryLength (m : I2cMsg) : Nat := 2 + if m.read then m.buffer.length else 0

/-- Everything reported: the packets handed to `send_response` and the response
still in the output buffer. -/
def I2cOutput.report (o : I2cOutput) : List UInt8 := o.sent.flatMap Prod.snd ++ o.response

/-- Every read and write was handed over once, in order, and the packets hold one
entry for each of them, in order, and nothing else. -/
structure ReportsOnce (commands : List I2cCommand) (events : List BusEvent)
    (packets : List Packet) : Prop where
  executed : handedOver events = transfers commands
  reported : ∃ entries, List.Forall₂ Answers (transfers commands) entries ∧
    packets.flatMap Prod.snd = entries.flatten

end Account

section Condition

/-- The bus select is refused in this state of the buses. -/
def I2cCommand.Fails (c : BusConfig) (io : SelectIo) (s : BusState) : I2cCommand → Prop
  | .busSelect none => True
  | .busSelect (some bus) => (doBusSelect c io s bus).2.2 ≠ .ok
  | _ => False

def I2cCommand.moves (c : BusConfig) (io : SelectIo) (s : BusState) : I2cCommand → BusState
  | .busSelect (some bus) => (doBusSelect c io s bus).1
  | _ => s

/-- Whether something is queued when the command is done, unless it ends the packet. -/
def I2cCommand.leaves (queued : Bool) : I2cCommand → Bool
  | .transfer _ forceStop => !forceStop
  | _ => queued

/-- No bus select fails after a forced stop, and the last command is no failing bus
select while reads or writes are queued. -/
def SelectsSafely (c : BusConfig) (io : Nat → I2cIo) :
    Nat → BusState → Bool → Bool → List I2cCommand → Prop
  | _, _, _, _, [] => True
  | k, s, stopped, queued, command :: commands =>
      (command.Fails c (io k).select s → stopped = false ∧ (commands = [] → queued = false)) ∧
        SelectsSafely c io (k + 1) (command.moves c (io k).select s) (stopped || command.stops)
          (command.leaves queued) commands

end Condition

section Entries

theorem Answers.length {msg : I2cMsg} {entry : List UInt8} (h : Answers msg entry) :
    entry.length = msg.entryLength := by
  obtain ⟨bytes, ack, rfl⟩ := h
  cases hread : msg.read with
  | false => simp [I2cMsg.entry, I2cMsg.received, I2cMsg.entryLength, hread]
  | true =>
      simp [I2cMsg.entry, I2cMsg.received, I2cMsg.entryLength, hread]
      omega

/-- Two lists of answers to the same messages are of the same length. -/
theorem answers_length {msgs : List I2cMsg} {first second : List (List UInt8)}
    (hfirst : List.Forall₂ Answers msgs first) (hsecond : List.Forall₂ Answers msgs second) :
    first.flatten.length = second.flatten.length := by
  induction hfirst generalizing second with
  | nil =>
      cases hsecond
      rfl
  | cons hentry _ ih =>
      cases hsecond with
      | cons hother hothers =>
          rw [List.flatten_cons, List.flatten_cons, List.length_append, List.length_append,
            hentry.length, hother.length, ih hothers]

theorem received_nil (m : I2cMsg) : m.received [] = m := by
  simp [I2cMsg.received]

theorem answers_received (msgs : List I2cMsg) (bytes : Nat → List UInt8) (ack : Bool) :
    List.Forall₂ Answers msgs
      ((msgs.mapIdx fun k m => m.received (bytes k)).map (·.entry ack)) := by
  induction msgs generalizing bytes with
  | nil => exact .nil
  | cons m msgs ih =>
      rw [List.mapIdx_cons, List.map_cons]
      exact .cons ⟨bytes 0, ack, rfl⟩ (ih fun k => bytes (k + 1))

theorem answers_unread (msgs : List I2cMsg) (ack : Bool) :
    List.Forall₂ Answers msgs (msgs.map (·.entry ack)) := by
  induction msgs with
  | nil => exact .nil
  | cons m msgs ih => exact .cons ⟨[], ack, by rw [received_nil]⟩ ih

theorem report_send (o : I2cOutput) (request : MessageHeader) (cmdStat : UInt8) :
    (o.send request cmdStat).report = o.report ++ o.response := by
  simp [I2cOutput.send, I2cOutput.report]

theorem flatMap_errorMessage (request : MessageHeader) (errors : List UInt8) :
    (errors.map (errorMessage request)).flatMap Prod.snd = [] := by
  induction errors with
  | nil => rfl
  | cons code errors ih => rw [List.map_cons, List.flatMap_cons, ih]; rfl

theorem buildResponses_report (request : MessageHeader) (continued : Nat → Bool) (ack : Bool)
    {k : Nat} {msgs : List I2cMsg} {o t : I2cOutput}
    (h : buildResponses request continued ack k msgs o = (t, .ok)) :
    t.report = o.report ++ (msgs.map (·.entry ack)).flatten ∧
      (msgs ≠ [] ∨ o.response ≠ [] → t.response ≠ []) ∧ o.sent <+: t.sent := by
  induction msgs generalizing k o with
  | nil =>
      cases h
      exact ⟨by simp, by simp, List.prefix_rfl⟩
  | cons m msgs ih =>
      have hentry : m.entry ack ≠ [] := by simp [I2cMsg.entry]
      simp only [buildResponses] at h
      split at h
      · split at h
        · obtain ⟨hreport, hresponse, hsent⟩ := ih h
          refine ⟨?_, fun _ => hresponse (.inr hentry), ?_⟩
          · rw [hreport]
            simp [I2cOutput.report, I2cOutput.send]
          · exact (List.prefix_append _ _).trans hsent
        · cases h
      · obtain ⟨hreport, hresponse, hsent⟩ := ih h
        refine ⟨?_, fun _ => hresponse (.inr (by simp [hentry])), hsent⟩
        rw [hreport]
        simp [I2cOutput.report]

end Entries

section Round
variable {c : BusConfig} {request : MessageHeader}

/-- The flags of the loop between two commands. -/
structure I2cState.Ready (s : I2cState) : Prop where
  pending : s.pending = true ↔ s.builder ≠ []
  forceStop : s.forceStop = false

/-- Nothing is taken back. -/
structure I2cState.Grows (s t : I2cState) : Prop where
  events : s.events <+: t.events
  sent : s.out.sent <+: t.out.sent

theorem I2cState.Grows.refl (s : I2cState) : s.Grows s := ⟨List.prefix_rfl, List.prefix_rfl⟩

theorem I2cState.Grows.trans {s t u : I2cState} (ht : s.Grows t) (hu : t.Grows u) : s.Grows u :=
  ⟨ht.events.trans hu.events, ht.sent.trans hu.sent⟩

/-- What a round of the loop that goes on can do to the account: a refused select
reports what is in the output buffer, a command only queues, or it ends in a flush. -/
inductive I2cRound (c : BusConfig) (io : SelectIo) (s t : I2cState) (command : I2cCommand)
    (last : Prop) : Prop where
  | refused (fails : command.Fails c io s.bus) (builder : t.builder = s.builder)
      (events : handedOver t.events = handedOver s.events)
      (report : t.out.report = s.out.report ++ s.out.response)
      (response : t.out.response = s.out.response)
  | queued (taken : ¬ command.Fails c io s.bus)
      (stays : s.builder ++ command.transferred = [] ∨ ¬ (last ∨ command.stops = true))
      (builder : t.builder = s.builder ++ command.transferred)
      (events : handedOver t.events = handedOver s.events)
      (report : t.out.report = s.out.report) (response : t.out.response = s.out.response)
  | flushed (taken : ¬ command.Fails c io s.bus) (ends : last ∨ command.stops = true)
      (builder : t.builder = [])
      (events : handedOver t.events =
        handedOver s.events ++ (s.builder ++ command.transferred))
      (entries : List (List UInt8))
      (answers : List.Forall₂ Answers (s.builder ++ command.transferred) entries)
      (report : t.out.report = s.out.report ++ entries.flatten) (response : t.out.response ≠ [])

theorem stops_eq_false {command : I2cCommand} {builder : List I2cMsg} {last : Prop}
    (h : builder ++ command.transferred = [] ∨ ¬ (last ∨ command.stops = true)) :
    command.stops = false := by
  obtain hempty | hnot := h
  · cases command with
    | transfer => exact absurd (List.append_eq_nil_iff.mp hempty).2 (List.cons_ne_nil _ _)
    | busSelect | setSclk => rfl
  · exact Bool.eq_false_of_not_eq_true fun hstops => hnot (.inr hstops)

theorem leaves_of_stops {command : I2cCommand} (queued : Bool) (h : command.stops = true) :
    command.leaves queued = false := by
  cases command with
  | transfer msg forceStop =>
      cases h
      rfl
  | busSelect | setSclk => cases h

theorem leaves_iff {command : I2cCommand} {queued : Bool} {builder : List I2cMsg}
    (h : command.stops = false) (hqueued : queued = true ↔ builder ≠ []) :
    command.leaves queued = true ↔ builder ++ command.transferred ≠ [] := by
  cases command with
  | transfer msg forceStop =>
      cases h
      simp [I2cCommand.leaves, I2cCommand.transferred]
  | busSelect | setSclk =>
      simpa only [I2cCommand.leaves, I2cCommand.transferred, List.append_nil] using hqueued

theorem I2cCommand.Fails.select {io : SelectIo} {bus : BusState} {command : I2cCommand}
    (h : command.Fails c io bus) (queued : Bool) :
    command.transferred = [] ∧ command.stops = false ∧ command.leaves queued = queued := by
  cases command with
  | busSelect => exact ⟨rfl, rfl, rfl⟩
  | transfer | setSclk => exact h.elim

theorem flushI2c_ok {io : I2cIo} {s t : I2cState} (hsome : s.builder ≠ [])
    (h : flushI2c c request io s = (t, .ok)) :
    t.Ready ∧ s.Grows t ∧ t.bus = s.bus ∧ t.builder = [] ∧
      handedOver t.events = handedOver s.events ++ s.builder ∧
      t.out.response ≠ [] ∧ ∃ entries, List.Forall₂ Answers s.builder entries ∧
        t.out.report = s.out.report ++ entries.flatten := by
  simp only [flushI2c] at h
  split at h
  · next out hout =>
      cases h
      obtain ⟨hreport, hresponse, hsent⟩ := buildResponses_report _ _ _ hout
      refine ⟨⟨by simp [I2cState.emit], rfl⟩, ⟨List.prefix_append _ _, hsent⟩, rfl, rfl,
        ?_, ?_, _, ?_, hreport⟩
      · simp [I2cState.emit, handedOver, BusEvent.moved]
      · refine hresponse (.inl ?_)
        split
        · simpa using hsome
        · exact hsome
      · split
        · exact answers_received _ _ _
        · exact answers_unread _ _
  · next out status hne hout =>
      cases h
      exact (hne rfl).elim

/-- A command that neither fails nor breaks out leaves the flush to the loop. -/
structure I2cTaken (s t : I2cState) (command : I2cCommand) : Prop where
  builder : t.builder = s.builder ++ command.transferred
  pending : t.pending = true ↔ t.builder ≠ []
  forceStop : t.forceStop = command.stops
  events : handedOver t.events = handedOver s.events
  report : t.out.report = s.out.report
  response : t.out.response = s.out.response

theorem executeI2cCommand_cases {io : I2cIo} {s t : I2cState} {command : I2cCommand}
    {flow : I2cFlow} (hready : s.Ready) (h : executeI2cCommand c request io s command = (t, flow)) :
    flow = .broke ∨ s.Grows t ∧ t.bus = command.moves c io.select s.bus ∧
      ((∃ status, flow = .skipped status) ∧ t.Ready ∧
          (∀ last, I2cRound c io.select s t command last) ∨
        flow = .next ∧ ¬ command.Fails c io.select s.bus ∧ I2cTaken s t command) := by
  cases command with
  | setSclk lsb msb =>
      simp only [executeI2cCommand] at h
      split at h
      · cases h
        exact .inr ⟨.refl s, rfl, .inr ⟨rfl, id, by simp [I2cCommand.transferred], hready.pending,
          hready.forceStop, rfl, rfl, rfl⟩⟩
      · cases h
        exact .inl rfl
  | transfer msg forceStop =>
      cases h
      refine .inr ⟨⟨List.prefix_append _ _, List.prefix_rfl⟩, rfl,
        .inr ⟨rfl, id, rfl, by simp [I2cState.emit], rfl, ?_, rfl, rfl⟩⟩
      simp [I2cState.emit, handedOver, BusEvent.moved]
  | busSelect bus =>
      cases bus with
      | none =>
          cases h
          refine .inr ⟨⟨List.prefix_rfl, List.prefix_append _ _⟩, rfl,
            .inl ⟨⟨_, rfl⟩, ⟨hready.pending, hready.forceStop⟩,
              fun _ => .refused trivial rfl rfl ?_ rfl⟩⟩
          exact report_send _ _ _
      | some bus =>
          obtain ⟨⟨after, errors, status⟩, hselect⟩ :
              ∃ selected, doBusSelect c io.select s.bus bus = selected := ⟨_, rfl⟩
          have hfails : (I2cCommand.busSelect (some bus)).Fails c io.select s.bus ↔
              status ≠ .ok := by
            rw [I2cCommand.Fails, hselect]
          have hbus : (I2cCommand.busSelect (some bus)).moves c io.select s.bus = after := by
            rw [I2cCommand.moves, hselect]
          have hevents : handedOver (s.events ++ [.select bus io.select s.bus after status]) =
              handedOver s.events := by
            simp [handedOver, BusEvent.moved]
          have hsent : (s.out.sent ++ errors.map (errorMessage request)).flatMap Prod.snd =
              s.out.sent.flatMap Prod.snd := by
            rw [List.flatMap_append, flatMap_errorMessage, List.append_nil]
          simp only [executeI2cCommand, doBusSelectCommand, hselect] at h
          rw [hbus]
          cases status with
          | ok =>
              cases h
              refine .inr ⟨⟨List.prefix_append _ _, List.prefix_append _ _⟩, rfl,
                .inr ⟨rfl, fun h => hfails.mp h rfl, ?_⟩⟩
              refine ⟨(List.append_nil _).symm, hready.pending, hready.forceStop, hevents, ?_, rfl⟩
              simp only [I2cOutput.report, I2cState.emit, hsent]
          | err | timeout =>
              cases h
              refine .inr ⟨⟨List.prefix_append _ _, ?_⟩, rfl,
                .inl ⟨⟨_, rfl⟩, ⟨hready.pending, hready.forceStop⟩, fun _ =>
                  .refused (hfails.mpr (by decide)) rfl hevents ?_ rfl⟩⟩
              · exact (List.prefix_append _ _).trans (List.prefix_append _ _)
              · rw [report_send]
                simp only [I2cOutput.report, I2cState.emit, hsent]

variable {io : Nat → I2cIo}

/-- A run that ends well takes the packet command by command. -/
theorem i2cLoop_cons_ok {rounds k : Nat} {status : Status} {s t : I2cState} {byte : UInt8}
    {packet : List UInt8} (hready : s.Ready)
    (h : i2cLoop c io request (rounds + 1) k status s (byte :: packet) = (t, .ok)) :
    ∃ command rest status u, nextI2cCommand (byte :: packet) = some (command, rest) ∧
      i2cLoop c io request rounds (k + 1) status u rest = (t, .ok) ∧ u.Ready ∧ s.Grows u ∧
      u.bus = command.moves c (io k).select s.bus ∧
      I2cRound c (io k).select s u command (rest = []) := by
  simp only [i2cLoop] at h
  split at h
  · cases h
  · next command rest hnext =>
      refine ⟨command, rest, ?_⟩
      split at h
      · cases h
      · next u status hstep =>
          obtain hbroke | ⟨hgrows, hbus, ⟨_, hu, hround⟩ | ⟨hflow, _⟩⟩ :=
            executeI2cCommand_cases hready hstep
          · cases hbroke
          · exact ⟨status, u, hnext, h, hu, hgrows, hbus, hround _⟩
          · cases hflow
      · next u hstep =>
          obtain hbroke | ⟨hgrows, hbus, ⟨⟨_, hflow⟩, _⟩ | ⟨_, htaken, hu⟩⟩ :=
            executeI2cCommand_cases hready hstep
          · cases hbroke
          · cases hflow
          have hpending := hu.pending
          rw [hu.builder] at hpending
          rw [hu.forceStop] at h
          split at h
          · next hflush =>
              split at h
              · next v hv =>
                  have hsome : u.builder ≠ [] := hu.pending.mp hflush.1
                  obtain ⟨hready, hgrow, hvbus, hbuilder, hevents, hresponse, entries, hanswers,
                    hreport⟩ := flushI2c_ok hsome hv
                  rw [hu.builder] at hanswers hevents
                  refine ⟨.ok, v, hnext, h, hready, hgrows.trans hgrow, hvbus.trans hbus,
                    .flushed htaken hflush.2 hbuilder ?_ entries hanswers ?_ hresponse⟩
                  · rw [hevents, hu.events]
                  · rw [hreport, hu.report]
              · next v status hne hv =>
                  cases h
                  exact (hne rfl).elim
          · next hflush =>
              have hstays : s.builder ++ command.transferred = [] ∨
                  ¬ (rest = [] ∨ command.stops = true) := by
                by_cases hempty : s.builder ++ command.transferred = []
                · exact .inl hempty
                · exact .inr fun hends => hflush ⟨hpending.mpr hempty, hends⟩
              refine ⟨.ok, u, hnext, h, ⟨hu.pending, ?_⟩, hgrows, hbus,
                .queued htaken hstays hu.builder hu.events hu.report hu.response⟩
              rw [hu.forceStop, stops_eq_false hstays]

/-- The account of a run: what was handed over and what is left in the queue are the
queue and the commands, every message handed over is answered, and `repeated` bytes
were reported beyond that. -/
structure I2cAccount (s t : I2cState) (commands : List I2cCommand) (msgs : List I2cMsg)
    (entries : List (List UInt8)) (repeated : Nat) : Prop where
  kept : msgs ++ t.builder = s.builder ++ transfers commands
  executed : handedOver t.events = handedOver s.events ++ msgs
  answers : List.Forall₂ Answers msgs entries
  length : t.out.report.length = s.out.report.length + entries.flatten.length + repeated
  exact : repeated = 0 → t.out.report = s.out.report ++ entries.flatten

theorem I2cAccount.refl (s : I2cState) : I2cAccount s s [] [] [] 0 := by
  refine ⟨(List.append_nil _).symm, (List.append_nil _).symm, .nil, rfl, fun _ => ?_⟩
  exact (List.append_nil _).symm

theorem I2cAccount.trans {s t u : I2cState} {commands others : List I2cCommand}
    {msgs more : List I2cMsg} {entries further : List (List UInt8)} {repeated again : Nat}
    (h : I2cAccount s t commands msgs entries repeated)
    (hnext : I2cAccount t u others more further again) :
    I2cAccount s u (commands ++ others) (msgs ++ more) (entries ++ further)
      (repeated + again) := by
  refine ⟨?_, ?_, List.rel_append h.answers hnext.answers, ?_, fun hzero => ?_⟩
  · rw [List.append_assoc, hnext.kept, ← List.append_assoc, h.kept, transfers_append,
      List.append_assoc]
  · rw [hnext.executed, h.executed, List.append_assoc]
  · rw [hnext.length, h.length, List.flatten_append, List.length_append]
    omega
  · rw [hnext.exact (by omega), h.exact (by omega), List.flatten_append, List.append_assoc]

/-- One round: the flags of the condition follow the state, unless the packet ends,
and the round is safe exactly when it repeats nothing and leaves nothing over. -/
theorem I2cRound.account {select : SelectIo} {s t : I2cState} {command : I2cCommand}
    {last : Prop} {stopped queued : Bool} (h : I2cRound c select s t command last)
    (hstopped : stopped = true ↔ s.out.response ≠ []) (hqueued : queued = true ↔ s.builder ≠ []) :
    ∃ msgs entries repeated, I2cAccount s t [command] msgs entries repeated ∧
      (¬ last → ((stopped || command.stops) = true ↔ t.out.response ≠ []) ∧
        (command.leaves queued = true ↔ t.builder ≠ [])) ∧
      ((command.Fails c select s.bus → stopped = false ∧ (last → queued = false)) ↔
        repeated = 0 ∧ (last → t.builder = [])) := by
  cases h with
  | refused fails builder events report response =>
      obtain ⟨hnone, hstops, hleaves⟩ := fails.select queued
      refine ⟨[], [], s.out.response.length, ⟨?_, ?_, .nil, ?_, fun hzero => ?_⟩, fun _ => ?_, ?_⟩
      · rw [builder, transfers_singleton, hnone, List.nil_append, List.append_nil]
      · rw [events, List.append_nil]
      · rw [report, List.length_append]
        rfl
      · rw [report, List.eq_nil_of_length_eq_zero hzero]
        rfl
      · rw [response, builder, hstops, hleaves, Bool.or_false]
        exact ⟨hstopped, hqueued⟩
      · have hresponse : stopped = false ↔ s.out.response.length = 0 := by
          rw [List.length_eq_zero_iff, ← Bool.not_eq_true, hstopped, not_not]
        have hbuilder : queued = false ↔ t.builder = [] := by
          rw [builder, ← Bool.not_eq_true, hqueued, not_not]
        rw [hresponse, hbuilder]
        exact ⟨fun h => h fails, fun h _ => h⟩
  | queued taken stays builder events report response =>
      have hstops := stops_eq_false stays
      refine ⟨[], [], 0, ⟨?_, ?_, .nil, ?_, fun _ => ?_⟩, fun _ => ⟨?_, ?_⟩, ?_⟩
      · rw [builder, transfers_singleton, List.nil_append]
      · rw [events, List.append_nil]
      · rw [report]
        rfl
      · rw [report, List.flatten_nil, List.append_nil]
      · rw [response, hstops, Bool.or_false]
        exact hstopped
      · rw [builder]
        exact leaves_iff hstops hqueued
      · refine ⟨fun _ => ⟨rfl, fun hlast => ?_⟩, fun _ hfails => absurd hfails taken⟩
        obtain hempty | hnot := stays
        · rw [builder, hempty]
        · exact absurd (.inl hlast) hnot
  | flushed taken ends builder events entries answers report response =>
      refine ⟨s.builder ++ command.transferred, entries, 0, ⟨?_, events, answers, ?_, fun _ => ?_⟩,
        fun hlast => ?_, ?_⟩
      · rw [builder, transfers_singleton, List.append_nil]
      · rw [report, List.length_append]
        rfl
      · exact report
      · have hstops : command.stops = true := ends.resolve_left hlast
        rw [hstops, Bool.or_true, leaves_of_stops queued hstops, builder]
        simp [response]
      · exact ⟨fun _ => ⟨rfl, fun _ => builder⟩, fun _ hfails => absurd hfails taken⟩

/-- Nothing is repeated and nothing left over exactly when the selects are safe. -/
theorem i2cLoop_account {rounds k : Nat} {status : Status} {s t : I2cState}
    {packet : List UInt8} {stopped queued : Bool} (hready : s.Ready)
    (henough : packet.length ≤ rounds)
    (hflags : packet ≠ [] →
      (stopped = true ↔ s.out.response ≠ []) ∧ (queued = true ↔ s.builder ≠ []))
    (h : i2cLoop c io request rounds k status s packet = (t, .ok)) :
    s.Grows t ∧ ∃ commands, DecodesI2c packet commands ∧
      ∃ msgs entries repeated, I2cAccount s t commands msgs entries repeated ∧
        (SelectsSafely c io k s.bus stopped queued commands ∧ (packet = [] → s.builder = []) ↔
          repeated = 0 ∧ t.builder = []) := by
  induction rounds generalizing k status s packet stopped queued with
  | zero =>
      cases List.eq_nil_of_length_eq_zero (Nat.le_zero.mp henough)
      cases h
      exact ⟨.refl _, [], .done, [], [], 0, .refl _, by simp [SelectsSafely]⟩
  | succ rounds ih =>
      cases packet with
      | nil =>
          cases h
          exact ⟨.refl _, [], .done, [], [], 0, .refl _, by simp [SelectsSafely]⟩
      | cons byte packet =>
          obtain ⟨command, rest, status, u, hnext, hrun, hu, hgrows, hbus, hround⟩ :=
            i2cLoop_cons_ok hready h
          have hlength := nextI2cCommand_length hnext
          have hrest : rest.length ≤ rounds := by
            simp only [List.length_cons] at henough hlength
            omega
          obtain ⟨hstopped, hqueued⟩ := hflags (List.cons_ne_nil _ _)
          obtain ⟨first, firsts, extra, hfirst, hnextFlags, hfails⟩ :=
            hround.account hstopped hqueued
          obtain ⟨hgrow, commands, hdecodes, msgs, entries, repeated, haccount, hiff⟩ :=
            ih hu hrest hnextFlags hrun
          refine ⟨hgrows.trans hgrow, command :: commands, .command hnext hdecodes, _, _, _,
            hfirst.trans haccount, ?_⟩
          rw [hdecodes.eq_nil_iff] at hfails hiff
          rw [SelectsSafely, ← hbus, hfails, Nat.add_eq_zero_iff]
          constructor
          · rintro ⟨⟨⟨hzero, hlast⟩, hsafe⟩, -⟩
            obtain ⟨hrepeated, hbuilder⟩ := hiff.mp ⟨hsafe, hlast⟩
            exact ⟨⟨hzero, hrepeated⟩, hbuilder⟩
          · rintro ⟨⟨hzero, hrepeated⟩, hbuilder⟩
            obtain ⟨hsafe, hlast⟩ := hiff.mpr ⟨hrepeated, hbuilder⟩
            exact ⟨⟨⟨hzero, hlast⟩, hsafe⟩, fun h => absurd h (List.cons_ne_nil _ _)⟩

end Round

section Message

theorem I2cAccount.reportsOnce_iff {s t : I2cState} {commands : List I2cCommand}
    {msgs : List I2cMsg} {entries : List (List UInt8)} {repeated : Nat} {more : List BusEvent}
    {bytes : List UInt8} {packets : List Packet}
    (h : I2cAccount s t commands msgs entries repeated) (hstart : s.builder = [])
    (hmore : t.events = s.events ++ more) (hreport : t.out.report = s.out.report ++ bytes)
    (hbytes : packets.flatMap Prod.snd = bytes) :
    ReportsOnce commands more packets ↔ repeated = 0 ∧ t.builder = [] := by
  have hmsgs : handedOver more = msgs := by
    have hexecuted := h.executed
    rw [hmore, handedOver, List.flatMap_append] at hexecuted
    exact List.append_cancel_left hexecuted
  have hkept : msgs ++ t.builder = transfers commands := by
    rw [h.kept, hstart, List.nil_append]
  have hlength := h.length
  rw [hreport, List.length_append] at hlength
  constructor
  · rintro ⟨hexecuted, others, hothers, hpackets⟩
    rw [hmsgs] at hexecuted
    rw [← hexecuted] at hothers
    have hsame := answers_length h.answers hothers
    rw [← hpackets, hbytes] at hsame
    refine ⟨by omega, ?_⟩
    rwa [hexecuted, List.append_right_eq_self] at hkept
  · rintro ⟨hzero, hbuilder⟩
    rw [hbuilder, List.append_nil] at hkept
    refine ⟨hmsgs.trans hkept, entries, hkept ▸ h.answers, ?_⟩
    have hexact := h.exact hzero
    rw [hreport] at hexact
    rw [hbytes, List.append_cancel_left hexact]

/-- A message that is processed without an error executes and reports every read and
write once if and only if its bus selects are safe. -/
theorem i2c_exactly_once (c : BusConfig) (r : I2cRequest) (bus : BusState) (sent : List Packet)
    (events : List BusEvent) (h : (processI2cMessages c r bus sent events).2 = .ok) :
    ∃ commands more packets, DecodesI2c (i2cPayload r.header r.buffer) commands ∧
      (processI2cMessages c r bus sent events).1.events = events ++ more ∧
      (processI2cMessages c r bus sent events).1.out.sent = sent ++ packets ∧
      (ReportsOnce commands more packets ↔
        SelectsSafely c r.io 0 bus false false commands) := by
  revert h
  rw [processI2cMessages]
  split
  · intro h
    cases h
  · next size hsize =>
      split
      · next t hloop =>
          intro h
          have hlength : (i2cPayload r.header r.buffer).length ≤ size := by
            simp [i2cPayload, hsize]
          have hflags : i2cPayload r.header r.buffer ≠ [] →
              (false = true ↔ ([] : List UInt8) ≠ []) ∧
                (false = true ↔ ([] : List I2cMsg) ≠ []) := by
            simp
          obtain ⟨⟨⟨more, hmore⟩, packets, hpackets⟩, commands, hdecodes, msgs, entries, repeated,
            haccount, hiff⟩ := i2cLoop_account ⟨by simp, rfl⟩ hlength hflags hloop
          refine ⟨commands, more, packets ++ ((t.out.send r.header 0).sent.drop t.out.sent.length),
            hdecodes, hmore.symm, ?_, ?_⟩
          · simp [I2cOutput.send, ← hpackets]
          · rw [haccount.reportsOnce_iff rfl hmore.symm ?_ rfl, ← hiff]
            · simp
            · simp [I2cOutput.report, I2cOutput.send, ← hpackets]
      · next t status hne hloop =>
          intro h
          exact (hne h).elim

/-- The first I2C bus of a configuration, open and locked. -/
def lockedBus (bus : UInt8) : BusState where
  defaultBus := bus
  i2c := ⟨bus, some ⟨bus, true⟩⟩
  i3c := ⟨i3cBusAddressReserved, fun _ => none, false⟩

/-- Two reads with a forced stop between them, and a bus select that works. -/
theorem i2c_exactly_once_two_reads :
    let c := twoBuses .i2c 3 5
    let r := smoothRequest [0x22, 0x41, 1, 3, 0x21, 0x40]
    (processI2cMessages c r (lockedBus 3) [] []).2 = .ok ∧
      ∃ commands more packets, DecodesI2c (i2cPayload r.header r.buffer) commands ∧
        (processI2cMessages c r (lockedBus 3) [] []).1.events = [] ++ more ∧
        (processI2cMessages c r (lockedBus 3) [] []).1.out.sent = [] ++ packets ∧
        (ReportsOnce commands more packets ↔
          SelectsSafely c r.io 0 (lockedBus 3) false false commands) :=
  ⟨by decide, i2c_exactly_once _ _ _ _ _ (by decide)⟩

/-- A read with a forced stop is reported twice when bus 9 is refused after it, and a
write that is only queued is never executed; both messages are processed without an error. -/
theorem i2c_repeated_and_lost :
    let c := twoBuses .i2c 3 5
    let read := smoothRequest [0x22, 0x41, 1, 9]
    let write := smoothRequest [0x61, 0x40, 0xAA, 1, 9]
    let answered := (processI2cMessages c read (lockedBus 3) [] [])
    let lost := (processI2cMessages c write (lockedBus 3) [] [])
    answered.2 = .ok ∧ lost.2 = .ok ∧
      (∃ commands, DecodesI2c (i2cPayload read.header read.buffer) commands ∧
        answered.1.out.sent.flatMap Prod.snd = [0x22, 0x82, 0, 0, 0x22, 0x82, 0, 0] ∧
        ¬ ReportsOnce commands answered.1.events answered.1.out.sent) ∧
      ∃ commands, DecodesI2c (i2cPayload write.header write.buffer) commands ∧
        handedOver lost.1.events = [] ∧
        ¬ ReportsOnce commands lost.1.events lost.1.out.sent := by
  refine ⟨by decide, by decide, ?_, ?_⟩
  · refine ⟨_, .command rfl (.command rfl .done), by decide, ?_⟩
    rintro ⟨-, entries, hanswers, hreported⟩
    have hlength := answers_length hanswers (answers_unread _ true)
    rw [← hreported] at hlength
    exact absurd hlength (by decide)
  · refine ⟨_, .command rfl (.command rfl .done), by decide, ?_⟩
    intro h
    exact absurd h.executed (by decide)

end Message

end AtScaleDebug
