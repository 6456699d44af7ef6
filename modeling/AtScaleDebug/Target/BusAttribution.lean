import AtScaleDebug.Target.BusSelect

/-!
Attribution of transfers to buses.

The events of a session are followed from one message to the next: each of them
meets `Keeps` exactly when it is `Attributed`, as long as all before it did.
Only bus selects can fail to; what a message, a queued command or a transfer
has to satisfy follows from the invariant that the bus selects before it left.
-/

namespace AtScaleDebug

section Message
variable {c : BusConfig} {w₀ : BusWatch}

theorem doReadWrite_device {s : BusState} {w : BusWatch} (h : Aligned c s w) (io : TransferIo)
    (msgs : List I2cMsg) : ∀ d ∈ (doReadWrite c io s msgs).1, d.bus = w.selected := by
  intro d hd
  rw [← h.default]
  cases htype : busType c s.defaultBus with
  | notAllowed => exact (h.allowed htype).elim
  | i2c =>
      have hhandle : s.i2c.driverHandle = some d := by
        simp only [doReadWrite, htype, i2cReadWrite, enableI2c_of_busType htype, Bool.not_true,
          Bool.false_eq_true, if_false] at hd
        split at hd
        · cases hd
        · next e he =>
            cases hd
            exact he
      exact (h.i2c d hhandle).trans (h.onI2c htype).1
  | i3c =>
      simp only [doReadWrite, htype, i3cReadWrite, enableI3c_of_busType htype, Bool.not_true,
        Bool.false_eq_true, if_false] at hd
      split at hd
      · cases hd
      · next e he =>
          cases hd
          obtain ⟨m, _, hm⟩ := List.exists_of_findSome?_eq_some he
          split at hm
          · exact (h.i3c.device _ d hm).trans
              ((h.settled htype).bus (I3cHandler.opened_of_mem hm))
          · cases hm

/-- Inside the command loop the monitor also knows the queue. -/
structure InMessage (c : BusConfig) (s : I2cState) (w : BusWatch) : Prop where
  aligned : Aligned c s.bus w
  queue : w.queue.map Prod.fst = s.builder

/-- So far the condition is met exactly if everything is attributed. -/
abbrev Tracked (c : BusConfig) (w₀ : BusWatch) (I : BusWatch → Prop) (events : List BusEvent) :
    Prop :=
  Machine.Tracks watch (Keeps c) (Attributed c) w₀ I events

theorem doBusSelectCommand_tracked (request : MessageHeader) (io : SelectIo) {s : I2cState}
    (h : Tracked c w₀ (InMessage c s) s.events) (bus : Option UInt8) :
    let t := (doBusSelectCommand c request io s bus).1
    Tracked c w₀ (InMessage c t) t.events := by
  cases bus with
  | none => exact h
  | some bus =>
      rcases hselect : doBusSelect c io s.bus bus with ⟨t, errors, status⟩
      simp only [doBusSelectCommand, hselect]
      refine Machine.Tracks.snoc h fun w hw => ?_
      obtain ⟨u, _, _, heq, hu⟩ := doBusSelect_decides hw.aligned io bus
      cases hselect.symm.trans heq
      refine ⟨⟨fun kept => (hu.aligned kept).agrees, hu.keeps⟩, fun kept => ⟨hu.aligned kept, ?_⟩⟩
      rw [watch, BusWatch.select_queue]
      exact hw.queue

theorem executeI2cCommand_tracked (request : MessageHeader) (io : I2cIo) {s : I2cState}
    (h : Tracked c w₀ (InMessage c s) s.events) (command : I2cCommand) :
    let t := (executeI2cCommand c request io s command).1
    Tracked c w₀ (InMessage c t) t.events := by
  cases command with
  | busSelect bus =>
      have hselect := doBusSelectCommand_tracked request io.select h bus
      simp only [executeI2cCommand]
      split
      · next t heq => simpa only [heq] using hselect
      · next t _ _ heq =>
          simp only [heq] at hselect
          exact hselect.mono fun w hw => ⟨hw.aligned, hw.queue⟩
  | setSclk lsb msb => exact h
  | transfer msg forceStop =>
      refine Machine.Tracks.snoc h fun w hw => ⟨Iff.rfl, fun _ => ⟨hw.aligned.requeue ?_, ?_⟩⟩
      · intro q hq
        obtain hq | hq := List.mem_append.mp hq
        · exact hw.aligned.queued q hq
        · rw [List.mem_singleton.mp hq]
      · simp only [watch, List.map_append, List.map_cons, List.map_nil, hw.queue]
        rfl

/-- A flush is attributed; the queue is gone unless the answer could not be sent. -/
theorem flushI2c_tracked (request : MessageHeader) (io : I2cIo) {s : I2cState}
    (h : Tracked c w₀ (InMessage c s) s.events) :
    let t := (flushI2c c request io s).1
    Tracked c w₀ (fun w => Aligned c t.bus w ∧ w.queue = []) t.events ∧
      ((flushI2c c request io s).2 = .ok → t.builder = []) := by
  have hemit : Tracked c w₀ (fun w => Aligned c s.bus w ∧ w.queue = [])
      (s.events ++ [.transfer s.bus (doReadWrite c io.transfer s.bus s.builder).1 s.builder]) := by
    refine Machine.Tracks.snoc h fun w hw => ⟨iff_of_true True.intro ⟨hw.queue, fun q hq => ?_⟩,
      fun _ => ⟨hw.aligned.requeue (by simp), rfl⟩⟩
    rw [hw.aligned.queued q hq]
    exact ⟨hw.aligned.serves, doReadWrite_device hw.aligned io.transfer s.builder⟩
  simp only [flushI2c]
  split
  · exact ⟨hemit, fun _ => rfl⟩
  · next hfail _ => exact ⟨hemit, fun hok => (hfail hok).elim⟩

theorem i2cLoop_tracked (io : Nat → I2cIo) (request : MessageHeader) (rounds k : Nat)
    (status : Status) {s : I2cState} (packet : List UInt8)
    (h : Tracked c w₀ (InMessage c s) s.events) :
    let t := (i2cLoop c io request rounds k status s packet).1
    Tracked c w₀ (Between c t.bus) t.events := by
  induction rounds generalizing k status s packet with
  | zero => exact h.mono fun w hw => hw.aligned.toBetween
  | succ rounds ih =>
      cases packet with
      | nil => exact h.mono fun w hw => hw.aligned.toBetween
      | cons byte packet =>
          simp only [i2cLoop]
          split
          · exact h.mono fun w hw => hw.aligned.toBetween
          · next command rest _ =>
              have hstep := executeI2cCommand_tracked request (io k) h command
              split
              · next t heq =>
                  simp only [heq] at hstep
                  exact hstep.mono fun w hw => hw.aligned.toBetween
              · next t status heq =>
                  simp only [heq] at hstep
                  exact ih (k + 1) status rest hstep
              · next t heq =>
                  simp only [heq] at hstep
                  split
                  · obtain ⟨hflush, hbuilder⟩ := flushI2c_tracked request (io k) hstep
                    split
                    · next u hok =>
                        simp only [hok, forall_const] at hflush hbuilder
                        refine ih (k + 1) .ok rest (hflush.mono fun w hw => ⟨hw.1, ?_⟩)
                        rw [hw.2, hbuilder]
                        rfl
                    · next u _ _ hfail =>
                        simp only [hfail] at hflush
                        exact hflush.mono fun w hw => hw.1.toBetween
                  · exact ih (k + 1) .ok rest hstep

theorem processI2cMessages_tracked (r : I2cRequest) {bus : BusState} (sent : List Packet)
    {events : List BusEvent}
    (h : Tracked c w₀ (fun w => Aligned c bus w ∧ w.queue = []) events) :
    let t := (processI2cMessages c r bus sent events).1
    Tracked c w₀ (Between c t.bus) t.events := by
  simp only [processI2cMessages]
  split
  · exact h.mono fun w hw => hw.1.toBetween
  · next size _ =>
      have hloop := i2cLoop_tracked r.io r.header size 0 .ok
        (s := ⟨bus, [], false, false, ⟨[], sent⟩, events⟩) (i2cPayload r.header r.buffer)
        (h.mono fun w hw => ⟨hw.1, by rw [hw.2]; rfl⟩)
      split
      · next t heq => simpa only [heq] using hloop
      · next t _ _ heq => simpa only [heq] using hloop

theorem processI2cMessage_tracked {s : BusSession} (r : I2cRequest)
    (h : Tracked c w₀ (Between c s.bus) s.events) :
    Tracked c w₀ (Between c (processI2cMessage c s r).bus) (processI2cMessage c s r).events := by
  rw [processI2cMessage]
  split
  · exact h
  split
  · exact h
  split
  · next bus hlock =>
      have haccept : Tracked c w₀ (fun w => Aligned c bus w ∧ w.queue = [])
          (s.events ++ [.accepted bus]) := by
        refine Machine.Tracks.snoc h fun w hw => ?_
        obtain ⟨t, status, heq, _, ht⟩ := devFlock_between (hw.requeue []) r.lock .ex
        cases hlock.symm.trans heq
        have haligned := ht rfl rfl
        exact ⟨iff_of_true True.intro haligned.agrees, fun _ => ⟨haligned, rfl⟩⟩
      refine (processI2cMessages_tracked r s.sent haccept).mono fun w hw => ?_
      obtain ⟨t, status, heq, ht, _⟩ := devFlock_between hw r.unlock .un
      dsimp only
      rw [heq]
      exact ht
  · next bus _ _ hlock =>
      refine h.mono fun w hw => ?_
      obtain ⟨t, status, heq, ht, _⟩ := devFlock_between hw r.lock .ex
      cases hlock.symm.trans heq
      exact ht

end Message

section Session
variable {c : BusConfig} {w₀ : BusWatch}

/-- Before the handlers are initialised no bus select has been made and no I3C
device file is open. -/
def SessionInvariant (c : BusConfig) (s : BusSession) (w : BusWatch) : Prop :=
  if s.handlersInitialized then Between c s.bus w
  else s.bus.defaultBus = w.selected ∧ w.named = none ∧ s.bus.i2c.Consistent ∧ ¬ s.bus.i3c.Opened

theorem i2cInitialize_frame (opens : Bool) {s : BusState} (hc : s.i2c.Consistent) :
    let t := (i2cInitialize c opens s).1
    t.defaultBus = s.defaultBus ∧ t.i3c = s.i3c ∧ t.i2c.Consistent := by
  have hopen := i2cOpenDriver_consistent opens (i2cCloseDriver s.i2c) s.defaultBus
  simp only [i2cInitialize, i2cBusSelect]
  split
  · exact ⟨rfl, rfl, hc⟩
  split
  · exact ⟨rfl, rfl, hc⟩
  split
  · split
    · next h heq => exact ⟨rfl, rfl, by simpa only [heq] using hopen⟩
    · next h _ _ heq => exact ⟨rfl, rfl, by simpa only [heq] using hopen⟩
  · exact ⟨rfl, rfl, hc⟩

theorem i3cInitialize_frame (connected : Bool) (s : BusState) :
    let t := (i3cInitialize c connected s).1
    t.defaultBus = s.defaultBus ∧ t.i2c = s.i2c ∧ (t.i3c.Opened ↔ s.i3c.Opened) := by
  simp only [i3cInitialize]
  split
  · exact ⟨rfl, rfl, Iff.rfl⟩
  · exact ⟨rfl, rfl, Iff.rfl⟩

/-- Both handlers, in the order in which they are initialised. -/
theorem initialize_invariant {s : BusSession} {w : BusWatch} (r : I2cRequest)
    (hinit : s.handlersInitialized = false) (h : SessionInvariant c s w) {i2c i3c : BusState}
    {status₂ status₃ : Status}
    (h2 : (if c.enableI2c then i2cInitialize c r.i2cOpens s.bus else (s.bus, .ok)) = (i2c, status₂))
    (h3 : (if c.enableI3c then i3cInitialize c r.dbusConnected i2c else (i2c, .ok)) =
      (i3c, status₃)) :
    SessionInvariant c { s with bus := i2c } w ∧ SessionInvariant c { s with bus := i3c } w ∧
      Between c i3c w := by
  simp only [SessionInvariant, hinit, Bool.false_eq_true, if_false] at h ⊢
  obtain ⟨hdefault, hnamed, hc, hclosed⟩ := h
  have f2 : i2c.defaultBus = s.bus.defaultBus ∧ i2c.i3c = s.bus.i3c ∧ i2c.i2c.Consistent := by
    split at h2
    · simpa only [h2] using i2cInitialize_frame (c := c) r.i2cOpens hc
    · cases h2
      exact ⟨rfl, rfl, hc⟩
  have f3 : i3c.defaultBus = i2c.defaultBus ∧ i3c.i2c = i2c.i2c ∧
      (i3c.i3c.Opened ↔ i2c.i3c.Opened) := by
    split at h3
    · simpa only [h3] using i3cInitialize_frame (c := c) r.dbusConnected i2c
    · cases h3
      exact ⟨rfl, rfl, Iff.rfl⟩
  have hnot : ¬ i3c.i3c.Opened := by
    rw [f3.2.2, f2.2.1]
    exact hclosed
  have hselected : i3c.defaultBus = w.selected := f3.1.trans (f2.1.trans hdefault)
  have hi2c : i3c.i2c.Consistent := by
    rw [f3.2.1]
    exact f2.2.2
  refine ⟨⟨f2.1.trans hdefault, hnamed, f2.2.2, by rwa [f2.2.1]⟩,
    ⟨hselected, hnamed, hi2c, hnot⟩,
    ⟨hselected, hi2c, I3cHandler.consistent_of_closed hnot, fun _ => ?_⟩⟩
  exact settled_of_closed hnot (by simp [hnamed])

/-- The initialisation makes no event and keeps the invariant. -/
theorem initializeHandlers_spec (s : BusSession) (r : I2cRequest) :
    ∃ t status, initializeHandlers c s r = (t, status) ∧ t.events = s.events ∧
      (status = .ok → t.handlersInitialized = true) ∧
      ∀ w, SessionInvariant c s w → SessionInvariant c t w := by
  cases hinit : s.handlersInitialized with
  | true =>
      exact ⟨s, .ok, by simp only [initializeHandlers, hinit, if_true], rfl, fun _ => hinit,
        fun _ => id⟩
  | false =>
      rcases h2 : (if c.enableI2c then i2cInitialize c r.i2cOpens s.bus else (s.bus, .ok))
        with ⟨i2c, status₂⟩
      rcases h3 : (if c.enableI3c then i3cInitialize c r.dbusConnected i2c else (i2c, .ok))
        with ⟨i3c, status₃⟩
      have hframe (w : BusWatch) (h : SessionInvariant c s w) :=
        initialize_invariant r hinit h h2 h3
      simp only [hinit] at hframe
      simp only [initializeHandlers, hinit, Bool.false_eq_true, if_false, h2]
      split
      · exact ⟨_, _, rfl, rfl, (fun hok => by cases hok), fun _ => id⟩
      cases status₂ with
      | err | timeout =>
          exact ⟨_, _, rfl, rfl, (fun hok => by cases hok), fun w h => (hframe w h).1⟩
      | ok =>
          simp only [h3]
          cases status₃ with
          | err | timeout =>
              exact ⟨_, _, rfl, rfl, (fun hok => by cases hok), fun w h => (hframe w h).2.1⟩
          | ok =>
              dsimp only
              split
              · refine ⟨_, _, rfl, rfl, fun _ => rfl, fun w h => ?_⟩
                simpa only [SessionInvariant, if_true] using (hframe w h).2.2
              · exact ⟨_, _, rfl, rfl, (fun hok => by cases hok), fun w h => (hframe w h).2.1⟩

theorem processI2cMessage_initialized (s : BusSession) (r : I2cRequest) :
    (processI2cMessage c s r).handlersInitialized = s.handlersInitialized := by
  rw [processI2cMessage]
  split
  · rfl
  split
  · rfl
  split <;> rfl

theorem onI2cMsgRecv_tracked {s : BusSession} (r : I2cRequest)
    (h : Tracked c w₀ (SessionInvariant c s) s.events) :
    Tracked c w₀ (SessionInvariant c (onI2cMsgRecv c s r)) (onI2cMsgRecv c s r).events := by
  rw [onI2cMsgRecv]
  split
  · exact h
  · obtain ⟨t, status, heq, hevents, hready, ht⟩ := initializeHandlers_spec (c := c) s r
    have hinit : Tracked c w₀ (SessionInvariant c t) t.events := by
      rw [hevents]
      exact h.mono ht
    rw [heq]
    cases status with
    | ok =>
        have hready := hready rfl
        have hbetween : Tracked c w₀ (Between c t.bus) t.events :=
          hinit.mono fun w hw => by simpa only [SessionInvariant, hready, if_true] using hw
        refine (processI2cMessage_tracked r hbetween).mono fun w hw => ?_
        rw [SessionInvariant, processI2cMessage_initialized, hready, if_pos rfl]
        exact hw
    | err | timeout => exact hinit

/-- What happens on the buses in a session that receives `requests`. -/
def sessionEvents (c : BusConfig) (defaultBus i2cBus i3cBus : UInt8)
    (requests : List I2cRequest) : List BusEvent :=
  (Machine.run (onI2cMsgRecv c) (.initial defaultBus i2cBus i3cBus) requests).events

/-- In every session the bus selects all meet the condition if and only if every
message is taken, every bus select leaves things and every command is
transferred as the monitor expects. -/
theorem bus_attribution (c : BusConfig) (defaultBus i2cBus i3cBus : UInt8)
    (requests : List I2cRequest) :
    Machine.Meets watch (Keeps c) (.initial defaultBus)
        (sessionEvents c defaultBus i2cBus i3cBus requests) ↔
      Machine.Meets watch (Attributed c) (.initial defaultBus)
        (sessionEvents c defaultBus i2cBus i3cBus requests) := by
  have hstart : Tracked c (.initial defaultBus)
      (SessionInvariant c (.initial defaultBus i2cBus i3cBus))
      (BusSession.initial defaultBus i2cBus i3cBus).events := by
    refine Machine.Tracks.nil ⟨rfl, rfl, (fun d hd => by cases hd), ?_⟩
    rintro ⟨i, hi⟩
    cases hi
  exact (Machine.run_invariant_of_step
    (I := fun s => Tracked c (.initial defaultBus) (SessionInvariant c s) s.events)
    (fun s r h => onI2cMsgRecv_tracked r h) requests hstart).meets_iff

end Session

section Runs

def everyDevice : I3cOpenIo := ⟨true, fun _ => true⟩

def LockIo.taken : LockIo :=
  ⟨⟨true, true⟩, ⟨.granted, everyDevice, some .bmc, ⟨everyDevice, fun _ => true⟩,
    ⟨everyDevice, fun _ => true⟩⟩⟩

/-- A message during which every call succeeds. -/
def smoothRequest (payload : List UInt8) : I2cRequest where
  header := ⟨0, 0, 0, 6, .ofNat payload.length, 0, 0, 0⟩
  buffer := fun k => payload.getD k 0
  io := fun _ => ⟨⟨.taken, .taken, true, everyDevice⟩, ⟨true, fun _ => []⟩, true, fun _ => true⟩
  lock := .taken
  unlock := .taken
  sent := true
  jtagReady := true
  i2cOpens := true
  dbusConnected := true
  targetReady := true

/-- Two buses of one type. -/
def twoBuses (type : BusType) (first second : UInt8) : BusConfig where
  enableI2c := type = .i2c
  enableI3c := type = .i3c
  busConfigMap := fun i => if i.val = 0 then first else if i.val = 1 then second else 0
  busConfigType := fun i => if i.val < 2 then type else .notAllowed
  i2c_enabled := by
    intro i h
    split at h
    · exact decide_eq_true h
    · cases h
  i3c_enabled := by
    intro i h
    split at h
    · exact decide_eq_true h
    · cases h

-- a write on bus 2, a move to bus 4 with a write, then a refused bus and a write
example :
    let c := twoBuses .i3c 2 4
    let requests := [smoothRequest [0x61, 0x03, 0xAA, 1, 4, 0x61, 0x02, 0xBB],
      smoothRequest [1, 9, 0x61, 0x02, 0xCC]]
    let events := sessionEvents c 2 0 0 requests
    Machine.Meets watch (Keeps c) (.initial 2) events ∧
      (events.filterMap fun
        | .transfer _ device _ => device.map BusDevice.bus
        | _ => none) = [2, 4, 4] := by
  decide

/-- The lock has already moved the handler to bus 5 when the bus is selected, so
the default bus stays 3 and the next message is written there. -/
theorem bus_attribution_lost :
    let c := twoBuses .i2c 3 5
    let requests := [smoothRequest [1, 5], smoothRequest [0x61, 0x40, 0xAA]]
    let events := sessionEvents c 3 0 0 requests
    ¬ Machine.Meets watch (Attributed c) (.initial 3) events ∧
      (events.filterMap fun
        | .select bus _ _ after .ok => some (bus, after.defaultBus)
        | _ => none) = [(5, 3)] ∧
      (events.filterMap fun
        | .transfer _ device _ => device
        | _ => none) = [⟨3, true⟩] := by
  decide

end Runs

end AtScaleDebug
