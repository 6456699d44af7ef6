import AtScaleDebug.Target.ClientSession

/-!
Agent control beside the other messages. Neither the packets sent before nor the probes
have a part in what an SPP, I2C or JTAG message does, so a query changes nothing for
later messages as long as it leaves the devices alone. One query does not: the map of
the SPP devices is made by opening all of them, and afterwards they are closed, also when
a session has them in use.
-/

namespace AtScaleDebug

section I2c
variable (c : BusConfig) (request : MessageHeader) (before : List Packet)

def I2cOutput.after (o : I2cOutput) : I2cOutput := { o with sent := before ++ o.sent }

def I2cState.after (s : I2cState) : I2cState := { s with out := s.out.after before }

theorem I2cOutput.after_send (o : I2cOutput) (cmdStat : UInt8) :
    (o.after before).send request cmdStat = (o.send request cmdStat).after before := by
  simp only [I2cOutput.send, I2cOutput.after, List.append_assoc]

theorem buildResponses_after (continued : Nat → Bool) (ack : Bool) (k : Nat) (msgs : List I2cMsg)
    (o : I2cOutput) :
    buildResponses request continued ack k msgs (o.after before) =
      ((buildResponses request continued ack k msgs o).1.after before,
        (buildResponses request continued ack k msgs o).2) := by
  induction msgs generalizing k o with
  | nil => rfl
  | cons m msgs ih =>
      rw [buildResponses, buildResponses]
      by_cases hfull : m.buffer.length + o.response.length + 2 > maxDataSize
      · have hafter : m.buffer.length + (o.after before).response.length + 2 > maxDataSize := hfull
        rw [if_pos hfull, if_pos hafter]
        dsimp only
        rw [I2cOutput.after_send]
        split
        · exact ih (k + 1) { o.send request asdPacketContinuation with response := m.entry ack }
        · rfl
      · have hafter : ¬ m.buffer.length + (o.after before).response.length + 2 > maxDataSize :=
          hfull
        rw [if_neg hfull, if_neg hafter]
        exact ih (k + 1) { o with response := o.response ++ m.entry ack }

theorem flushI2c_after (io : I2cIo) (s : I2cState) :
    flushI2c c request io (s.after before) =
      ((flushI2c c request io s).1.after before, (flushI2c c request io s).2) := by
  rw [flushI2c, flushI2c]
  dsimp only [I2cState.after, I2cState.emit]
  rw [buildResponses_after]
  generalize buildResponses request io.continued
    (decide ((doReadWrite c io.transfer s.bus s.builder).2 = .ok)) 0
    (if (doReadWrite c io.transfer s.bus s.builder).1.isSome then
      s.builder.mapIdx fun k m => m.received (io.transfer.bytes k) else s.builder) s.out = result
  obtain ⟨out, status⟩ := result
  cases status with
  | ok | err | timeout => rfl

theorem executeI2cCommand_after (io : I2cIo) (s : I2cState) (command : I2cCommand) :
    executeI2cCommand c request io (s.after before) command =
      ((executeI2cCommand c request io s command).1.after before,
        (executeI2cCommand c request io s command).2) := by
  cases command with
  | setSclk | transfer => rfl
  | busSelect bus =>
      have hselect : doBusSelectCommand c request io.select (s.after before) bus =
          ((doBusSelectCommand c request io.select s bus).1.after before,
            (doBusSelectCommand c request io.select s bus).2) := by
        cases bus with
        | none => rfl
        | some bus =>
            simp only [doBusSelectCommand, I2cState.after, I2cOutput.after, I2cState.emit,
              List.append_assoc]
      rw [executeI2cCommand, executeI2cCommand, hselect]
      generalize doBusSelectCommand c request io.select s bus = result
      obtain ⟨t, status⟩ := result
      cases status with
      | ok => rfl
      | err | timeout => simp only [I2cState.after, I2cOutput.after_send]

theorem i2cLoop_after (io : Nat → I2cIo) (rounds k : Nat) (status : Status) (s : I2cState)
    (packet : List UInt8) :
    i2cLoop c io request rounds k status (s.after before) packet =
      ((i2cLoop c io request rounds k status s packet).1.after before,
        (i2cLoop c io request rounds k status s packet).2) := by
  induction rounds generalizing k status s packet with
  | zero => rfl
  | succ rounds ih =>
      cases packet with
      | nil => rfl
      | cons byte packet =>
          rw [i2cLoop, i2cLoop]
          split
          · rfl
          · next command rest _ =>
              rw [executeI2cCommand_after]
              generalize executeI2cCommand c request (io k) s command = result
              obtain ⟨t, flow⟩ := result
              cases flow with
              | broke => rfl
              | skipped status => exact ih (k + 1) status t rest
              | next =>
                  have hflush : (t.after before).pending = t.pending ∧
                      (t.after before).forceStop = t.forceStop := ⟨rfl, rfl⟩
                  dsimp only
                  rw [hflush.1, hflush.2]
                  split
                  · rw [flushI2c_after]
                    generalize flushI2c c request (io k) t = result
                    obtain ⟨u, status⟩ := result
                    cases status with
                    | ok => exact ih (k + 1) .ok u rest
                    | err | timeout => rfl
                  · exact ih (k + 1) .ok t rest

theorem processI2cMessages_after (r : I2cRequest) (bus : BusState) (sent : List Packet)
    (events : List BusEvent) :
    processI2cMessages c r bus (before ++ sent) events =
      ((processI2cMessages c r bus sent events).1.after before,
        (processI2cMessages c r bus sent events).2) := by
  rw [processI2cMessages, processI2cMessages]
  cases getMessageSize r.header with
  | none => rfl
  | some size =>
      have hloop := i2cLoop_after c r.header before r.io size 0 .ok ⟨bus, [], false, false,
        ⟨[], sent⟩, events⟩ (i2cPayload r.header r.buffer)
      dsimp only [I2cState.after, I2cOutput.after] at hloop ⊢
      rw [hloop]
      generalize i2cLoop c r.io r.header size 0 .ok ⟨bus, [], false, false, ⟨[], sent⟩, events⟩
        (i2cPayload r.header r.buffer) = result
      obtain ⟨t, status⟩ := result
      cases status with
      | ok => simp only [I2cOutput.send, List.append_assoc]
      | err | timeout => rfl

def BusSession.after (s : BusSession) : BusSession := { s with sent := before ++ s.sent }

theorem BusSession.after_refuse (s : BusSession) (r : I2cRequest) (cmdStat : UInt8) :
    (s.after before).refuse r cmdStat = (s.refuse r cmdStat).after before := by
  simp only [BusSession.refuse, BusSession.after, List.append_assoc]

theorem processI2cMessage_after (s : BusSession) (r : I2cRequest) :
    processI2cMessage c (s.after before) r = (processI2cMessage c s r).after before := by
  rw [processI2cMessage, processI2cMessage]
  split
  · exact s.after_refuse before r _
  split
  · exact s.after_refuse before r _
  dsimp only [BusSession.after]
  generalize devFlock c r.lock s.bus s.bus.defaultBus .ex = result
  obtain ⟨bus, status⟩ := result
  cases status with
  | ok =>
      dsimp only
      rw [processI2cMessages_after]
      simp only [I2cState.after, I2cOutput.after, List.append_assoc]
      rfl
  | err | timeout => exact BusSession.after_refuse before { s with bus } r _

end I2c

section Beside

/-- A change of the state that the initialisation of the SPP handler and of the target
neither sees nor undoes. -/
structure MsgState.BesideTarget (f : MsgState → MsgState) : Prop where
  send : ∀ m packets, (f m).send packets = f (m.send packets)
  initialized : ∀ m, (f m).session.handlersInitialized = m.session.handlersInitialized
  jtag : ∀ m, (f m).jtag = m.jtag
  withJtag : ∀ m jtag, { f m with jtag } = f { m with jtag }
  withHandler : ∀ m handler, { f m with spp := { (f m).spp with handler } } =
    f { m with spp := { m.spp with handler } }
  withInitialized : ∀ m,
    { f m with session := { (f m).session with handlersInitialized := true } } =
    f { m with session := { m.session with handlersInitialized := true } }

/-- The same for the initialisation of all handlers. -/
structure MsgState.Beside (f : MsgState → MsgState) : Prop extends MsgState.BesideTarget f where
  bus : ∀ m, (f m).session.bus = m.session.bus
  withBus : ∀ m bus, (f m).withBus bus = f (m.withBus bus)

section Target
variable {f : MsgState → MsgState} (hf : MsgState.BesideTarget f)
include hf

theorem initializeTarget_beside (m : MsgState) (r : MsgRequest) :
    (f m).initializeTarget r = (f (m.initializeTarget r).1, (m.initializeTarget r).2) := by
  rw [MsgState.initializeTarget, MsgState.initializeTarget]
  cases r.target with
  | none =>
      dsimp only
      rw [hf.jtag, hf.withJtag]
      exact congrArg (·, none) (hf.send _ _)
  | some t =>
      dsimp only
      rw [hf.withInitialized]
      cases t.xdpPresent with
      | false => exact congrArg (·, _) (hf.send _ _)
      | true =>
          refine congrArg (·, _) ?_
          exact (congrArg (MsgState.send · t.events) (hf.send _ _)).trans (hf.send _ _)

theorem initializeSpp_beside (m : MsgState) (r : MsgRequest) :
    (f m).initializeSpp r = f (m.initializeSpp r) := by
  rw [MsgState.initializeSpp, MsgState.initializeSpp, hf.withHandler]
  split
  · rfl
  · exact hf.send _ _

end Target

section Handlers
variable {f : MsgState → MsgState} (c : MsgConfig) (hf : MsgState.Beside f)
include hf

theorem initializeHandlers_beside (m : MsgState) (r : MsgRequest) :
    (f m).initializeHandlers c r =
      (f (m.initializeHandlers c r).1, (m.initializeHandlers c r).2) := by
  rw [MsgState.initializeHandlers, MsgState.initializeHandlers, hf.initialized, hf.jtag]
  split
  · rfl
  generalize jtagInitialize r.jtag.driver m.jtag.jtag (m.jtag.driverMode = .software) = result
  obtain ⟨jtag, status⟩ := result
  dsimp only
  rw [hf.withJtag, hf.bus]
  generalize hopened : ({ m with jtag := { m.jtag with jtag } } : MsgState) = opened
  have hbus : m.session.bus = opened.session.bus := by rw [← hopened]
  rw [hbus]
  split
  · exact congrArg (·, none) (hf.send _ _)
  generalize (if c.bus.enableI2c then i2cInitialize c.bus r.i2cOpens opened.session.bus else
    (opened.session.bus, .ok)) = result
  obtain ⟨bus, status⟩ := result
  cases status with
  | ok =>
      dsimp only
      generalize (if c.bus.enableI3c then i3cInitialize c.bus r.dbusConnected bus else
        (bus, .ok)) = result
      obtain ⟨bus, status⟩ := result
      cases status with
      | ok =>
          dsimp only
          rw [hf.withBus]
          split
          · rw [initializeSpp_beside hf.toBesideTarget]
            exact initializeTarget_beside hf.toBesideTarget _ r
          · exact initializeTarget_beside hf.toBesideTarget _ r
      | err | timeout =>
          dsimp only
          rw [hf.withBus]
          exact congrArg (·, none) (hf.send _ _)
  | err | timeout =>
      dsimp only
      rw [hf.withBus]
      exact congrArg (·, none) (hf.send _ _)

end Handlers

end Beside

section Messages
variable (c : MsgConfig) (vprobe : Option VprobeHandler) (before : List Packet)

/-- The same state with another vprobe handler, and with packets sent before. -/
def MsgState.after (m : MsgState) : MsgState :=
  { m with vprobe, session := m.session.after before }

theorem MsgState.after_send (m : MsgState) (packets : List Packet) :
    (m.after vprobe before).send packets = (m.send packets).after vprobe before := by
  simp only [MsgState.send, MsgState.after, BusSession.after, List.append_assoc]

theorem after_beside : MsgState.Beside (MsgState.after vprobe before) where
  send m packets := m.after_send vprobe before packets
  initialized _ := rfl
  bus _ := rfl
  jtag _ := rfl
  withJtag _ _ := rfl
  withBus _ _ := rfl
  withHandler _ _ := rfl
  withInitialized _ := rfl

theorem processMessage_after (m : MsgState) (r : MsgRequest) :
    (m.after vprobe before).processMessage c r = (m.processMessage c r).after vprobe before := by
  rw [MsgState.processMessage, MsgState.processMessage]
  dsimp only
  split
  · exact m.after_send vprobe before _
  split
  · exact MsgState.after_send vprobe before { m with
      jtag := (processMessageJtag r.jtag m.jtag r.header r.buffer r.written).1 } _
  split
  · simp only [MsgState.after, processI2cMessage_after]
  · exact MsgState.after_send vprobe before { m with
      spp := (processMessageSpp c.enableSpp m.spp (r.toSpp m)).1 } _

theorem asdMsgOnMsgRecv_after (m : MsgState) {r : MsgRequest}
    (h : r.header.type ≠ agentControlType) :
    (m.after vprobe before).asdMsgOnMsgRecv c r =
      ((m.asdMsgOnMsgRecv c r).1.after vprobe before, (m.asdMsgOnMsgRecv c r).2) := by
  rw [MsgState.asdMsgOnMsgRecv, MsgState.asdMsgOnMsgRecv, if_neg h, if_neg h,
    MsgState.after_send]
  generalize m.send (r.logged.map RemoteLog.packet) = logged
  split
  · exact congrArg (·, Status.err) (logged.after_send vprobe before _)
  · rw [MsgState.handled, MsgState.handled,
      initializeHandlers_beside c (after_beside vprobe before)]
    generalize logged.initializeHandlers c r = result
    obtain ⟨ready, outcome⟩ := result
    cases outcome with
    | none => rfl
    | some status => exact congrArg (·, status) (processMessage_after c vprobe before ready r)

end Messages

section Queries

/-- An agent control message other than a change of the configuration. -/
def MsgRequest.IsQuery (r : MsgRequest) : Prop :=
  r.header.type = agentControlType ∧ r.header.cmdStat ≠ 8

instance (r : MsgRequest) : Decidable r.IsQuery := inferInstanceAs (Decidable (_ ∧ _))

/-- The query for the map of the SPP devices. -/
def MsgRequest.AsksForDevices (r : MsgRequest) (c : MsgConfig) : Prop :=
  r.header.encBit = 0 ∧ r.header.cmdStat = 19 ∧ c.enableSpp = true

instance (r : MsgRequest) (c : MsgConfig) : Decidable (r.AsksForDevices c) :=
  inferInstanceAs (Decidable (_ ∧ _))

/-- No SPP device is open and none is selected. -/
structure SppHandler.Closed (h : SppHandler) : Prop where
  devHandlers : h.devHandlers = fun _ => false
  deviceCount : h.deviceCount = 0
  deviceIndex : h.deviceIndex = firstDevice
  driverHandle : h.driverHandle = none

/-- The handlers of the devices are as they were. -/
structure MsgState.SameDevices (m n : MsgState) : Prop where
  spp : n.spp.handler = m.spp.handler
  bus : n.session.bus = m.session.bus
  jtag : n.jtag = m.jtag

/-- The state without the packets sent and the vprobe handler. -/
def MsgState.aside (m : MsgState) : MsgState :=
  { m with vprobe := none, session := { m.session with sent := [] } }

def receives (c : MsgConfig) (m : MsgState) (r : MsgRequest) : MsgState :=
  (m.asdMsgOnMsgRecv c r).1

/-- From both states the messages have the same effects and lead to the same packets. -/
structure ProcessedAlike (c : MsgConfig) (m n : MsgState) (later : List MsgRequest) : Prop where
  state : (Machine.run (receives c) n later).aside = (Machine.run (receives c) m later).aside
  packets : ∃ packets,
    (Machine.run (receives c) m later).session.sent = m.session.sent ++ packets ∧
      (Machine.run (receives c) n later).session.sent = n.session.sent ++ packets

variable {c : MsgConfig} {m n : MsgState} {r : MsgRequest}

theorem SppHandler.closed_iff (h : SppHandler) : sppCloseDriver h = h ↔ h.Closed := by
  obtain ⟨devHandlers, deviceCount, deviceIndex, driverHandle, _, _, _, _⟩ := h
  constructor
  · intro heq
    injection heq with hdevices hcount hindex hhandle
    exact ⟨hdevices.symm, hcount.symm, hindex.symm, hhandle.symm⟩
  · rintro ⟨rfl, rfl, rfl, rfl⟩
    rfl

theorem MsgState.after_aside (m : MsgState) : m.aside.after m.vprobe m.session.sent = m := by
  simp only [MsgState.after, MsgState.aside, BusSession.after, List.append_nil]

theorem run_after (vprobe : Option VprobeHandler) (before : List Packet) (m : MsgState)
    {later : List MsgRequest} (h : ∀ q ∈ later, q.header.type ≠ agentControlType) :
    Machine.run (receives c) (m.after vprobe before) later =
      (Machine.run (receives c) m later).after vprobe before := by
  induction later generalizing m with
  | nil => rfl
  | cons q later ih =>
      obtain ⟨hq, hlater⟩ := List.forall_mem_cons.mp h
      have hstep : receives c (m.after vprobe before) q =
          (receives c m q).after vprobe before :=
        congrArg Prod.fst (asdMsgOnMsgRecv_after c vprobe before m hq)
      rw [Machine.run_cons, Machine.run_cons, hstep]
      exact ih (receives c m q) hlater

theorem run_eq_after_aside (m : MsgState) {later : List MsgRequest}
    (h : ∀ q ∈ later, q.header.type ≠ agentControlType) :
    Machine.run (receives c) m later =
      (Machine.run (receives c) m.aside later).after m.vprobe m.session.sent := by
  rw [← run_after m.vprobe m.session.sent m.aside h, m.after_aside]

theorem processedAlike_of_aside (heq : n.aside = m.aside) {later : List MsgRequest}
    (h : ∀ q ∈ later, q.header.type ≠ agentControlType) : ProcessedAlike c m n later := by
  have hm := run_eq_after_aside (c := c) m h
  have hn := run_eq_after_aside (c := c) n h
  rw [heq] at hn
  refine ⟨?_, (Machine.run (receives c) m.aside later).session.sent, ?_, ?_⟩
  · rw [hm, hn]
    rfl
  · rw [hm]
    rfl
  · rw [hn]
    rfl

/-- What a query leaves besides its answer and the probes. -/
theorem query_aside (hquery : r.IsQuery) :
    (m.asdMsgOnMsgRecv c r).1.aside =
      if r.AsksForDevices c then
        { m.aside with spp := { m.spp with handler := sppCloseDriver m.spp.handler } }
      else m.aside := by
  rw [MsgState.asdMsgOnMsgRecv, if_pos hquery.1]
  by_cases henc : r.header.encBit = 0
  swap
  · rw [if_pos henc, if_neg fun h => henc h.1]
    rfl
  rw [if_neg (not_not.mpr henc)]
  have heffect := agentControl_effect c (m.send (r.logged.map RemoteLog.packet)) r.toAgentRequest
  simp only [MsgState.agentControl]
  generalize AtScaleDebug.agentControl c (m.send (r.logged.map RemoteLog.packet))
    r.toAgentRequest = result at heffect ⊢
  obtain ⟨n, reply, status⟩ := result
  have hsend : (if (getMessageSize (reply.packet r.toAgentRequest).1).isSome then
      n.send [reply.packet r.toAgentRequest] else n).aside = n.aside := by
    split
    · rfl
    · rfl
  dsimp only
  rw [hsend]
  cases heffect with
  | none hcmd hdevices =>
      rw [if_neg fun h => absurd (h.2.2.symm.trans (hdevices h.2.1)) (by decide)]
      rfl
  | probes v probesConfig hvprobe hcmd =>
      rw [if_neg fun h => absurd (hcmd.symm.trans h.2.1) (by decide)]
      rfl
  | closed hcmd henabled =>
      rw [if_pos ⟨henc, hcmd, henabled⟩]
      rfl
  | configured hcmd => exact absurd hcmd hquery.2

/-- A query leaves the devices as they are, and later messages are processed as if it had
not been sent, if and only if it does not ask for the SPP devices while one of them is in
use. -/
theorem agent_query_read_only (c : MsgConfig) (m : MsgState) (r : MsgRequest)
    (hquery : r.IsQuery) :
    m.SameDevices (m.asdMsgOnMsgRecv c r).1 ∧
        (∀ later, (∀ q ∈ later, q.header.type ≠ agentControlType) →
          ProcessedAlike c m (m.asdMsgOnMsgRecv c r).1 later) ↔
      (r.AsksForDevices c → m.spp.handler.Closed) := by
  have haside := query_aside (c := c) (m := m) hquery
  constructor
  · rintro ⟨hsame, _⟩ hasks
    rw [if_pos hasks] at haside
    have hhandler := congrArg (fun n => n.spp.handler) haside
    exact m.spp.handler.closed_iff.mp (hhandler.symm.trans hsame.spp)
  · intro hclosed
    have hkept : (m.asdMsgOnMsgRecv c r).1.aside = m.aside := by
      by_cases hasks : r.AsksForDevices c
      · rw [haside, if_pos hasks, m.spp.handler.closed_iff.mpr (hclosed hasks)]
        rfl
      · rw [haside, if_neg hasks]
    refine ⟨⟨?_, ?_, ?_⟩, fun later hlater => processedAlike_of_aside hkept hlater⟩
    · exact congrArg (fun n => n.spp.handler) hkept
    · exact congrArg (fun n => n.session.bus) hkept
    · exact congrArg (fun n => n.jtag) hkept

/-- A query for the largest data size. -/
theorem agent_query_read_only_data_size :
    let r := { plainRequest agentControlType [] with header := ⟨2, 0, 0, 0, 0, 0, 5, 13⟩ }
    r.IsQuery ∧ readyState.SameDevices (readyState.asdMsgOnMsgRecv plainArgs.defaults r).1 :=
  ⟨by decide, ((agent_query_read_only _ readyState _ (by decide)).mpr
    fun h => absurd h.2.1 (by decide)).1⟩

/-- The first message opens a device, and a query for the SPP devices closes it. -/
theorem device_query_closes :
    let opens := ClientInput.read (wholeMessage sppType 0 [])
    let asks := ClientInput.read (wholeMessage agentControlType 19 [])
    let m := ((Daemon.initial plainArgs).serve ⟨plainClient, [opens]⟩).msg
    let n := ((Daemon.initial plainArgs).serve ⟨plainClient, [opens, asks]⟩).msg
    (m.spp.handler.devHandlers firstDevice = true ∧ m.spp.handler.deviceCount = 1 ∧
      n.spp.handler.devHandlers firstDevice = false ∧ n.spp.handler.deviceCount = 0) ∧
      ¬ m.SameDevices n := by
  intro opens asks m n
  have hdevices : m.spp.handler.deviceCount = 1 ∧ n.spp.handler.deviceCount = 0 := by
    decide +kernel
  refine ⟨by decide +kernel, fun hsame => ?_⟩
  have hcount := congrArg SppHandler.deviceCount hsame.spp
  rw [hdevices.1, hdevices.2] at hcount
  cases hcount

end Queries

end AtScaleDebug
