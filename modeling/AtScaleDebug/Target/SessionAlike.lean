import AtScaleDebug.Target.DefaultBus
import AtScaleDebug.Target.BulkLeftover

/-!
Two runs of the daemon with different pasts, in which the same client comes next. What the
earlier clients leave behind is the bulk packet, the output message, a bit of the header
that was read last, and the object path and the bus options of the platform. The bulk packet
does not matter when its fill level is zero, which says that no bulk is under way; the
header is read anew; of the output message only the checksum in the trace line of a loopback
ever shows what it held before; and without buses on the command line a client that reaches
the platform uses the object path, and one that does not the options.
-/

namespace AtScaleDebug

open ByteBuffer

section Messages
variable {c : MsgConfig} {bulk : SppBulk} {buffer : Nat → UInt8}

/-- The state with another bulk packet and another output buffer of the SPP messages. -/
def MsgState.carrying (m : MsgState) (bulk : SppBulk) (buffer : Nat → UInt8) : MsgState :=
  { m with spp := { m.spp with bulk, buffer } }

theorem carrying_beside : MsgState.Beside fun m => m.carrying bulk buffer where
  send _ _ := rfl
  initialized _ := rfl
  bus _ := rfl
  jtag _ := rfl
  withJtag _ _ := rfl
  withBus _ _ := rfl
  withHandler _ _ := rfl
  withInitialized _ := rfl

/-- Neither the bulk packet nor what the output buffer holds has a part in the answer. -/
theorem agentControl_carrying (m : MsgState) (r : AgentRequest) (out : Nat → UInt8) :
    agentControl c (m.carrying bulk buffer) { r with out } =
      ((agentControl c m r).1.carrying bulk buffer, (agentControl c m r).2) := by
  refine (agentControl_apart m.session bulk buffer m r out).trans (congrArg (·, _) ?_)
  rw [agentControl_eq_apart]
  rfl

/-- The remote probes have no configuration to be asked for. -/
def MsgState.NoConfigs (m : MsgState) : Prop := ∀ v, m.vprobe = some v → v.remoteConfigs = 0

/-- The response covers all that is sent of the output buffer. -/
def AgentReply.Covers : AgentReply → Prop
  | .respond bytes size => size ≤ bytes.length
  | .echo | .refuse _ => True

theorem supportedRemoteProbes_covers (m : MsgState) (r : AgentRequest) :
    (supportedRemoteProbes m r).2.1.Covers := by
  rw [supportedRemoteProbes]
  split
  · exact Nat.le_refl 1
  split
  · exact Nat.le_refl 2
  split
  · exact True.intro
  · exact Nat.le_refl 2

theorem remoteProbesConfig_covers {m : MsgState} (h : m.NoConfigs) (r : AgentRequest) :
    (remoteProbesConfig m r).1.Covers := by
  rw [remoteProbesConfig]
  split
  · exact Nat.le_refl 1
  · next v hvprobe =>
      rw [if_pos (h v hvprobe)]
      exact Nat.le_refl 1

theorem obtainDownstreamVersion_covers (m : MsgState) (r : AgentRequest) :
    (obtainDownstreamVersion c m r).1.Covers := by
  refine (Nat.mod_le _ 256).trans ?_
  simp only [List.length_append, List.length_cons, List.length_dropLast, List.length_nil]
  omega

theorem agentControl_covers {m : MsgState} (h : m.NoConfigs) (r : AgentRequest) :
    (agentControl c m r).2.1.Covers := by
  let Covered : MsgState × AgentReply × Status → Prop := fun result => result.2.1.Covers
  suffices Covered (agentControl c m r) from this
  rw [agentControl]
  refine iteInduction (fun _ => Nat.le_refl 2) fun _ => ?_
  refine iteInduction (fun _ => Nat.le_refl 3) fun _ => ?_
  refine iteInduction (fun _ => Nat.le_refl 2) fun _ => ?_
  refine iteInduction (fun _ => Nat.le_refl _) fun _ => ?_
  refine iteInduction (fun _ => supportedRemoteProbes_covers m r) fun _ => ?_
  refine iteInduction (fun _ => remoteProbesConfig_covers h r) fun _ => ?_
  refine iteInduction (fun _ => obtainDownstreamVersion_covers m r) fun _ => ?_
  refine iteInduction (fun _ => Nat.le_refl 5) fun _ => ?_
  refine iteInduction (fun _ => Nat.le_refl 2) fun _ => ?_
  refine iteInduction (fun _ => Nat.le_refl 1) fun _ => ?_
  refine iteInduction (fun _ => True.intro) fun _ => ?_
  exact Nat.le_refl 1

theorem AgentReply.Covers.packet_out {reply : AgentReply} (h : reply.Covers) (hfits : reply.Fits)
    (r : AgentRequest) (out : Nat → UInt8) : reply.packet { r with out } = reply.packet r := by
  cases reply with
  | respond bytes size =>
      simp only [AgentReply.packet]
      rw [getMessageSize_of_fields r.header 0 hfits]
      refine congrArg (Prod.mk _) (slice_congr fun i _ hi => ?_)
      rw [Nat.zero_add] at hi
      have hlt : i < bytes.length := Nat.lt_of_lt_of_le hi h
      rw [← Nat.zero_add i]
      exact (blit_at out 0 bytes i hlt).trans (blit_at r.out 0 bytes i hlt).symm
  | echo | refuse => rfl

theorem agentControl_noConfigs {m : MsgState} (h : m.NoConfigs) (r : AgentRequest) :
    (agentControl c m r).1.NoConfigs := by
  have heffect := agentControl_effect c m r
  generalize agentControl c m r = result at heffect ⊢
  cases heffect with
  | none | closed => exact h
  | probes v probesConfig hvprobe =>
      intro w hw
      rw [← Option.some.inj hw]
      exact h v hvprobe
  | configured =>
      intro v hv
      refine h v (Eq.trans ?_ hv)
      rw [agentConfiguration.eq_def]
      split
      · split
        · rfl
        split
        · rfl
        split
        · split
          · rfl
          · rfl
        · rfl
      · rfl

theorem agentControl_bulk (c : MsgConfig) (m : MsgState) (r : AgentRequest) :
    (agentControl c m r).1.spp.bulk = m.spp.bulk := by
  rw [agentControl_eq_apart]
  rfl

theorem answer_carrying {m : MsgState} (h : m.NoConfigs) (r : MsgRequest) (out : Nat → UInt8) :
    (m.carrying bulk buffer).agentControl c { r with out } =
      ((m.agentControl c r).1.carrying bulk buffer, (m.agentControl c r).2) := by
  have hpacket := (agentControl_covers h r.toAgentRequest).packet_out
    (agentControl_answered c m r.toAgentRequest).fits r.toAgentRequest out
  rw [MsgState.agentControl, MsgState.agentControl]
  dsimp only
  rw [agentControl_carrying]
  dsimp only
  rw [hpacket]
  split
  · rfl
  · rfl

theorem answer_bulk (c : MsgConfig) (m : MsgState) (r : MsgRequest) :
    (m.agentControl c r).1.spp.bulk = m.spp.bulk := by
  rw [← agentControl_bulk c m r.toAgentRequest, MsgState.agentControl]
  dsimp only
  split
  · rfl
  · rfl

theorem answer_noConfigs {m : MsgState} (h : m.NoConfigs) (r : MsgRequest) :
    (m.agentControl c r).1.NoConfigs := by
  have hconfigs : (agentControl c m r.toAgentRequest).1.NoConfigs :=
    agentControl_noConfigs h r.toAgentRequest
  rw [MsgState.agentControl]
  dsimp only
  split
  · exact hconfigs
  · exact hconfigs

theorem initializeHandlers_bulk (c : MsgConfig) (m : MsgState) (r : MsgRequest) :
    (m.initializeHandlers c r).1.spp.bulk = m.spp.bulk := by
  have hcarried : m.initializeHandlers c r = ((m.initializeHandlers c r).1.carrying m.spp.bulk
      m.spp.buffer, (m.initializeHandlers c r).2) :=
    initializeHandlers_beside c carrying_beside m r
  rw [hcarried]
  rfl

theorem initializeHandlers_vprobe (c : MsgConfig) (m : MsgState) (r : MsgRequest) :
    (m.initializeHandlers c r).1.vprobe = m.vprobe := by
  rw [← m.after_aside, initializeHandlers_beside c (after_beside _ _)]
  rfl

theorem processMessage_carrying (m : MsgState) {r : MsgRequest} (h : r.header.type ≠ sppType)
    (out : Nat → UInt8) :
    (m.carrying bulk buffer).processMessage c { r with out } =
      (m.processMessage c r).carrying bulk buffer := by
  unfold MsgState.processMessage
  dsimp only
  split
  · rfl
  split
  · rfl
  split
  · rfl
  · next hsupported hjtag hi2c => exact absurd (Or.inl ⟨hjtag, hi2c, h⟩) hsupported

/-- Only SPP messages have to do with the bulk packet. -/
theorem asdMsgOnMsgRecv_carrying {m : MsgState} (h : m.NoConfigs) {r : MsgRequest}
    (htype : r.header.type ≠ sppType) (out : Nat → UInt8) :
    (m.carrying bulk buffer).asdMsgOnMsgRecv c { r with out } =
      ((m.asdMsgOnMsgRecv c r).1.carrying bulk buffer, (m.asdMsgOnMsgRecv c r).2) := by
  have hlogged : (m.carrying bulk buffer).send (r.logged.map RemoteLog.packet) =
      (m.send (r.logged.map RemoteLog.packet)).carrying bulk buffer := rfl
  have hconfigs : (m.send (r.logged.map RemoteLog.packet)).NoConfigs := h
  rw [MsgState.asdMsgOnMsgRecv, MsgState.asdMsgOnMsgRecv]
  dsimp only
  rw [hlogged]
  generalize m.send (r.logged.map RemoteLog.packet) = logged at hconfigs ⊢
  split
  · rfl
  split
  · exact answer_carrying hconfigs r out
  · have hready : (logged.carrying bulk buffer).initializeHandlers c { r with out } =
        ((logged.initializeHandlers c r).1.carrying bulk buffer,
          (logged.initializeHandlers c r).2) :=
      initializeHandlers_beside c carrying_beside logged r
    rw [MsgState.handled, MsgState.handled, hready]
    generalize logged.initializeHandlers c r = result
    obtain ⟨ready, outcome⟩ := result
    cases outcome with
    | none => rfl
    | some status => exact congrArg (·, status) (processMessage_carrying ready htype out)

/-- The states of two runs: they differ at most in an empty bulk packet and in the output
buffer, so that the same packets have been sent. -/
structure MsgState.Alike (m n : MsgState) : Prop where
  rest : n = m.carrying n.spp.bulk n.spp.buffer
  bulk : SppBulk.Alike m.spp.bulk.log n.spp.bulk.log m.spp.bulk n.spp.bulk
  noConfigs : m.NoConfigs

namespace MsgState.Alike
variable {m n : MsgState}

theorem of_carrying {bulk : SppBulk} {buffer : Nat → UInt8}
    (hbulk : SppBulk.Alike m.spp.bulk.log bulk.log m.spp.bulk bulk) (hconfigs : m.NoConfigs) :
    m.Alike (m.carrying bulk buffer) := ⟨rfl, hbulk, hconfigs⟩

theorem of_spp (hconfigs : m.NoConfigs) {s t : SppSession} (hhandler : t.handler = s.handler)
    (hbulk : SppBulk.Alike s.bulk.log t.bulk.log s.bulk t.bulk) {packets more : List Packet}
    (hpackets : more = packets) :
    ({ m with spp := s }.send packets).Alike ({ m with spp := t }.send more) := by
  obtain ⟨handler, bulk, buffer⟩ := t
  subst hhandler hpackets
  exact ⟨rfl, hbulk, hconfigs⟩

theorem session_eq (h : m.Alike n) : n.session = m.session := by
  rw [h.rest]
  rfl

theorem send (h : m.Alike n) (packets : List Packet) : (m.send packets).Alike (n.send packets) := by
  rw [h.rest]
  exact ⟨rfl, h.bulk, h.noConfigs⟩

theorem agentControl (h : m.Alike n) (r : MsgRequest) (out : Nat → UInt8) :
    (m.agentControl c r).1.Alike (n.agentControl c { r with out }).1 := by
  rw [h.rest, answer_carrying h.noConfigs]
  refine of_carrying ?_ ?_
  · rw [answer_bulk]
    exact h.bulk
  · exact answer_noConfigs h.noConfigs r

theorem processMessage (h : m.Alike n) (r : MsgRequest) (out : Nat → UInt8) :
    (m.processMessage c r).Alike (n.processMessage c { r with out }) := by
  rw [h.rest, MsgState.processMessage, MsgState.processMessage]
  dsimp only
  split
  · exact (of_carrying h.bulk h.noConfigs).send _
  split
  · exact ⟨rfl, h.bulk, h.noConfigs⟩
  split
  · exact ⟨rfl, h.bulk, h.noConfigs⟩
  obtain ⟨hpackets, hhandler, hbulk⟩ :=
    processMessageSpp_alike c.enableSpp m.spp n.spp.buffer (r.toSpp m) h.bulk
  exact of_spp h.noConfigs hhandler hbulk hpackets

theorem handled (h : m.Alike n) (r : MsgRequest) (out : Nat → UInt8) :
    (m.handled c r).1.Alike (n.handled c { r with out }).1 := by
  have hready : (m.initializeHandlers c r).1.Alike
      ((m.initializeHandlers c r).1.carrying n.spp.bulk n.spp.buffer) := by
    refine of_carrying ?_ fun v hv => h.noConfigs v ?_
    · rw [initializeHandlers_bulk]
      exact h.bulk
    · exact (initializeHandlers_vprobe c m r).symm.trans hv
  have hcarried : n.initializeHandlers c { r with out } =
      ((m.initializeHandlers c r).1.carrying n.spp.bulk n.spp.buffer,
        (m.initializeHandlers c r).2) :=
    (congrArg (MsgState.initializeHandlers c · r) h.rest).trans
      (initializeHandlers_beside c carrying_beside m r)
  rw [MsgState.handled, MsgState.handled, hcarried]
  generalize m.initializeHandlers c r = result at hready ⊢
  obtain ⟨ready, outcome⟩ := result
  cases outcome with
  | none => exact hready
  | some status => exact hready.processMessage r out

theorem asdMsgOnMsgRecv (h : m.Alike n) (r : MsgRequest) (out : Nat → UInt8) :
    (m.asdMsgOnMsgRecv c r).1.Alike (n.asdMsgOnMsgRecv c { r with out }).1 := by
  have hlogged := h.send (r.logged.map RemoteLog.packet)
  rw [MsgState.asdMsgOnMsgRecv, MsgState.asdMsgOnMsgRecv]
  dsimp only
  split
  · exact hlogged.send [errorMessage r.header asdMsgCryptNotSupported]
  split
  · exact hlogged.agentControl r out
  · exact hlogged.handled r out

theorem sendBpkEvent (h : m.Alike n) (p : PolledIbi) :
    (m.sendBpkEvent p).Alike (n.sendBpkEvent p) := by
  have hevent := h.bulk.bulkStep (.event m.bulkResponseEnable (p.event clearEventBuffer) p.io)
  obtain ⟨records, hfirst, hsecond⟩ := hevent.log
  rw [h.rest]
  refine of_spp h.noConfigs (s := sppStep m.spp (.event m.bulkResponseEnable p))
    (t := sppStep ⟨m.spp.handler, n.spp.bulk, n.spp.buffer⟩ (.event m.bulkResponseEnable p))
    rfl hevent.rebase (congrArg (List.filterMap BulkRecord.packet?) ?_)
  exact (congrArg (List.drop _) hsecond).trans
    (List.drop_left.trans ((congrArg (List.drop _) hfirst).trans List.drop_left).symm)

end MsgState.Alike

end Messages

section Daemons
variable {d e : Daemon}

/-- The message that is completed is no loopback that is too short for its checksum, or no
line with the checksum is sent. -/
def Daemon.HidesChecksum (d : Daemon) : ClientInput → Prop
  | .read io =>
      let header := MessageHeader.ofBytes (d.reader io).inMsg.header
      (isLoopback header → 5 ≤ (getMessageSize header).getD 0) ∨
        ∀ checksum, io.logged checksum = io.logged 0
  | .event _ _ => True

/-- The message that is being read, or one that is yet to be read and may be anything. -/
def Daemon.SameInput (d e : Daemon) : Prop :=
  e.inMsg = d.inMsg ∨ (d.inMsg.readState = .initial ∧ e.inMsg.readState = .initial)

/-- The daemon in two runs. An event refers to the last message when the handlers are
initialised. -/
structure Daemon.Alike (d e : Daemon) : Prop where
  config : e.config = d.config
  msg : d.msg.Alike e.msg
  inMsg : d.SameInput e
  header : d.msg.session.handlersInitialized = true → e.inMsg = d.inMsg

theorem readCrc_out {payload : Nat → UInt8} {size : Nat} (h : 5 ≤ size) (out out' : Nat → UInt8) :
    readCrc out payload size = readCrc out' payload size := by
  have hbyte {i : Nat} (hi : i < 5) : (if i < size then payload i else out i) =
      if i < size then payload i else out' i := by
    rw [if_pos (Nat.lt_of_lt_of_le hi h), if_pos (Nat.lt_of_lt_of_le hi h)]
  simp only [readCrc]
  rw [hbyte (i := 1) (by decide), hbyte (i := 2) (by decide), hbyte (i := 3) (by decide),
    hbyte (i := 4) (by decide)]

theorem Daemon.SameInput.reader_eq (h : d.SameInput e) (io : ReadIo) :
    e.reader io = d.reader io := by
  rw [Daemon.reader, Daemon.reader]
  obtain heq | ⟨hd, he⟩ := h
  · rw [heq]
  · rw [AtScaleDebug.asdMsgRead, AtScaleDebug.asdMsgRead]
    dsimp only
    rw [hd, he]
    rfl

theorem Daemon.SameInput.request_eq (h : d.SameInput e) {io : ReadIo}
    (hides : d.HidesChecksum (.read io)) :
    e.request io = { d.request io with out := e.out } := by
  rw [Daemon.request, Daemon.request, h.reader_eq]
  simp only [Daemon.HidesChecksum] at hides
  generalize MessageHeader.ofBytes (d.reader io).inMsg.header = header at hides ⊢
  generalize (d.reader io).inMsg.buffer = payload
  have hlogged : io.logged (if isLoopback header then
        readCrc e.out payload ((getMessageSize header).getD 0) else 0) =
      io.logged (if isLoopback header then
        readCrc d.out payload ((getMessageSize header).getD 0) else 0) := by
    obtain hlong | hquiet := hides
    · split
      · next hloopback => rw [readCrc_out (hlong hloopback) e.out d.out]
      · rfl
    · exact (hquiet _).trans (hquiet _).symm
  dsimp only
  rw [hlogged]

namespace Daemon.Alike

theorem asdMsgRead (h : d.Alike e) {io : ReadIo} (hides : d.HidesChecksum (.read io)) :
    (d.asdMsgRead io).Alike (e.asdMsgRead io) := by
  have hrequest := h.inMsg.request_eq hides
  have hheader : (e.request io).header = (d.request io).header := by rw [hrequest]
  rw [Daemon.asdMsgRead, Daemon.asdMsgRead, h.inMsg.reader_eq]
  dsimp only
  split
  · split
    · rw [hheader]
      exact ⟨h.config, h.msg.send _, .inl rfl, fun _ => rfl⟩
    · rw [hrequest, h.config]
      exact ⟨rfl, h.msg.asdMsgOnMsgRecv (d.request io) e.out, .inl rfl, fun _ => rfl⟩
  · exact ⟨h.config, h.msg, .inl rfl, fun _ => rfl⟩

theorem asdMsgEvent (h : d.Alike e) (event : TargetEvent) :
    (d.asdMsgEvent event).Alike (e.asdMsgEvent event) := by
  unfold Daemon.asdMsgEvent
  rw [h.msg.session_eq]
  split
  · next hready =>
      have hinMsg := h.header hready
      cases event with
      | none => exact h
      | pin event =>
          dsimp only
          rw [hinMsg]
          exact ⟨h.config, h.msg.send _, .inl rfl, fun _ => rfl⟩
      | bpk p => exact ⟨h.config, h.msg.sendBpkEvent p, .inl hinMsg, fun _ => hinMsg⟩
  · exact h

theorem log (h : d.Alike e) (logged : List RemoteLog) : (d.log logged).Alike (e.log logged) :=
  ⟨h.config, h.msg.send _, h.inMsg, h.header⟩

theorem clientStep (h : d.Alike e) (input : ClientInput) (hides : d.HidesChecksum input) :
    (AtScaleDebug.clientStep d input).Alike (AtScaleDebug.clientStep e input) := by
  cases input with
  | read io => exact h.asdMsgRead hides
  | event event logged => exact (h.log logged).asdMsgEvent event

end Daemon.Alike

/-- No message and no event changes what the daemon was started with or the configuration. -/
theorem clientStep_static (d : Daemon) (input : ClientInput) :
    (clientStep d input).args = d.args ∧ (clientStep d input).config = d.config := by
  cases input with
  | read io =>
      rw [clientStep, Daemon.asdMsgRead]
      dsimp only
      split
      · split
        · exact ⟨rfl, rfl⟩
        · exact ⟨rfl, rfl⟩
      · exact ⟨rfl, rfl⟩
  | event event logged =>
      rw [clientStep, Daemon.asdMsgEvent.eq_def]
      split
      · cases event with
        | none | pin | bpk => exact ⟨rfl, rfl⟩
      · exact ⟨rfl, rfl⟩

/-- The daemon in two runs that are alike but for a default bus, which makes a difference
only with I2C or I3C. -/
def Daemon.Follows (d e : Daemon) : Prop :=
  ∃ defaultBus, (d.onBus defaultBus).Alike e ∧
    (d.config.Busless ∨ defaultBus = d.msg.session.bus.defaultBus)

theorem Daemon.Follows.clientStep (h : d.Follows e) (input : ClientInput)
    (hides : d.HidesChecksum input) :
    (AtScaleDebug.clientStep d input).Follows (AtScaleDebug.clientStep e input) := by
  obtain ⟨defaultBus, halike, hbusless | rfl⟩ := h
  · have hnext := halike.clientStep input (by cases input with | read | event => exact hides)
    rw [clientStep_onBus defaultBus hbusless] at hnext
    refine ⟨defaultBus, hnext, .inl ?_⟩
    rw [(clientStep_static d input).2]
    exact hbusless
  · exact ⟨_, halike.clientStep input hides, .inr rfl⟩

/-- The bulk packets are both empty, or have the same content. -/
structure Daemon.SameBulk (d e : Daemon) : Prop where
  bufferCount : e.msg.spp.bulk.bufferCount = d.msg.spp.bulk.bufferCount
  content : d.msg.spp.bulk.bufferCount ≠ 0 → e.msg.spp.bulk.buffer = d.msg.spp.bulk.buffer ∧
    e.msg.spp.bulk.ibiCount = d.msg.spp.bulk.ibiCount

/-- The client gets the options of the command line, or those of a platform that it reaches
under the same object path, or the options left for it, which are the same or enable
nothing. -/
def Daemon.SameOptions (d e : Daemon) (n : NewClient) : Prop :=
  d.args.busopt.enables = true ∨
    match n.platform with
    | some p => p.findPath e.platformPath = p.findPath d.platformPath
    | none => (d.targetBusOptions.enables = false ∧ e.targetBusOptions.enables = false) ∨
        e.targetBusOptions = d.targetBusOptions

theorem Daemon.SameOptions.agree {n : NewClient} (h : d.SameOptions e n) (hargs : e.args = d.args) :
    (d.options n).Agree (e.options n) := by
  rw [Daemon.options, Daemon.options, hargs, onClientConnectOptions, onClientConnectOptions]
  split
  · exact .refl _
  · next hnone =>
      replace h := h.resolve_left hnone
      rw [Daemon.platform, Daemon.platform]
      generalize n.platform = platform at h ⊢
      cases platform with
      | some p =>
          have hpath : p.findPath e.platformPath = p.findPath d.platformPath := h
          simp only [targetGetI2cI3cConfig]
          rw [hpath]
          exact setConfigDefaults_agree (dbusGetPlatformBusConfig_agree _ _ _ _)
      | none =>
          obtain ⟨hd, he⟩ | hsame := h
          · exact setConfigDefaults_agree_of_none hd he
          · dsimp only [targetGetI2cI3cConfig]
            rw [hsame]
            exact .refl _

/-- The configuration has no part in the default bus. -/
theorem DaemonArgs.config_of_bus {args args' : DaemonArgs} {o u : BusOptions} {bus : UInt8}
    (hargs : args' = args) (h : u = { o with bus }) (ho : o.Wf) (hu : u.Wf) :
    args'.config u hu = args.config o ho := by
  subst hargs h
  rfl

theorem Daemon.SameBulk.connected (h : d.SameBulk e) (hargs : e.args = d.args) {n : NewClient}
    (hoptions : d.SameOptions e n) : (d.onClientConnect n).Follows (e.onClientConnect n) := by
  obtain ⟨defaultBus, heq, hdefault⟩ := hoptions.agree hargs
  have hbus : (e.options n).bus = defaultBus := congrArg BusOptions.bus heq
  refine ⟨defaultBus, ?_, ?_⟩
  · refine ⟨DaemonArgs.config_of_bus hargs heq _ _, ⟨?_, ?_, ?_⟩, .inr ⟨rfl, rfl⟩, ?_⟩
    · rw [Daemon.onClientConnect, hbus]
      rfl
    · exact ⟨⟨[], (List.append_nil _).symm, (List.append_nil _).symm⟩, h.bufferCount, h.content⟩
    · exact fun _ hv => Option.some.inj hv ▸ rfl
    · exact fun hready => absurd hready Bool.false_ne_true
  · by_cases henables : (d.options n).enables = true
    · exact .inr (hdefault henables)
    · obtain ⟨hi2c, hi3c, -⟩ := BusOptions.enables_eq_false.mp (Bool.eq_false_iff.mpr henables)
      exact .inl ⟨hi2c, hi3c⟩

/-- The client gets no checksum of a loopback that is too short for one. -/
def Daemon.HidesChecksums (d : Daemon) (s : ClientRun) : Prop :=
  Machine.Meets clientStep Daemon.HidesChecksum (d.onClientConnect s.client) s.inputs

theorem Daemon.SameBulk.received (h : d.SameBulk e) (hargs : e.args = d.args) {s : ClientRun}
    (hoptions : d.SameOptions e s.client) (hides : d.HidesChecksums s) :
    e.received s = d.received s := by
  have hstep (d e : Daemon) (input : ClientInput) (hfollows : d.Follows e)
      (hides : d.HidesChecksum input) : (clientStep d input).Follows (clientStep e input) :=
    hfollows.clientStep input hides
  obtain ⟨defaultBus, halike, -⟩ : (d.serve s).Follows (e.serve s) :=
    Machine.run_related_of_meets (R := Daemon.Follows) hstep (h.connected hargs hoptions) hides
  have hsent : (e.serve s).msg.session.sent = ((d.serve s).onBus defaultBus).msg.session.sent :=
    congrArg BusSession.sent halike.msg.session_eq
  exact hsent

end Daemons

end AtScaleDebug
