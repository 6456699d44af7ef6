import AtScaleDebug.Target.AgentQueries

/-!
The default bus of a client that has neither I2C nor I3C. The reading of the platform
keeps the default bus of an earlier client when nothing is enabled, so it has to be shown
that such a client is served in the same way with any default bus.
-/

namespace AtScaleDebug

/-- Neither I2C nor I3C is enabled. -/
structure MsgConfig.Busless (c : MsgConfig) : Prop where
  enableI2c : c.bus.enableI2c = false
  enableI3c : c.bus.enableI3c = false

section Agent
variable {c : MsgConfig} (session : BusSession) (bulk : SppBulk) (buffer : Nat → UInt8)

/-- The state with everything replaced that agent control has no part in. -/
def MsgState.apart (m : MsgState) : MsgState :=
  { m with session, spp := { m.spp with bulk, buffer } }

theorem agentConfiguration_apart (m : MsgState) (bytes : List UInt8) :
    agentConfiguration (m.apart session bulk buffer) bytes =
      (agentConfiguration m bytes).apart session bulk buffer := by
  rw [agentConfiguration.eq_def, agentConfiguration.eq_def]
  split
  · simp only [apply_ite (MsgState.apart session bulk buffer)]
    rfl
  · rfl

theorem supportedRemoteProbes_apart (m : MsgState) (r : AgentRequest) (out : Nat → UInt8) :
    supportedRemoteProbes (m.apart session bulk buffer) { r with out } =
      ((supportedRemoteProbes m r).1.apart session bulk buffer, (supportedRemoteProbes m r).2) := by
  rw [supportedRemoteProbes, supportedRemoteProbes]
  have hvprobe : (m.apart session bulk buffer).vprobe = m.vprobe := rfl
  rw [hvprobe]
  cases m.vprobe with
  | none => rfl
  | some v =>
      dsimp only
      split
      · rfl
      cases r.vprobe with
      | none => rfl
      | some probesConfig => rfl

/-- Neither the session, nor the bulk packet, nor what the output buffers hold has a part in
the answer. -/
theorem agentControl_apart (m : MsgState) (r : AgentRequest) (out : Nat → UInt8) :
    agentControl c (m.apart session bulk buffer) { r with out } =
      ((agentControl c m r).1.apart session bulk buffer, (agentControl c m r).2) := by
  let set : MsgState × AgentReply × Status → MsgState × AgentReply × Status :=
    fun p => (p.1.apart session bulk buffer, p.2)
  suffices agentControl c (m.apart session bulk buffer) { r with out } =
      set (agentControl c m r) from this
  unfold agentControl
  dsimp only
  rw [agentConfiguration_apart, supportedRemoteProbes_apart]
  simp only [apply_ite set]
  rfl

variable (c) in
/-- The answer leaves these parts as they are. -/
theorem agentControl_eq_apart (m : MsgState) (r : AgentRequest) :
    (agentControl c m r).1 =
      (agentControl c m r).1.apart m.session m.spp.bulk m.spp.buffer :=
  congrArg Prod.fst (agentControl_apart m.session m.spp.bulk m.spp.buffer m r r.out)

end Agent

section Messages
variable {c : MsgConfig} (defaultBus : UInt8)

/-- The state with another default bus. -/
def MsgState.onBus (m : MsgState) : MsgState := m.withBus { m.session.bus with defaultBus }

theorem onBus_beside : MsgState.BesideTarget (MsgState.onBus defaultBus) where
  send _ _ := rfl
  initialized _ := rfl
  jtag _ := rfl
  withJtag _ _ := rfl
  withHandler _ _ := rfl
  withInitialized _ := rfl

theorem answer_onBus (m : MsgState) (r : MsgRequest) :
    (m.onBus defaultBus).agentControl c r =
      ((m.agentControl c r).1.onBus defaultBus, (m.agentControl c r).2) := by
  have hanswer : agentControl c (m.onBus defaultBus) r.toAgentRequest =
      ((agentControl c m r.toAgentRequest).1.onBus defaultBus,
        (agentControl c m r.toAgentRequest).2) := by
    refine (agentControl_apart (m.onBus defaultBus).session m.spp.bulk m.spp.buffer m
      r.toAgentRequest r.out).trans (congrArg (·, _) ?_)
    rw [agentControl_eq_apart]
    rfl
  rw [MsgState.agentControl, MsgState.agentControl, hanswer]
  dsimp only
  split
  · rfl
  · rfl

variable (h : c.Busless)
include h

theorem initializeHandlers_onBus (m : MsgState) (r : MsgRequest) :
    (m.onBus defaultBus).initializeHandlers c r =
      ((m.initializeHandlers c r).1.onBus defaultBus, (m.initializeHandlers c r).2) := by
  have hf := onBus_beside defaultBus
  rw [MsgState.initializeHandlers, MsgState.initializeHandlers, hf.initialized, hf.jtag]
  split
  · rfl
  simp only [h.enableI2c, h.enableI3c, Bool.false_eq_true, if_false]
  generalize jtagInitialize r.jtag.driver m.jtag.jtag (m.jtag.driverMode = .software) = result
  obtain ⟨jtag, status⟩ := result
  dsimp only
  split
  · rfl
  have hwith := hf.withJtag m { m.jtag with jtag }
  have hsame (n : MsgState) : n.withBus n.session.bus = n := rfl
  rw [hsame, hsame, hwith]
  split
  · rw [initializeSpp_beside hf]
    exact initializeTarget_beside hf _ r
  · exact initializeTarget_beside hf _ r

theorem processMessage_onBus (m : MsgState) (r : MsgRequest) :
    (m.onBus defaultBus).processMessage c r = (m.processMessage c r).onBus defaultBus := by
  have hnone : (!(c.bus.enableI2c || c.bus.enableI3c)) = true := by
    rw [h.enableI2c, h.enableI3c]
    rfl
  rw [MsgState.processMessage, MsgState.processMessage]
  dsimp only
  split
  · rfl
  split
  · rfl
  split
  · simp only [processI2cMessage, hnone, if_true]
    split
    · rfl
    · rfl
  · rfl

theorem asdMsgOnMsgRecv_onBus (m : MsgState) (r : MsgRequest) :
    (m.onBus defaultBus).asdMsgOnMsgRecv c r =
      ((m.asdMsgOnMsgRecv c r).1.onBus defaultBus, (m.asdMsgOnMsgRecv c r).2) := by
  rw [MsgState.asdMsgOnMsgRecv, MsgState.asdMsgOnMsgRecv, (onBus_beside defaultBus).send]
  generalize m.send (r.logged.map RemoteLog.packet) = logged
  split
  · rfl
  split
  · exact answer_onBus defaultBus logged r
  · rw [MsgState.handled, MsgState.handled, initializeHandlers_onBus defaultBus h]
    generalize logged.initializeHandlers c r = result
    obtain ⟨ready, outcome⟩ := result
    cases outcome with
    | none => rfl
    | some status => exact congrArg (·, status) (processMessage_onBus defaultBus h ready r)

end Messages

section Daemons

def Daemon.onBus (d : Daemon) (defaultBus : UInt8) : Daemon :=
  { d with msg := d.msg.onBus defaultBus }

variable {d : Daemon} (defaultBus : UInt8)

theorem asdMsgRead_onBus (h : d.config.Busless) (io : ReadIo) :
    (d.onBus defaultBus).asdMsgRead io = (d.asdMsgRead io).onBus defaultBus := by
  have hreader : (d.onBus defaultBus).reader io = d.reader io := rfl
  have hrecv := asdMsgOnMsgRecv_onBus defaultBus h d.msg (d.request io)
  rw [Daemon.asdMsgRead, Daemon.asdMsgRead, hreader]
  dsimp only
  split
  · split
    · rfl
    · exact congrArg (fun result : MsgState × Status => ({ d with
        inMsg := (d.reader io).inMsg
        out := io.leaves d.out
        msg := result.1 } : Daemon)) hrecv
  · rfl

theorem asdMsgEvent_onBus (d : Daemon) (event : TargetEvent) :
    (d.onBus defaultBus).asdMsgEvent event = (d.asdMsgEvent event).onBus defaultBus := by
  cases event with
  | none => simp only [Daemon.asdMsgEvent, ite_self]
  | pin | bpk =>
      have hready : (d.onBus defaultBus).msg.session.handlersInitialized =
          d.msg.session.handlersInitialized := rfl
      unfold Daemon.asdMsgEvent
      rw [hready]
      split
      · rfl
      · rfl

theorem clientStep_onBus (h : d.config.Busless) (input : ClientInput) :
    clientStep (d.onBus defaultBus) input = (clientStep d input).onBus defaultBus := by
  cases input with
  | read io => exact asdMsgRead_onBus defaultBus h io
  | event event logged => exact asdMsgEvent_onBus defaultBus (d.log logged) event

end Daemons

end AtScaleDebug
