import AtScaleDebug.Target.ClientSession

/-!
The driver mode is kept twice: in the configuration, where the look ahead of a scan
reads it, and in the JTAG handler, which copies it when it is initialised and scans by
it. Messages change the handler's copy only there. The configuration may be changed at
any time, so the two differ after a change that comes later.
-/

namespace AtScaleDebug

section Handler

/-- Whether the driver is open, and the mode it was opened in. -/
def JtagHandler.mode (s : JtagHandler) : Bool × Bool := (s.driverOpen, s.swMode)

variable (driver : JtagDriver) (s : JtagHandler)

theorem jtagSetTapState_mode (tapState : JtagState) :
    (jtagSetTapState driver s tapState).1.mode = s.mode := by
  simp only [jtagSetTapState, JtagHandler.ioctl]
  split
  · cases driver s.calls.length
      (.setState (decide (tapState = .tlr)) s.active.tapState tapState) with
    | none => rfl
    | some => rfl
  · rfl

theorem jtagSetPadding_mode (padding : JtagPaddingType) (value : Nat) :
    (jtagSetPadding s padding value).1.mode = s.mode := by
  rw [jtagSetPadding]
  split
  · rfl
  · rfl

theorem jtagSetActiveChain_mode (chain : Int) :
    (jtagSetActiveChain s chain).1.mode = s.mode := by
  rw [jtagSetActiveChain]
  split
  · rfl
  · rfl

theorem jtagWaitCycles_mode (numberOfCycles : Nat) :
    (jtagWaitCycles driver s numberOfCycles).1.mode = s.mode := by
  simp only [jtagWaitCycles, JtagHandler.ioctl]
  split
  · rfl
  · cases driver s.calls.length (.bitbang numberOfCycles) with
    | none => rfl
    | some => rfl

theorem jtagSetJtagTck_mode (tck : Nat) : (jtagSetJtagTck driver s tck).1.mode = s.mode := by
  simp only [jtagSetJtagTck, JtagHandler.ioctl]
  cases driver s.calls.length (.setFreq (apbFreq / if tck = 0 then 1 else tck)) with
  | none => rfl
  | some => rfl

theorem transfer_mode (padding : BitVec 32) (n : Nat) (input output : Option (List UInt8))
    (current endState : JtagState) :
    (transfer driver s padding n input output current endState).1.mode = s.mode := by
  simp only [transfer, JtagHandler.ioctl]
  cases driver s.calls.length (.xfer ⟨xferType current, current, endState, padding, n,
    shiftTdio n input output⟩) with
  | none => rfl
  | some => rfl

theorem shiftPreFix_mode (preFix : Nat) (padData : List UInt8) (current : JtagState) :
    (shiftPreFix driver s preFix padData current).1.mode = s.mode := by
  rw [shiftPreFix]
  split
  · dsimp only
    split
    · exact transfer_mode driver (s.setScanState .run) 0 preFix (some padData) none current current
    · rfl
  · rfl

theorem shiftData_mode (r : ShiftRequest) (postFix : Nat) (padData : List UInt8)
    (current : JtagState) : (shiftData driver s r postFix padData current).1.mode = s.mode := by
  rw [shiftData]
  split
  · have hfirst := transfer_mode driver (s.setScanState .done) 0 r.numberOfBits r.input r.output
      current current
    dsimp only [performShift]
    generalize transfer driver (s.setScanState .done) 0 r.numberOfBits r.input r.output current
      current = first at hfirst ⊢
    obtain ⟨u, status, output⟩ := first
    cases status with
    | ok => exact (transfer_mode driver u 0 postFix (some padData) none _ _).trans hfirst
    | err | timeout => exact hfirst
  · have hfirst := transfer_mode driver s 0 r.numberOfBits r.input r.output current r.endState
    dsimp only [performShift]
    generalize transfer driver s 0 r.numberOfBits r.input r.output current r.endState = first
      at hfirst ⊢
    obtain ⟨u, status, output⟩ := first
    cases status with
    | ok =>
        dsimp only
        split
        · exact hfirst
        · exact hfirst
    | err | timeout => exact hfirst

theorem jtagShiftHw_mode (r : ShiftRequest) : (jtagShiftHw driver s r).1.mode = s.mode := by
  simp only [jtagShiftHw]
  split
  · rfl
  · refine (transfer_mode _ _ _ _ _ _ _ _).trans ?_
    split
    · split
      · rfl
      · rfl
    · split
      · rfl
      · rfl

theorem jtagShift_mode (r : ShiftRequest) : (jtagShift driver s r).1.mode = s.mode := by
  rw [jtagShift]
  split
  · exact jtagShiftHw_mode driver s r
  · dsimp only
    split
    · rfl
    · next preFix postFix padData _ =>
        have hbefore := shiftPreFix_mode driver s preFix padData s.active.tapState
        generalize shiftPreFix driver s preFix padData s.active.tapState = before at hbefore ⊢
        obtain ⟨u, status⟩ := before
        cases status with
        | ok => exact (shiftData_mode driver u r postFix padData _).trans hbefore
        | err | timeout => exact hbefore

end Handler

section Bundle
variable (io : JtagIo)

theorem asdWriteSetActiveChainEvent_mode (s : JtagSession) (chain : Nat) :
    (asdWriteSetActiveChainEvent io s chain).1.jtag.mode = s.jtag.mode := by
  rw [asdWriteSetActiveChainEvent, JtagSession.targetCall]
  obtain ⟨status, asserted⟩ := io.target s.calls.length (.write .tckMuxSelect (chain = 1))
  cases status with
  | ok => exact jtagSetActiveChain_mode s.jtag chain
  | err | timeout => rfl

theorem writePins_mode (s : JtagSession) (data : UInt8) :
    (writePins io s data).1.jtag.mode = s.jtag.mode := by
  rw [writePins]
  split
  · rfl
  · split
    · split
      · split
        · rfl
        · exact asdWriteSetActiveChainEvent_mode io s _
      · rfl
    · rfl

theorem waitSync_mode (s : JtagSession) (timeout delay : Nat) :
    (waitSync io s timeout delay).1.jtag.mode = s.jtag.mode := by
  rw [waitSync, JtagSession.targetCall]
  obtain ⟨status, asserted⟩ := io.target s.calls.length (.waitSync timeout delay)
  cases status with
  | ok | err | timeout => rfl

theorem writeEventConfig_mode (s : JtagSession) (data : UInt8) :
    (writeEventConfig io s data).1.jtag.mode = s.jtag.mode := by
  simp only [writeEventConfig]
  split
  · rfl
  · rfl

theorem silentResult_mode (s : JtagSession) (c : JtagCommand) :
    (c.silentResult io s).1.jtag.mode = s.jtag.mode := by
  cases c with
  | writeEventConfig data => exact writeEventConfig_mode io s data
  | jtagFreq data => exact jtagSetJtagTck_mode io.driver s.jtag _
  | drPrefix | drPostfix | irPrefix | irPostfix => exact jtagSetPadding_mode s.jtag _ _
  | writePins data chainBytes => exact writePins_mode io s data
  | waitCycles cmd data => exact jtagWaitCycles_mode io.driver s.jtag _
  | tapReset => exact jtagSetTapState_mode io.driver s.jtag .tlr
  | tapState cmd => exact jtagSetTapState_mode io.driver s.jtag _
  | waitSync => exact waitSync_mode io s _ _
  | prdyTimeout | waitPrdy | clearTimeout | readStatus | writeScan | readScan | readWriteScan
  | cutScan => rfl

theorem executeShift_mode (s : JtagMsgState) (rest : List UInt8) (c : JtagCommand)
    (type : ScanType) (request : JtagState → ShiftRequest) :
    (executeShift io s rest c type request).1.session.jtag.mode = s.session.jtag.mode := by
  rw [executeShift_eq]
  split
  · rfl
  · rw [shiftScan_session]
    exact jtagShift_mode io.driver s.session.jtag _

theorem executeReadingScan_mode (s : JtagMsgState) (rest : List UInt8) (cmd : UInt8)
    {scan : JtagMsgState → JtagMsgState × Status × List UInt8}
    (h : ∀ t : JtagMsgState, (scan t).1.session.jtag.mode = t.session.jtag.mode) :
    (executeReadingScan s rest cmd scan).1.session.jtag.mode = s.session.jtag.mode := by
  rw [executeReadingScan]
  split
  · rfl
  · exact h { s with out := s.out.put [cmd] }

theorem executeJtagCommand_mode (s : JtagMsgState) (rest : List UInt8) (c : JtagCommand) :
    (executeJtagCommand io s rest c).1.session.jtag.mode = s.session.jtag.mode := by
  by_cases hsilent : c.Silent
  · by_cases hreset : c.AssertsReset
    · cases c with
      | writePins data chainBytes =>
          rw [executeJtagCommand, executeWritePins_session]
          exact writePins_mode io s.session data
      | _ => exact absurd hreset id
    · rw [executeJtagCommand_silent io s rest hsilent hreset, carryOut_session]
      exact silentResult_mode io s.session c
  · cases c with
    | readStatus cmd data =>
        rw [executeJtagCommand, executeReadStatus]
        split
        · rfl
        · dsimp only [JtagSession.targetCall]
          obtain ⟨status, asserted⟩ := io.target s.session.calls.length (.read (data &&& 0x7F))
          cases status with
          | ok | err | timeout => rfl
    | writeScan scan => exact executeShift_mode io s rest _ _ _
    | readScan cmd =>
        exact executeReadingScan_mode s rest cmd fun t => executeShift_mode io t rest _ _ _
    | readWriteScan scan =>
        exact executeReadingScan_mode s rest scan.cmd fun t => executeShift_mode io t rest _ _ _
    | cutScan cmd => exact executeReadingScan_mode s rest cmd fun t => rfl
    | _ => exact absurd trivial hsilent

theorem jtagLoop_mode (rounds : Nat) (s : JtagMsgState) (packet : List UInt8) :
    (jtagLoop io rounds s packet).1.session.jtag.mode = s.session.jtag.mode ∧
      (jtagLoop io rounds s packet).1.session.driverMode = s.session.driverMode := by
  induction rounds generalizing s packet with
  | zero => exact ⟨rfl, rfl⟩
  | succ rounds ih =>
      cases packet with
      | nil => exact ⟨rfl, rfl⟩
      | cons byte packet =>
          rw [jtagLoop]
          split
          · exact ⟨rfl, rfl⟩
          · next command rest _ =>
              have hmode := executeJtagCommand_mode io s rest command
              have hextends := executeJtagCommand_extends io s rest command
              generalize executeJtagCommand io s rest command = result at hmode hextends ⊢
              obtain ⟨t, status, left⟩ := result
              cases status with
              | ok => exact ⟨(ih t left).1.trans hmode, (ih t left).2.trans hextends.driverMode⟩
              | err | timeout => exact ⟨hmode, hextends.driverMode⟩

theorem processMessageJtag_mode (s : JtagSession) (header : MessageHeader) (buffer : Nat → UInt8)
    (accepted : Bool) :
    (processMessageJtag io s header buffer accepted).1.jtag.mode = s.jtag.mode ∧
      (processMessageJtag io s header buffer accepted).1.driverMode = s.driverMode := by
  have hbundle : (processJtagMessage io s header buffer accepted).state.session.jtag.mode =
        s.jtag.mode ∧
      (processJtagMessage io s header buffer accepted).state.session.driverMode =
        s.driverMode := by
    rw [processJtagMessage]
    split
    · exact ⟨rfl, rfl⟩
    · next size _ =>
        have hloop := jtagLoop_mode io size ⟨s, .initial, []⟩ (jtagPayload header buffer)
        generalize jtagLoop io size ⟨s, .initial, []⟩ (jtagPayload header buffer) = result
          at hloop ⊢
        obtain ⟨t, status⟩ := result
        cases status with
        | ok =>
            dsimp only
            split
            · exact hloop
            · exact hloop
        | err | timeout => exact hloop
  rw [processMessageJtag]
  split
  · exact ⟨rfl, rfl⟩
  split
  · exact ⟨rfl, rfl⟩
  dsimp only
  split
  · exact hbundle
  · exact hbundle

end Bundle

section Message

/-- The mode that a change of the JTAG settings asks for. -/
def jtagSettingsMode : List UInt8 → Option JtagDriverMode
  | type :: value :: _ =>
      if type = 3 then some (if value &&& 0x01 = 0x01 then .hardware else .software) else none
  | _ => none

/-- The mode that a message asks for. -/
def MsgRequest.settingsMode (r : MsgRequest) : Option JtagDriverMode :=
  if r.header.encBit = 0 ∧ r.header.type = agentControlType ∧ r.header.cmdStat = 8 then
    jtagSettingsMode (ByteBuffer.slice r.buffer 0 ((getMessageSize r.header).getD 0))
  else none

/-- When the driver is in use, the look ahead and the scans go by the same mode. -/
def MsgState.DriverModeAgrees (m : MsgState) : Prop :=
  m.session.handlersInitialized = true → m.jtag.jtag.driverOpen = true →
    (m.jtag.driverMode = .hardware ↔ m.jtag.jtag.swMode = false)

/-- The settings ask for the mode that is set already, once the driver is in use. -/
def MsgState.KeepsDriverMode (m : MsgState) (r : MsgRequest) : Prop :=
  m.session.handlersInitialized = true → m.jtag.jtag.driverOpen = true →
    ∀ mode ∈ r.settingsMode, mode = m.jtag.driverMode

/-- The part of the state that the modes are about. -/
structure MsgState.SameModes (m n : MsgState) : Prop where
  initialized : n.session.handlersInitialized = m.session.handlersInitialized
  mode : n.jtag.jtag.mode = m.jtag.jtag.mode
  driverMode : n.jtag.driverMode = m.jtag.driverMode

variable {c : MsgConfig} {m n : MsgState} {r : MsgRequest}

theorem MsgState.SameModes.agrees (h : m.SameModes n) (agrees : m.DriverModeAgrees) :
    n.DriverModeAgrees := by
  intro hinit hopen
  obtain ⟨hsameOpen, hsw⟩ := Prod.mk.inj h.mode
  rw [h.driverMode, hsw]
  exact agrees (h.initialized.symm.trans hinit) (hsameOpen.symm.trans hopen)

theorem agentConfiguration_modes (m : MsgState) (packet : List UInt8) :
    (agentConfiguration m packet).session = m.session ∧
      (agentConfiguration m packet).jtag.jtag = m.jtag.jtag ∧
      (agentConfiguration m packet).jtag.driverMode =
        (jtagSettingsMode packet).getD m.jtag.driverMode := by
  refine ⟨agentConfiguration_session m packet, ?_⟩
  match packet with
  | [] | [_] => exact ⟨rfl, rfl⟩
  | type :: value :: packet =>
      rw [agentConfiguration, jtagSettingsMode]
      by_cases hlogging : type = 1
      · subst hlogging
        exact ⟨rfl, rfl⟩
      rw [if_neg hlogging]
      by_cases hjtag : type = 3
      · rw [if_pos hjtag, if_pos hjtag]
        exact ⟨rfl, rfl⟩
      rw [if_neg hjtag, if_neg hjtag]
      split
      · split
        · exact ⟨rfl, rfl⟩
        · exact ⟨rfl, rfl⟩
      · exact ⟨rfl, rfl⟩

theorem MsgState.settingsMode_agent (hcrypt : r.header.encBit = 0)
    (htype : r.header.type = agentControlType) (hcmd : r.header.cmdStat = 8) :
    r.settingsMode =
      jtagSettingsMode (ByteBuffer.slice r.buffer 0 ((getMessageSize r.header).getD 0)) :=
  if_pos ⟨hcrypt, htype, hcmd⟩

/-- A change of the settings reaches the configuration and not the handler. -/
theorem agrees_of_settings (agrees : m.DriverModeAgrees)
    (hinit : n.session.handlersInitialized = m.session.handlersInitialized)
    (hjtag : n.jtag.jtag = m.jtag.jtag)
    (hmode : n.jtag.driverMode = r.settingsMode.getD m.jtag.driverMode) :
    n.DriverModeAgrees ↔ m.KeepsDriverMode r := by
  rw [MsgState.DriverModeAgrees, MsgState.KeepsDriverMode, hinit, hjtag, hmode]
  refine forall_congr' fun hinitialized => forall_congr' fun hopen => ?_
  have hnow := agrees hinitialized hopen
  cases r.settingsMode with
  | none => exact iff_of_true hnow fun _ hnone => absurd hnone (Option.not_mem_none _)
  | some mode =>
      rw [Option.getD_some, ← hnow]
      simp only [Option.mem_some_iff, forall_eq']
      cases mode with
      | software | hardware =>
          cases m.jtag.driverMode with
          | software | hardware => decide

theorem agentControl_agrees_iff (hcrypt : r.header.encBit = 0)
    (htype : r.header.type = agentControlType) (agrees : m.DriverModeAgrees) :
    (m.agentControl c r).1.DriverModeAgrees ↔ m.KeepsDriverMode r := by
  have heffect := agentControl_effect c m r.toAgentRequest
  simp only [MsgState.agentControl]
  generalize AtScaleDebug.agentControl c m r.toAgentRequest = result at heffect ⊢
  obtain ⟨n, reply, status⟩ := result
  have hsend : (if (getMessageSize (reply.packet r.toAgentRequest).1).isSome then
      n.send [reply.packet r.toAgentRequest] else n).DriverModeAgrees ↔ n.DriverModeAgrees := by
    split
    · exact Iff.rfl
    · exact Iff.rfl
  have hquery (hcmd : r.header.cmdStat ≠ 8) : r.settingsMode = none :=
    if_neg fun h => hcmd h.2.2
  dsimp only
  rw [hsend]
  cases heffect with
  | none hcmd => exact agrees_of_settings agrees rfl rfl (by rw [hquery hcmd]; rfl)
  | probes v probesConfig hvprobe hcmd =>
      exact agrees_of_settings agrees rfl rfl (by rw [hquery (hcmd ▸ by decide)]; rfl)
  | closed hcmd =>
      exact agrees_of_settings agrees rfl rfl (by rw [hquery (hcmd ▸ by decide)]; rfl)
  | configured hcmd =>
      obtain ⟨hsession, hjtag, hmode⟩ := agentConfiguration_modes m
        (ByteBuffer.slice r.buffer 0 ((getMessageSize r.header).getD 0))
      refine agrees_of_settings agrees (congrArg _ hsession) hjtag ?_
      rw [MsgState.settingsMode_agent hcrypt htype hcmd]
      exact hmode

theorem jtagInitialize_swMode (driver : JtagDriver) (s : JtagHandler) (swMode : Bool) :
    (jtagInitialize driver s swMode).1.swMode = swMode := by
  simp only [jtagInitialize, JtagHandler.ioctl]
  cases driver s.calls.length .openDevice with
  | none => rfl
  | some =>
      dsimp only
      cases driver (s.calls ++ [DriverCall.openDevice]).length (.setMode swMode) with
      | none => rfl
      | some =>
          dsimp only
          generalize hopen : ({ s with
            swMode, driverOpen := true
            calls := s.calls ++ [.openDevice] ++ [.setMode swMode] } : JtagHandler) = t
          have htap := (Prod.mk.inj (jtagSetTapState_mode driver t .tlr)).2
          have hmode : t.swMode = swMode := hopen ▸ rfl
          generalize jtagSetTapState driver t .tlr = result at htap ⊢
          obtain ⟨u, status⟩ := result
          cases status with
          | ok | err | timeout => exact htap.trans hmode

/-- The handler goes by the mode of the configuration. -/
def MsgState.TakesMode (m : MsgState) : Prop :=
  m.jtag.jtag.swMode = decide (m.jtag.driverMode = .software)

theorem MsgState.TakesMode.agrees (h : m.TakesMode) : m.DriverModeAgrees := by
  intro _ _
  rw [h]
  cases m.jtag.driverMode with
  | software | hardware => decide

theorem MsgState.TakesMode.initializeTarget (h : m.TakesMode) :
    (m.initializeTarget r).1.TakesMode := by
  rw [MsgState.initializeTarget]
  cases r.target with
  | none => exact h
  | some t =>
      dsimp only
      cases t.xdpPresent with
      | false | true => exact h

theorem MsgState.TakesMode.initializeSpp (h : m.TakesMode) : (m.initializeSpp r).TakesMode := by
  rw [MsgState.initializeSpp]
  split
  · exact h
  · exact h

/-- The handler takes the mode over when it is initialised. -/
theorem initializeHandlers_agrees (agrees : m.DriverModeAgrees) :
    (m.initializeHandlers c r).1.DriverModeAgrees := by
  rw [MsgState.initializeHandlers]
  split
  · exact agrees
  · have htakes := jtagInitialize_swMode r.jtag.driver m.jtag.jtag (m.jtag.driverMode = .software)
    generalize jtagInitialize r.jtag.driver m.jtag.jtag (m.jtag.driverMode = .software) = result
      at htakes ⊢
    obtain ⟨jtag, status⟩ := result
    dsimp only at htakes ⊢
    refine MsgState.TakesMode.agrees ?_
    split
    · exact htakes
    split
    · split
      · split
        · exact MsgState.TakesMode.initializeTarget (MsgState.TakesMode.initializeSpp htakes)
        · exact MsgState.TakesMode.initializeTarget htakes
      · exact htakes
    · exact htakes

theorem processMessage_sameModes : m.SameModes (m.processMessage c r) := by
  rw [MsgState.processMessage]
  dsimp only
  split
  · exact ⟨rfl, rfl, rfl⟩
  split
  · obtain ⟨hmode, hdriver⟩ := processMessageJtag_mode r.jtag m.jtag r.header r.buffer r.written
    exact ⟨rfl, hmode, hdriver⟩
  split
  · exact ⟨processI2cMessage_initialized m.session r.toI2c, rfl, rfl⟩
  · exact ⟨rfl, rfl, rfl⟩

theorem handled_agrees (agrees : m.DriverModeAgrees) : (m.handled c r).1.DriverModeAgrees := by
  have hinit := initializeHandlers_agrees (c := c) (r := r) agrees
  rw [MsgState.handled]
  generalize m.initializeHandlers c r = result at hinit ⊢
  obtain ⟨n, outcome⟩ := result
  cases outcome with
  | none => exact hinit
  | some status => exact processMessage_sameModes.agrees hinit

/-- Only a change of the settings can set the two apart. -/
theorem asdMsgOnMsgRecv_agrees_iff (agrees : m.DriverModeAgrees) :
    (m.asdMsgOnMsgRecv c r).1.DriverModeAgrees ↔ m.KeepsDriverMode r := by
  have hquery (h : ¬ (r.header.encBit = 0 ∧ r.header.type = agentControlType)) :
      m.KeepsDriverMode r := by
    intro _ _ mode hmode
    rw [MsgRequest.settingsMode, if_neg fun hall => h ⟨hall.1, hall.2.1⟩] at hmode
    exact absurd hmode (Option.not_mem_none mode)
  rw [MsgState.asdMsgOnMsgRecv]
  by_cases henc : r.header.encBit = 0
  · rw [if_neg (not_not.mpr henc)]
    by_cases hagent : r.header.type = agentControlType
    · rw [if_pos hagent]
      exact agentControl_agrees_iff henc hagent agrees
    · rw [if_neg hagent]
      exact iff_of_true (handled_agrees agrees) (hquery fun h => hagent h.2)
  · rw [if_pos henc]
    exact iff_of_true agrees (hquery fun h => henc h.1)

end Message

section Session

/-- The path that `JTAG_shift` takes. -/
def JtagHandler.shiftMode (s : JtagHandler) : JtagDriverMode :=
  if !s.swMode then .hardware else .software

/-- When the driver is in use, a scan is looked ahead in the mode it is shifted in. -/
def MsgState.LooksAheadAsItShifts (m : MsgState) : Prop :=
  m.session.handlersInitialized = true → m.jtag.jtag.driverOpen = true →
    ∀ current type rest, determineShiftEndState m.jtag.driverMode current type rest =
      determineShiftEndState m.jtag.jtag.shiftMode current type rest

/-- The message that the call completes asks for no other mode than the driver was opened
in. -/
def Daemon.KeepsDriverMode (d : Daemon) : ClientInput → Prop
  | .read io =>
      (d.reader io).inMsg.readState = .initial → (d.reader io).delivered ≠ [] →
        d.msg.KeepsDriverMode (d.request io)
  | .event _ _ => True

variable {d : Daemon}

theorem MsgState.DriverModeAgrees.looksAhead {m : MsgState} (h : m.DriverModeAgrees) :
    m.LooksAheadAsItShifts := by
  intro hinit hopen current type rest
  have hmode : m.jtag.driverMode = m.jtag.jtag.shiftMode := by
    have hagree := h hinit hopen
    rw [JtagHandler.shiftMode]
    cases hsw : m.jtag.jtag.swMode with
    | false => exact hagree.mpr hsw
    | true =>
        cases hdriver : m.jtag.driverMode with
        | software => rfl
        | hardware => exact absurd (hsw.symm.trans (hagree.mp hdriver)) (by decide)
  rw [hmode]

theorem asdMsgRead_agrees_iff (agrees : d.msg.DriverModeAgrees) (io : ReadIo) :
    (d.asdMsgRead io).msg.DriverModeAgrees ↔ d.KeepsDriverMode (.read io) := by
  rw [Daemon.asdMsgRead, Daemon.KeepsDriverMode]
  dsimp only
  by_cases hstate : (d.reader io).inMsg.readState = .initial
  · rw [if_pos hstate, forall_prop_of_true hstate]
    by_cases hrefused : (d.reader io).delivered = []
    · rw [if_pos hrefused]
      exact iff_of_true agrees fun h => absurd hrefused h
    · rw [if_neg hrefused, forall_prop_of_true hrefused]
      exact asdMsgOnMsgRecv_agrees_iff agrees
  · rw [if_neg hstate]
    exact iff_of_true agrees fun h => absurd h hstate

theorem asdMsgEvent_agrees (agrees : d.msg.DriverModeAgrees) (event : TargetEvent) :
    (d.asdMsgEvent event).msg.DriverModeAgrees := by
  cases event with
  | none | pin | bpk =>
      rw [Daemon.asdMsgEvent]
      split
      · exact agrees
      · exact agrees

theorem clientStep_agrees_iff (agrees : d.msg.DriverModeAgrees) (i : ClientInput) :
    (clientStep d i).msg.DriverModeAgrees ↔ d.KeepsDriverMode i := by
  cases i with
  | read io => exact asdMsgRead_agrees_iff agrees io
  | event event logged =>
      exact iff_of_true (asdMsgEvent_agrees (d := d.log logged) agrees event) True.intro

/-- Whoever was connected before, the two modes agree after every step of a client, and
the look ahead with the shifts, if and only if no message of the client asks for another
mode once the driver is in use. -/
theorem driver_mode_agrees (d : Daemon) (n : NewClient) (inputs : List ClientInput) :
    Machine.Meets clientStep
        (fun d i => (clientStep d i).msg.DriverModeAgrees ∧
          (clientStep d i).msg.LooksAheadAsItShifts) (d.onClientConnect n) inputs ↔
      Machine.Meets clientStep Daemon.KeepsDriverMode (d.onClientConnect n) inputs := by
  refine Machine.meets_iff_of_invariant (I := fun d => d.msg.DriverModeAgrees)
    (fun s i agrees keeps => (clientStep_agrees_iff agrees i).mpr keeps) (fun s i agrees => ?_)
    (fun hinit _ => absurd hinit Bool.false_ne_true) inputs
  rw [and_iff_left_of_imp fun h => h.looksAhead]
  exact clientStep_agrees_iff agrees i

/-- The first JTAG message opens the driver in software mode; then the client asks for
the hardware mode. -/
theorem driver_mode_differs :
    let d := (Daemon.initial plainArgs).serve ⟨plainClient,
      [.read (wholeMessage jtagType 0 []), .read (wholeMessage agentControlType 8 [3, 1])]⟩
    d.msg.session.handlersInitialized = true ∧ d.msg.jtag.jtag.driverOpen = true ∧
      d.msg.jtag.driverMode = .hardware ∧ d.msg.jtag.jtag.swMode = true := by
  decide +kernel

end Session

end AtScaleDebug
