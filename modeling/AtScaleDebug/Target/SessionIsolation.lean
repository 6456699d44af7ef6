import AtScaleDebug.Target.AgentSettings
import AtScaleDebug.Target.SessionAlike

/-!
What a client is served after a past, against what the first client of all is served. Three
clients tell the two apart: one asks for SPP, one sends an I2C message while no bus can be
opened, and one gets an event with the bulk response enabled, without having started a
bulk. A past that none of them can tell from no past at all is told by no client.
-/

namespace AtScaleDebug

open ByteBuffer

section Messages
variable {c : MsgConfig} {m : MsgState} {r : MsgRequest}

/-- With all handlers in order the initialisation goes through. -/
theorem initializeHandlers_ready (h : r.StartsUp c m) :
    (m.initializeHandlers c r).1.session.handlersInitialized = true ∧
      (m.initializeHandlers c r).2 ≠ none := by
  have htarget (m : MsgState) : (m.initializeTarget r).1.session.handlersInitialized = true ∧
      (m.initializeTarget r).2 ≠ none := by
    obtain ⟨t, heq, hxdp⟩ := h.target
    rw [MsgState.initializeTarget, heq]
    dsimp only
    rw [hxdp]
    exact ⟨rfl, Option.some_ne_none _⟩
  have hi2c : (if c.bus.enableI2c then i2cInitialize c.bus r.i2cOpens m.session.bus else
      (m.session.bus, .ok)).2 = .ok := by
    split
    · next henabled => exact h.i2c henabled
    · rfl
  have hi3c (bus : BusState) : (if c.bus.enableI3c then i3cInitialize c.bus r.dbusConnected bus
      else (bus, .ok)).2 = .ok := by
    split
    · next henabled =>
        rw [i3cInitialize, henabled, h.i3c henabled]
        rfl
    · rfl
  have hjtag := h.jtag
  rw [MsgState.initializeHandlers]
  split
  · next hready => exact ⟨hready, Option.some_ne_none _⟩
  generalize jtagInitialize r.jtag.driver m.jtag.jtag (m.jtag.driverMode = .software) = result
    at hjtag ⊢
  obtain ⟨jtag, status⟩ := result
  obtain rfl : status = .ok := hjtag
  dsimp only
  rw [if_neg fun hfailed => hfailed.1 rfl]
  generalize (if c.bus.enableI2c then i2cInitialize c.bus r.i2cOpens m.session.bus else
    (m.session.bus, .ok)) = result at hi2c ⊢
  obtain ⟨opened, status⟩ := result
  obtain rfl : status = .ok := hi2c
  have hconnected := hi3c opened
  dsimp only
  generalize (if c.bus.enableI3c then i3cInitialize c.bus r.dbusConnected opened else
    (opened, .ok)) = result at hconnected ⊢
  obtain ⟨bus, status⟩ := result
  obtain rfl : status = .ok := hconnected
  exact htarget _

/-- With I2C or I3C enabled and no bus to be had, the initialisation ends. -/
theorem initializeHandlers_unopened (hdue : m.session.handlersInitialized = false)
    (hjtag : (jtagInitialize r.jtag.driver m.jtag.jtag (m.jtag.driverMode = .software)).2 = .ok)
    (hi2c : r.i2cOpens = false) (hbus : m.session.bus.defaultBus ≠ m.session.bus.i2c.i2cBus)
    (hi3c : r.dbusConnected = false) (henabled : ¬ c.Busless) :
    (m.initializeHandlers c r).1.session.sent =
        m.session.sent ++ [errorMessage r.header asdFailureInitI2cHandler] ∧
      (m.initializeHandlers c r).2 = none := by
  rw [MsgState.initializeHandlers, if_neg (ne_true_of_eq_false hdue)]
  generalize jtagInitialize r.jtag.driver m.jtag.jtag (m.jtag.driverMode = .software) = result
    at hjtag ⊢
  obtain ⟨jtag, status⟩ := result
  obtain rfl : status = .ok := hjtag
  dsimp only
  rw [if_neg fun hfailed => hfailed.1 rfl]
  by_cases hon : c.bus.enableI2c = true
  · have hselect : ∃ h, i2cInitialize c.bus r.i2cOpens m.session.bus =
        ({ m.session.bus with i2c := h }, .err) := by
      rw [i2cInitialize, i2cBusSelect, hon, if_neg (by decide), if_neg hbus, hi2c]
      split
      · exact ⟨_, rfl⟩
      · exact ⟨_, rfl⟩
    obtain ⟨h, heq⟩ := hselect
    rw [if_pos hon, heq]
    exact ⟨rfl, rfl⟩
  · have hon3 : c.bus.enableI3c = true := by
      by_contra hoff
      exact henabled ⟨Bool.eq_false_iff.mpr hon, Bool.eq_false_iff.mpr hoff⟩
    rw [if_neg hon]
    dsimp only
    rw [if_pos hon3, i3cInitialize, hon3, hi3c]
    exact ⟨rfl, rfl⟩

end Messages
section Daemons
variable {d e : Daemon}

def ReadIo.request (io : ReadIo) : MsgRequest := (Daemon.initial plainArgs).request io

/-- The call finds a whole message with this header. -/
structure ReadIo.Whole (io : ReadIo) (header : MessageHeader) : Prop where
  delivers : ((Daemon.initial plainArgs).reader io).inMsg.readState = .initial ∧
    ((Daemon.initial plainArgs).reader io).delivered ≠ [] ∧ io.request.header = header
  quiet : io.logged = fun _ => []

section Whole
variable {io : ReadIo} {header : MessageHeader} (h : io.Whole header)
include h

theorem ReadIo.Whole.hides (d : Daemon) : d.HidesChecksum (.read io) :=
  .inr fun _ => by rw [h.quiet]

/-- A daemon that awaits a message delivers it. -/
theorem ReadIo.Whole.asdMsgRead (hd : d.inMsg.readState = .initial) :
    (d.asdMsgRead io).msg =
        (d.msg.asdMsgOnMsgRecv d.config { io.request with out := d.out }).1 ∧
      (d.asdMsgRead io).inMsg.readState = .initial := by
  have hinMsg : (Daemon.initial plainArgs).SameInput d := .inr ⟨rfl, hd⟩
  rw [Daemon.asdMsgRead, hinMsg.reader_eq, if_pos h.delivers.1, if_neg h.delivers.2.1,
    hinMsg.request_eq (h.hides _)]
  exact ⟨rfl, h.delivers.1⟩

theorem ReadIo.Whole.logged : io.request.logged = [] := by
  rw [ReadIo.request, Daemon.request, h.quiet]

/-- A message that needs the handlers. -/
theorem ReadIo.Whole.handled (hd : d.inMsg.readState = .initial) (henc : header.encBit = 0)
    (htype : header.type ≠ agentControlType) :
    (d.asdMsgRead io).msg =
      ((d.msg.send []).handled d.config { io.request with out := d.out }).1 := by
  obtain rfl := h.delivers.2.2
  rw [(h.asdMsgRead hd).1, MsgState.asdMsgOnMsgRecv]
  dsimp only
  rw [if_neg (not_not.mpr henc), if_neg htype, h.logged]
  rfl

end Whole

theorem plain_jtag :
    (jtagInitialize answeringIo.driver JtagSession.initial.jtag true).2 = .ok := by
  decide

/-- The daemon after the sessions of earlier clients. -/
def Daemon.past (args : DaemonArgs) (history : List ClientRun) : Daemon :=
  Machine.run Daemon.served (.initial args) history

theorem Daemon.past_args (args : DaemonArgs) (history : List ClientRun) :
    (Daemon.past args history).args = args := by
  have hserved (d : Daemon) (s : ClientRun) (hargs : d.args = args) :
      (d.served s).args = args := by
    have hstep (d : Daemon) (input : ClientInput) (hargs : d.args = args) :
        (clientStep d input).args = args := (clientStep_static d input).1.trans hargs
    exact Machine.run_invariant_of_step (I := fun d : Daemon => d.args = args) hstep s.inputs hargs
  exact Machine.run_invariant_of_step (I := fun d : Daemon => d.args = args) hserved history rfl

/-- Neither an object path nor options that enable anything are left of a platform, or the
command line enables buses. -/
def Daemon.LeavesNoPlatform (d : Daemon) : Prop :=
  d.args.busopt.enables = true ∨ (d.targetBusOptions.enables = false ∧ d.platformPath = [])

theorem Daemon.LeavesNoPlatform.sameOptions (h : d.LeavesNoPlatform) (hargs : e.args = d.args)
    (he : e.LeavesNoPlatform) (n : NewClient) : d.SameOptions e n := by
  obtain henables | ⟨hd, hdpath⟩ := h
  · exact .inl henables
  · obtain henables | ⟨he, hepath⟩ := he
    · exact .inl (hargs ▸ henables)
    · refine .inr ?_
      split
      · rw [hdpath, hepath]
      · exact .inl ⟨hd, he⟩

section Options

theorem Daemon.options_congr (d : Daemon) {n n' : NewClient} (h : n'.platform = n.platform) :
    d.options n' = d.options n := by
  rw [Daemon.options, Daemon.options, Daemon.platform, Daemon.platform, h]

/-- Without buses on the command line the client gets the options of the platform. -/
theorem Daemon.options_platform (hargs : d.args.busopt.enables = false) (n : NewClient) :
    ∃ busConfigMap busConfigType,
      d.options n = { (d.platform n).2 with busConfigMap, busConfigType } := by
  rw [Daemon.options, onClientConnectOptions, hargs, if_neg Bool.false_ne_true, setConfigDefaults]
  split
  · exact ⟨_, _, rfl⟩
  · exact ⟨_, _, rfl⟩

theorem Daemon.platform_left {n : NewClient} (hplatform : n.platform = none) :
    (d.platform n).2 = d.targetBusOptions := by
  rw [Daemon.platform, hplatform]
  rfl

theorem Daemon.platform_read {n : NewClient} {p : PlatformRead} (hplatform : n.platform = some p)
    {path : List UInt8} {found : Status} (hpath : p.findPath d.platformPath = (path, found)) :
    (d.platform n).2 =
      (dbusGetPlatformBusConfig found (p.reads path) d.targetBusOptions).1.options := by
  rw [Daemon.platform, hplatform, targetGetI2cI3cConfig]
  dsimp only
  rw [hpath]

def asksForSpp : ReadIo := wholeMessage agentControlType 14 []

theorem asksForSpp_whole : asksForSpp.Whole ⟨0, 0, 0, agentControlType, 0, 0, 0, 14⟩ :=
  ⟨by decide, rfl⟩

/-- A client that asks whether there is SPP. -/
def sppClient (platform : Option PlatformRead) : ClientRun :=
  ⟨{ plainClient with platform }, [.read asksForSpp]⟩

theorem sppClient_hides (d : Daemon) (platform : Option PlatformRead) :
    d.HidesChecksums (sppClient platform) :=
  ⟨asksForSpp_whole.hides _, True.intro⟩

def sppAnswer (enableSpp : Bool) : Packet :=
  (AgentReply.respond [14, if enableSpp then 0 else 1] 2).packet asksForSpp.request.toAgentRequest

theorem sppClient_received (d : Daemon) (platform : Option PlatformRead) :
    d.received (sppClient platform) =
      [sppAnswer (d.options (sppClient platform).client).enableSpp] := by
  have hcontrol (c : MsgConfig) (m : MsgState) (out : Nat → UInt8) :
      agentControl c m { asksForSpp.request.toAgentRequest with out } =
        (m, .respond [14, if c.enableSpp then 0 else 1] 2, .ok) := by
    simp only [agentControl, asksForSpp_whole.delivers.2.2]
    rfl
  have haccepted (enableSpp : Bool) : (getMessageSize (sppAnswer enableSpp).1).isSome = true := by
    revert enableSpp
    decide
  have hout (enableSpp : Bool) (out : Nat → UInt8) :
      (AgentReply.respond [14, if enableSpp then 0 else 1] 2).packet
        { asksForSpp.request.toAgentRequest with out } = sppAnswer enableSpp :=
    have hcovers : (AgentReply.respond [14, if enableSpp then 0 else 1] 2).Covers := Nat.le_refl 2
    hcovers.packet_out (show 2 ≤ maxDataSize by decide) _ out
  have hread := (asksForSpp_whole.asdMsgRead
    (d := d.onClientConnect (sppClient platform).client) rfl).1
  rw [Daemon.received, Daemon.serve]
  dsimp only [sppClient, Machine.run, clientStep] at hread ⊢
  rw [hread, MsgState.asdMsgOnMsgRecv]
  dsimp only
  rw [if_neg (by rw [asksForSpp_whole.delivers.2.2]; decide),
    if_pos (by rw [asksForSpp_whole.delivers.2.2]), MsgState.agentControl]
  dsimp only
  rw [hcontrol]
  dsimp only
  rw [hout, if_pos (haccepted _), asksForSpp_whole.logged]
  rfl

theorem sppAnswer_injective : Function.Injective sppAnswer := by
  intro enableSpp other
  revert enableSpp other
  decide

theorem sppClient_told_apart (hd : d.args.busopt.enables = false)
    (he : e.args.busopt.enables = false) {platform : Option PlatformRead}
    (hspp : (d.platform (sppClient platform).client).2.enableSpp = true)
    (hnone : (e.platform (sppClient platform).client).2.enableSpp = false) :
    d.received (sppClient platform) ≠ e.received (sppClient platform) := by
  obtain ⟨_, _, hoptions⟩ := d.options_platform hd (sppClient platform).client
  obtain ⟨_, _, hothers⟩ := e.options_platform he (sppClient platform).client
  rw [sppClient_received, sppClient_received, hoptions, hothers]
  intro heq
  have hsame := sppAnswer_injective (List.cons.inj heq).1
  exact absurd (hspp.symm.trans (hsame.trans hnone)) (by decide)

/-- A platform with an object that has one SPP bus. -/
def sppPlatform (path : Option (List UInt8)) : PlatformRead :=
  ⟨path, fun _ i => if i = 0 then ⟨some 2, some BusConfigType.spp.string⟩ else ⟨none, none⟩⟩

theorem sppPlatform_enableSpp (path : List UInt8) (o : BusOptions) :
    (dbusGetPlatformBusConfig .ok ((sppPlatform none).reads path) o).1.options.enableSpp =
      true := by
  have hreads : (sppPlatform none).reads path = (sppPlatform none).reads [] := rfl
  have hplain : (dbusGetPlatformBusConfig .ok ((sppPlatform none).reads [])
      plainArgs.busopt).1.options.enableSpp = true := by decide
  obtain ⟨_, heq, -⟩ := dbusGetPlatformBusConfig_agree .ok ((sppPlatform none).reads [])
    plainArgs.busopt o
  rw [hreads, heq]
  exact hplain

/-- The object path of earlier clients is told from none while the object cannot be found. -/
theorem path_told_apart (hd : d.args.busopt.enables = false)
    (he : e.args.busopt.enables = false) (hpath : d.platformPath ≠ [])
    (hnone : e.platformPath = []) :
    d.received (sppClient (some (sppPlatform none))) ≠
      e.received (sppClient (some (sppPlatform none))) := by
  refine sppClient_told_apart hd he ?_ ?_
  · rw [Daemon.platform_read rfl (if_neg hpath)]
    exact sppPlatform_enableSpp _ _
  · rw [Daemon.platform_read rfl (if_pos hnone)]
    rfl

def emptyI2c : ReadIo :=
  let message := wholeMessage i2cType 0 []
  { message with outcomes := { message.outcomes with i2cOpens := false, dbusConnected := false } }

theorem emptyI2c_whole : emptyI2c.Whole ⟨0, 0, 0, i2cType, 0, 0, 0, 0⟩ :=
  ⟨by decide, rfl⟩

/-- A client with an I2C message while neither an I2C bus nor the D-Bus is to be had. -/
def i2cClient (i2cBus : UInt8) : ClientRun := ⟨{ plainClient with i2cBus }, [.read emptyI2c]⟩

theorem i2cClient_hides (d : Daemon) (i2cBus : UInt8) : d.HidesChecksums (i2cClient i2cBus) :=
  ⟨emptyI2c_whole.hides _, True.intro⟩

/-- The state in which the client's message finds the handlers. -/
def Daemon.beforeI2c (d : Daemon) (i2cBus : UInt8) : MsgState :=
  .initial (d.options (i2cClient i2cBus).client).bus (i2cClient i2cBus).client d.msg.spp.bulk
    d.msg.spp.buffer

theorem i2cClient_received (d : Daemon) (i2cBus : UInt8) :
    d.received (i2cClient i2cBus) =
      ((d.beforeI2c i2cBus).handled (d.onClientConnect (i2cClient i2cBus).client).config
        { emptyI2c.request with out := d.out }).1.session.sent := by
  have hread := emptyI2c_whole.handled (d := d.onClientConnect (i2cClient i2cBus).client) rfl
    rfl (by decide)
  have hstart : (d.onClientConnect (i2cClient i2cBus).client).msg.send [] =
    d.beforeI2c i2cBus := rfl
  rw [hstart] at hread
  simp only [Daemon.received, Daemon.serve, i2cClient, Machine.run_cons, Machine.run_nil,
    clientStep] at hread ⊢
  rw [hread]
  rfl

/-- With I2C or I3C enabled the client is told that no handler could be initialised. -/
theorem i2cClient_unopened {i2cBus : UInt8}
    (hbus : (d.options (i2cClient i2cBus).client).bus ≠ i2cBus)
    (henabled : ¬ (d.onClientConnect (i2cClient i2cBus).client).config.Busless) :
    d.received (i2cClient i2cBus) =
      [errorMessage emptyI2c.request.header asdFailureInitI2cHandler] := by
  obtain ⟨hsent, hended⟩ := initializeHandlers_unopened
    (m := d.beforeI2c i2cBus)
    (r := { emptyI2c.request with out := d.out }) rfl plain_jtag rfl hbus rfl henabled
  rw [i2cClient_received, MsgState.handled]
  generalize MsgState.initializeHandlers _ _ _ = result at hsent hended ⊢
  obtain ⟨ready, outcome⟩ := result
  obtain rfl : outcome = none := hended
  exact hsent

/-- Without them the message is refused in the end. -/
theorem i2cClient_refused {i2cBus : UInt8}
    (hnone : (d.onClientConnect (i2cClient i2cBus).client).config.Busless) :
    ∃ packets, d.received (i2cClient i2cBus) =
      packets ++ [errorMessage emptyI2c.request.header asdI2cMsgNotSupported] := by
  have hready := initializeHandlers_ready
    (c := (d.onClientConnect (i2cClient i2cBus).client).config)
    (m := d.beforeI2c i2cBus)
    (r := { emptyI2c.request with out := d.out })
    ⟨plain_jtag, fun hon => absurd (hon.symm.trans hnone.enableI2c) (by decide),
      fun hon => absurd (hon.symm.trans hnone.enableI3c) (by decide), _, rfl, rfl⟩
  have htype : emptyI2c.request.header.type = i2cType := by rw [emptyI2c_whole.delivers.2.2]
  have hcmdStat : emptyI2c.request.header.cmdStat = 0 := by rw [emptyI2c_whole.delivers.2.2]
  rw [i2cClient_received, MsgState.handled]
  generalize MsgState.initializeHandlers _ _ _ = result at hready ⊢
  obtain ⟨ready, outcome⟩ := result
  cases outcome with
  | none => exact absurd rfl hready.2
  | some status =>
      refine ⟨ready.session.sent, ?_⟩
      have hoff : (!((d.onClientConnect (i2cClient i2cBus).client).config.bus.enableI2c ||
          (d.onClientConnect (i2cClient i2cBus).client).config.bus.enableI3c)) = true := by
        rw [hnone.enableI2c, hnone.enableI3c]
        rfl
      simp only [MsgState.processMessage, htype, hcmdStat, MsgRequest.toI2c, processI2cMessage,
        hoff]
      rfl

/-- The options of earlier clients are told apart from those of the first one. -/
theorem options_told_apart (hd : d.args.busopt.enables = false)
    (he : e.args.busopt.enables = false) (henables : d.targetBusOptions.enables = true)
    (hnone : e.targetBusOptions.enables = false) :
    d.received (sppClient none) ≠ e.received (sppClient none) ∨
      ∃ i2cBus, d.received (i2cClient i2cBus) ≠ e.received (i2cClient i2cBus) := by
  obtain ⟨heI2c, heI3c, heSpp⟩ := BusOptions.enables_eq_false.mp hnone
  by_cases hspp : d.targetBusOptions.enableSpp = true
  · left
    refine sppClient_told_apart hd he ?_ ?_
    · rw [Daemon.platform_left rfl]
      exact hspp
    · rw [Daemon.platform_left rfl]
      exact heSpp
  · -- the handler is given a bus that is not the default one, so that it has to open it
    let i2cBus := d.targetBusOptions.bus + 1
    obtain ⟨_, _, hoptions⟩ := d.options_platform hd (i2cClient i2cBus).client
    obtain ⟨_, _, hothers⟩ := e.options_platform he (i2cClient i2cBus).client
    rw [Daemon.platform_left rfl] at hoptions hothers
    refine .inr ⟨i2cBus, ?_⟩
    have hbus : (d.options (i2cClient i2cBus).client).bus ≠ i2cBus := by
      rw [hoptions]
      exact fun heq => absurd (UInt8.add_eq_left.mp heq.symm) (by decide)
    have hfirst : ¬ (d.onClientConnect (i2cClient i2cBus).client).config.Busless := by
      intro hbusless
      have hI2c : (d.options (i2cClient i2cBus).client).enableI2c = false := hbusless.enableI2c
      have hI3c : (d.options (i2cClient i2cBus).client).enableI3c = false := hbusless.enableI3c
      rw [hoptions] at hI2c hI3c
      have hoff := BusOptions.enables_eq_false.mpr ⟨hI2c, hI3c, Bool.eq_false_iff.mpr hspp⟩
      exact absurd (henables.symm.trans hoff) (by decide)
    have hsecond : (e.onClientConnect (i2cClient i2cBus).client).config.Busless := by
      have hI2c : (e.options (i2cClient i2cBus).client).enableI2c = false := by rw [hothers, heI2c]
      have hI3c : (e.options (i2cClient i2cBus).client).enableI3c = false := by rw [hothers, heI3c]
      exact ⟨hI2c, hI3c⟩
    obtain ⟨packets, heq⟩ := i2cClient_refused hsecond
    rw [i2cClient_unopened hbus hfirst, heq]
    intro hsame
    have hlast := congrArg List.getLast? hsame
    rw [List.getLast?_concat] at hlast
    have hcmdStat : asdFailureInitI2cHandler = asdI2cMsgNotSupported :=
      congrArg (fun p : Packet => p.1.cmdStat) (Option.some.inj hlast)
    exact absurd hcmdStat (by decide)

/-- What is left of a platform is told from nothing by one of these clients. -/
theorem platform_told_apart (hargs : e.args = d.args) (hleft : ¬ d.LeavesNoPlatform)
    (hnone : e.targetBusOptions.enables = false) (hpath : e.platformPath = []) :
    ∃ s, d.HidesChecksums s ∧ d.received s ≠ e.received s := by
  obtain ⟨henables, hplatform⟩ := not_or.mp hleft
  have hd : d.args.busopt.enables = false := Bool.eq_false_iff.mpr henables
  have he : e.args.busopt.enables = false := hargs ▸ hd
  by_cases hdpath : d.platformPath = []
  · have hused := Bool.ne_false_iff.mp fun hoff => hplatform ⟨hoff, hdpath⟩
    obtain htold | ⟨i2cBus, htold⟩ := options_told_apart hd he hused hnone
    · exact ⟨_, sppClient_hides _ _, htold⟩
    · exact ⟨_, i2cClient_hides _ i2cBus, htold⟩
  · exact ⟨_, sppClient_hides _ _, path_told_apart hd he hdpath hpath⟩

end Options

section Events

/-- A bulk packet is told from an event by its first byte. -/
theorem packet_kind {b : SppBulk} {p : Packet} (h : b.packet.packet? = some p) :
    p.2.head? ≠ some asdEventBpk := by
  rw [SppBulk.packet, BulkRecord.packet?] at h
  split at h
  · rw [← Option.some.inj h]
    dsimp only
    cases (getMessageSize (eventHeader b.bufferCount)).getD 0 with
    | zero => exact Option.some_ne_none asdEventBpk ∘ Eq.symm
    | succ n =>
        rw [slice, List.range_succ_eq_map]
        have hkind : asdEventBulkBpk ≠ asdEventBpk := by decide
        exact fun hhead => hkind (Option.some.inj hhead)
  · cases h

/-- An automatic command's event is sent by itself unless it goes into a bulk packet. -/
theorem event_told_apart {b : SppBulk} (hcount : b.bufferCount ≠ 0) {event : BpkEvent}
    (hauto : checkSppAutoCmdEvent event = true) (io : BpkIo) :
    ((sendBpkEvent true b event io).1.log.drop b.log.length).filterMap BulkRecord.packet? ≠
      [event.packet] := by
  have hstores : Stores b event true := ⟨rfl, hauto, Nat.pos_of_ne_zero hcount⟩
  obtain ⟨-, -, heq⟩ | ⟨-, -, heq⟩ | ⟨hnot, -⟩ := sendBpkEvent_cases b event true io
  · rw [heq, save_log]
    have hlog : (sendBulkBpkEvent b io.flushed).1.restart.log = b.log ++ [b.packet] := rfl
    rw [hlog, List.append_assoc, List.drop_left]
    intro hpackets
    cases hpacket : b.packet.packet? with
    | none =>
        rw [List.cons_append, List.filterMap_cons_none hpacket] at hpackets
        cases hpackets
    | some p =>
        rw [List.cons_append, List.filterMap_cons_some hpacket] at hpackets
        obtain rfl := (List.cons.inj hpackets).1
        exact packet_kind hpacket rfl
  · rw [heq, save_log, List.drop_left]
    exact List.cons_ne_nil _ _ ∘ Eq.symm
  · exact absurd hstores hnot

def dataReady : PolledIbi :=
  ⟨firstDevice, some [sppIbiDataReady, sppIbiSubreasonBufferThreshold], ⟨true, true⟩⟩

def emptyJtag : ReadIo := wholeMessage jtagType 0 []
def enableBulk : ReadIo := wholeMessage agentControlType 8 [4, 3]

theorem emptyJtag_whole : emptyJtag.Whole ⟨0, 0, 0, jtagType, 0, 0, 0, 0⟩ :=
  ⟨by decide, rfl⟩

theorem enableBulk_whole : enableBulk.Whole ⟨0, 0, 0, agentControlType, 2, 0, 0, 8⟩ :=
  ⟨by decide, rfl⟩

/-- A client that has the handlers initialised, enables the bulk response and gets the event
of an automatic command, without having started a bulk. -/
def eventClient (i2cBus : UInt8) : ClientRun :=
  ⟨{ plainClient with i2cBus },
    [.read emptyJtag, .read enableBulk, .event (.bpk dataReady) []]⟩

theorem eventClient_hides (d : Daemon) (i2cBus : UInt8) : d.HidesChecksums (eventClient i2cBus) :=
  ⟨emptyJtag_whole.hides _, enableBulk_whole.hides _, True.intro, True.intro⟩

theorem connected_noConfigs (d : Daemon) (n : NewClient) :
    (d.onClientConnect n).msg.NoConfigs := fun _ hv => Option.some.inj hv ▸ rfl

theorem asdMsgOnMsgRecv_noConfigs {c : MsgConfig} {m : MsgState} (h : m.NoConfigs)
    (r : MsgRequest) : (m.asdMsgOnMsgRecv c r).1.NoConfigs := by
  have hself : SppBulk.Alike m.spp.bulk.log m.spp.bulk.log m.spp.bulk m.spp.bulk :=
    ⟨⟨[], (List.append_nil _).symm, (List.append_nil _).symm⟩, rfl, fun _ => ⟨rfl, rfl⟩⟩
  have halike : m.Alike m := ⟨rfl, hself, h⟩
  exact (halike.asdMsgOnMsgRecv r r.out).noConfigs

/-- A message that is not for SPP leaves another bulk packet as it is. -/
theorem ReadIo.Whole.carrying {io : ReadIo} {header : MessageHeader} (h : io.Whole header)
    (htype : header.type ≠ sppType) {bulk : SppBulk} {buffer : Nat → UInt8}
    (hd : d.inMsg.readState = .initial) (he : e.inMsg.readState = .initial)
    (hconfig : e.config = d.config)
    (hmsg : e.msg = d.msg.carrying bulk buffer) (hconfigs : d.msg.NoConfigs) :
    (e.asdMsgRead io).msg = (d.asdMsgRead io).msg.carrying bulk buffer := by
  obtain rfl := h.delivers.2.2
  rw [(h.asdMsgRead he).1, (h.asdMsgRead hd).1, hconfig, hmsg]
  exact congrArg Prod.fst
    (asdMsgOnMsgRecv_carrying hconfigs (r := { io.request with out := d.out }) htype e.out)

/-- The daemon before the event. -/
def Daemon.enabled (d : Daemon) (i2cBus : UInt8) : Daemon :=
  ((d.onClientConnect (eventClient i2cBus).client).asdMsgRead emptyJtag).asdMsgRead enableBulk

/-- Another bulk packet stays the only difference until the event. -/
theorem read_carrying {bulk : SppBulk} {buffer : Nat → UInt8} (hd : d.inMsg.readState = .initial)
    (he : e.inMsg.readState = .initial) (hconfig : e.config = d.config)
    (hmsg : e.msg = d.msg.carrying bulk buffer) (hconfigs : d.msg.NoConfigs) :
    ((e.asdMsgRead emptyJtag).asdMsgRead enableBulk).msg =
      ((d.asdMsgRead emptyJtag).asdMsgRead enableBulk).msg.carrying bulk buffer := by
  have hlater : (d.asdMsgRead emptyJtag).msg.NoConfigs := by
    rw [(emptyJtag_whole.asdMsgRead hd).1]
    exact asdMsgOnMsgRecv_noConfigs hconfigs _
  have hconfig' : (e.asdMsgRead emptyJtag).config = (d.asdMsgRead emptyJtag).config :=
    ((clientStep_static e (.read emptyJtag)).2.trans hconfig).trans
      (clientStep_static d (.read emptyJtag)).2.symm
  exact enableBulk_whole.carrying (by decide) (emptyJtag_whole.asdMsgRead hd).2
    (emptyJtag_whole.asdMsgRead he).2 hconfig'
    (emptyJtag_whole.carrying (by decide) hd he hconfig hmsg hconfigs) hlater

theorem enabled_carrying {bulk : SppBulk} {buffer : Nat → UInt8}
    (he : e = { d with msg := d.msg.carrying bulk buffer }) (i2cBus : UInt8) :
    (e.enabled i2cBus).msg = (d.enabled i2cBus).msg.carrying bulk buffer := by
  subst he
  exact read_carrying rfl rfl rfl rfl (connected_noConfigs d _)

theorem enabled_bulk (d : Daemon) (i2cBus : UInt8) :
    (d.enabled i2cBus).msg.spp.bulk = d.msg.spp.bulk := by
  have hcarried : (d.enabled i2cBus).msg =
    (d.enabled i2cBus).msg.carrying d.msg.spp.bulk d.msg.spp.buffer := enabled_carrying rfl i2cBus
  generalize (d.enabled i2cBus).msg = m at hcarried ⊢
  rw [hcarried]
  rfl

/-- The bus of the handler is the default one, so that it need not be opened. -/
theorem emptyJtag_ready {i2cBus : UInt8}
    (hbus : (d.options (eventClient i2cBus).client).bus = i2cBus) :
    ((d.onClientConnect (eventClient i2cBus).client).asdMsgRead
      emptyJtag).msg.session.handlersInitialized = true := by
  have hselected (c : BusConfig) (opens : Bool) (hon : c.enableI2c = true) :
      (i2cInitialize c opens (d.onClientConnect
        (eventClient i2cBus).client).msg.session.bus).2 = .ok := by
    rw [i2cInitialize, i2cBusSelect, hon, if_neg (by decide)]
    exact congrArg Prod.snd (if_pos hbus)
  have hready := initializeHandlers_ready
    (c := (d.onClientConnect (eventClient i2cBus).client).config)
    (m := (d.onClientConnect (eventClient i2cBus).client).msg.send [])
    (r := { emptyJtag.request with out := d.out })
    ⟨plain_jtag, hselected _ _, fun _ => rfl, _, rfl, rfl⟩
  have htype : emptyJtag.request.header.type = jtagType := by rw [emptyJtag_whole.delivers.2.2]
  have hcmdStat : emptyJtag.request.header.cmdStat = 0 := by rw [emptyJtag_whole.delivers.2.2]
  have hread := emptyJtag_whole.handled (d := d.onClientConnect (eventClient i2cBus).client) rfl
    rfl (by decide)
  have hout : (d.onClientConnect (eventClient i2cBus).client).out = d.out := rfl
  rw [hread, MsgState.handled, hout]
  generalize MsgState.initializeHandlers _ _ _ = result at hready ⊢
  obtain ⟨ready, outcome⟩ := result
  cases outcome with
  | none => exact absurd rfl hready.2
  | some status =>
      simp only [MsgState.processMessage, htype, hcmdStat]
      exact hready.1

theorem enabled_ready {i2cBus : UInt8}
    (hbus : (d.options (eventClient i2cBus).client).bus = i2cBus) :
    (d.enabled i2cBus).msg.session.handlersInitialized = true ∧
      (d.enabled i2cBus).msg.bulkResponseEnable = true := by
  have hready := emptyJtag_ready hbus
  have henc : enableBulk.request.header.encBit = 0 := by rw [enableBulk_whole.delivers.2.2]
  have htype : enableBulk.request.header.type = agentControlType := by
    rw [enableBulk_whole.delivers.2.2]
  have hcmdStat : enableBulk.request.header.cmdStat = 8 := by rw [enableBulk_whole.delivers.2.2]
  rw [Daemon.enabled, (enableBulk_whole.asdMsgRead (emptyJtag_whole.asdMsgRead rfl).2).1]
  generalize (d.onClientConnect (eventClient i2cBus).client).asdMsgRead emptyJtag = before
    at hready ⊢
  let message : ConfigurationMessage :=
    ⟨{ enableBulk.request with out := before.out }, henc, htype, hcmdStat⟩
  have hvalue : message.value agentConfigTypeSppBulkMode = some 3 := by
    have hpayload : slice enableBulk.request.buffer 0
        ((getMessageSize enableBulk.request.header).getD 0) = [4, 3] := by decide
    exact congrArg (configuredValue agentConfigTypeSppBulkMode) hpayload
  have henables : (some (3 : UInt8)).elim false bulkResponseOf = true := by decide
  have hbulk : (configure before.config before.msg message).bulkResponseEnable = true := by
    rw [(configure_step before.config before.msg message).bulkResponse, hvalue, henables,
      Bool.or_true]
  refine ⟨?_, hbulk⟩
  rw [MsgState.asdMsgOnMsgRecv, if_neg (not_not.mpr henc), if_pos htype, MsgState.agentControl]
  dsimp only
  have hsession := (agentControl_answered before.config
    (before.msg.send (enableBulk.request.logged.map RemoteLog.packet))
    { enableBulk.request.toAgentRequest with out := before.out }).session
  split
  · exact (congrArg BusSession.handlersInitialized hsession).trans hready
  · exact (congrArg BusSession.handlersInitialized hsession).trans hready

/-- The packets of an event. -/
def eventPackets (m : MsgState) (p : PolledIbi) : List Packet :=
  ((sendBpkEvent m.bulkResponseEnable m.spp.bulk (p.event clearEventBuffer) p.io).1.log.drop
    m.spp.bulk.log.length).filterMap BulkRecord.packet?

theorem asdMsgEvent_sent (hready : d.msg.session.handlersInitialized = true) (p : PolledIbi) :
    (d.asdMsgEvent (.bpk p)).msg.session.sent = d.msg.session.sent ++ eventPackets d.msg p := by
  rw [Daemon.asdMsgEvent.eq_def, if_pos hready]
  rfl

theorem eventPackets_of_empty {m : MsgState} (hcount : m.spp.bulk.bufferCount = 0)
    (p : PolledIbi) : eventPackets m p = [(p.event clearEventBuffer).packet] := by
  have hnot : ¬ Stores m.spp.bulk (p.event clearEventBuffer) m.bulkResponseEnable :=
    fun hstores => absurd hcount (Nat.ne_of_gt hstores.2.2)
  rw [eventPackets, sendBpkEvent, if_neg hnot, record_log, List.drop_left]
  rfl

theorem asdMsgEvent_told_apart {bulk : SppBulk} {buffer : Nat → UInt8}
    (hmsg : e.msg = d.msg.carrying bulk buffer) (hready : d.msg.session.handlersInitialized = true)
    (henabled : d.msg.bulkResponseEnable = true) (hempty : d.msg.spp.bulk.bufferCount = 0)
    (hcount : bulk.bufferCount ≠ 0) {p : PolledIbi}
    (hauto : checkSppAutoCmdEvent (p.event clearEventBuffer) = true) :
    (e.asdMsgEvent (.bpk p)).msg.session.sent ≠ (d.asdMsgEvent (.bpk p)).msg.session.sent := by
  have hready' : e.msg.session.handlersInitialized = true := by
    rw [hmsg]
    exact hready
  have hpackets : eventPackets e.msg p = ((sendBpkEvent true bulk (p.event clearEventBuffer)
      p.io).1.log.drop bulk.log.length).filterMap BulkRecord.packet? := by
    rw [hmsg, ← henabled]
    rfl
  have hsent : e.msg.session.sent = d.msg.session.sent := by
    rw [hmsg]
    rfl
  rw [asdMsgEvent_sent hready, asdMsgEvent_sent hready', eventPackets_of_empty hempty, hsent]
  intro heq
  exact event_told_apart hcount hauto p.io (hpackets.symm.trans (List.append_cancel_left heq))

theorem eventClient_received (d : Daemon) (i2cBus : UInt8) :
    d.received (eventClient i2cBus) =
      ((d.enabled i2cBus).asdMsgEvent (.bpk dataReady)).msg.session.sent := by
  have hquiet (d : Daemon) : d.log [] = d := by
    have hsent : d.msg.send [] = d.msg := by rw [MsgState.send, List.append_nil]
    exact congrArg (fun msg : MsgState => ({ d with msg } : Daemon)) hsent
  simp only [Daemon.received, Daemon.serve, Daemon.enabled, eventClient, Machine.run_cons,
    Machine.run_nil, clientStep, hquiet]

/-- The daemon with an empty bulk packet. -/
def Daemon.restarted (d : Daemon) : Daemon :=
  { d with msg := d.msg.carrying .initial d.msg.spp.buffer }

theorem eventClient_told_apart (hcount : d.msg.spp.bulk.bufferCount ≠ 0) {i2cBus : UInt8}
    (hbus : (d.options (eventClient i2cBus).client).bus = i2cBus) :
    d.received (eventClient i2cBus) ≠ d.restarted.received (eventClient i2cBus) := by
  have hauto : checkSppAutoCmdEvent (dataReady.event clearEventBuffer) = true := by decide
  have hready := enabled_ready (d := d.restarted) hbus
  have hempty : (d.restarted.enabled i2cBus).msg.spp.bulk.bufferCount = 0 := by
    rw [enabled_bulk]
    rfl
  have hsame : d = { d.restarted with
    msg := d.restarted.msg.carrying d.msg.spp.bulk d.msg.spp.buffer } := rfl
  have hcarrying := enabled_carrying hsame i2cBus
  rw [eventClient_received, eventClient_received]
  generalize d.enabled i2cBus = stale at hcarrying ⊢
  generalize d.restarted.enabled i2cBus = fresh at hready hempty hcarrying ⊢
  exact asdMsgEvent_told_apart hcarrying hready.1 hready.2 hempty hcount hauto

end Events

end Daemons

section Isolation
variable (args : DaemonArgs)

/-- A client that starts two bulks in one message, and whether the socket takes the answer of
the second one. -/
def twoBulks (answered : Bool) : ClientRun :=
  let message := wholeMessage sppType 0 [0x60, 1, 0x60, 1]
  let spp := fun k => ⟨{ workingDevice with delivered := k = 0 ∨ answered }, []⟩
  ⟨plainClient, [.read { message with outcomes := { message.outcomes with spp } }]⟩

/-- A client that asks for the largest data size, which stays in the output buffer. -/
def dataSizeClient : ClientRun :=
  ⟨plainClient, [.read { wholeMessage agentControlType 13 [] with
    leaves := fun out => blit out 0 [13, 0xB8, 0x0B] }]⟩

/-- A client that asks for the trace lines and sends an empty loopback. Of its lines only the
digits of the checksum are kept here. -/
def loopbackClient : ClientRun :=
  ⟨plainClient, [.read { wholeMessage agentControlType 8 [1, 0] with
      leaves := fun out => blit out 0 [8] },
    .read { wholeMessage agentControlType loopbackCmd [] with
      logged := fun checksum =>
        [⟨0, (Nat.toDigits 16 checksum.toNat).map fun digit => .ofNat digit.toNat⟩] }]⟩

/-- A daemon without buses on the command line. -/
def barePlatformArgs : DaemonArgs where
  busopt := (Daemon.initial plainArgs).targetBusOptions
  asdVersion := [0x31, 0]
  wf := (Daemon.initial plainArgs).wf

/-- A client that finds a platform and leaves. -/
def sppPlatformClient : ClientRun :=
  ⟨{ plainClient with platform := some (sppPlatform (some [0x2F])) }, []⟩

end Isolation

end AtScaleDebug
