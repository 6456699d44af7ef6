import AtScaleDebug.Server.LoopActions

/-!
Agreement between the session table and the message singleton. A session is
authenticated exactly while the singleton exists with all its handlers, as
long as the handlers could be created and every teardown by
`close_connection` succeeds. The latter needs handlers that only some messages
initialise: with one of them missing the singleton is freed and the session
stays authenticated.
-/

namespace AtScaleDebug

open Session

/-- Between two actions: the authenticated session and the singleton come and
go together, and the singleton is never partly built. -/
structure Server.Agrees (s : Server) : Prop where
  wf : s.session.Wf
  agree : (∃ i, (s.session.sessions i).authenticated = true) ↔ s.msg.Exists
  complete : s.msg.instanceSet = true → s.msg.Exists

/-- The handlers of a new client are created, and a connection is only closed
by `close_connection` when what it has to release can be released. -/
def TeardownSucceeds (s : Server) : LoopAction → Prop
  | .closeConnection release =>
      (∃ i, (s.session.sessions i).authenticated = true) → s.msg.Releasable release
  | .clientMessage _ io => io.connect.create.all = true
  | _ => True

instance (s : Server) : (action : LoopAction) → Decidable (TeardownSucceeds s action)
  | .closeConnection release => inferInstanceAs (Decidable (_ → s.msg.Releasable release))
  | .clientMessage _ io => inferInstanceAs (Decidable (io.connect.create.all = true))
  | .newClient _ | .expireUnauth _ | .setActivity _ | .noteActivity _ =>
      inferInstanceAs (Decidable True)

/-- `close_connection` leaves no authenticated session. -/
def ClearsAuthenticated (s : Server) : LoopAction → Prop
  | .closeConnection release =>
      ∀ j, ((closeConnection s release).1.session.sessions j).authenticated = false
  | _ => True

theorem Server.Agrees.of_none {s : Server} (wf : s.session.Wf)
    (none : ∀ i, ¬ (s.session.sessions i).authenticated = true)
    (cleared : s.msg.instanceSet = false) : s.Agrees where
  wf := wf
  agree := by
    constructor
    · rintro ⟨i, hi⟩
      exact absurd hi (none i)
    · intro hexists
      simp [hexists.1] at cleared
  complete := by simp [cleared]

/-- Only the set of authenticated slots and the singleton matter. -/
theorem Server.Agrees.of_same {s t : Server} (h : s.Agrees) (wf : t.session.Wf)
    (same : ∀ i, (t.session.sessions i).authenticated = true ↔
      (s.session.sessions i).authenticated = true) (msg : t.msg = s.msg) : t.Agrees where
  wf := wf
  agree := by
    rw [msg, ← h.agree]
    exact exists_congr same
  complete := by
    rw [msg]
    exact h.complete

section CloseConnection
variable {s : Server} {release : ReleaseIo}

theorem closeConnection_of_none (h : s.session.Wf)
    (hnone : ∀ i, (s.session.sessions i).authenticated = false) :
    (closeConnection s release).1 = s := by
  simp [closeConnection, sessionGetAuthenticatedConn_of_none h hnone]

theorem onClientDisconnect_ok_iff (hexists : s.msg.Exists) :
    (onClientDisconnect s release).2 = .ok ↔ s.msg.Releasable release := by
  rw [← asdMsgFree_ok hexists]
  simp only [onClientDisconnect]
  split <;> simp_all

/-- The authenticated session is closed exactly when every handler is released. -/
theorem closeConnection_session (h : s.Agrees) {i : Fin maxSessions}
    (hi : (s.session.sessions i).authenticated = true) :
    (closeConnection s release).1.session =
      if s.msg.Releasable release then (sessionClosePrivate s.session i).1 else s.session := by
  have hopen := h.wf.authOpen i hi
  have hfree : (onClientDisconnect s release).2 = .ok ↔ s.msg.Releasable release :=
    onClientDisconnect_ok_iff (h.agree.mp ⟨i, hi⟩)
  simp only [closeConnection, sessionGetAuthenticatedConn_of_authenticated h.wf hi]
  by_cases hrel : s.msg.Releasable release
  · simp only [hfree.mpr hrel, if_true, hrel, onClientDisconnect_session,
      sessionClose_of_isOpen h.wf hopen]
  · simp only [mt hfree.mp hrel, if_false, hrel, onClientDisconnect_session]

theorem closeConnection_instanceSet (h : s.Agrees) {i : Fin maxSessions}
    (hi : (s.session.sessions i).authenticated = true) :
    (closeConnection s release).1.msg.instanceSet = false := by
  have hfree := asdMsgFree_instanceSet s.msg release
  simp only [closeConnection, sessionGetAuthenticatedConn_of_authenticated h.wf hi]
  split <;> exact hfree

/-- Exactly when `close_connection` leaves no authenticated session. -/
theorem closeConnection_clears_iff (h : s.Agrees) :
    ClearsAuthenticated s (.closeConnection release) ↔
      TeardownSucceeds s (.closeConnection release) := by
  by_cases hauth : ∃ i, (s.session.sessions i).authenticated = true
  · obtain ⟨i, hi⟩ := hauth
    simp only [ClearsAuthenticated, TeardownSucceeds, closeConnection_session h hi]
    by_cases hrel : s.msg.Releasable release
    · simp only [hrel, if_true, implies_true, iff_true]
      intro j
      have hclosed := sessionClosePrivate_authenticated_iff s.session (i := i) (j := j)
      by_contra hj
      have := hclosed.mp (by simpa using hj)
      exact this.1 (h.wf.authenticated_unique this.2 hi)
    · simp only [hrel, if_false, imp_false]
      constructor
      · intro hall
        simp [hall i] at hi
      · intro hnone
        exact absurd ⟨i, hi⟩ hnone
  · have hnone : ∀ i, (s.session.sessions i).authenticated = false := by
      intro i
      simpa using fun hi => hauth ⟨i, hi⟩
    simp only [ClearsAuthenticated, TeardownSucceeds, closeConnection_of_none h.wf hnone]
    exact ⟨fun _ hex => absurd hex hauth, fun _ => hnone⟩

theorem closeConnection_agrees (h : s.Agrees)
    (ok : TeardownSucceeds s (.closeConnection release)) :
    (closeConnection s release).1.Agrees := by
  have hcleared := (closeConnection_clears_iff h).mpr ok
  by_cases hauth : ∃ i, (s.session.sessions i).authenticated = true
  · obtain ⟨i, hi⟩ := hauth
    refine .of_none (serverStep_wf (.closeConnection release) h.wf True.intro) ?_
      (closeConnection_instanceSet h hi)
    intro j
    simp [hcleared j]
  · have hnone : ∀ i, (s.session.sessions i).authenticated = false := by
      intro i
      simpa using fun hi => hauth ⟨i, hi⟩
    rw [closeConnection_of_none h.wf hnone]
    exact h

end CloseConnection

section ClientMessage
variable {s : Server} {i : Fin maxSessions} {io : ClientIo} {client : ClientAuthResult}

theorem closeSession_of_unauthenticated_agrees (h : s.Agrees) (hopen : s.session.IsOpen i)
    (hi : (s.session.sessions i).authenticated = false) : (s.closeSession i).Agrees := by
  refine h.of_same (closeSession_wf h.wf i) (fun j => ?_) rfl
  rw [closeSession_session h.wf hopen, sessionClosePrivate_authenticated_iff,
    and_iff_right_of_imp]
  rintro hj rfl
  simp [hj] at hi

/-- A session that is torn down after its handlers were released. -/
theorem closeSession_of_released_agrees {t : Server} (wf : t.session.Wf)
    (hi : (t.session.sessions i).authenticated = true) :
    ((onClientDisconnect t io.release).1.closeSession i).Agrees :=
  .of_none (closeSession_wf wf i)
    (closeSession_clears (s := (onClientDisconnect t io.release).1) wf hi)
    (asdMsgFree_instanceSet _ _)

theorem not_instanceSet_of_none (h : s.Agrees) (hnone : s.session.authenticatedId < 0) :
    s.msg.instanceSet = false := by
  by_contra hset
  have := h.wf.authenticatedId_nonneg_iff.mpr
    (h.agree.mpr (h.complete (by simpa using hset)))
  omega

theorem AuthOutcome.agrees (outcome : AuthOutcome s i io client) (h : s.Agrees)
    (hopen : s.session.IsOpen i) (created : io.connect.create.all = true) :
    client.server.Agrees := by
  have wf := outcome.wf h.wf hopen
  have hkeep := authClientHandshake_keeps s io.handshake
  cases outcome with
  | already => exact h
  | refused hauth =>
      have hsame : (authClientHandshake s io.handshake).1.Agrees :=
        h.of_same (by rw [hkeep.1]; exact h.wf) (by simp [hkeep.1]) hkeep.2.1
      exact closeSession_of_unauthenticated_agrees hsame (by rwa [hkeep.1]) (by rwa [hkeep.1])
  | aborted t hauth hnone ht =>
      have hsession : (onClientConnect t io.connect io.release).1.session =
          s.session.markAuthenticated i := by rw [onClientConnect_session, ht]
      refine closeSession_of_released_agrees ?_ ?_
      · rw [hsession]
        exact markAuthenticated_wf h.wf hopen hnone
      · rw [hsession, markAuthenticated_authenticated_iff]
        exact Or.inl rfl
  | admitted t hauth hnone ht hconnected =>
      have hauthed : (((onClientConnect t io.connect io.release).1.session).sessions
          i).authenticated = true := by
        rw [onClientConnect_session, ht, markAuthenticated_authenticated_iff]
        exact Or.inl rfl
      have hmsg : t.msg.instanceSet = false := by
        rw [ht]
        exact hkeep.2.1 ▸ not_instanceSet_of_none h hnone
      have hexists : (onClientConnect t io.connect io.release).1.msg.Exists := by
        unfold onClientConnect at hconnected ⊢
        split at hconnected
        · obtain ⟨hset, -⟩ | ⟨-, -, hcomplete, hiff⟩ :=
            asdMsgInit_cases t.msg io.connect.create io.release
          · simp [hmsg] at hset
          · next hapi => simpa [hapi] using hcomplete (hiff.mpr created)
        · simp at hconnected
      exact ⟨wf, ⟨fun _ => hexists, fun _ => ⟨i, hauthed⟩⟩, fun _ => hexists⟩

theorem afterMessage_agrees (h : client.server.Agrees) : (afterMessage client io).Agrees where
  wf := h.wf
  agree := h.agree.trans (processMsg_exists_iff client.server.msg io.message).symm
  complete hset := (processMsg_exists_iff client.server.msg io.message).mpr (h.complete hset)

theorem processClientMessage_agrees (h : s.Agrees) (fd : Int)
    (created : io.connect.create.all = true) :
    (processClientMessage s fd true io).1.Agrees := by
  cases hfind : sessionLookupConn s.session fd with
  | none => simpa only [processClientMessage, hfind] using h
  | some i =>
      have hopen := (sessionLookupConn_some hfind).1
      have outcome := ensureClientAuthenticated_outcome h.wf hopen io
      have hclient := outcome.agrees h hopen created
      rw [processClientMessage_of_lookup h.wf hfind]
      dsimp only
      split
      · exact hclient
      · next hstatus =>
          have hadmits := outcome.admits hopen (by simpa using hstatus)
          split
          · exact closeSession_of_released_agrees hclient.wf hadmits.2
          · exact (afterMessage_agrees hclient).of_same (sessionSetDataPending_wf hclient.wf _ _)
              (fun j => by rw [sessionSetDataPending_authenticated]) rfl

end ClientMessage

theorem serverStep_agrees {s : Server} (action : LoopAction) (h : s.Agrees)
    (admissible : action.Admissible s) (ok : TeardownSucceeds s action) :
    (serverStep s action).Agrees := by
  have wf := serverStep_wf action h.wf admissible
  cases action with
  | closeConnection release => exact closeConnection_agrees h ok
  | newClient io =>
      have hsession := processNewClient_session s io
      refine h.of_same wf (fun j => ?_) ?_
      · rw [serverStep, hsession]
        cases io.conn with
        | none => exact Iff.rfl
        | some conn => exact sessionOpen_authenticated_iff h.wf j
      · simp only [serverStep, processNewClient]
        split
        · rfl
        · split
          · rfl
          · split <;> rfl
  | expireUnauth now =>
      exact h.of_same wf (fun j => sessionCloseExpiredUnauth_authenticated_iff now j) rfl
  | clientMessage fd io => exact processClientMessage_agrees h fd ok
  | setActivity now => exact h.of_same wf (fun _ => Iff.rfl) rfl
  | noteActivity now =>
      refine h.of_same wf (fun j => ?_) ?_
      · simp only [serverStep]
        split <;> exact Iff.rfl
      · simp only [serverStep]
        split <;> rfl

theorem serverStep_clears {s : Server} (action : LoopAction) (h : s.Agrees)
    (ok : TeardownSucceeds s action) : ClearsAuthenticated s action := by
  cases action with
  | closeConnection release => exact (closeConnection_clears_iff h).mpr ok
  | newClient | expireUnauth | clientMessage | setActivity | noteActivity => exact True.intro

theorem initial_agrees (hdlrData : Fin maxSessions → Option Nat) (authType : AuthHdlrType)
    (timecfg : TimeoutConfig) (now : Timeval) :
    (Server.initial hdlrData authType timecfg now).Agrees :=
  .of_none (sessionInit_wf hdlrData) (fun i => by simp [Server.initial, sessionInit]) rfl

section Runs
variable (hdlrData : Fin maxSessions → Option Nat) (authType : AuthHdlrType)
  (timecfg : TimeoutConfig) (now : Timeval)

/-- Along every run of the loop whose teardowns succeed, a session is
authenticated between iterations exactly while the singleton exists with all
its handlers, and every `close_connection` leaves no authenticated session. -/
theorem loop_session_target_agreement (ios : List IterationIo)
    (admissible : Machine.Meets serverStep (fun s action => action.Admissible s)
      (Server.initial hdlrData authType timecfg now)
      (loopActions ⟨Server.initial hdlrData authType timecfg now, .ok⟩ ios))
    (teardown : Machine.Meets serverStep TeardownSucceeds
      (Server.initial hdlrData authType timecfg now)
      (loopActions ⟨Server.initial hdlrData authType timecfg now, .ok⟩ ios)) :
    let s := (Machine.run requestProcessingLoop
      ⟨Server.initial hdlrData authType timecfg now, .ok⟩ ios).server
    ((∃ i, (s.session.sessions i).authenticated = true) ↔ s.msg.Exists) ∧
      Machine.Meets serverStep ClearsAuthenticated
        (Server.initial hdlrData authType timecfg now)
        (loopActions ⟨Server.initial hdlrData authType timecfg now, .ok⟩ ios) := by
  intro s
  have both := (Machine.meets_and _ _ _ _ _).mpr ⟨admissible, teardown⟩
  have start := initial_agrees hdlrData authType timecfg now
  have hagrees : s.Agrees := by
    rw [show s = _ from requestProcessingLoop_run _ ios]
    exact Machine.run_invariant (fun t action ht ok => serverStep_agrees action ht ok.1 ok.2)
      start both
  refine ⟨hagrees.agree, ?_⟩
  exact Machine.meets_of_invariant
    (fun t action ht ok => serverStep_agrees action ht ok.1 ok.2)
    (fun t action ht ok => serverStep_clears action ht ok.2) start both

end Runs

/-- A client authenticates, its messages initialise the target and the remote
probes, and the idle timeout closes the connection. -/
theorem loop_session_target_agreement_idle_close :
    let server := Server.initial (fun _ => none) .pam ⟨true, 1000⟩ ⟨100, 0⟩
    let ios := [acceptIteration 7 100,
      messageIteration 0 101 { goodClient 101 with message := ⟨.ok, true, true, false⟩ },
      quietIteration 200]
    let s := (Machine.run requestProcessingLoop ⟨server, .ok⟩ ios).server
    ((∃ i, (s.session.sessions i).authenticated = true) ↔ s.msg.Exists) ∧
      ¬ ∃ i, (s.session.sessions i).authenticated = true :=
  ⟨(loop_session_target_agreement (fun _ => none) .pam ⟨true, 1000⟩ ⟨100, 0⟩
      [acceptIteration 7 100,
        messageIteration 0 101 { goodClient 101 with message := ⟨.ok, true, true, false⟩ },
        quietIteration 200] (by decide) (by decide)).1, by decide⟩

/-- Without a query for the remote probes the idle timeout frees the singleton
and leaves the session authenticated. -/
theorem loop_session_target_disagreement :
    ¬ ∀ (hdlrData : Fin maxSessions → Option Nat) (authType : AuthHdlrType)
        (timecfg : TimeoutConfig) (now : Timeval) (ios : List IterationIo),
      Machine.Meets serverStep (fun s action => action.Admissible s)
        (Server.initial hdlrData authType timecfg now)
        (loopActions ⟨Server.initial hdlrData authType timecfg now, .ok⟩ ios) →
      let s := (Machine.run requestProcessingLoop
        ⟨Server.initial hdlrData authType timecfg now, .ok⟩ ios).server
      ((∃ i, (s.session.sessions i).authenticated = true) ↔ s.msg.Exists) ∧
        Machine.Meets serverStep ClearsAuthenticated
          (Server.initial hdlrData authType timecfg now)
          (loopActions ⟨Server.initial hdlrData authType timecfg now, .ok⟩ ios) := by
  intro h
  have hrun := (h (fun _ => none) .pam ⟨true, 1000⟩ ⟨100, 0⟩
    [acceptIteration 7 100, messageIteration 0 101 (goodClient 101), quietIteration 200]
    (by decide)).1
  revert hrun
  decide

end AtScaleDebug
