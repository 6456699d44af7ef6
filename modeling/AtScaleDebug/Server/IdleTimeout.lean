import AtScaleDebug.Server.TargetAgreement

/-!
Whether the idle timeout watches the authenticated session. The loop looks at the
clock only while `is_connected` is set. One flag serves all connections: accepting a
client sets it, and losing any client that had the target clears it, also when another
one has been accepted in the meantime and authenticates later.
-/

namespace AtScaleDebug

open Session

/-- The flag is set while a session is authenticated. -/
def Server.FlagCovers (s : Server) : Prop :=
  (∃ i, (s.session.sessions i).authenticated = true) → s.isConnected = true

/-- At the start of an iteration the authenticated session is subject to
`check_idle_timeout`, provided the timeout is enabled. -/
structure Server.IdleTimeoutApplies (s : Server) : Prop where
  connected : s.FlagCovers
  checked : (∃ i, (s.session.sessions i).authenticated = true) →
    s.timecfg.isTimeoutEnabled = true →
    ∀ now, s.idle now = checkIdleTimeout s.lastActivityTime now s.timecfg.idleTimeout

/-- The message of slot `i` makes it the authenticated session. -/
structure Authenticates (s : Server) (io : ClientIo) (i : Fin maxSessions) : Prop where
  waiting : (s.session.sessions i).authenticated = false
  free : s.session.authenticatedId < 0
  handshake : (authClientHandshake s io.handshake).2.1 = .ok
  connected : (onClientConnect s io.connect io.release).2 = .ok
  message : io.message.status = .ok

instance (s : Server) (io : ClientIo) (i : Fin maxSessions) : Decidable (Authenticates s io i) :=
  decidable_of_iff ((s.session.sessions i).authenticated = false ∧
      s.session.authenticatedId < 0 ∧ (authClientHandshake s io.handshake).2.1 = .ok ∧
      (onClientConnect s io.connect io.release).2 = .ok ∧ io.message.status = .ok)
    ⟨fun h => ⟨h.1, h.2.1, h.2.2.1, h.2.2.2.1, h.2.2.2.2⟩,
      fun h => ⟨h.waiting, h.free, h.handshake, h.connected, h.message⟩⟩

/-- A client authenticates only while the flag is set, and a connection is only closed
by `close_connection` when its handlers are released. -/
def KeepsFlag (s : Server) : LoopAction → Prop
  | .closeConnection release =>
      (∃ i, (s.session.sessions i).authenticated = true) → (asdMsgFree s.msg release).2 = .ok
  | .clientMessage fd io =>
      ∀ i ∈ sessionLookupConn s.session fd, Authenticates s io i → s.isConnected = true
  | _ => True

instance (s : Server) : (action : LoopAction) → Decidable (KeepsFlag s action)
  | .closeConnection release =>
      inferInstanceAs (Decidable (_ → (asdMsgFree s.msg release).2 = .ok))
  | .clientMessage fd io =>
      inferInstanceAs (Decidable
        (∀ i ∈ sessionLookupConn s.session fd, Authenticates s io i → s.isConnected = true))
  | .newClient _ | .expireUnauth _ | .setActivity _ | .noteActivity _ =>
      inferInstanceAs (Decidable True)

namespace Server.FlagCovers
variable {s t : Server}

theorem idleTimeoutApplies (h : s.FlagCovers) : s.IdleTimeoutApplies := by
  refine ⟨h, fun hauth henabled now => ?_⟩
  rw [Server.idle, h hauth, henabled]
  rfl

theorem of_none (h : ∀ i, ¬ (s.session.sessions i).authenticated = true) : s.FlagCovers :=
  fun ⟨i, hi⟩ => absurd hi (h i)

/-- No more sessions are authenticated and the flag is not cleared. -/
theorem mono (h : s.FlagCovers)
    (hauth : ∀ i, (t.session.sessions i).authenticated = true →
      (s.session.sessions i).authenticated = true)
    (hflag : s.isConnected = true → t.isConnected = true) : t.FlagCovers :=
  fun ⟨i, hi⟩ => hflag (h ⟨i, hauth i hi⟩)

end Server.FlagCovers

theorem asdMsgFree_onClientDisconnect (s : Server) (release : ReleaseIo) :
    (onClientDisconnect s release).2 = .ok ↔ (asdMsgFree s.msg release).2 = .ok := by
  simp only [onClientDisconnect]
  split
  · next h => exact iff_of_false (by decide) h
  · next h => exact iff_of_true rfl (not_not.mp h)

theorem onClientConnect_status {s t : Server} (h : t.msg = s.msg) (io : ConnectIo)
    (release : ReleaseIo) :
    (onClientConnect t io release).2 = (onClientConnect s io release).2 := by
  simp only [onClientConnect, h]
  split
  · rfl
  · rfl

theorem onClientConnect_isConnected (s : Server) (io : ConnectIo) (release : ReleaseIo) :
    (onClientConnect s io release).1.isConnected = s.isConnected := by
  simp only [onClientConnect]
  split
  · rfl
  · rfl

section Steps
variable {s : Server}

theorem closeConnection_flag_iff (wf : s.session.Wf) (h : s.FlagCovers) (release : ReleaseIo) :
    (closeConnection s release).1.FlagCovers ↔ KeepsFlag s (.closeConnection release) := by
  by_cases hauth : ∃ i, (s.session.sessions i).authenticated = true
  · obtain ⟨i, hi⟩ := hauth
    have hopen := wf.authOpen i hi
    have hstatus := asdMsgFree_onClientDisconnect s release
    simp only [closeConnection, sessionGetAuthenticatedConn_of_authenticated wf hi]
    by_cases hfree : (asdMsgFree s.msg release).2 = .ok
    · rw [if_pos (hstatus.mpr hfree)]
      refine iff_of_true (.of_none fun j => ?_) fun _ => hfree
      exact closeSession_clears (s := (onClientDisconnect s release).1) wf hi j
    · rw [if_neg (mt hstatus.mp hfree)]
      refine iff_of_false (fun hcovers => ?_) fun hkeeps => hfree (hkeeps ⟨i, hi⟩)
      exact absurd (hcovers ⟨i, hi⟩) Bool.false_ne_true
  · have hnone : ∀ i, (s.session.sessions i).authenticated = false := by
      intro i
      simpa using fun hi => hauth ⟨i, hi⟩
    rw [closeConnection_of_none wf hnone]
    exact iff_of_true h fun hex => absurd hex hauth

theorem processNewClient_flag (wf : s.session.Wf) (h : s.FlagCovers) (io : AcceptIo) :
    (processNewClient s io 0 []).1.FlagCovers := by
  refine h.mono (fun i hi => ?_) fun hflag => ?_
  · rw [processNewClient_session] at hi
    cases hconn : io.conn with
    | none => simpa only [hconn] using hi
    | some conn =>
        simp only [hconn] at hi
        exact (sessionOpen_authenticated_iff wf i).mp hi
  · simp only [processNewClient]
    cases io.conn with
    | none => exact hflag
    | some conn =>
        dsimp only
        split
        · exact hflag
        · split
          · rfl
          · rfl

variable {i : Fin maxSessions} {io : ClientIo} {client : ClientAuthResult}

/-- A client that is turned away: no session is authenticated that was not before. -/
theorem AuthOutcome.flag_of_refused (outcome : AuthOutcome s i io client) (wf : s.session.Wf)
    (hopen : s.session.IsOpen i) (h : s.FlagCovers) (hstatus : client.status ≠ .ok) :
    client.server.FlagCovers ∧ ¬ Authenticates s io i := by
  obtain ⟨hsession, hmsg, hflag⟩ := authClientHandshake_keeps s io.handshake
  cases outcome with
  | already => exact absurd rfl hstatus
  | admitted => exact absurd rfl hstatus
  | refused hauth hhandshake hstatus hrefused =>
      constructor
      · refine h.mono (fun j hj => ?_) fun hconnected => hflag.trans hconnected
        rw [closeSession_session (hsession ▸ wf) (hsession ▸ hopen), hsession,
          sessionClosePrivate_authenticated_iff] at hj
        exact hj.2
      · intro hnow
        obtain ⟨hfailed, -⟩ | ⟨hbusy, -⟩ := hrefused
        · exact hfailed hnow.handshake
        · exact absurd hnow.free (Int.not_lt.mpr hbusy)
  | aborted t hauth hnone ht hstatus hfailed =>
      have hmarked : (onClientConnect t io.connect io.release).1.session =
          s.session.markAuthenticated i := by rw [onClientConnect_session, ht]
      constructor
      · refine .of_none fun j => ?_
        refine closeSession_clears (s := (onClientDisconnect
          (onClientConnect t io.connect io.release).1 io.release).1) ?_ ?_ j
        · rw [onClientDisconnect_session, hmarked]
          exact markAuthenticated_wf wf hopen hnone
        · rw [onClientDisconnect_session, hmarked]
          exact (markAuthenticated_authenticated_iff _ _ _).mpr (.inl rfl)
      · intro hnow
        refine hfailed ((onClientConnect_status ?_ _ _).trans hnow.connected)
        rw [ht]
        exact hmsg

theorem ensureClientAuthenticated_handshake (wf : s.session.Wf) (hopen : s.session.IsOpen i)
    (hwaiting : (s.session.sessions i).authenticated = false)
    (hstatus : (ensureClientAuthenticated s i io).status = .ok) :
    (authClientHandshake s io.handshake).2.1 = .ok := by
  have hnot : ¬ sessionAlreadyAuthenticated s.session (s.conn i) = .ok := by
    intro halready
    have hauth := (sessionAlreadyAuthenticated_of_isOpen wf hopen).mp halready
    exact absurd (hwaiting.symm.trans hauth) Bool.false_ne_true
  by_contra hfailed
  rw [ensureClientAuthenticated, if_neg hnot] at hstatus
  dsimp only at hstatus
  rw [if_pos hfailed] at hstatus
  exact hfailed hstatus

/-- A client that may send a message, before it does: the flag is as it was. -/
theorem AuthOutcome.flag_of_passed (outcome : AuthOutcome s i io client) (h : s.FlagCovers)
    (hhandshake : (s.session.sessions i).authenticated = false →
      (authClientHandshake s io.handshake).2.1 = .ok)
    (hstatus : client.status = .ok) (hmessage : io.message.status = .ok) :
    client.server.isConnected = s.isConnected ∧
      ((Authenticates s io i → s.isConnected = true) → s.isConnected = true) := by
  obtain ⟨-, hmsg, hflag⟩ := authClientHandshake_keeps s io.handshake
  cases outcome with
  | already hauth => exact ⟨rfl, fun _ => h ⟨i, hauth⟩⟩
  | refused _ _ hrefused => exact absurd hstatus hrefused
  | aborted t _ _ _ hfailed hnot => exact absurd (hfailed ▸ hstatus) hnot
  | admitted t hauth hnone ht hconnected =>
      refine ⟨?_, fun hkeeps => hkeeps ⟨hauth, hnone, hhandshake hauth, ?_, hmessage⟩⟩
      · rw [onClientConnect_isConnected, ht]
        exact hflag
      · refine (onClientConnect_status ?_ _ _).symm.trans hconnected
        rw [ht]
        exact hmsg

theorem processClientMessage_flag_iff (wf : s.session.Wf) (h : s.FlagCovers) (fd : Int)
    (io : ClientIo) :
    (processClientMessage s fd true io).1.FlagCovers ↔ KeepsFlag s (.clientMessage fd io) := by
  cases hfind : sessionLookupConn s.session fd with
  | none =>
      simp only [processClientMessage, KeepsFlag, hfind]
      exact iff_of_true h fun i hi => absurd hi (Option.not_mem_none i)
  | some i =>
      have hopen := (sessionLookupConn_some hfind).1
      have outcome := ensureClientAuthenticated_outcome wf hopen io
      have hkeeps : KeepsFlag s (.clientMessage fd io) ↔
          (Authenticates s io i → s.isConnected = true) := by
        simp only [KeepsFlag, hfind, Option.mem_some_iff, forall_eq']
      rw [processClientMessage_of_lookup wf hfind, hkeeps]
      dsimp only
      by_cases hstatus : (ensureClientAuthenticated s i io).status = .ok
      swap
      · rw [if_pos hstatus]
        obtain ⟨hcovers, hnot⟩ := outcome.flag_of_refused wf hopen h hstatus
        exact iff_of_true hcovers fun hnow => absurd hnow hnot
      rw [if_neg (not_not.mpr hstatus)]
      obtain ⟨-, hauth⟩ := outcome.admits hopen hstatus
      by_cases hmessage : io.message.status = .ok
      swap
      · rw [if_pos hmessage]
        refine iff_of_true (.of_none fun j => ?_) fun hnow => absurd hnow.message hmessage
        exact closeSession_clears (s := (onClientDisconnect
          (afterMessage (ensureClientAuthenticated s i io) io) io.release).1)
          (outcome.wf wf hopen) hauth j
      rw [if_neg (not_not.mpr hmessage)]
      obtain ⟨hflag, henough⟩ := outcome.flag_of_passed h
        (fun hwaiting => ensureClientAuthenticated_handshake wf hopen hwaiting hstatus)
        hstatus hmessage
      constructor
      · intro hcovers _
        refine hflag.symm.trans (hcovers ⟨i, ?_⟩)
        rw [sessionSetDataPending_authenticated]
        exact hauth
      · intro hnow _
        exact hflag.trans (henough hnow)

/-- What one action does to the flag. -/
theorem serverStep_flag_iff (action : LoopAction) (wf : s.session.Wf) (h : s.FlagCovers) :
    (serverStep s action).FlagCovers ↔ KeepsFlag s action := by
  cases action with
  | closeConnection release => exact closeConnection_flag_iff wf h release
  | newClient io => exact iff_of_true (processNewClient_flag wf h io) True.intro
  | expireUnauth now =>
      refine iff_of_true (h.mono (fun i hi => ?_) id) True.intro
      exact (sessionCloseExpiredUnauth_authenticated_iff now i).mp hi
  | clientMessage fd io => exact processClientMessage_flag_iff wf h fd io
  | setActivity now => exact iff_of_true h True.intro
  | noteActivity now =>
      refine iff_of_true ?_ True.intro
      simp only [serverStep]
      split
      · exact h
      · exact h

end Steps

section Runs
variable (hdlrData : Fin maxSessions → Option Nat) (authType : AuthHdlrType)
  (timecfg : TimeoutConfig) (now : Timeval)

/-- Along every run of the loop the flag covers the authenticated session after each
action exactly as long as clients authenticate only while the flag is set and
`close_connection` can release the handlers. In such a run the idle timeout applies at
the start of every iteration. -/
theorem idle_timeout_applies (ios : List IterationIo)
    (admissible : Machine.Meets serverStep (fun s action => action.Admissible s)
      (Server.initial hdlrData authType timecfg now)
      (loopActions ⟨Server.initial hdlrData authType timecfg now, .ok⟩ ios)) :
    let start := Server.initial hdlrData authType timecfg now
    let actions := loopActions ⟨start, .ok⟩ ios
    (Machine.Meets serverStep (fun s action => (serverStep s action).FlagCovers) start actions ↔
      Machine.Meets serverStep KeepsFlag start actions) ∧
    (Machine.Meets serverStep KeepsFlag start actions → ∀ before after, ios = before ++ after →
      (Machine.run requestProcessingLoop ⟨start, .ok⟩ before).server.IdleTimeoutApplies) := by
  intro start actions
  have hstart : start.session.Wf ∧ start.FlagCovers := by
    refine ⟨sessionInit_wf hdlrData, .of_none fun i => ?_⟩
    exact Bool.false_ne_true
  have preserved : ∀ (s : Server) action, s.session.Wf ∧ s.FlagCovers →
      action.Admissible s ∧ KeepsFlag s action →
      (serverStep s action).session.Wf ∧ (serverStep s action).FlagCovers :=
    fun s action hs hok => ⟨serverStep_wf action hs.1 hok.1,
      (serverStep_flag_iff action hs.1 hs.2).mpr hok.2⟩
  constructor
  · have hiff := Machine.meets_iff_of_invariant preserved
      (P := fun s action => action.Admissible s ∧ (serverStep s action).FlagCovers)
      (fun s action hs => and_congr_right fun _ => serverStep_flag_iff action hs.1 hs.2)
      hstart actions
    rw [Machine.meets_and, Machine.meets_and] at hiff
    exact ⟨fun h => (hiff.mp ⟨admissible, h⟩).2, fun h => (hiff.mpr ⟨admissible, h⟩).2⟩
  · intro hkeeps before after hios
    have both := (Machine.meets_and _ _ _ _ _).mpr ⟨admissible, hkeeps⟩
    rw [hios, loopActions_append, Machine.meets_append] at both
    have hbefore := Machine.run_invariant preserved hstart both.1
    rw [requestProcessingLoop_run ⟨start, .ok⟩ before]
    exact hbefore.2.idleTimeoutApplies

end Runs

/-- A client authenticates after it was accepted. -/
theorem idle_timeout_applies_one_client :
    (Machine.run requestProcessingLoop
      ⟨Server.initial (fun _ => none) .pam ⟨true, 1000⟩ ⟨100, 0⟩, .ok⟩
      [acceptIteration 7 100, messageIteration 0 101 (goodClient 101)]).server.IdleTimeoutApplies :=
  (idle_timeout_applies (fun _ => none) .pam ⟨true, 1000⟩ ⟨100, 0⟩
    [acceptIteration 7 100, messageIteration 0 101 (goodClient 101)] (by decide)).2
    (by decide) _ [] (List.append_nil _).symm

/-- Two clients are accepted. The second one authenticates and is lost while its message is
read; the first one authenticates then, with the flag cleared. -/
theorem idle_timeout_misses :
    let start := Server.initial (fun _ => none) .pam ⟨true, 1000⟩ ⟨100, 0⟩
    let lost : ClientIo := { goodClient 103 with message := ⟨.err, true, false, false⟩ }
    let ios := [acceptIteration 7 100, acceptIteration 8 101, messageIteration 1 102 lost,
      messageIteration 0 103 (goodClient 103)]
    let s := (Machine.run requestProcessingLoop ⟨start, .ok⟩ ios).server
    Machine.Meets serverStep (fun s action => action.Admissible s) start
        (loopActions ⟨start, .ok⟩ ios) ∧
      (∃ i, (s.session.sessions i).authenticated = true) ∧ s.isConnected = false ∧
      s.idle ⟨100000, 0⟩ = false ∧ ¬ s.IdleTimeoutApplies := by
  refine ⟨by decide, by decide, by decide, by decide, fun h => ?_⟩
  exact absurd (h.connected (by decide)) (by decide)

end AtScaleDebug
