import AtScaleDebug.Server.LoopActions

/-!
Agreement between the reply of a handshake and the admission that follows it.
The reply is decided from `session_get_authenticated_conn` called without a
result argument, which never reports success, so a second client with valid
credentials is told it succeeded and is then refused. The two decisions agree
along a run exactly when no such client appears.
-/

namespace AtScaleDebug

open Session

/-- What a client must present, and when, for its credentials to be accepted. -/
def CredentialsValid (a : AuthState) (io : HandshakeIo) : Prop :=
  io.randomOk = true ∧ 0 < io.numRead ∧ io.numRead ≤ authHandshakeReqSize ∧
    io.version ≤ authHdrVersion ∧ a.lockout ≤ io.checkTime ∧ io.dataPending = false ∧
    io.pam.start = true ∧ io.pam.authenticate = true ∧ io.pam.acctMgmt = true

instance (a : AuthState) (io : HandshakeIo) : Decidable (CredentialsValid a io) :=
  inferInstanceAs (Decidable (_ ∧ _))

theorem authTrackAttempt_ok (attempts : Fin invalidAuthMaxAttempts → Int) (code : AuthRet)
    (now : Int) : (authTrackAttempt attempts code now).2 = .ok ↔ code = .ok := by
  cases code <;> simp only [authTrackAttempt] <;> try split
  all_goals simp

theorem credentialsAreValid_ok (pam : PamIo) :
    credentialsAreValid pam = .ok ↔
      pam.start = true ∧ pam.authenticate = true ∧ pam.acctMgmt = true := by
  obtain ⟨start, authenticate, acctMgmt⟩ := pam
  cases start <;> cases authenticate <;> cases acctMgmt <;> simp [credentialsAreValid]

theorem authenticateClient_ok (attempts : Fin invalidAuthMaxAttempts → Int) (version : UInt8)
    (numRead : Int) (pam : PamIo) (now : Int) :
    (authenticateClient attempts version numRead pam now).2 = .ok ↔
      numRead ≤ authHandshakeReqSize ∧ version ≤ authHdrVersion ∧
        pam.start = true ∧ pam.authenticate = true ∧ pam.acctMgmt = true := by
  rw [authenticateClient]
  split
  · next hbad =>
      simp only [Bool.or_eq_true, decide_eq_true_eq] at hbad
      simp only [authTrackAttempt_ok, reduceCtorEq, false_iff]
      rintro ⟨hsize, hversion, -⟩
      obtain hbad | hbad := hbad
      · omega
      · exact absurd hversion (by simpa using hbad)
  · next hgood =>
      simp only [Bool.or_eq_true, decide_eq_true_eq, not_or] at hgood
      have hsize : numRead ≤ authHandshakeReqSize := by omega
      have hversion : version ≤ authHdrVersion := by simpa using hgood.2
      simp only [authTrackAttempt_ok, credentialsAreValid_ok, hsize, hversion, true_and]

theorem authpamVerdict_ok (a : AuthState) (io : HandshakeIo) :
    (authpamVerdict a io).2 = .ok ↔ CredentialsValid a io := by
  rw [authpamVerdict, CredentialsValid]
  split
  · next hrandom => simp_all
  split
  · next hread =>
      simp only [reduceCtorEq, false_iff]
      omega
  split
  · next hlock =>
      simp only [reduceCtorEq, false_iff]
      omega
  split
  · next hpending => simp [hpending]
  · next hrandom hread hlock hpending =>
      have hpos : 0 < io.numRead := by omega
      have hle : a.lockout ≤ io.checkTime := by omega
      simp only [Bool.not_eq_true, Bool.not_eq_false'] at hrandom hpending
      simp only [authenticateClient_ok, hrandom, hpending, hpos, hle, true_and]

/-- The query made for the reply never finds an authenticated session. -/
theorem sessionGetAuthenticatedConn_unwanted (session : Session) :
    (sessionGetAuthenticatedConn session false).1 = .err := by
  rw [sessionGetAuthenticatedConn]
  split <;> rfl

theorem authpamClientHandshake_reply (session : Session) (a : AuthState) (io : HandshakeIo) :
    (authpamClientHandshake session a io).reply = .success ↔ CredentialsValid a io := by
  rw [← authpamVerdict_ok]
  rw [authpamClientHandshake]
  generalize authpamVerdict a io = verdict
  obtain ⟨b, ret⟩ := verdict
  cases ret <;> simp [sessionGetAuthenticatedConn_unwanted]

theorem authpamClientHandshake_reply_ne_busy (session : Session) (a : AuthState)
    (io : HandshakeIo) : (authpamClientHandshake session a io).reply ≠ .busy := by
  rw [authpamClientHandshake]
  generalize authpamVerdict a io = verdict
  obtain ⟨b, ret⟩ := verdict
  cases ret <;> simp [sessionGetAuthenticatedConn_unwanted]

theorem authpamClientHandshake_status (session : Session) (a : AuthState) (io : HandshakeIo) :
    (authpamClientHandshake session a io).status = .ok ↔
      CredentialsValid a io ∧ io.sendOk = true := by
  rw [← authpamVerdict_ok]
  rw [authpamClientHandshake]
  generalize authpamVerdict a io = verdict
  obtain ⟨b, ret⟩ := verdict
  cases ret <;> simp [sessionGetAuthenticatedConn_unwanted]

section Runs

/-- A client that is told `AUTH_HANDSHAKE_SUCCESS` is then completed by
`session_auth_complete`, and valid credentials are answered with
`AUTH_HANDSHAKE_BUSY` while another session is authenticated. The reply counts
as sent when the whole of it was written. -/
def HandshakeAgrees (s : Server) : LoopAction → Prop
  | .clientMessage fd io =>
      ∀ i, sessionLookupConn s.session fd = some i →
        let client := ensureClientAuthenticated s i io
        ∀ h, client.handshake = some h →
          (h.reply = .success → io.handshake.sendOk = true → client.completed = some .ok) ∧
          (CredentialsValid s.auth io.handshake →
            (∃ j, j ≠ i ∧ (s.session.sessions j).authenticated = true) → h.reply = .busy)
  | _ => True

/-- No client that still has to authenticate presents valid credentials while a
session is authenticated. -/
def NoRivalHandshake (s : Server) : LoopAction → Prop
  | .clientMessage fd io =>
      ∀ i, sessionLookupConn s.session fd = some i → s.authType = .pam →
        (s.session.sessions i).authenticated = false → CredentialsValid s.auth io.handshake →
          ∀ j, (s.session.sessions j).authenticated = false
  | _ => True

theorem authClientHandshake_of_pam {s : Server} (hpam : s.authType = .pam) (io : HandshakeIo) :
    (authClientHandshake s io).2 = ((authpamClientHandshake s.session s.auth io).status,
      some (authpamClientHandshake s.session s.auth io)) := by
  simp only [authClientHandshake, hpam]

section Outcome
variable {s : Server} {i : Fin maxSessions} {io : ClientIo} {client : ClientAuthResult}

/-- The handshake of a client that was not authenticated is the password one. -/
theorem AuthOutcome.handshake_eq (outcome : AuthOutcome s i io client)
    {h : HandshakeResult} (hsome : client.handshake = some h) :
    s.authType = .pam ∧ (s.session.sessions i).authenticated = false ∧
      h = authpamClientHandshake s.session s.auth io.handshake := by
  have hpam : (authClientHandshake s io.handshake).2.2 = some h → s.authType = .pam ∧
      h = authpamClientHandshake s.session s.auth io.handshake := by
    intro heq
    cases htype : s.authType with
    | none => simp [authClientHandshake, htype] at heq
    | pam =>
        rw [authClientHandshake_of_pam htype] at heq
        exact ⟨rfl, (Option.some.inj heq).symm⟩
  cases outcome with
  | already => cases hsome
  | refused hauth hhandshake =>
      have := hpam (hhandshake ▸ hsome)
      exact ⟨this.1, hauth, this.2⟩
  | aborted t hauth =>
      have := hpam hsome
      exact ⟨this.1, hauth, this.2⟩
  | admitted t hauth =>
      have := hpam hsome
      exact ⟨this.1, hauth, this.2⟩

theorem AuthOutcome.handshake_some (outcome : AuthOutcome s i io client)
    (hpam : s.authType = .pam) (hauth : (s.session.sessions i).authenticated = false) :
    client.handshake = some (authpamClientHandshake s.session s.auth io.handshake) := by
  have hhandshake := congrArg Prod.snd (authClientHandshake_of_pam hpam io.handshake)
  cases outcome with
  | already htrue => simp [hauth] at htrue
  | refused _ heq => exact heq.trans hhandshake
  | aborted | admitted => exact hhandshake

/-- With no session authenticated a successful handshake is completed. -/
theorem AuthOutcome.completed_of_none (outcome : AuthOutcome s i io client)
    (hauth : (s.session.sessions i).authenticated = false)
    (hnone : s.session.authenticatedId < 0)
    (hok : (authClientHandshake s io.handshake).2.1 = .ok) : client.completed = some .ok := by
  cases outcome with
  | already htrue => simp [hauth] at htrue
  | refused _ _ _ hrefused =>
      obtain ⟨hstatus, -⟩ | ⟨hbusy, -⟩ := hrefused
      · exact absurd hok hstatus
      · omega
  | aborted | admitted => rfl

end Outcome

/-- The reply and the admission agree at an action exactly when no rival with
valid credentials is served by it. -/
theorem handshakeAgrees_iff {s : Server} (h : s.session.Wf) (action : LoopAction) :
    HandshakeAgrees s action ↔ NoRivalHandshake s action := by
  cases action with
  | closeConnection | newClient | expireUnauth | setActivity | noteActivity => exact Iff.rfl
  | clientMessage fd io =>
      refine forall_congr' fun i => forall_congr' fun hfind => ?_
      have hopen := (sessionLookupConn_some hfind).1
      have outcome := ensureClientAuthenticated_outcome h hopen io
      dsimp only
      constructor
      · intro hagrees hpam hauth hvalid j
        by_contra hj
        have hreply := (hagrees _ (outcome.handshake_some hpam hauth)).2 hvalid
          ⟨j, fun hji => by simp [hji, hauth] at hj, by simpa using hj⟩
        exact authpamClientHandshake_reply_ne_busy _ _ _ hreply
      · intro hnorival result hsome
        obtain ⟨hpam, hauth, rfl⟩ := outcome.handshake_eq hsome
        constructor
        · intro hreply hsend
          have hvalid := (authpamClientHandshake_reply _ _ _).mp hreply
          have hnone : s.session.authenticatedId < 0 := by
            rw [h.authenticatedId_eq_none_iff.mpr (hnorival hpam hauth hvalid)]
            decide
          refine outcome.completed_of_none hauth hnone ?_
          rw [authClientHandshake_of_pam hpam]
          exact (authpamClientHandshake_status _ _ _).mpr ⟨hvalid, hsend⟩
        · rintro hvalid ⟨j, -, hj⟩
          simp [hnorival hpam hauth hvalid j] at hj

/-- Along every run of the loop, replies and admissions agree if and only if no
client presents valid credentials while another session is authenticated. -/
theorem loop_handshake_agreement (hdlrData : Fin maxSessions → Option Nat)
    (authType : AuthHdlrType) (timecfg : TimeoutConfig) (now : Timeval) (ios : List IterationIo)
    (admissible : Machine.Meets serverStep (fun s action => action.Admissible s)
      (Server.initial hdlrData authType timecfg now)
      (loopActions ⟨Server.initial hdlrData authType timecfg now, .ok⟩ ios)) :
    Machine.Meets serverStep HandshakeAgrees (Server.initial hdlrData authType timecfg now)
        (loopActions ⟨Server.initial hdlrData authType timecfg now, .ok⟩ ios) ↔
      Machine.Meets serverStep NoRivalHandshake (Server.initial hdlrData authType timecfg now)
        (loopActions ⟨Server.initial hdlrData authType timecfg now, .ok⟩ ios) :=
  Machine.meets_congr (I := fun s => s.session.Wf)
    (fun _ action h ok => serverStep_wf action h ok)
    (fun _ action h _ => handshakeAgrees_iff h action)
    (sessionInit_wf hdlrData) admissible

instance (s : Server) : (action : LoopAction) → Decidable (NoRivalHandshake s action)
  | .clientMessage fd io =>
      inferInstanceAs (Decidable (∀ i, sessionLookupConn s.session fd = some i →
        s.authType = .pam → (s.session.sessions i).authenticated = false →
          CredentialsValid s.auth io.handshake →
            ∀ j, (s.session.sessions j).authenticated = false))
  | .closeConnection _ | .newClient _ | .expireUnauth _ | .setActivity _ | .noteActivity _ =>
      inferInstanceAs (Decidable True)

/-- One client authenticates and a second fails its password. -/
theorem loop_handshake_agreement_wrong_password :
    let server := Server.initial (fun _ => none) .pam ⟨false, 0⟩ ⟨100, 0⟩
    let wrong : ClientIo := { goodClient 104 with
      handshake := ⟨true, 9, 0x30, false, ⟨true, false, true⟩, 104, 104, 104, true⟩ }
    Machine.Meets serverStep HandshakeAgrees server
      (loopActions ⟨server, .ok⟩ [acceptIteration 7 100, messageIteration 0 101 (goodClient 101),
        acceptIteration 9 103, messageIteration 1 104 wrong]) :=
  (loop_handshake_agreement (fun _ => none) .pam ⟨false, 0⟩ ⟨100, 0⟩ _ (by decide)).mpr
    (by decide)

/-- A second client with the right password is told it succeeded and is then
refused. -/
theorem loop_handshake_disagreement :
    ¬ ∀ (hdlrData : Fin maxSessions → Option Nat) (authType : AuthHdlrType)
        (timecfg : TimeoutConfig) (now : Timeval) (ios : List IterationIo),
      Machine.Meets serverStep (fun s action => action.Admissible s)
        (Server.initial hdlrData authType timecfg now)
        (loopActions ⟨Server.initial hdlrData authType timecfg now, .ok⟩ ios) →
      Machine.Meets serverStep HandshakeAgrees (Server.initial hdlrData authType timecfg now)
        (loopActions ⟨Server.initial hdlrData authType timecfg now, .ok⟩ ios) := by
  intro h
  have hrun := h (fun _ => none) .pam ⟨false, 0⟩ ⟨100, 0⟩
    [acceptIteration 7 100, messageIteration 0 101 (goodClient 101), acceptIteration 9 103,
      messageIteration 1 104 (goodClient 104)] (by decide)
  rw [Machine.meets_congr (I := fun s => s.session.Wf) (Q := NoRivalHandshake)
    (fun _ action hs ok => serverStep_wf action hs ok)
    (fun _ action hs _ => handshakeAgrees_iff hs action) (sessionInit_wf _) (by decide)] at hrun
  revert hrun
  decide

end Runs

end AtScaleDebug
