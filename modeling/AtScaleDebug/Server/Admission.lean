import Mathlib.Data.Fintype.Card
import AtScaleDebug.Server.LoopActions

/-!
Admission of new connections. The run carries, beside the server, the time at
which each slot was opened, so that the promise to a new client is stated with
opening times and not with the timeout field of the table. A new client is
accepted before expired sessions are closed, so the promise is kept along a
run exactly when no client arrives while the table is full and still holds an
expired unauthenticated session.
-/

namespace AtScaleDebug

open Session

section Opened

/-- Going from `s` to `t` opened nothing and kept the timeouts of open slots. -/
def Session.OpensNothing (s t : Session) : Prop :=
  ∀ j, t.IsOpen j → s.IsOpen j ∧ (t.sessions j).authTout = (s.sessions j).authTout

theorem Session.OpensNothing.refl (s : Session) : s.OpensNothing s :=
  fun _ hj => ⟨hj, rfl⟩

theorem Session.OpensNothing.trans {s t u : Session} (hst : s.OpensNothing t)
    (htu : t.OpensNothing u) : s.OpensNothing u := by
  intro j hj
  obtain ⟨ht, htout⟩ := htu j hj
  obtain ⟨hs, hsout⟩ := hst j ht
  exact ⟨hs, htout.trans hsout⟩

theorem sessionClosePrivate_opensNothing (s : Session) (i : Fin maxSessions) :
    s.OpensNothing (sessionClosePrivate s i).1 := by
  intro j hj
  obtain ⟨hne, hopen⟩ := (sessionClosePrivate_isOpen_iff s).mp hj
  exact ⟨hopen, by rw [sessionClosePrivate_of_ne s hne]⟩

theorem sessionClose_opensNothing (s : Session) (conn : ExtnetConn) :
    s.OpensNothing (sessionClose s conn).1 := by
  obtain heq | ⟨i, -, heq⟩ := sessionClose_cases s conn
  · rw [heq]
    exact .refl s
  · rw [heq]
    exact sessionClosePrivate_opensNothing s i

theorem sessionCloseExpiredUnauth_opensNothing (s : Session) (now : Fin maxSessions → Int) :
    s.OpensNothing (sessionCloseExpiredUnauth s now) := by
  rw [sessionCloseExpiredUnauth]
  split
  · refine Machine.run_invariant_of_step (I := s.OpensNothing) (fun t i ht => ?_) _ (.refl s)
    rw [sessionCloseExpiredStep]
    split
    · exact ht.trans (sessionClosePrivate_opensNothing t i)
    · exact ht
  · exact .refl s

theorem markAuthenticated_opensNothing (s : Session) (i : Fin maxSessions) :
    s.OpensNothing (s.markAuthenticated i) := by
  intro j hj
  refine ⟨(markAuthenticated_isOpen_iff s i j).mp hj, ?_⟩
  by_cases hji : j = i
  · simp [markAuthenticated, hji]
  · simp [markAuthenticated, setSlot, hji]

theorem sessionSetDataPending_opensNothing (s : Session) (conn : ExtnetConn) (pending : Bool) :
    s.OpensNothing (sessionSetDataPending s conn pending).1 := by
  obtain heq | ⟨i, -, heq⟩ := sessionSetDataPending_cases s conn pending
  · rw [heq]
    exact .refl s
  · rw [heq]
    intro j hj
    by_cases hji : j = i
    · subst hji
      simpa [Session.IsOpen] using hj
    · simpa [Session.IsOpen, setSlot, hji] using hj

theorem AuthOutcome.opensNothing {s : Server} {i : Fin maxSessions} {io : ClientIo}
    {client : ClientAuthResult} (outcome : AuthOutcome s i io client) :
    s.session.OpensNothing client.server.session := by
  have hsession := (authClientHandshake_keeps s io.handshake).1
  cases outcome with
  | already => exact .refl _
  | refused =>
      simpa only [Server.closeSession, hsession] using
        sessionClose_opensNothing s.session _
  | aborted t _ _ ht =>
      have hmark : t.session = s.session.markAuthenticated i := by rw [ht]
      simp only [Server.closeSession, onClientDisconnect_session, onClientConnect_session, hmark]
      exact (markAuthenticated_opensNothing _ i).trans (sessionClose_opensNothing _ _)
  | admitted t _ _ ht =>
      rw [onClientConnect_session, ht]
      exact markAuthenticated_opensNothing _ i

theorem processClientMessage_opensNothing {s : Server} (h : s.session.Wf) (fd : Int)
    (io : ClientIo) : s.session.OpensNothing (processClientMessage s fd true io).1.session := by
  cases hfind : sessionLookupConn s.session fd with
  | none =>
      simp only [processClientMessage, hfind]
      exact .refl _
  | some i =>
      have hopen := (sessionLookupConn_some hfind).1
      have hclient := (ensureClientAuthenticated_outcome h hopen io).opensNothing
      rw [processClientMessage_of_lookup h hfind]
      dsimp only
      split
      · exact hclient
      · split
        · exact hclient.trans (sessionClose_opensNothing _ _)
        · exact hclient.trans (sessionSetDataPending_opensNothing _ _ _)

theorem closeConnection_opensNothing (s : Server) (release : ReleaseIo) :
    s.session.OpensNothing (closeConnection s release).1.session := by
  rw [closeConnection]
  split
  · dsimp only
    split
    · exact sessionClose_opensNothing _ _
    · exact .refl _
  · exact .refl _

end Opened

section Timed

/-- The server with the time at which each slot was last opened. -/
structure TimedServer where
  server : Server
  openedAt : Fin maxSessions → Int

def recordOpening (t : TimedServer) (io : AcceptIo) : Fin maxSessions → Int :=
  match io.conn, sessionFindPrivate t.server.session unusedSocketFd with
  | some _, some i => Function.update t.openedAt i io.now
  | _, _ => t.openedAt

def timedStep (t : TimedServer) (action : LoopAction) : TimedServer where
  server := serverStep t.server action
  openedAt :=
    match action with
    | .newClient io => recordOpening t io
    | _ => t.openedAt

/-- Slots held at `now` by a session that is authenticated or was opened less
than the timeout before. -/
def TimedServer.heldSlots (t : TimedServer) (now : Int) : Finset (Fin maxSessions) :=
  Finset.univ.filter fun i => t.server.session.IsOpen i ∧
    ((t.server.session.sessions i).authenticated = true ∨
      now - t.openedAt i < sessionAuthExpireTimeout)

/-- A new connection is given a session when fewer than all slots are held. -/
def AdmitsClient (t : TimedServer) : LoopAction → Prop
  | .newClient io => io.conn.isSome → (t.heldSlots io.now).card < maxSessions →
      (processNewClient t.server io 0 []).2.1 = .ok
  | _ => True

/-- A new connection finds an unused slot, or no session past its timeout. -/
def NoExpiredInFullTable (t : TimedServer) : LoopAction → Prop
  | .newClient io => io.conn.isSome →
      (∃ i, ¬ t.server.session.IsOpen i) ∨
        ∀ i, (t.server.session.sessions i).authenticated = true ∨
          io.now < (t.server.session.sessions i).authTout
  | _ => True

structure TimedServer.Wf (t : TimedServer) : Prop where
  session : t.server.session.Wf
  tout : ∀ i, t.server.session.IsOpen i →
    (t.server.session.sessions i).authTout = sessionAuthExpireTimeout + t.openedAt i

theorem TimedServer.Wf.of_opensNothing {t u : TimedServer} (h : t.Wf)
    (session : u.server.session.Wf)
    (opens : t.server.session.OpensNothing u.server.session)
    (openedAt : u.openedAt = t.openedAt) : u.Wf where
  session := session
  tout i hi := by
    obtain ⟨hopen, htout⟩ := opens i hi
    rw [htout, openedAt]
    exact h.tout i hopen

theorem timedStep_newClient_wf {t : TimedServer} (h : t.Wf) (io : AcceptIo)
    (ok : (LoopAction.newClient io).Admissible t.server) : (timedStep t (.newClient io)).Wf := by
  refine ⟨serverStep_wf _ h.session ok, fun i hi => ?_⟩
  simp only [timedStep, serverStep, processNewClient_session] at hi ⊢
  cases hconn : io.conn with
  | none =>
      simp only [hconn, recordOpening] at hi ⊢
      exact h.tout i hi
  | some conn =>
      simp only [hconn, recordOpening] at hi ⊢
      simp only [sessionOpen] at hi ⊢
      cases hfind : sessionFindPrivate t.server.session unusedSocketFd with
      | none =>
          simp only [hfind] at hi ⊢
          exact h.tout i hi
      | some k =>
          simp only [hfind] at hi ⊢
          by_cases hik : i = k
          · simp [hik]
          · simp only [Session.IsOpen, setSlot_of_ne _ _ hik] at hi ⊢
            rw [Function.update_of_ne hik]
            exact h.tout i hi

theorem timedStep_wf {t : TimedServer} (action : LoopAction) (h : t.Wf)
    (ok : action.Admissible t.server) : (timedStep t action).Wf := by
  have wf := serverStep_wf action h.session ok
  cases action with
  | newClient io => exact timedStep_newClient_wf h io ok
  | closeConnection release =>
      exact h.of_opensNothing wf (closeConnection_opensNothing t.server release) rfl
  | expireUnauth now =>
      exact h.of_opensNothing wf (sessionCloseExpiredUnauth_opensNothing _ now) rfl
  | clientMessage fd io =>
      exact h.of_opensNothing wf (processClientMessage_opensNothing h.session fd io) rfl
  | setActivity now => exact h.of_opensNothing wf (.refl _) rfl
  | noteActivity now =>
      refine h.of_opensNothing wf ?_ rfl
      simp only [timedStep, serverStep]
      split <;> exact .refl _

end Timed

section Admission
variable {t : TimedServer}

theorem processNewClient_ok_iff (h : t.Wf) {io : AcceptIo} (hconn : io.conn.isSome) :
    (processNewClient t.server io 0 []).2.1 = .ok ↔ ∃ i, ¬ t.server.session.IsOpen i := by
  obtain ⟨conn, hconn⟩ := Option.isSome_iff_exists.mp hconn
  simp only [processNewClient, hconn]
  obtain ⟨hnone, heq⟩ | ⟨i, hfd, heq⟩ := sessionOpen_cases t.server.session conn io.now
  · simp only [heq]
    have hfull : ∀ i, t.server.session.IsOpen i := fun i =>
      (h.session.fds i).resolve_left (sessionFindPrivate_none h.session.initialized hnone i)
    simp [hfull]
  · simp only [heq, ne_eq, not_true_eq_false, if_false]
    have hunused : ∃ i, ¬ t.server.session.IsOpen i := ⟨i, not_isOpen_of_unused hfd⟩
    simp only [hunused, iff_true]
    split <;> rfl

theorem card_heldSlots_lt_iff (h : t.Wf) (now : Int) :
    (t.heldSlots now).card < maxSessions ↔
      (∃ i, ¬ t.server.session.IsOpen i) ∨
        ∃ i, ¬ ((t.server.session.sessions i).authenticated = true ∨
          now < (t.server.session.sessions i).authTout) := by
  have hcard : (Finset.univ : Finset (Fin maxSessions)).card = maxSessions := by simp
  have hlt : (t.heldSlots now).card < maxSessions ↔ ∃ i, i ∉ t.heldSlots now := by
    constructor
    · intro hlt
      by_contra hall
      push Not at hall
      rw [Finset.eq_univ_iff_forall.mpr hall, hcard] at hlt
      omega
    · rintro ⟨i, hi⟩
      have hne : t.heldSlots now ≠ Finset.univ := fun heq => hi (by simp [heq])
      exact (Finset.card_lt_card (Finset.ssubset_univ_iff.mpr hne)).trans_eq hcard
  rw [hlt]
  constructor
  · rintro ⟨i, hi⟩
    simp only [TimedServer.heldSlots, Finset.mem_filter, Finset.mem_univ, true_and,
      not_and] at hi
    by_cases hopen : t.server.session.IsOpen i
    · refine Or.inr ⟨i, ?_⟩
      have := hi hopen
      rw [h.tout i hopen]
      rw [not_or] at this ⊢
      exact ⟨this.1, by omega⟩
    · exact Or.inl ⟨i, hopen⟩
  · rintro (⟨i, hi⟩ | ⟨i, hi⟩)
    · exact ⟨i, by simp [TimedServer.heldSlots, hi]⟩
    · refine ⟨i, ?_⟩
      simp only [TimedServer.heldSlots, Finset.mem_filter, Finset.mem_univ, true_and, not_and]
      intro hopen
      rw [h.tout i hopen] at hi
      rw [not_or] at hi ⊢
      exact ⟨hi.1, by omega⟩

theorem admitsClient_iff (h : t.Wf) (action : LoopAction) :
    AdmitsClient t action ↔ NoExpiredInFullTable t action := by
  cases action with
  | newClient io =>
      refine forall_congr' fun hconn => ?_
      rw [card_heldSlots_lt_iff h, processNewClient_ok_iff h hconn]
      constructor
      · intro hadmits
        by_cases hfree : ∃ i, ¬ t.server.session.IsOpen i
        · exact Or.inl hfree
        · refine Or.inr fun i => ?_
          by_contra hexpired
          exact hfree (hadmits (Or.inr ⟨i, hexpired⟩))
      · rintro (hfree | hfresh) hheld
        · exact hfree
        · obtain hfree | ⟨i, hi⟩ := hheld
          · exact hfree
          · exact absurd (hfresh i) hi
  | closeConnection | expireUnauth | clientMessage | setActivity | noteActivity => exact Iff.rfl

end Admission

section Runs

def TimedServer.initial (hdlrData : Fin maxSessions → Option Nat) (authType : AuthHdlrType)
    (timecfg : TimeoutConfig) (now : Timeval) : TimedServer :=
  ⟨Server.initial hdlrData authType timecfg now, fun _ => 0⟩

theorem TimedServer.initial_wf (hdlrData : Fin maxSessions → Option Nat)
    (authType : AuthHdlrType) (timecfg : TimeoutConfig) (now : Timeval) :
    (TimedServer.initial hdlrData authType timecfg now).Wf where
  session := sessionInit_wf hdlrData
  tout _ h := absurd h (not_isOpen_of_unused rfl)

/-- Along every run of the loop, new connections are admitted as promised if and
only if none arrives while the table is full and holds an expired session. -/
theorem loop_admission (hdlrData : Fin maxSessions → Option Nat) (authType : AuthHdlrType)
    (timecfg : TimeoutConfig) (now : Timeval) (ios : List IterationIo)
    (admissible : Machine.Meets timedStep (fun t action => action.Admissible t.server)
      (TimedServer.initial hdlrData authType timecfg now)
      (loopActions ⟨Server.initial hdlrData authType timecfg now, .ok⟩ ios)) :
    Machine.Meets timedStep AdmitsClient (TimedServer.initial hdlrData authType timecfg now)
        (loopActions ⟨Server.initial hdlrData authType timecfg now, .ok⟩ ios) ↔
      Machine.Meets timedStep NoExpiredInFullTable
        (TimedServer.initial hdlrData authType timecfg now)
        (loopActions ⟨Server.initial hdlrData authType timecfg now, .ok⟩ ios) :=
  Machine.meets_congr (I := TimedServer.Wf)
    (fun _ action h ok => timedStep_wf action h ok)
    (fun _ action h _ => admitsClient_iff h action)
    (TimedServer.initial_wf hdlrData authType timecfg now) admissible

instance (t : TimedServer) : (action : LoopAction) → Decidable (NoExpiredInFullTable t action)
  | .newClient io => inferInstanceAs (Decidable (io.conn.isSome = true →
      (∃ i, ¬ t.server.session.IsOpen i) ∨
        ∀ i, (t.server.session.sessions i).authenticated = true ∨
          io.now < (t.server.session.sessions i).authTout))
  | .closeConnection _ | .expireUnauth _ | .clientMessage _ _ | .setActivity _
  | .noteActivity _ => inferInstanceAs (Decidable True)

instance (t : TimedServer) : (action : LoopAction) → Decidable (AdmitsClient t action)
  | .newClient io => inferInstanceAs (Decidable (io.conn.isSome = true →
      (t.heldSlots io.now).card < maxSessions →
        (processNewClient t.server io 0 []).2.1 = .ok))
  | .closeConnection _ | .expireUnauth _ | .clientMessage _ _ | .setActivity _
  | .noteActivity _ => inferInstanceAs (Decidable True)

/-- Five clients that never authenticate. -/
def silentClients (time : Int) : List IterationIo :=
  [acceptIteration 7 time, acceptIteration 8 time, acceptIteration 9 time,
    acceptIteration 10 time, acceptIteration 11 time]

/-- A late message makes the loop expire the silent clients before a sixth arrives. -/
theorem loop_admission_after_expiry :
    Machine.Meets timedStep AdmitsClient
      (TimedServer.initial (fun _ => none) .pam ⟨false, 0⟩ ⟨100, 0⟩)
      (loopActions ⟨Server.initial (fun _ => none) .pam ⟨false, 0⟩ ⟨100, 0⟩, .ok⟩
        (silentClients 100 ++
          [messageIteration 0 120 (goodClient 120), acceptIteration 12 121])) :=
  (loop_admission (fun _ => none) .pam ⟨false, 0⟩ ⟨100, 0⟩ _ (by decide)).mpr (by decide)

/-- Five silent clients keep a sixth out long after their timeout. -/
theorem loop_admission_refused :
    ¬ ∀ (hdlrData : Fin maxSessions → Option Nat) (authType : AuthHdlrType)
        (timecfg : TimeoutConfig) (now : Timeval) (ios : List IterationIo),
      Machine.Meets timedStep (fun t action => action.Admissible t.server)
        (TimedServer.initial hdlrData authType timecfg now)
        (loopActions ⟨Server.initial hdlrData authType timecfg now, .ok⟩ ios) →
      Machine.Meets timedStep AdmitsClient (TimedServer.initial hdlrData authType timecfg now)
        (loopActions ⟨Server.initial hdlrData authType timecfg now, .ok⟩ ios) := by
  intro h
  have hrun := h (fun _ => none) .pam ⟨false, 0⟩ ⟨100, 0⟩
    (silentClients 100 ++ [acceptIteration 12 200]) (by decide)
  revert hrun
  decide

end Runs

end AtScaleDebug
