import AtScaleDebug.Server.LoopActions

/-!
Data that the TLS layer holds for a session. A flag in the slot says so, since `poll`
cannot report it, and `process_client_message` accepts the flag in place of `POLLIN`.
The loop that calls it does not: it passes over every descriptor without `POLLIN`, and
is itself only reached when `poll` reports something.
-/

namespace AtScaleDebug

open Session

/-- The slot is open and its flag says that the transport holds data. -/
structure Session.Pending (s : Session) (i : Fin maxSessions) : Prop where
  isOpen : s.IsOpen i
  flag : (s.sessions i).dataPending = true

instance (s : Session) (i : Fin maxSessions) : Decidable (s.Pending i) :=
  decidable_of_iff (s.IsOpen i ∧ (s.sessions i).dataPending = true)
    ⟨fun h => ⟨h.1, h.2⟩, fun h => ⟨h.isOpen, h.flag⟩⟩

/-- The iteration calls `process_client_message` for the session, which finds it with
its flag set and authenticated, so that it reads on. -/
def ProcessedIn (s : Server) (io : IterationIo) (i : Fin maxSessions) : Prop :=
  ∃ before client after,
    iterationActions s io = before ++ .clientMessage (s.conn i).sockfd client :: after ∧
      sessionLookupConn (Machine.run serverStep s before).session (s.conn i).sockfd = some i ∧
      (Machine.run serverStep s before).session.Pending i ∧
      ((Machine.run serverStep s before).session.sessions i).authenticated = true

/-- `poll` returns events, among them `POLLIN` for the descriptor of the session. -/
def ReportedIn (s : Server) (io : IterationIo) (i : Fin maxSessions) : Prop :=
  (∃ hostReady, io.poll = .events hostReady) ∧
    ∃ k, (sessionGetfds s.session).2[k]? = some (s.conn i).sockfd ∧ io.clientReady k = true

/-- An iteration that gets as far as the poll set. -/
def Polls (l : LoopState) (io : IterationIo) : Prop :=
  l.result = .ok ∧ l.server.idle io.now = false

def ProcessesPending (l : LoopState) (io : IterationIo) : Prop :=
  Polls l io → ∀ i, l.server.session.Pending i → ProcessedIn l.server io i

def ReportsPending (l : LoopState) (io : IterationIo) : Prop :=
  Polls l io → ∀ i, l.server.session.Pending i → ReportedIn l.server io i

/-- Iterations with the number of decrypted bytes that the TLS layer holds for the session
before and after each of them. The flag of the session is exact, nothing arrives from the
network, and a read takes at least one byte of what is there. -/
def HoldsBytes (i : Fin maxSessions) : LoopState → Nat → List (IterationIo × Nat) → Prop
  | _, _, [] => True
  | l, bytes, (io, left) :: ios =>
      (0 < bytes → Polls l io ∧ l.server.session.Pending i) ∧ left ≤ bytes ∧
        (0 < bytes → ProcessedIn l.server io i → left < bytes) ∧
        HoldsBytes i (requestProcessingLoop l io) left ios

/-- Only an authenticated session has its flag set. -/
structure Server.PendingAuthenticated (s : Server) : Prop where
  wf : s.session.Wf
  pending : ∀ i, s.session.Pending i → (s.session.sessions i).authenticated = true

section Frame

/-- Every slot but one is as it was. -/
def OnlySlot (i : Fin maxSessions) (s t : Session) : Prop :=
  ∀ j, j ≠ i → t.sessions j = s.sessions j

theorem OnlySlot.trans {i : Fin maxSessions} {s t u : Session} (h : OnlySlot i s t)
    (h' : OnlySlot i t u) : OnlySlot i s u := fun j hj => (h' j hj).trans (h j hj)

theorem sessionClosePrivate_onlySlot (s : Session) (i : Fin maxSessions) :
    OnlySlot i s (sessionClosePrivate s i).1 := fun _ hj => sessionClosePrivate_of_ne s hj

theorem setSlot_onlySlot (s : Session) (i : Fin maxSessions) (slot : SessionSlot) :
    OnlySlot i s (s.setSlot i slot) := fun _ hj => setSlot_of_ne s slot hj

theorem closeSession_onlySlot {s : Server} (wf : s.session.Wf) {i : Fin maxSessions}
    (hopen : s.session.IsOpen i) : OnlySlot i s.session (s.closeSession i).session := by
  rw [closeSession_session wf hopen]
  exact sessionClosePrivate_onlySlot _ _

theorem closeSession_not_isOpen {s : Server} (wf : s.session.Wf) {i : Fin maxSessions}
    (hopen : s.session.IsOpen i) : ¬ (s.closeSession i).session.IsOpen i := by
  rw [closeSession_session wf hopen]
  exact sessionClosePrivate_not_isOpen _ _

theorem markAuthenticated_onlySlot (s : Session) (i : Fin maxSessions) :
    OnlySlot i s (s.markAuthenticated i) := fun _ hj => setSlot_of_ne s _ hj

variable {s : Server} {i : Fin maxSessions} {io : ClientIo} {client : ClientAuthResult}

/-- A client that is turned away has its session closed. -/
theorem AuthOutcome.closed_of_refused (outcome : AuthOutcome s i io client) (wf : s.session.Wf)
    (hopen : s.session.IsOpen i) (hstatus : client.status ≠ .ok) :
    ∃ t : Server, t.session.Wf ∧ t.session.IsOpen i ∧ OnlySlot i s.session t.session ∧
      client.server = t.closeSession i := by
  have hsession := (authClientHandshake_keeps s io.handshake).1
  cases outcome with
  | already | admitted => exact absurd rfl hstatus
  | refused =>
      refine ⟨_, ?_, ?_, ?_, rfl⟩
      · exact hsession ▸ wf
      · exact hsession ▸ hopen
      · rw [hsession]
        exact fun _ _ => rfl
  | aborted t hauth hnone ht =>
      have hmarked : (onClientConnect t io.connect io.release).1.session =
          s.session.markAuthenticated i := by rw [onClientConnect_session, ht]
      refine ⟨_, ?_, ?_, ?_, rfl⟩
      · rw [onClientDisconnect_session, hmarked]
        exact markAuthenticated_wf wf hopen hnone
      · rw [onClientDisconnect_session, hmarked]
        exact (markAuthenticated_isOpen_iff _ _ _).mpr hopen
      · rw [onClientDisconnect_session, hmarked]
        exact markAuthenticated_onlySlot s.session i

theorem AuthOutcome.onlySlot_of_passed (outcome : AuthOutcome s i io client)
    (hstatus : client.status = .ok) : OnlySlot i s.session client.server.session := by
  cases outcome with
  | already => exact fun _ _ => rfl
  | refused _ _ hrefused => exact absurd hstatus hrefused
  | aborted t _ _ _ hfailed hnot => exact absurd (hfailed ▸ hstatus) hnot
  | admitted t hauth hnone ht =>
      rw [onClientConnect_session, ht]
      exact markAuthenticated_onlySlot s.session i

/-- A message changes no slot but its own, and leaves that one closed or authenticated. -/
theorem processClientMessage_slot (wf : s.session.Wf) {fd : Int}
    (hfind : sessionLookupConn s.session fd = some i) (io : ClientIo) :
    OnlySlot i s.session (processClientMessage s fd true io).1.session ∧
      ((processClientMessage s fd true io).1.session.IsOpen i →
        ((processClientMessage s fd true io).1.session.sessions i).authenticated = true) := by
  have hopen := (sessionLookupConn_some hfind).1
  have outcome := ensureClientAuthenticated_outcome wf hopen io
  have hwf := outcome.wf wf hopen
  rw [processClientMessage_of_lookup wf hfind]
  dsimp only
  split
  · next hstatus =>
      obtain ⟨t, htwf, htopen, honly, heq⟩ := outcome.closed_of_refused wf hopen hstatus
      rw [heq]
      refine ⟨honly.trans (closeSession_onlySlot htwf htopen), fun hstill => ?_⟩
      exact absurd hstill (closeSession_not_isOpen htwf htopen)
  · next hstatus =>
      have honly := outcome.onlySlot_of_passed (not_not.mp hstatus)
      obtain ⟨hopen, hauth⟩ := outcome.admits hopen (not_not.mp hstatus)
      split
      · refine ⟨honly.trans (closeSession_onlySlot (s := (onClientDisconnect
          (afterMessage (ensureClientAuthenticated s i io) io) io.release).1) hwf hopen), ?_⟩
        exact fun hstill => absurd hstill (closeSession_not_isOpen (s := (onClientDisconnect
          (afterMessage (ensureClientAuthenticated s i io) io) io.release).1) hwf hopen)
      · refine ⟨honly.trans ?_, fun _ => ?_⟩
        · simp only [afterMessage, Server.conn, sessionSetDataPending_of_isOpen hwf hopen]
          exact setSlot_onlySlot _ _ _
        · rw [sessionSetDataPending_authenticated]
          exact hauth

theorem sessionCloseExpiredUnauth_slot (s : Session) (now : Fin maxSessions → Int)
    (i : Fin maxSessions) :
    (sessionCloseExpiredUnauth s now).sessions i = s.sessions i ∨
      (s.sessions i).authenticated = false ∧ ¬ (sessionCloseExpiredUnauth s now).IsOpen i := by
  rw [sessionCloseExpiredUnauth]
  split
  swap
  · exact .inl rfl
  refine Machine.run_invariant_of_step (I := fun t : Session => t.sessions i = s.sessions i ∨
    (s.sessions i).authenticated = false ∧ ¬ t.IsOpen i) (fun t j ht => ?_) _ (.inl rfl)
  rw [sessionCloseExpiredStep]
  split
  swap
  · exact ht
  next hexpired =>
  simp only [Bool.and_eq_true, Bool.not_eq_true'] at hexpired
  obtain rfl | hne := eq_or_ne i j
  · refine .inr ⟨?_, sessionClosePrivate_not_isOpen t i⟩
    obtain hsame | hclosed := ht
    · exact hsame ▸ hexpired.1.2
    · exact hclosed.1
  · refine ht.imp (fun hsame => ?_) fun hclosed => ⟨hclosed.1, fun hopen => ?_⟩
    · rw [sessionClosePrivate_of_ne t hne, hsame]
    · exact hclosed.2 ((sessionClosePrivate_isOpen_iff t).mp hopen).2

theorem closeConnection_slot (s : Server) (release : ReleaseIo) (i : Fin maxSessions) :
    (closeConnection s release).1.session.sessions i = s.session.sessions i ∨
      ¬ (closeConnection s release).1.session.IsOpen i := by
  simp only [closeConnection]
  split
  swap
  · exact .inl rfl
  split
  swap
  · exact .inl rfl
  rw [onClientDisconnect_session]
  next conn _ _ =>
  obtain heq | ⟨j, -, heq⟩ := sessionClose_cases s.session conn
  · rw [heq]
    exact .inl rfl
  · rw [heq]
    obtain rfl | hne := eq_or_ne i j
    · exact .inr (sessionClosePrivate_not_isOpen _ _)
    · exact .inl (sessionClosePrivate_of_ne _ hne)

theorem processNewClient_slot (s : Server) (io : AcceptIo) (i : Fin maxSessions) :
    (processNewClient s io 0 []).1.session.sessions i = s.session.sessions i ∨
      ¬ s.session.IsOpen i ∧
        ((processNewClient s io 0 []).1.session.sessions i).dataPending = false := by
  rw [processNewClient_session]
  cases io.conn with
  | none => exact .inl rfl
  | some conn =>
      dsimp only
      obtain ⟨-, heq⟩ | ⟨j, hunused, heq⟩ := sessionOpen_cases s.session conn io.now
      · rw [heq]
        exact .inl rfl
      · rw [heq]
        obtain rfl | hne := eq_or_ne i j
        · refine .inr ⟨not_isOpen_of_unused hunused, ?_⟩
          rw [setSlot_self]
        · exact .inl (setSlot_of_ne _ _ hne)

end Frame

section Steps
variable {s : Server}

theorem Session.Pending.of_same {s t : Session} {i : Fin maxSessions} (h : t.Pending i)
    (hslot : t.sessions i = s.sessions i) : s.Pending i := by
  refine ⟨?_, hslot ▸ h.flag⟩
  rw [Session.IsOpen, ← hslot]
  exact h.isOpen

theorem serverStep_pendingAuthenticated (action : LoopAction) (h : s.PendingAuthenticated)
    (ok : action.Admissible s) : (serverStep s action).PendingAuthenticated := by
  refine ⟨serverStep_wf action h.wf ok, fun i hi => ?_⟩
  have hsame (hslot : (serverStep s action).session.sessions i = s.session.sessions i) :
      ((serverStep s action).session.sessions i).authenticated = true :=
    (congrArg SessionSlot.authenticated hslot).trans (h.pending i (hi.of_same hslot))
  cases action with
  | closeConnection release =>
      obtain hslot | hclosed := closeConnection_slot s release i
      · exact hsame hslot
      · exact absurd hi.isOpen hclosed
  | newClient io =>
      obtain hslot | ⟨-, hflag⟩ := processNewClient_slot s io i
      · exact hsame hslot
      · exact absurd (hflag.symm.trans hi.flag) Bool.false_ne_true
  | expireUnauth now =>
      obtain hslot | ⟨-, hclosed⟩ := sessionCloseExpiredUnauth_slot s.session now i
      · exact hsame hslot
      · exact absurd hi.isOpen hclosed
  | clientMessage fd io =>
      cases hfind : sessionLookupConn s.session fd with
      | none => exact hsame (by simp only [serverStep, processClientMessage, hfind])
      | some j =>
          obtain ⟨honly, hauth⟩ := processClientMessage_slot h.wf hfind io
          obtain rfl | hne := eq_or_ne i j
          · exact hauth hi.isOpen
          · exact hsame (honly i hne)
  | setActivity now => exact hsame rfl
  | noteActivity now =>
      refine hsame ?_
      simp only [serverStep]
      split
      · rfl
      · rfl

/-- The action is not about the session with this descriptor. -/
def LoopAction.Spares (fd : Int) : LoopAction → Prop
  | .closeConnection _ => False
  | .clientMessage other _ => other ≠ fd
  | _ => True

theorem serverStep_spares {action : LoopAction} (h : s.session.Wf) {i : Fin maxSessions}
    (hauth : (s.session.sessions i).authenticated = true)
    (hspares : action.Spares (s.conn i).sockfd) :
    (serverStep s action).session.sessions i = s.session.sessions i := by
  cases action with
  | closeConnection => exact absurd hspares not_false
  | newClient io =>
      obtain hslot | ⟨hclosed, -⟩ := processNewClient_slot s io i
      · exact hslot
      · exact absurd (h.authOpen i hauth) hclosed
  | expireUnauth now =>
      obtain hslot | ⟨hwaiting, -⟩ := sessionCloseExpiredUnauth_slot s.session now i
      · exact hslot
      · exact absurd (hwaiting.symm.trans hauth) Bool.false_ne_true
  | clientMessage fd io =>
      cases hfind : sessionLookupConn s.session fd with
      | none => simp only [serverStep, processClientMessage, hfind]
      | some j =>
          obtain ⟨honly, -⟩ := processClientMessage_slot h hfind io
          refine honly i fun hij => hspares ?_
          exact (hij ▸ (sessionLookupConn_some hfind).2).symm
  | setActivity now => rfl
  | noteActivity now =>
      simp only [serverStep]
      split
      · rfl
      · rfl

/-- Actions on other sessions leave an authenticated slot alone. -/
theorem run_spares {i : Fin maxSessions} {fd : Int} (h : s.session.Wf)
    (hauth : (s.session.sessions i).authenticated = true) (hfd : (s.conn i).sockfd = fd)
    {actions : List LoopAction} (hspares : ∀ action ∈ actions, action.Spares fd)
    (admissible : Machine.Meets serverStep (fun s action => action.Admissible s) s actions) :
    (Machine.run serverStep s actions).session.Wf ∧
      (Machine.run serverStep s actions).session.sessions i = s.session.sessions i := by
  induction actions generalizing s with
  | nil => exact ⟨h, rfl⟩
  | cons action actions ih =>
      have hslot := serverStep_spares h hauth (hfd.symm ▸ hspares action List.mem_cons_self)
      have hconn : ((serverStep s action).conn i).sockfd = fd := by
        rw [Server.conn, hslot]
        exact hfd
      obtain ⟨hwf, hrest⟩ := ih (serverStep_wf action h admissible.1) (hslot ▸ hauth) hconn
        (fun other hother => hspares other (List.mem_cons_of_mem _ hother)) admissible.2
      exact ⟨hwf, hrest.trans hslot⟩

end Steps

section Iteration
variable {s : Server} {io : IterationIo} {i : Fin maxSessions}

/-- Each client message of an iteration is about a polled descriptor with `POLLIN`. -/
theorem mem_clientActions {polled : List PollFd} {client : Nat → ClientIo} {action : LoopAction} :
    action ∈ (polled.mapIdx fun k p => (p, client k)).flatMap clientActions ↔
      ∃ k fd, polled[k]? = some ⟨fd, true⟩ ∧ action = .clientMessage fd (client k) := by
  rw [List.mem_flatMap]
  constructor
  · rintro ⟨⟨⟨fd, pollin⟩, clientIo⟩, hmem, haction⟩
    obtain ⟨k, hk⟩ := List.mem_iff_getElem?.mp hmem
    rw [List.getElem?_mapIdx, Option.map_eq_some_iff] at hk
    obtain ⟨p, hp, heq⟩ := hk
    cases heq
    rw [clientActions] at haction
    split at haction
    · next hready =>
        obtain rfl : pollin = true := hready
        exact ⟨k, fd, hp, List.mem_singleton.mp haction⟩
    · exact absurd haction List.not_mem_nil
  · rintro ⟨k, fd, hk, rfl⟩
    refine ⟨(⟨fd, true⟩, client k), List.mem_iff_getElem?.mpr ⟨k, ?_⟩, List.mem_singleton.mpr rfl⟩
    rw [List.getElem?_mapIdx, hk]
    rfl

theorem polled_iff {fds : List Int} {ready : Nat → Bool} {k : Nat} {fd : Int} :
    (fds.mapIdx fun k fd => (⟨fd, ready k⟩ : PollFd))[k]? = some ⟨fd, true⟩ ↔
      fds[k]? = some fd ∧ ready k = true := by
  rw [List.getElem?_mapIdx, Option.map_eq_some_iff]
  constructor
  · rintro ⟨other, hk, heq⟩
    obtain ⟨rfl, hready⟩ := PollFd.mk.inj heq
    exact ⟨hk, hready⟩
  · rintro ⟨hk, hready⟩
    exact ⟨fd, hk, hready ▸ rfl⟩

/-- A new client is looked at behind the polled ones, if at all. -/
theorem processNewClient_polled (s : Server) (io : AcceptIo) (clientIndex : Nat)
    (polled : List PollFd) :
    ∃ added, (processNewClient s io clientIndex polled).2.2 = polled ++ added ∧
      ∀ p ∈ added, ∃ conn ∈ io.conn, p.fd = conn.sockfd := by
  have hnone : ∀ p ∈ ([] : List PollFd), ∃ conn ∈ io.conn, p.fd = conn.sockfd :=
    fun p hp => absurd hp List.not_mem_nil
  simp only [processNewClient]
  cases hconn : io.conn with
  | none => exact ⟨[], (List.append_nil _).symm, hconn ▸ hnone⟩
  | some conn =>
      dsimp only
      split
      · exact ⟨[], (List.append_nil _).symm, hconn ▸ hnone⟩
      split
      swap
      · exact ⟨[], (List.append_nil _).symm, hconn ▸ hnone⟩
      dsimp only
      split
      · refine ⟨[⟨conn.sockfd, true⟩], rfl, fun p hp => ⟨conn, rfl, ?_⟩⟩
        rw [List.mem_singleton.mp hp]
      · exact ⟨[], (List.append_nil _).symm, hconn ▸ hnone⟩

/-- The actions of an iteration with events: the new client, the expired ones, the polled
descriptors and perhaps the new one. -/
theorem eventActions_eq (s : Server) (io : IterationIo) (hostReady : Bool) (clientIndex : Nat)
    (polled : List PollFd) :
    ∃ added, eventActions s io hostReady clientIndex polled =
        (if hostReady then [.newClient io.accept] else []) ++ .expireUnauth io.expireTimes ::
          ((polled ++ added).mapIdx fun k client => (client, io.client k)).flatMap clientActions ++
          [.noteActivity io.activityTime] ∧
      ∀ p ∈ added, hostReady = true ∧ ∃ conn ∈ io.accept.conn, p.fd = conn.sockfd := by
  cases hostReady with
  | false =>
      refine ⟨[], ?_, fun _ h => absurd h List.not_mem_nil⟩
      rw [List.append_nil]
      rfl
  | true =>
      obtain ⟨added, heq, hadded⟩ := processNewClient_polled s io.accept clientIndex polled
      refine ⟨added, ?_, fun p hp => ⟨rfl, hadded p hp⟩⟩
      rw [← heq]
      rfl

/-- The actions of an iteration with events. A client message is about a polled descriptor
with `POLLIN` or about the client that was just accepted. -/
theorem eventActions_cases {hostReady : Bool} {clientIndex : Nat} {polled : List PollFd}
    {action : LoopAction} (h : action ∈ eventActions s io hostReady clientIndex polled) :
    action = .newClient io.accept ∨ action = .expireUnauth io.expireTimes ∨
      (∃ k fd, action = .clientMessage fd (io.client k) ∧ (polled[k]? = some ⟨fd, true⟩ ∨
        hostReady = true ∧ ∃ conn ∈ io.accept.conn, fd = conn.sockfd)) ∨
      action = .noteActivity io.activityTime := by
  obtain ⟨added, heq, hadded⟩ := eventActions_eq s io hostReady clientIndex polled
  rw [heq, List.mem_append, List.mem_append, List.mem_cons] at h
  obtain (haccepted | hexpire | hclient) | hnote := h
  · split at haccepted
    · exact .inl (List.mem_singleton.mp haccepted)
    · exact absurd haccepted List.not_mem_nil
  · exact .inr (.inl hexpire)
  · obtain ⟨k, fd, hk, haction⟩ := mem_clientActions.mp hclient
    refine .inr (.inr (.inl ⟨k, fd, haction, ?_⟩))
    rw [List.getElem?_append] at hk
    split at hk
    · exact .inl hk
    · exact .inr (hadded _ (List.mem_of_getElem? hk))
  · exact .inr (.inr (.inr (List.mem_singleton.mp hnote)))

theorem mem_eventActions {hostReady : Bool} {clientIndex : Nat} {polled : List PollFd}
    {fd : Int} {client : ClientIo}
    (h : .clientMessage fd client ∈ eventActions s io hostReady clientIndex polled) :
    (∃ k : Nat, polled[k]? = some ⟨fd, true⟩) ∨
      hostReady = true ∧ ∃ conn ∈ io.accept.conn, fd = conn.sockfd := by
  obtain hnew | hexpire | ⟨k, other, haction, hfd⟩ | hnote := eventActions_cases h
  · cases hnew
  · cases hexpire
  · cases haction
    exact hfd.imp_left fun hk => ⟨k, hk⟩
  · cases hnote

theorem mem_eventActions_of_polled {hostReady : Bool} {clientIndex : Nat} {polled : List PollFd}
    {k : Nat} {fd : Int} (h : polled[k]? = some ⟨fd, true⟩) :
    .clientMessage fd (io.client k) ∈ eventActions s io hostReady clientIndex polled := by
  obtain ⟨added, heq, -⟩ := eventActions_eq s io hostReady clientIndex polled
  have hall : (polled ++ added)[k]? = some ⟨fd, true⟩ :=
    (List.getElem?_append_left (List.getElem?_eq_some_iff.mp h).1).trans h
  have hclient : .clientMessage fd (io.client k) ∈
      ((polled ++ added).mapIdx fun k client => (client, io.client k)).flatMap clientActions :=
    mem_clientActions.mpr ⟨k, fd, hall, rfl⟩
  rw [heq]
  exact List.mem_append_left _ (List.mem_append_right _ (List.mem_cons_of_mem _ hclient))

theorem eventActions_not_close {hostReady : Bool} {clientIndex : Nat} {polled : List PollFd}
    {release : ReleaseIo} :
    .closeConnection release ∉ eventActions s io hostReady clientIndex polled := by
  intro h
  obtain hnew | hexpire | ⟨k, fd, haction, -⟩ | hnote := eventActions_cases h
  · cases hnew
  · cases hexpire
  · cases haction
  · cases hnote

/-- The first message of a descriptor and the actions before it. -/
theorem exists_first_message {fd : Int} {client : ClientIo} {actions : List LoopAction}
    (hmem : .clientMessage fd client ∈ actions)
    (hclose : ∀ release, .closeConnection release ∉ actions) :
    ∃ before first after, actions = before ++ .clientMessage fd first :: after ∧
      ∀ action ∈ before, action.Spares fd := by
  induction actions with
  | nil => exact absurd hmem List.not_mem_nil
  | cons action actions ih =>
      by_cases hspares : action.Spares fd
      · have hlater : .clientMessage fd client ∈ actions := by
          obtain heq | hlater := List.mem_cons.mp hmem
          · exact absurd rfl (heq ▸ hspares)
          · exact hlater
        obtain ⟨before, first, after, heq, hbefore⟩ :=
          ih hlater fun release hrelease => hclose release (List.mem_cons_of_mem _ hrelease)
        refine ⟨action :: before, first, after, congrArg (action :: ·) heq, ?_⟩
        exact List.forall_mem_cons.mpr ⟨hspares, hbefore⟩
      · cases action with
        | closeConnection release => exact absurd List.mem_cons_self (hclose release)
        | clientMessage other first =>
            obtain rfl : other = fd := not_not.mp hspares
            exact ⟨[], first, actions, rfl, fun _ h => absurd h List.not_mem_nil⟩
        | newClient | expireUnauth | setActivity | noteActivity =>
            exact absurd True.intro hspares

theorem iterationActions_of_polls (io : IterationIo) (h : s.session.Wf)
    (hidle : s.idle io.now = false) :
    iterationActions s io =
      let pins := targetPinFds s.msg io.pinFds
      match io.poll with
      | .error => []
      | .timeout => pinActions io pins
      | .events hostReady =>
          eventActions s io hostReady (gpioFdIndex + pins)
            ((sessionGetfds s.session).2.mapIdx fun k fd => ⟨fd, io.clientReady k⟩) ++
            pinActions io pins := by
  have hfds : sessionGetfds s.session = (.ok, (sessionGetfds s.session).2) := by
    rw [sessionGetfds, h.initialized]
    rfl
  rw [iterationActions, hidle]
  dsimp only
  rw [hfds]
  rfl

theorem pinActions_no_message {pins : Nat} {fd : Int} {client : ClientIo} :
    .clientMessage fd client ∉ pinActions io pins := by
  rw [pinActions]
  split
  · split
    · exact fun h => by cases List.mem_singleton.mp h
    · exact List.not_mem_nil
  · exact List.not_mem_nil

/-- An iteration that polls serves a pending session if and only if its descriptor is
reported as readable. -/
theorem processedIn_iff (h : s.PendingAuthenticated) (hidle : s.idle io.now = false)
    (admissible : Machine.Meets serverStep (fun s action => action.Admissible s) s
      (iterationActions s io)) (hi : s.session.Pending i) :
    ProcessedIn s io i ↔ ReportedIn s io i := by
  have hactions := iterationActions_of_polls io h.wf hidle
  dsimp only at hactions
  constructor
  · rintro ⟨before, client, after, heq, -⟩
    have hmem : .clientMessage (s.conn i).sockfd client ∈ iterationActions s io := by
      rw [heq]
      exact List.mem_append_right _ List.mem_cons_self
    rw [hactions] at hmem admissible
    cases hpoll : io.poll with
    | error =>
        rw [hpoll] at hmem
        exact absurd hmem List.not_mem_nil
    | timeout =>
        rw [hpoll] at hmem
        exact absurd hmem pinActions_no_message
    | events hostReady =>
        rw [hpoll] at hmem admissible
        dsimp only at hmem admissible
        refine ⟨⟨hostReady, hpoll⟩, ?_⟩
        have hevent := (List.mem_append.mp hmem).resolve_right pinActions_no_message
        obtain ⟨k, hk⟩ | ⟨rfl, conn, hconn, hfd⟩ := mem_eventActions hevent
        · exact ⟨k, polled_iff.mp hk⟩
        · exact absurd hfd ((admissible.1 conn hconn).2 i)
  · rintro ⟨⟨hostReady, hpoll⟩, k, hk, hready⟩
    rw [hpoll] at hactions
    dsimp only at hactions
    obtain ⟨before, first, after, heq, hspares⟩ :=
      exists_first_message (mem_eventActions_of_polled (polled_iff.mpr ⟨hk, hready⟩))
        fun _ => eventActions_not_close
    rw [heq, List.append_assoc] at hactions
    rw [hactions, Machine.meets_append] at admissible
    obtain ⟨hwf, hslot⟩ := run_spares h.wf (h.pending i hi) rfl hspares admissible.1
    have hstill : (Machine.run serverStep s before).session.Pending i := by
      refine ⟨?_, hslot ▸ hi.flag⟩
      rw [Session.IsOpen, hslot]
      exact hi.isOpen
    refine ⟨before, first, _, hactions, ?_, hstill, hslot ▸ h.pending i hi⟩
    have hfind := sessionFindPrivate_eq_some hwf hstill.isOpen
    rw [hslot] at hfind
    rw [sessionLookupConn, Server.conn, hfind]
    exact if_pos hstill.isOpen

end Iteration

section Runs
variable (hdlrData : Fin maxSessions → Option Nat) (authType : AuthHdlrType)
  (timecfg : TimeoutConfig) (now : Timeval)

/-- The actions an iteration takes; a loop that has ended takes none. -/
def LoopState.actions (l : LoopState) (io : IterationIo) : List LoopAction :=
  if l.result = .ok then iterationActions l.server io else []

theorem requestProcessingLoop_server (l : LoopState) (io : IterationIo) :
    (requestProcessingLoop l io).server = Machine.run serverStep l.server (l.actions io) := by
  rw [requestProcessingLoop, LoopState.actions]
  split
  · exact requestProcessingIteration_eq l.server io
  · rfl

/-- A property of the actions of a run, iteration by iteration. -/
theorem meets_loopActions (ok : Server → LoopAction → Prop) (l : LoopState)
    (ios : List IterationIo) :
    Machine.Meets serverStep ok l.server (loopActions l ios) ↔
      Machine.Meets requestProcessingLoop
        (fun l io => Machine.Meets serverStep ok l.server (l.actions io)) l ios := by
  induction ios generalizing l with
  | nil => exact Iff.rfl
  | cons io ios ih =>
      rw [loopActions, Machine.meets_append, Machine.meets_cons, ← ih,
        requestProcessingLoop_server]
      rfl

theorem holdsBytes_drained {i : Fin maxSessions} {l : LoopState} {bytes : Nat}
    {ios : List (IterationIo × Nat)} (h : HoldsBytes i l bytes ios)
    (hserved : Machine.Meets requestProcessingLoop ProcessesPending l (ios.map Prod.fst))
    (hlong : bytes ≤ ios.length) : (ios.map Prod.snd).getLastD bytes = 0 := by
  induction ios generalizing l bytes with
  | nil => exact Nat.le_zero.mp hlong
  | cons step ios ih =>
      obtain ⟨hflag, hquiet, hread, hrest⟩ := h
      have hshort : step.2 ≤ ios.length := by
        by_cases hempty : bytes = 0
        · omega
        · have hpending := hflag (Nat.pos_of_ne_zero hempty)
          have hless := hread (Nat.pos_of_ne_zero hempty) (hserved.1 hpending.1 i hpending.2)
          rw [List.length_cons] at hlong
          omega
      have hdrained := ih hrest hserved.2 hshort
      rwa [List.map_cons, List.getLastD_cons]

/-- Every iteration that puts the descriptor of a session with pending data in the poll set
serves that session, if and only if in each such iteration `poll` reports `POLLIN` for the
descriptor. In such a run all bytes that the TLS layer holds are read in at most as many
iterations, without anything arriving. -/
theorem pending_data_processed (ios : List IterationIo)
    (admissible : Machine.Meets serverStep (fun s action => action.Admissible s)
      (Server.initial hdlrData authType timecfg now)
      (loopActions ⟨Server.initial hdlrData authType timecfg now, .ok⟩ ios)) :
    let start : LoopState := ⟨Server.initial hdlrData authType timecfg now, .ok⟩
    (Machine.Meets requestProcessingLoop ProcessesPending start ios ↔
      Machine.Meets requestProcessingLoop ReportsPending start ios) ∧
    (Machine.Meets requestProcessingLoop ReportsPending start ios →
      ∀ before held i bytes, ios = before ++ held.map Prod.fst →
        HoldsBytes i (Machine.run requestProcessingLoop start before) bytes held →
        bytes ≤ held.length → (held.map Prod.snd).getLastD bytes = 0) := by
  intro start
  have hstart : start.server.PendingAuthenticated := by
    refine ⟨sessionInit_wf hdlrData, fun i hi => ?_⟩
    exact absurd hi.flag Bool.false_ne_true
  have hiff : Machine.Meets requestProcessingLoop ProcessesPending start ios ↔
      Machine.Meets requestProcessingLoop ReportsPending start ios := by
    refine Machine.meets_congr (I := fun l : LoopState => l.server.PendingAuthenticated)
      (fun l io hl ok => ?_) (fun l io hl ok => ?_) hstart ((meets_loopActions _ _ _).mp admissible)
    · rw [requestProcessingLoop_server]
      exact Machine.run_invariant (fun s action => serverStep_pendingAuthenticated action) hl ok
    · refine forall_congr' fun hpolls => forall_congr' fun i => forall_congr' fun hi => ?_
      rw [LoopState.actions, if_pos hpolls.1] at ok
      exact processedIn_iff hl hpolls.2 ok hi
  refine ⟨hiff, fun hreports before held i bytes hios hheld hlong => ?_⟩
  have hserved := hiff.mpr hreports
  rw [hios, Machine.meets_append] at hserved
  exact holdsBytes_drained hheld hserved.2 hlong

end Runs

/-- A client whose message leaves data with the transport. -/
def pendingClient (time : Int) : ClientIo := { goodClient time with dataPending := true }

/-- The client's descriptor is readable again in the next iteration. -/
theorem pending_data_processed_reported :
    Machine.Meets requestProcessingLoop ProcessesPending
      ⟨Server.initial (fun _ => none) .pam ⟨false, 0⟩ ⟨100, 0⟩, .ok⟩
      [acceptIteration 7 100, messageIteration 0 101 (pendingClient 101),
        messageIteration 0 102 (goodClient 102)] := by
  refine (pending_data_processed (fun _ => none) .pam ⟨false, 0⟩ ⟨100, 0⟩ _ (by decide)).1.mpr
    ⟨fun _ => ?_, fun _ => ?_, fun _ i hi => ⟨⟨false, rfl⟩, 0, ?_, rfl⟩, True.intro⟩
  · have hnone : ∀ i, ¬ (sessionInit fun _ => none).Pending i := by decide
    exact fun i hi => absurd hi (hnone i)
  · have hnone : ∀ i, ¬ (requestProcessingLoop
        ⟨Server.initial (fun _ => none) .pam ⟨false, 0⟩ ⟨100, 0⟩, .ok⟩
        (acceptIteration 7 100)).server.session.Pending i := by decide
    exact fun i hi => absurd hi (hnone i)
  · revert i
    decide

/-- An iteration in which nothing is reported does nothing. -/
theorem quietIteration_idle {l : LoopState} (hwf : l.server.session.Wf) (hok : l.result = .ok)
    {time : Int} (hidle : l.server.idle ⟨time, 0⟩ = false) :
    l.actions (quietIteration time) = [] ∧ requestProcessingLoop l (quietIteration time) = l := by
  have hpins : targetPinFds l.server.msg (quietIteration time).pinFds = 0 := by
    rw [targetPinFds]
    split
    · rfl
    · rfl
  have hactions := iterationActions_of_polls (quietIteration time) hwf hidle
  dsimp only at hactions
  rw [hpins] at hactions
  have hfds : sessionGetfds l.server.session = (.ok, (sessionGetfds l.server.session).2) := by
    rw [sessionGetfds, hwf.initialized]
    rfl
  refine ⟨by rw [LoopState.actions, if_pos hok, hactions]; rfl, ?_⟩
  obtain ⟨server, result⟩ := l
  obtain rfl : result = .ok := hok
  simp only [requestProcessingLoop, requestProcessingIteration, if_true]
  rw [if_neg (Bool.not_eq_true _ ▸ hidle), hfds]
  dsimp only
  rw [hpins]
  rfl

/-- The flag is set, the network is quiet, and however long the loop runs it takes no action. -/
theorem pending_data_stranded :
    let start := Server.initial (fun _ => none) .pam ⟨false, 0⟩ ⟨100, 0⟩
    let ios := [acceptIteration 7 100, messageIteration 0 101 (pendingClient 101)]
    let l := Machine.run requestProcessingLoop ⟨start, .ok⟩ ios
    Machine.Meets serverStep (fun s action => action.Admissible s) start
        (loopActions ⟨start, .ok⟩ ios) ∧
      (∃ i, l.server.session.Pending i) ∧ ¬ ProcessesPending l (quietIteration 102) ∧
      ∀ n, loopActions l (List.replicate n (quietIteration 102)) = [] ∧
        Machine.run requestProcessingLoop l (List.replicate n (quietIteration 102)) = l := by
  intro start ios l
  have admissible : Machine.Meets serverStep (fun s action => action.Admissible s) start
      (loopActions ⟨start, .ok⟩ ios) := by decide
  have hpending : ∃ i, l.server.session.Pending i := by decide
  have hwf : l.server.session.Wf := by
    rw [show l.server = _ from requestProcessingLoop_run ⟨start, .ok⟩ ios]
    exact Machine.run_invariant (I := fun s : Server => s.session.Wf)
      (fun s action => serverStep_wf action) (sessionInit_wf fun _ => none) admissible
  have hok : l.result = .ok := by decide
  have hbusy : l.server.idle ⟨102, 0⟩ = false := by decide
  have hquiet := quietIteration_idle hwf hok hbusy
  clear_value l
  refine ⟨admissible, hpending, ?_, fun n => ?_⟩
  · intro hprocesses
    obtain ⟨i, hi⟩ := hpending
    obtain ⟨before, client, after, heq, -⟩ := hprocesses ⟨hok, hbusy⟩ i hi
    have hnil := hquiet.1
    rw [LoopState.actions, if_pos hok, heq] at hnil
    exact absurd hnil (List.append_ne_nil_of_right_ne_nil _ (List.cons_ne_nil _ _))
  · induction n with
    | zero => exact ⟨rfl, rfl⟩
    | succ n ih =>
        rw [List.replicate_succ, loopActions, Machine.run_cons, hquiet.2, ih.1, ih.2]
        exact ⟨(List.append_nil _).trans hquiet.1, rfl⟩

end AtScaleDebug
