import Mathlib.Data.Fintype.Basic
import AtScaleDebug.Lib.Ledger
import AtScaleDebug.Server.PendingData

/-!
The sockets of the daemon and the TLS objects behind them. A client's connection is
accepted by the transport, copied into a slot of the session table and closed there, or
closed at once when there is no slot. The daemon as a whole opens and closes the socket
it listens on. What each of these acquires and releases is added to the request loop
here.
-/

namespace AtScaleDebug

open Ledger

/-- `extnet_hdlr_type_t`. -/
inductive ExtnetHdlrType where
  | nonEncrypt
  | tls
  deriving DecidableEq, Repr

inductive NetResource where
  | context
  | eventFd
  | socket (fd : Int)
  | ssl (handle : Nat)
  deriving DecidableEq, Repr

section Transport

/-- What the TLS library answers: the object for a connection, whether the descriptor and
the timeout could be set, and whether the client negotiated. -/
structure TlsAcceptIo where
  ssl : Option Nat
  fdSet : Bool
  timeoutSet : Bool
  negotiated : Bool
  deriving DecidableEq, Repr

/-- `accept` and what follows it. The private pointer of the new connection is not set
before the transport does it. -/
structure AcceptConnectionIo where
  accepted : Option Nat
  hdlrData : Option Nat
  tls : TlsAcceptIo
  deriving DecidableEq, Repr

def onCloseClient (type : ExtnetHdlrType) (conn : ExtnetConn) : List (Event NetResource) :=
  match type with
  | .nonEncrypt => []
  | .tls => conn.hdlrData.elim [] fun p => [.release (.ssl p)]

/-- What `extnet_close_client` releases. -/
def extnetCloseEvents (type : ExtnetHdlrType) (conn : ExtnetConn) : List (Event NetResource) :=
  if conn.sockfd < 0 then [] else onCloseClient type conn ++ [.release (.socket conn.sockfd)]

/-- A negotiation that fails closes the connection here, and the caller's own close then
finds it closed. -/
def exttlsOnAccept (conn : ExtnetConn) (io : TlsAcceptIo) :
    ExtnetConn × Status × List (Event NetResource) :=
  if conn.sockfd < 0 then (conn, .err, [])
  else
    match io.ssl with
    | none => ({ conn with hdlrData := none }, .err, [])
    | some p =>
        if !io.fdSet || !io.timeoutSet then
          ({ conn with hdlrData := some p }, .err, [.acquire (.ssl p)])
        else if !io.negotiated then
          (extnetCloseClient { conn with hdlrData := none }, .err,
            .acquire (.ssl p) :: .release (.ssl p) ::
              extnetCloseEvents .tls { conn with hdlrData := none })
        else ({ conn with hdlrData := some p }, .ok, [.acquire (.ssl p)])

def onAccept (type : ExtnetHdlrType) (conn : ExtnetConn) (io : TlsAcceptIo) :
    ExtnetConn × Status × List (Event NetResource) :=
  match type with
  | .nonEncrypt => (conn, .ok, [])
  | .tls => exttlsOnAccept conn io

def extnetAcceptConnection (type : ExtnetHdlrType) (io : AcceptConnectionIo) :
    ExtnetConn × Status × List (Event NetResource) :=
  match io.accepted with
  | none => (⟨-1, io.hdlrData⟩, .err, [])
  | some fd =>
      let (conn, status, events) := onAccept type ⟨fd, io.hdlrData⟩ io.tls
      if status ≠ .ok then
        (extnetCloseClient conn, status,
          .acquire (.socket fd) :: events ++ extnetCloseEvents type conn)
      else (conn, .ok, .acquire (.socket fd) :: events)

/-- The private pointer is the transport's only under TLS. -/
def ExtnetConn.objects (type : ExtnetHdlrType) (conn : ExtnetConn) : Multiset NetResource :=
  match type with
  | .nonEncrypt => 0
  | .tls => conn.hdlrData.elim 0 fun p => {.ssl p}

def ExtnetConn.held (type : ExtnetHdlrType) (conn : ExtnetConn) : Multiset NetResource :=
  if conn.sockfd < 0 then 0 else .socket conn.sockfd ::ₘ conn.objects type

variable {type : ExtnetHdlrType} {conn : ExtnetConn}

theorem held_of_closed (h : conn.sockfd < 0) : conn.held type = 0 := if_pos h

theorem held_extnetCloseClient : (extnetCloseClient conn).held type = 0 :=
  held_of_closed (extnetCloseClient_not_open conn)

theorem settle_onCloseClient (type : ExtnetHdlrType) (conn : ExtnetConn) :
    settle (conn.objects type) (onCloseClient type conn) = some 0 := by
  cases type with
  | nonEncrypt => rfl
  | tls =>
      simp only [ExtnetConn.objects, onCloseClient]
      cases conn.hdlrData with
      | none => rfl
      | some p => exact settle_release 0 _ []

theorem settle_extnetClose (type : ExtnetHdlrType) (conn : ExtnetConn) :
    settle (conn.held type) (extnetCloseEvents type conn) =
      some ((extnetCloseClient conn).held type) := by
  rw [held_extnetCloseClient, ExtnetConn.held, extnetCloseEvents]
  split
  · rfl
  · have hsocket : settle {NetResource.socket conn.sockfd} [.release (.socket conn.sockfd)] =
        some 0 := settle_release 0 _ []
    have hboth := settle_both (settle_onCloseClient type conn) hsocket
    rw [add_comm, Multiset.singleton_add] at hboth
    exact hboth

theorem settle_onAccept (type : ExtnetHdlrType) (fd : Nat) (hdlrData : Option Nat)
    (io : TlsAcceptIo) :
    settle {NetResource.socket fd} (onAccept type ⟨fd, hdlrData⟩ io).2.2 =
        some ((onAccept type ⟨fd, hdlrData⟩ io).1.held type) := by
  have hfd : ¬ (fd : Int) < 0 := Int.not_lt.mpr (Int.natCast_nonneg fd)
  cases type with
  | nonEncrypt => simp only [onAccept, settle_nil, ExtnetConn.held, hfd, if_false]; rfl
  | tls =>
      simp only [onAccept, exttlsOnAccept, hfd, if_false]
      cases io.ssl with
      | none => simp only [settle_nil, ExtnetConn.held, hfd, if_false]; rfl
      | some p =>
          have hssl : settle {NetResource.socket fd} [.acquire (.ssl p)] =
              some (ExtnetConn.held .tls ⟨fd, some p⟩) := by
            simp only [settle_acquire, settle_nil, ExtnetConn.held, hfd, if_false]
            exact congrArg some (Multiset.cons_swap _ _ 0)
          dsimp only
          split
          · exact hssl
          · split
            · simp only [settle_acquire, settle_release]
              have hclose := settle_extnetClose .tls ⟨fd, none⟩
              rw [ExtnetConn.held, if_neg hfd] at hclose
              exact hclose
            · exact hssl

/-- An accepted connection holds what was acquired for it, one that is refused nothing. -/
theorem settle_extnetAccept (type : ExtnetHdlrType) (io : AcceptConnectionIo) :
    settle 0 (extnetAcceptConnection type io).2.2 =
      some ((extnetAcceptConnection type io).1.held type) := by
  rw [extnetAcceptConnection]
  cases io.accepted with
  | none => exact congrArg some (held_of_closed (Int.negSucc_lt_zero 0)).symm
  | some fd =>
      have haccept := settle_onAccept type fd io.hdlrData io.tls
      dsimp only
      split
      · simp only [List.cons_append, settle_acquire]
        exact settle_trans haccept (settle_extnetClose _ _)
      · exact haccept

theorem held_of_refused (type : ExtnetHdlrType) (io : AcceptConnectionIo)
    (h : (extnetAcceptConnection type io).2.1 ≠ .ok) :
    (extnetAcceptConnection type io).1.held type = 0 := by
  rw [extnetAcceptConnection] at h ⊢
  cases haccepted : io.accepted with
  | none => exact held_of_closed (Int.negSucc_lt_zero 0)
  | some fd =>
      rw [haccepted] at h
      dsimp only at h ⊢
      split
      · exact held_extnetCloseClient
      · next hok =>
          rw [if_neg hok] at h
          exact absurd rfl h

end Transport

section Table

/-- What `session_close_private` releases. -/
def sessionClosePrivateEvents (type : ExtnetHdlrType) (s : Session) (i : Fin maxSessions) :
    List (Event NetResource) :=
  if extnetIsClientClosed (s.sessions i).extconn then []
  else extnetCloseEvents type (s.sessions i).extconn

def sessionCloseEvents (type : ExtnetHdlrType) (s : Session) (conn : ExtnetConn) :
    List (Event NetResource) :=
  if conn.sockfd ≠ unusedSocketFd then
    match sessionFindPrivate s conn.sockfd with
    | none => []
    | some i => sessionClosePrivateEvents type s i
  else []

def sessionCloseAllEvents (type : ExtnetHdlrType) (s : Session) : List (Event NetResource) :=
  if s.initialized then
    emitted sessionCloseAllStep
      (fun s i =>
        if !extnetIsClientClosed (s.sessions i).extconn then sessionClosePrivateEvents type s i
        else [])
      s (List.finRange maxSessions)
  else []

def sessionCloseExpiredEvents (type : ExtnetHdlrType) (s : Session)
    (now : Fin maxSessions → Int) : List (Event NetResource) :=
  if s.initialized then
    emitted (sessionCloseExpiredStep now)
      (fun s i =>
        if !extnetIsClientClosed (s.sessions i).extconn && !(s.sessions i).authenticated
            && decide ((s.sessions i).authTout ≤ now i) then sessionClosePrivateEvents type s i
        else [])
      s (List.finRange maxSessions)
  else []

def Session.held (type : ExtnetHdlrType) (s : Session) : Multiset NetResource :=
  ∑ i, (s.sessions i).extconn.held type

/-- The events take over what one table holds and leave what the other does. -/
structure Session.Accounts (type : ExtnetHdlrType) (s : Session)
    (events : List (Event NetResource)) (t : Session) : Prop where
  initialized : t.initialized = s.initialized
  settled : settle (s.held type) events = some (t.held type)

/-- The same connections in the same slots, whatever else is noted of them. -/
structure Session.SameConns (s t : Session) : Prop where
  initialized : t.initialized = s.initialized
  conns : ∀ i, (t.sessions i).extconn = (s.sessions i).extconn

variable {type : ExtnetHdlrType} {s t u : Session} {events more : List (Event NetResource)}

theorem Session.SameConns.refl (s : Session) : s.SameConns s := ⟨rfl, fun _ => rfl⟩

theorem Session.SameConns.trans (first : s.SameConns t) (second : t.SameConns u) :
    s.SameConns u :=
  ⟨second.initialized.trans first.initialized,
    fun i => (second.conns i).trans (first.conns i)⟩

theorem Session.SameConns.held (type : ExtnetHdlrType) (h : s.SameConns t) :
    t.held type = s.held type := by
  apply Finset.sum_congr rfl
  intro i _
  rw [h.conns i]

theorem Session.SameConns.find (h : s.SameConns t) (fd : Int) :
    sessionFindPrivate t fd = sessionFindPrivate s fd := by
  simp only [sessionFindPrivate, h.initialized, h.conns]

theorem Session.SameConns.closeEvents (h : s.SameConns t) (conn : ExtnetConn) :
    sessionCloseEvents type t conn = sessionCloseEvents type s conn := by
  simp only [sessionCloseEvents, sessionClosePrivateEvents, h.find, h.conns]

theorem Session.SameConns.accounts (h : s.SameConns t) : s.Accounts type [] t :=
  ⟨h.initialized, congrArg some (h.held type).symm⟩

theorem Session.Accounts.refl (s : Session) : s.Accounts type [] s := ⟨rfl, rfl⟩

/-- The table may already be another with the same connections. -/
theorem Session.Accounts.of_same (h : s.SameConns t) (accounts : t.Accounts type events u) :
    s.Accounts type events u :=
  ⟨accounts.initialized.trans h.initialized, h.held type ▸ accounts.settled⟩

/-- A run of steps that each account for what they do to a table. -/
theorem accounts_run {σ ι : Type*} (table : σ → Session) {step : σ → ι → σ}
    {out : σ → ι → List (Event NetResource)} (ok : σ → ι → Prop)
    (each : ∀ a i, ok a i → (table a).Accounts type (out a i) (table (step a i)))
    {a : σ} {is : List ι} (meets : Machine.Meets step ok a is) :
    (table a).Accounts type (emitted step out a is) (table (Machine.run step a is)) where
  initialized :=
    Machine.run_invariant (I := fun b => (table b).initialized = (table a).initialized)
      (fun b i hb hok => (each b i hok).initialized.trans hb) rfl meets
  settled :=
    settle_run_of_meets (I := fun _ => True)
      (fun _ _ _ _ => trivial) (fun b i _ hok => (each b i hok).settled) trivial meets

/-- An operation on the connection of one slot. -/
theorem accounts_setSlot (i : Fin maxSessions) (slot : SessionSlot) (authenticatedId : Int)
    (h : settle ((s.sessions i).extconn.held type) events = some (slot.extconn.held type)) :
    s.Accounts type events
      { s.setSlot i slot with authenticatedId := authenticatedId } := by
  refine ⟨rfl, settle_slot i ?_ ?_⟩
  · intro j hj
    rw [Session.setSlot_of_ne s slot hj]
  · rw [Session.setSlot_self]
    exact h

theorem accounts_sessionClosePrivate (s : Session) (i : Fin maxSessions) :
    s.Accounts type (sessionClosePrivateEvents type s i) (sessionClosePrivate s i).1 := by
  apply accounts_setSlot
  rw [sessionClosePrivateEvents]
  split
  · rfl
  · exact settle_extnetClose type (s.sessions i).extconn

theorem accounts_sessionClose (type : ExtnetHdlrType) (s : Session) (conn : ExtnetConn) :
    s.Accounts type (sessionCloseEvents type s conn) (sessionClose s conn).1 := by
  rw [sessionCloseEvents, sessionClose]
  split
  · cases sessionFindPrivate s conn.sockfd with
    | none => exact .refl s
    | some i => exact accounts_sessionClosePrivate s i
  · exact .refl s

theorem accounts_sessionCloseExpired (s : Session) (now : Fin maxSessions → Int) :
    s.Accounts type (sessionCloseExpiredEvents type s now) (sessionCloseExpiredUnauth s now) := by
  rw [sessionCloseExpiredEvents, sessionCloseExpiredUnauth]
  split
  · refine accounts_run id (fun _ _ => True) ?_ ?_
    · intro s i _
      rw [sessionCloseExpiredStep]
      split
      · exact accounts_sessionClosePrivate s i
      · exact .refl s
    · exact Machine.meets_of_mem (fun _ _ _ => trivial) s
  · exact .refl s

theorem accounts_sessionCloseAll (type : ExtnetHdlrType) (s : Session) :
    s.Accounts type (sessionCloseAllEvents type s) (sessionCloseAll s) := by
  rw [sessionCloseAllEvents, sessionCloseAll]
  split
  · refine accounts_run id (fun _ _ => True) ?_ ?_
    · intro s i _
      rw [sessionCloseAllStep]
      split
      · exact accounts_sessionClosePrivate s i
      · exact .refl s
    · exact Machine.meets_of_mem (fun _ _ _ => trivial) s
  · exact .refl s

theorem sessionCloseAllStep_isOpen_iff {i j : Fin maxSessions} :
    (sessionCloseAllStep s i).IsOpen j ↔ j ≠ i ∧ s.IsOpen j := by
  rw [sessionCloseAllStep]
  split
  · exact sessionClosePrivate_isOpen_iff s
  · next hclosed =>
      rw [Bool.not_eq_true', Session.extnetIsClientClosed_iff] at hclosed
      refine ⟨fun hj => ⟨?_, hj⟩, And.right⟩
      intro heq
      exact hclosed (heq ▸ hj)

theorem run_sessionCloseAllStep_isOpen_iff {j : Fin maxSessions} (is : List (Fin maxSessions)) :
    (Machine.run sessionCloseAllStep s is).IsOpen j ↔ j ∉ is ∧ s.IsOpen j := by
  induction is generalizing s with
  | nil => exact (and_iff_right List.not_mem_nil).symm
  | cons i is ih =>
      rw [Machine.run_cons, ih, sessionCloseAllStep_isOpen_iff, List.mem_cons, not_or, and_assoc,
        and_left_comm]

theorem held_sessionCloseAll (h : s.initialized = true) : (sessionCloseAll s).held type = 0 := by
  apply Finset.sum_eq_zero
  intro j _
  have hclosed : ¬ (sessionCloseAll s).IsOpen j := by
    rw [sessionCloseAll, if_pos h, run_sessionCloseAllStep_isOpen_iff]
    exact fun hj => hj.1 (List.mem_finRange j)
  exact held_of_closed (Int.not_le.mp hclosed)

/-- A connection that the table takes is held by a slot that held nothing. -/
theorem accounts_sessionOpen (s : Session) {conn : ExtnetConn} (now : Int)
    (h : settle 0 events = some (conn.held type)) :
    s.Accounts type
      (if (sessionOpen s conn now).2 ≠ .ok then events ++ extnetCloseEvents type conn
        else events)
      (sessionOpen s conn now).1 := by
  rw [sessionOpen]
  cases hfind : sessionFindPrivate s unusedSocketFd with
  | none =>
      have hclose := settle_trans h (settle_extnetClose type conn)
      rw [held_extnetCloseClient] at hclose
      have hframe := settle_frame hclose (s.held type)
      refine ⟨rfl, ?_⟩
      simpa only [zero_add, ne_eq, reduceCtorEq, not_false_eq_true, if_true] using hframe
  | some i =>
      apply accounts_setSlot i _ s.authenticatedId
      rw [held_of_closed]
      · exact h
      · rw [sessionFindPrivate_some hfind]
        decide

end Table

section Loop

/-- What the request loop is told of an accepted connection: one the transport refuses is
none. -/
def AcceptConnectionIo.acceptIo (type : ExtnetHdlrType) (io : AcceptConnectionIo) (now : Int) :
    AcceptIo :=
  let (conn, status, _) := extnetAcceptConnection type io
  ⟨if status = .ok then some conn else none, now⟩

/-- An iteration of the loop whose connections come from the transport. -/
structure NetIterationIo where
  iteration : IterationIo
  accept : AcceptConnectionIo

def NetIterationIo.io (type : ExtnetHdlrType) (n : NetIterationIo) : IterationIo :=
  { n.iteration with accept := n.accept.acceptIo type n.iteration.accept.now }

def processNewClientEvents (type : ExtnetHdlrType) (s : Server) (io : AcceptConnectionIo)
    (now : Int) : List (Event NetResource) :=
  let (conn, status, events) := extnetAcceptConnection type io
  if status ≠ .ok then events
  else if (sessionOpen s.session conn now).2 ≠ .ok then events ++ extnetCloseEvents type conn
  else events

def closeConnectionEvents (type : ExtnetHdlrType) (s : Server) (io : ReleaseIo) :
    List (Event NetResource) :=
  match sessionGetAuthenticatedConn s.session true with
  | (.ok, some conn) =>
      if (onClientDisconnect s io).2 = .ok then sessionCloseEvents type s.session conn else []
  | _ => []

/-- A client that is not admitted is closed; nothing before that touches its connection. -/
def ensureClientAuthenticatedEvents (type : ExtnetHdlrType) (s : Server) (i : Fin maxSessions)
    (io : ClientIo) : List (Event NetResource) :=
  if (ensureClientAuthenticated s i io).status ≠ .ok then
    sessionCloseEvents type s.session (s.conn i)
  else []

def processClientMessageEvents (type : ExtnetHdlrType) (s : Server) (fd : Int) (pollin : Bool)
    (io : ClientIo) : List (Event NetResource) :=
  match sessionLookupConn s.session fd with
  | none => []
  | some i =>
      match sessionGetDataPending s.session (s.conn i) with
      | (.ok, some pending) =>
          if pending || pollin then
            let client := ensureClientAuthenticated s i io
            ensureClientAuthenticatedEvents type s i io ++
              if client.status ≠ .ok then []
              else if (processMsg client.server.msg io.message).2 ≠ .ok then
                sessionCloseEvents type client.server.session (client.server.conn i)
              else []
          else []
      | _ => []

def actionEvents (type : ExtnetHdlrType) (accept : AcceptConnectionIo) (s : Server) :
    LoopAction → List (Event NetResource)
  | .closeConnection release => closeConnectionEvents type s release
  | .newClient io => processNewClientEvents type s accept io.now
  | .expireUnauth now => sessionCloseExpiredEvents type s.session now
  | .clientMessage fd io => processClientMessageEvents type s fd true io
  | .setActivity _ | .noteActivity _ => []

def netLoop (type : ExtnetHdlrType) (l : LoopState) (n : NetIterationIo) : LoopState :=
  requestProcessingLoop l (n.io type)

def iterationEvents (type : ExtnetHdlrType) (l : LoopState) (n : NetIterationIo) :
    List (Event NetResource) :=
  if l.result = .ok then
    emitted serverStep (actionEvents type n.accept) l.server
      (iterationActions l.server (n.io type))
  else []

variable {type : ExtnetHdlrType} {s t : Server}

theorem accounts_processNewClient (s : Server) (io : AcceptConnectionIo) (now : Int) :
    s.session.Accounts type (processNewClientEvents type s io now)
      (processNewClient s (io.acceptIo type now) 0 []).1.session := by
  have haccept := settle_extnetAccept type io
  have hrefused := held_of_refused type io
  rw [processNewClientEvents, processNewClient, AcceptConnectionIo.acceptIo]
  generalize extnetAcceptConnection type io = accepted at haccept hrefused
  obtain ⟨conn, status, events⟩ := accepted
  dsimp only at haccept hrefused ⊢
  by_cases hok : status = .ok
  · have hopen := accounts_sessionOpen s.session now haccept
    simp only [hok, if_true, ne_eq, not_true_eq_false, if_false]
    cases sessionOpen_cases s.session conn now with
    | inl hfull =>
        rw [hfull.2] at hopen ⊢
        simpa only [ne_eq, reduceCtorEq, not_false_eq_true, if_true] using hopen
    | inr hslot =>
        obtain ⟨i, -, heq⟩ := hslot
        rw [heq] at hopen ⊢
        simp only [ne_eq, not_true_eq_false, if_false] at hopen ⊢
        split
        · exact hopen
        · exact hopen
  · rw [hrefused hok] at haccept
    simp only [hok, if_false, ne_eq, not_false_eq_true, if_true]
    refine ⟨rfl, ?_⟩
    simpa only [zero_add] using settle_frame haccept (s.session.held type)

theorem accounts_closeConnection (s : Server) (io : ReleaseIo) :
    s.session.Accounts type (closeConnectionEvents type s io)
      (closeConnection s io).1.session := by
  rw [closeConnectionEvents, closeConnection]
  generalize sessionGetAuthenticatedConn s.session true = found
  obtain ⟨status, conn⟩ := found
  cases status with
  | err | timeout => exact .refl s.session
  | ok =>
      cases conn with
      | none => exact .refl s.session
      | some conn =>
          dsimp only
          split
          · exact accounts_sessionClose type s.session conn
          · exact .refl s.session

/-- Closing the session of a slot where only the connections are known. -/
theorem accounts_closeSession (h : s.session.SameConns t.session) (i : Fin maxSessions) :
    s.session.Accounts type (sessionCloseEvents type s.session (s.conn i))
      (t.closeSession i).session := by
  have hconn : t.conn i = s.conn i := h.conns i
  have hclose := accounts_sessionClose type t.session (t.conn i)
  rw [hconn, h.closeEvents] at hclose
  rw [Server.closeSession, hconn]
  exact .of_same h hclose

theorem sameConns_sessionAuthComplete (s : Session) (conn : ExtnetConn) :
    s.SameConns (sessionAuthComplete s conn).1 := by
  rw [sessionAuthComplete]
  split
  · split
    · exact .refl s
    · split
      · exact .refl s
      · exact ⟨rfl, fun j => markAuthenticated_extconn s _ j⟩
  · exact .refl s

theorem sameConns_sessionSetDataPending (s : Session) (conn : ExtnetConn) (pending : Bool) :
    s.SameConns (sessionSetDataPending s conn pending).1 := by
  rw [sessionSetDataPending]
  split
  · split
    · exact .refl s
    · next i _ =>
        refine ⟨rfl, fun j => ?_⟩
        by_cases hj : j = i
        · rw [hj, Session.setSlot_self]
        · rw [Session.setSlot_of_ne s _ hj]
  · exact .refl s

/-- A client that is admitted keeps its connection, and one that is not has its session
closed, with the connections as they were. -/
theorem ensureClientAuthenticated_conns (s : Server) (i : Fin maxSessions) (io : ClientIo) :
    ((ensureClientAuthenticated s i io).status = .ok ∧
        s.session.SameConns (ensureClientAuthenticated s i io).server.session) ∨
      ((ensureClientAuthenticated s i io).status ≠ .ok ∧
        ∃ t : Server, s.session.SameConns t.session ∧
          (ensureClientAuthenticated s i io).server = t.closeSession i) := by
  have hhandshake : (authClientHandshake s io.handshake).1.session = s.session :=
    (authClientHandshake_keeps s io.handshake).1
  rw [ensureClientAuthenticated]
  split
  · exact .inl ⟨rfl, .refl _⟩
  generalize authClientHandshake s io.handshake = answered at hhandshake
  obtain ⟨u, result, handshake⟩ := answered
  dsimp only at hhandshake ⊢
  have hu : s.session.SameConns u.session := hhandshake ▸ .refl s.session
  split
  · next hfailed => exact .inr ⟨hfailed, u, hu, rfl⟩
  have hcomplete := hu.trans (sameConns_sessionAuthComplete u.session (u.conn i))
  generalize sessionAuthComplete u.session (u.conn i) = completed at hcomplete
  obtain ⟨session, result⟩ := completed
  dsimp only at hcomplete ⊢
  split
  · next hfailed => exact .inr ⟨hfailed, { u with session := session }, hcomplete, rfl⟩
  have hconnect := onClientConnect_session { u with session := session } io.connect io.release
  generalize onClientConnect { u with session := session } io.connect io.release = connected
    at hconnect
  obtain ⟨v, connected⟩ := connected
  dsimp only at hconnect ⊢
  split
  · next hfailed =>
      refine .inr ⟨hfailed, (onClientDisconnect v io.release).1, ?_, rfl⟩
      rw [onClientDisconnect_session, hconnect]
      exact hcomplete
  · refine .inl ⟨rfl, ?_⟩
    rw [hconnect]
    exact hcomplete

theorem accounts_processClientMessage (s : Server) (fd : Int) (pollin : Bool)
    (io : ClientIo) :
    s.session.Accounts type (processClientMessageEvents type s fd pollin io)
      (processClientMessage s fd pollin io).1.session := by
  rw [processClientMessageEvents, processClientMessage]
  cases sessionLookupConn s.session fd with
  | none => exact .refl s.session
  | some i =>
      dsimp only
      generalize sessionGetDataPending s.session (s.conn i) = found
      obtain ⟨status, pending⟩ := found
      cases status with
      | err | timeout => exact .refl s.session
      | ok =>
          cases pending with
          | none => exact .refl s.session
          | some pending =>
              dsimp only
              split
              · rw [ensureClientAuthenticatedEvents]
                cases ensureClientAuthenticated_conns s i io with
                | inl hadmitted =>
                    obtain ⟨hok, hconns⟩ := hadmitted
                    generalize ensureClientAuthenticated s i io = client at hok hconns
                    simp only [hok, ne_eq, not_true_eq_false, if_false, List.nil_append]
                    apply Session.Accounts.of_same hconns
                    split
                    · exact accounts_closeSession (.refl client.server.session) i
                    · apply Session.SameConns.accounts
                      exact sameConns_sessionSetDataPending _ _ io.dataPending
                | inr hrefused =>
                    obtain ⟨hfailed, t, hconns, hserver⟩ := hrefused
                    simp only [hfailed, ne_eq, not_false_eq_true, if_true, List.append_nil,
                      hserver]
                    exact accounts_closeSession hconns i
              · exact .refl s.session

theorem accounts_action {accept : AcceptConnectionIo} (s : Server) (action : LoopAction)
    (h : ∀ io, action = .newClient io → io = accept.acceptIo type io.now) :
    s.session.Accounts type (actionEvents type accept s action)
      (serverStep s action).session := by
  cases action with
  | closeConnection release => exact accounts_closeConnection s release
  | newClient io =>
      simp only [actionEvents, serverStep]
      rw [h io rfl]
      exact accounts_processNewClient s accept io.now
  | expireUnauth now => exact accounts_sessionCloseExpired s.session now
  | clientMessage fd io => exact accounts_processClientMessage s fd true io
  | setActivity now => exact .refl s.session
  | noteActivity now =>
      simp only [actionEvents, serverStep]
      split
      · exact .refl s.session
      · exact .refl s.session

/-- The only connection that an iteration takes is the one that was accepted in it. -/
theorem newClient_of_mem {io : IterationIo} {accepted : AcceptIo}
    (h : .newClient accepted ∈ iterationActions s io) : accepted = io.accept := by
  have hpins (pins : Nat) : .newClient accepted ∉ pinActions io pins := by
    rw [pinActions]
    split
    · split
      · simp only [List.mem_singleton, reduceCtorEq, not_false_eq_true]
      · exact List.not_mem_nil
    · exact List.not_mem_nil
  rw [iterationActions] at h
  split at h
  · simp only [List.mem_cons, reduceCtorEq, List.not_mem_nil, or_self] at h
  · generalize sessionGetfds s.session = found at h
    obtain ⟨status, fds⟩ := found
    cases status with
    | err | timeout => cases h
    | ok =>
        dsimp only at h
        cases hpoll : io.poll with
        | error =>
            rw [hpoll] at h
            cases h
        | timeout =>
            rw [hpoll] at h
            exact absurd h (hpins _)
        | events hostReady =>
            simp only [hpoll, List.mem_append] at h
            cases h with
            | inr hpin => exact absurd hpin (hpins _)
            | inl hevent =>
                have hcases := eventActions_cases hevent
                simp only [LoopAction.newClient.injEq, reduceCtorEq, false_and, exists_false,
                  or_false] at hcases
                exact hcases

theorem accounts_netLoop (l : LoopState) (n : NetIterationIo) :
    l.server.session.Accounts type (iterationEvents type l n)
      (netLoop type l n).server.session := by
  rw [iterationEvents, netLoop, requestProcessingLoop]
  split
  · dsimp only
    rw [requestProcessingIteration_eq]
    refine accounts_run Server.session (fun _ action => ∀ io, action = LoopAction.newClient io →
      io = n.accept.acceptIo type io.now) ?_ ?_
    · intro s action h
      exact accounts_action s action h
    · apply Machine.meets_of_mem
      intro s action hmem io heq
      rw [heq] at hmem
      rw [newClient_of_mem hmem]
      rfl
  · exact .refl l.server.session

end Loop

section Daemon

/-- What the TLS library answers when its context is set up. -/
structure SslContextIo where
  created : Bool
  ciphers : Bool
  certificate : Bool
  privateKey : Bool
  checked : Bool
  deriving DecidableEq, Repr

def initSslContext (io : SslContextIo) : Bool × List (Event NetResource) :=
  if !io.created then (false, [])
  else if io.ciphers && io.certificate && io.privateKey && io.checked then
    (true, [.acquire .context])
  else (false, [.acquire .context, .release .context])

structure OpenSocketIo where
  created : Option Nat
  noDelay : Bool
  reuseAddr : Bool
  bindToDevice : Bool
  bound : Bool
  listening : Bool
  deriving DecidableEq, Repr

/-- The descriptor, which is -1 behind a failure, the status, and the events. -/
def extnetOpenExternalSocket (bindIf : Option String) (io : OpenSocketIo) :
    Int × Status × List (Event NetResource) :=
  match io.created with
  | none => (-1, .err, [])
  | some fd =>
      if io.noDelay && io.reuseAddr && (bindIf.isNone || io.bindToDevice) && io.bound
          && io.listening then
        (fd, .ok, [.acquire (.socket fd)])
      else (-1, .err, [.acquire (.socket fd), .release (.socket fd)])

structure StartIo where
  configured : Bool
  extnetAllocated : Bool
  context : SslContextIo
  authReady : Bool
  sessionAllocated : Bool
  /-- What the private pointers hold that plain TCP does not set. -/
  hdlrData : Fin maxSessions → Option Nat
  eventFd : Bool
  socket : OpenSocketIo

/-- The arguments that the start depends on. -/
structure NetArgs where
  type : ExtnetHdlrType
  certkeyfile : Option String
  netBindDevice : Option String

/-- What the daemon has opened: the TLS context, the session table, the descriptor for
events and that of the socket it listens on, which is 0 before it is opened. -/
structure AsdState where
  context : Bool
  session : Option Session
  eventFd : Bool
  hostFd : Int

def extnetInit (a : NetArgs) (io : StartIo) : Bool × Bool × List (Event NetResource) :=
  if a.certkeyfile.isNone || !io.extnetAllocated then (false, false, [])
  else
    match a.type with
    | .nonEncrypt => (true, false, [])
    | .tls =>
        let (context, events) := initSslContext io.context
        (context, context, events)

def extnetInitClients (type : ExtnetHdlrType) (hdlrData : Fin maxSessions → Option Nat) :
    Fin maxSessions → Option Nat :=
  match type with
  | .nonEncrypt => hdlrData
  | .tls => fun _ => none

def initAsdState (a : NetArgs) (io : StartIo) : AsdState × Status × List (Event NetResource) :=
  if !io.configured then (⟨false, none, false, 0⟩, .err, [])
  else
    let (extnet, context, events) := extnetInit a io
    if !extnet || !io.authReady || !io.sessionAllocated then
      (⟨context, none, false, 0⟩, .err, events)
    else
      let session := sessionInit (extnetInitClients a.type io.hdlrData)
      if !io.eventFd then (⟨context, some session, false, 0⟩, .err, events)
      else
        let (hostFd, result, more) := extnetOpenExternalSocket a.netBindDevice io.socket
        (⟨context, some session, true, hostFd⟩, result, events ++ .acquire .eventFd :: more)

/-- `close`, which does nothing to a descriptor that is none. -/
def closeSocket (fd : Int) : List (Event NetResource) :=
  if fd < 0 then [] else [.release (.socket fd)]

/-- `deinit_asd_state`, with the session table as the request loop left it. -/
def deinitAsdEvents (type : ExtnetHdlrType) (session : Option Session) (hostFd : Int) :
    List (Event NetResource) :=
  session.elim [] (sessionCloseAllEvents type) ++ if hostFd ≠ 0 then closeSocket hostFd else []

/-- `asd_main` behind the command line. -/
structure DaemonRun where
  args : NetArgs
  start : StartIo
  authType : AuthHdlrType
  timecfg : TimeoutConfig
  now : Timeval
  iterations : List NetIterationIo

namespace DaemonRun

variable (d : DaemonRun)

def loopStart : LoopState :=
  ⟨.initial (extnetInitClients d.args.type d.start.hdlrData) d.authType d.timecfg d.now, .ok⟩

def loopEnd : LoopState := Machine.run (netLoop d.args.type) d.loopStart d.iterations

/-- What happens until the request loop ends. -/
def runningEvents : List (Event NetResource) :=
  match initAsdState d.args d.start with
  | (_, .ok, events) =>
      events ++ emitted (netLoop d.args.type) (iterationEvents d.args.type) d.loopStart d.iterations
  | (_, _, events) => events

/-- The session table when the daemon is taken down. -/
def finalSession : Option Session :=
  match initAsdState d.args d.start with
  | (_, .ok, _) => some d.loopEnd.server.session
  | (state, _, _) => state.session

def events : List (Event NetResource) :=
  d.runningEvents ++
    deinitAsdEvents d.args.type d.finalSession (initAsdState d.args d.start).1.hostFd

end DaemonRun

/-- What is not returned when the daemon is taken down. -/
def AsdState.kept (state : AsdState) : Multiset NetResource :=
  (if state.context then {.context} else 0) + if state.eventFd then {.eventFd} else 0

/-- A start that fails leaves no open socket, and one that succeeds the listening one. -/
structure Started (d : DaemonRun) (state : AsdState) (status : Status)
    (events : List (Event NetResource)) : Prop where
  settled : settle 0 events =
    some (state.kept + if status = .ok then {.socket state.hostFd} else 0)
  listens : status = .ok → 0 ≤ state.hostFd
  failed : status ≠ .ok → state.hostFd ≤ 0
  table : ∀ session ∈ state.session, session = d.loopStart.server.session

theorem held_sessionInit (type : ExtnetHdlrType) (hdlrData : Fin maxSessions → Option Nat) :
    (sessionInit hdlrData).held type = 0 := by
  apply Finset.sum_eq_zero
  intro i _
  exact held_of_closed (Int.negSucc_lt_zero 0)

theorem settle_extnetInit (a : NetArgs) (io : StartIo) :
    settle 0 (extnetInit a io).2.2 =
      some (if (extnetInit a io).2.1 then {NetResource.context} else 0) := by
  rw [extnetInit]
  split
  · rfl
  · cases a.type with
    | nonEncrypt => rfl
    | tls =>
        simp only [initSslContext]
        split
        · rfl
        · split
          · rfl
          · exact settle_release 0 _ []

/-- A listening socket that cannot be set up is closed again. -/
structure OpenedSocket (hostFd : Int) (result : Status) (events : List (Event NetResource)) :
    Prop where
  settled : settle 0 events = some (if result = .ok then {.socket hostFd} else 0)
  listens : result = .ok → 0 ≤ hostFd
  failed : result ≠ .ok → hostFd ≤ 0

theorem extnetOpenExternalSocket_spec (bindIf : Option String) (io : OpenSocketIo) :
    OpenedSocket (extnetOpenExternalSocket bindIf io).1 (extnetOpenExternalSocket bindIf io).2.1
      (extnetOpenExternalSocket bindIf io).2.2 := by
  have hfailed : (-1 : Int) ≤ 0 := by decide
  rw [extnetOpenExternalSocket]
  cases io.created with
  | none => exact ⟨rfl, nofun, fun _ => hfailed⟩
  | some fd =>
      dsimp only
      split
      · exact ⟨rfl, fun _ => Int.natCast_nonneg fd, fun h => absurd rfl h⟩
      · exact ⟨settle_release 0 _ [], nofun, fun _ => hfailed⟩

theorem initAsdState_started (d : DaemonRun) :
    Started d (initAsdState d.args d.start).1 (initAsdState d.args d.start).2.1
      (initAsdState d.args d.start).2.2 := by
  have hextnet := settle_extnetInit d.args d.start
  rw [initAsdState]
  split
  · exact ⟨rfl, nofun, fun _ => le_rfl, nofun⟩
  generalize extnetInit d.args d.start = initialized at hextnet
  obtain ⟨extnet, context, events⟩ := initialized
  dsimp only at hextnet ⊢
  split
  · refine ⟨?_, nofun, fun _ => le_rfl, nofun⟩
    simpa only [AsdState.kept, Bool.false_eq_true, if_false, add_zero, reduceCtorEq] using hextnet
  split
  · refine ⟨?_, nofun, fun _ => le_rfl, ?_⟩
    · simpa only [AsdState.kept, Bool.false_eq_true, if_false, add_zero, reduceCtorEq]
        using hextnet
    · intro session hsession
      cases hsession
      rfl
  · have hsession : ∀ session ∈ some (sessionInit
        (extnetInitClients d.args.type d.start.hdlrData)),
        session = d.loopStart.server.session := by
      intro session hsession
      cases hsession
      rfl
    have hevent (more : List (Event NetResource)) :
        settle 0 (events ++ .acquire .eventFd :: more) =
          settle (AsdState.kept ⟨context, none, true, 0⟩) more := by
      rw [settle_append, hextnet, Option.bind_some, settle_acquire, AsdState.kept, add_comm,
        if_pos rfl, Multiset.singleton_add]
    have hopened := extnetOpenExternalSocket_spec d.args.netBindDevice d.start.socket
    generalize extnetOpenExternalSocket d.args.netBindDevice d.start.socket = opened at hopened
    obtain ⟨hostFd, result, more⟩ := opened
    refine ⟨?_, hopened.listens, hopened.failed, hsession⟩
    rw [hevent, add_comm, ← zero_add (AsdState.kept _), add_comm (0 : Multiset _),
      add_comm (ite _ _ _)]
    exact settle_frame_left _ hopened.settled

theorem settle_closeSocket {fd : Int} (h : 0 ≤ fd) :
    settle {NetResource.socket fd} (if fd ≠ 0 then closeSocket fd else []) =
      some (if fd = 0 then {.socket fd} else 0) := by
  by_cases hzero : fd = 0
  · simp only [hzero, ne_eq, not_true_eq_false, if_false, if_true, settle_nil]
  · have hpos : ¬ fd < 0 := Int.not_lt.mpr h
    simp only [hzero, ne_eq, not_false_eq_true, if_true, if_false, closeSocket, hpos]
    exact settle_release 0 _ []

/-- Taking the daemon down returns every connection and the listening socket. -/
theorem settle_deinitAsd (type : ExtnetHdlrType) {session : Session} {hostFd : Int}
    (hsession : session.initialized = true) (hfd : 0 ≤ hostFd) :
    settle (session.held type + {.socket hostFd})
        (deinitAsdEvents type (some session) hostFd) =
      some (if hostFd = 0 then {.socket hostFd} else 0) := by
  have hall := (accounts_sessionCloseAll type session).settled
  rw [held_sessionCloseAll hsession] at hall
  have hboth := settle_both hall (settle_closeSocket hfd)
  rw [zero_add] at hboth
  exact hboth

/-- After a start that failed there is nothing left to return. -/
theorem settle_deinitAsd_failed {d : DaemonRun} {state : AsdState} {status : Status}
    {events : List (Event NetResource)} (h : Started d state status events)
    (hstatus : status ≠ .ok) :
    settle 0 (deinitAsdEvents d.args.type state.session state.hostFd) = some 0 := by
  have hsocket : (if state.hostFd ≠ 0 then closeSocket state.hostFd else []) = [] := by
    split
    · next hzero => exact if_pos (lt_of_le_of_ne (h.failed hstatus) hzero)
    · rfl
  rw [deinitAsdEvents, hsocket, List.append_nil]
  cases hsession : state.session with
  | none => rfl
  | some session =>
      have hstart := h.table session hsession
      have hall := (accounts_sessionCloseAll d.args.type session).settled
      rw [hstart] at hall ⊢
      rw [held_sessionCloseAll rfl] at hall
      exact (congrArg (settle · _) (held_sessionInit _ _).symm).trans hall

namespace DaemonRun

variable (d : DaemonRun)

/-- Where the run leads, in one state. -/
theorem accounts_loop :
    d.loopStart.server.session.Accounts d.args.type
      (emitted (netLoop d.args.type) (iterationEvents d.args.type) d.loopStart d.iterations)
      d.loopEnd.server.session :=
  accounts_run (fun l : LoopState => l.server.session) (fun _ _ => True)
    (fun l n _ => accounts_netLoop l n) (Machine.meets_of_mem (fun _ _ _ => trivial) _)

/-- At any time the daemon holds the sockets and TLS objects of the connections in its table,
the listening socket, the TLS context and the event descriptor, and has returned all others
once. When it is taken down it returns these too, except the context and the event
descriptor and a listening socket with the number 0. -/
theorem daemon_sockets :
    settle 0 d.runningEvents =
        some ((initAsdState d.args d.start).1.kept +
          if (initAsdState d.args d.start).2.1 = .ok then
            d.loopEnd.server.session.held d.args.type +
              {.socket (initAsdState d.args d.start).1.hostFd}
          else 0) ∧
      settle 0 d.events =
        some ((initAsdState d.args d.start).1.kept +
          if (initAsdState d.args d.start).2.1 = .ok ∧
            (initAsdState d.args d.start).1.hostFd = 0 then {.socket 0} else 0) := by
  have hstart := initAsdState_started d
  have hloop := d.accounts_loop
  have hinit : d.loopStart.server.session.held d.args.type = 0 := held_sessionInit _ _
  rw [events, runningEvents, finalSession]
  generalize initAsdState d.args d.start = result at hstart
  obtain ⟨state, status, events⟩ := result
  cases status with
  | ok =>
      have hserve := settle_frame_left (state.kept + {.socket state.hostFd}) hloop.settled
      rw [hinit, add_zero] at hserve
      have hrunning := settle_trans hstart.settled hserve
      rw [add_assoc, add_comm {NetResource.socket state.hostFd}] at hrunning
      have hdeinit := settle_frame_left state.kept
        (settle_deinitAsd d.args.type hloop.initialized (hstart.listens rfl))
      refine ⟨hrunning, (settle_trans hrunning hdeinit).trans ?_⟩
      simp only [true_and]
      split
      · next hzero => rw [hzero]
      · rfl
  | err | timeout =>
      have hdeinit := settle_frame_left state.kept (settle_deinitAsd_failed hstart nofun)
      exact ⟨hstart.settled, settle_trans hstart.settled hdeinit⟩

end DaemonRun

end Daemon

end AtScaleDebug
