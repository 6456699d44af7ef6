import AtScaleDebug.Server.RequestLoop
import AtScaleDebug.Server.SessionInvariant

/-!
The request loop as a sequence of actions. An iteration runs the actions that
`iterationActions` lists for its state and environment, in order, and a whole
run of the loop is one run of `serverStep`. Properties of a run are stated per
action, in the state in which the action is taken, so the order of accepting,
expiring and serving clients inside an iteration is part of every statement.
-/

namespace AtScaleDebug

open Session

inductive LoopAction where
  | closeConnection (release : ReleaseIo)
  | newClient (io : AcceptIo)
  | expireUnauth (now : Fin maxSessions → Int)
  | clientMessage (fd : Int) (io : ClientIo)
  | setActivity (now : Timeval)
  | noteActivity (now : Timeval)

def serverStep (s : Server) : LoopAction → Server
  | .closeConnection release => (closeConnection s release).1
  | .newClient io => (processNewClient s io 0 []).1
  | .expireUnauth now => { s with session := sessionCloseExpiredUnauth s.session now }
  | .clientMessage fd io => (processClientMessage s fd true io).1
  | .setActivity now => { s with lastActivityTime := now }
  | .noteActivity now => if s.isConnected then { s with lastActivityTime := now } else s

def clientActions (client : PollFd × ClientIo) : List LoopAction :=
  if client.1.pollin then [.clientMessage client.1.fd client.2] else []

def eventActions (s : Server) (io : IterationIo) (hostReady : Bool) (clientIndex : Nat)
    (polled : List PollFd) : List LoopAction :=
  let accepted := if hostReady then [LoopAction.newClient io.accept] else []
  let polled :=
    if hostReady then (processNewClient s io.accept clientIndex polled).2.2 else polled
  accepted ++ .expireUnauth io.expireTimes ::
    (polled.mapIdx fun k client => (client, io.client k)).flatMap clientActions ++
    [.noteActivity io.activityTime]

def pinActions (io : IterationIo) (pins : Nat) : List LoopAction :=
  if pins > 0 then if io.pinEvents ≠ .ok then [.closeConnection io.pinRelease] else [] else []

def iterationActions (s : Server) (io : IterationIo) : List LoopAction :=
  if s.idle io.now then [.closeConnection io.idleRelease, .setActivity io.closedTime]
  else
    let pins := targetPinFds s.msg io.pinFds
    match sessionGetfds s.session with
    | (.ok, fds) =>
        match io.poll with
        | .error => []
        | .timeout => pinActions io pins
        | .events hostReady =>
            let polled := fds.mapIdx fun k fd => ⟨fd, io.clientReady k⟩
            eventActions s io hostReady (gpioFdIndex + pins) polled ++ pinActions io pins
    | _ => []

/-- The actions of a whole run; a loop that has ended takes none. -/
def loopActions : LoopState → List IterationIo → List LoopAction
  | _, [] => []
  | l, io :: ios =>
      (if l.result = .ok then iterationActions l.server io else []) ++
        loopActions (requestProcessingLoop l io) ios

section Decomposition

theorem processNewClient_server (s : Server) (io : AcceptIo) (clientIndex : Nat)
    (polled : List PollFd) :
    (processNewClient s io clientIndex polled).1 = (processNewClient s io 0 []).1 := by
  simp only [processNewClient]
  cases io.conn with
  | none => rfl
  | some conn =>
      dsimp only
      split
      · rfl
      · split <;> rfl

theorem processPolledClient_eq (s : Server) (client : PollFd × ClientIo) :
    processPolledClient s client = Machine.run serverStep s (clientActions client) := by
  rw [processPolledClient, clientActions]
  split
  · next h => simp [serverStep, h]
  · rfl

theorem processEvents_eq (s : Server) (io : IterationIo) (hostReady : Bool) (clientIndex : Nat)
    (polled : List PollFd) :
    processEvents s io hostReady clientIndex polled =
      Machine.run serverStep s (eventActions s io hostReady clientIndex polled) := by
  have hclients : ∀ (t : Server) (fds : List PollFd),
      processAllClientMessages t fds io.expireTimes io.client =
        Machine.run serverStep (serverStep t (.expireUnauth io.expireTimes))
          ((fds.mapIdx fun k client => (client, io.client k)).flatMap clientActions) := by
    intro t fds
    rw [processAllClientMessages, Machine.run_flatMap processPolledClient_eq]
    rfl
  cases hostReady with
  | false =>
      simp only [processEvents, eventActions, Bool.false_eq_true, if_false, List.nil_append,
        List.cons_append, Machine.run_cons, Machine.run_append, ← hclients, Machine.run_nil]
      rfl
  | true =>
      simp only [processEvents, eventActions, if_true, List.cons_append, List.nil_append,
        Machine.run_cons, Machine.run_append, Machine.run_nil]
      rw [show serverStep s (.newClient io.accept) =
        (processNewClient s io.accept clientIndex polled).1 from
          (processNewClient_server s io.accept clientIndex polled).symm, ← hclients]
      rfl

theorem processPins_eq (s : Server) (io : IterationIo) (pins : Nat) :
    processPins s io pins = Machine.run serverStep s (pinActions io pins) := by
  rw [processPins, pinActions]
  split
  · split <;> rfl
  · rfl

theorem requestProcessingIteration_eq (s : Server) (io : IterationIo) :
    (requestProcessingIteration s io).1 =
      Machine.run serverStep s (iterationActions s io) := by
  rw [requestProcessingIteration, iterationActions]
  split
  · rfl
  · generalize sessionGetfds s.session = found
    obtain ⟨status, fds⟩ := found
    cases status with
    | err | timeout => rfl
    | ok =>
        dsimp only
        cases io.poll with
        | error => rfl
        | timeout => exact processPins_eq s io _
        | events hostReady =>
            dsimp only
            rw [Machine.run_append, ← processEvents_eq, ← processPins_eq]

/-- Every run of the request loop is a run of its actions. -/
theorem requestProcessingLoop_run (l : LoopState) (ios : List IterationIo) :
    (Machine.run requestProcessingLoop l ios).server =
      Machine.run serverStep l.server (loopActions l ios) := by
  induction ios generalizing l with
  | nil => rfl
  | cons io ios ih =>
      rw [Machine.run_cons, ih, loopActions, Machine.run_append]
      congr 1
      rw [requestProcessingLoop]
      split
      · exact requestProcessingIteration_eq l.server io
      · rfl

theorem loopActions_append (l : LoopState) (before after : List IterationIo) :
    loopActions l (before ++ after) = loopActions l before ++
      loopActions (Machine.run requestProcessingLoop l before) after := by
  induction before generalizing l with
  | nil => rfl
  | cons io before ih =>
      rw [List.cons_append, loopActions, ih, loopActions, List.append_assoc, Machine.run_cons]

end Decomposition

section Wellformed

/-- What the kernel promises: `accept` returns a descriptor that is not open. -/
def LoopAction.Admissible (s : Server) : LoopAction → Prop
  | .newClient io => ∀ conn ∈ io.conn, FreshConn s.session conn
  | _ => True

instance (s : Server) : (action : LoopAction) → Decidable (action.Admissible s)
  | .newClient io => inferInstanceAs (Decidable (∀ conn ∈ io.conn, FreshConn s.session conn))
  | .closeConnection _ | .expireUnauth _ | .clientMessage _ _ | .setActivity _
  | .noteActivity _ => inferInstanceAs (Decidable True)

theorem closeSession_session {s : Server} (h : s.session.Wf) {i : Fin maxSessions}
    (hopen : s.session.IsOpen i) :
    (s.closeSession i).session = (sessionClosePrivate s.session i).1 := by
  rw [Server.closeSession, Server.conn, sessionClose_of_isOpen h hopen]

theorem authClientHandshake_keeps (s : Server) (io : HandshakeIo) :
    (authClientHandshake s io).1.session = s.session ∧
      (authClientHandshake s io).1.msg = s.msg ∧
      (authClientHandshake s io).1.isConnected = s.isConnected := by
  rw [authClientHandshake]
  split <;> exact ⟨rfl, rfl, rfl⟩

theorem onClientConnect_session (s : Server) (io : ConnectIo) (release : ReleaseIo) :
    (onClientConnect s io release).1.session = s.session := by
  rw [onClientConnect]
  split <;> rfl

theorem onClientDisconnect_session (s : Server) (io : ReleaseIo) :
    (onClientDisconnect s io).1.session = s.session := rfl

/-- Authenticating a client of slot `i` has four outcomes for the table: it was
authenticated already, it is closed unauthenticated, it is authenticated and
closed again because the target could not be set up, or it is authenticated. -/
inductive AuthOutcome (s : Server) (i : Fin maxSessions) (io : ClientIo) :
    ClientAuthResult → Prop
  | already (hauth : (s.session.sessions i).authenticated = true) :
      AuthOutcome s i io ⟨s, .ok, none, none⟩
  | refused {handshake : Option HandshakeResult} {status : Status}
      {completed : Option Status} (hauth : (s.session.sessions i).authenticated = false)
      (hhandshake : handshake = (authClientHandshake s io.handshake).2.2)
      (hstatus : status ≠ .ok)
      (hrefused : (authClientHandshake s io.handshake).2.1 ≠ .ok ∧ completed = none ∨
        0 ≤ s.session.authenticatedId ∧ completed = some .err) :
      AuthOutcome s i io
        ⟨(authClientHandshake s io.handshake).1.closeSession i, status, handshake, completed⟩
  | aborted (t : Server) {status : Status}
      (hauth : (s.session.sessions i).authenticated = false)
      (hnone : s.session.authenticatedId < 0)
      (ht : t = { (authClientHandshake s io.handshake).1 with
        session := s.session.markAuthenticated i })
      (hstatus : status = (onClientConnect t io.connect io.release).2)
      (hfailed : (onClientConnect t io.connect io.release).2 ≠ .ok) :
      AuthOutcome s i io
        ⟨(onClientDisconnect (onClientConnect t io.connect io.release).1
            io.release).1.closeSession i, status, (authClientHandshake s io.handshake).2.2,
          some .ok⟩
  | admitted (t : Server)
      (hauth : (s.session.sessions i).authenticated = false)
      (hnone : s.session.authenticatedId < 0)
      (ht : t = { (authClientHandshake s io.handshake).1 with
        session := s.session.markAuthenticated i })
      (hconnected : (onClientConnect t io.connect io.release).2 = .ok) :
      AuthOutcome s i io
        ⟨(onClientConnect t io.connect io.release).1, .ok,
          (authClientHandshake s io.handshake).2.2, some .ok⟩

theorem ensureClientAuthenticated_outcome {s : Server} (h : s.session.Wf) {i : Fin maxSessions}
    (hopen : s.session.IsOpen i) (io : ClientIo) :
    AuthOutcome s i io (ensureClientAuthenticated s i io) := by
  rw [ensureClientAuthenticated]
  have halready : sessionAlreadyAuthenticated s.session (s.conn i) = .ok ↔
      (s.session.sessions i).authenticated = true := sessionAlreadyAuthenticated_of_isOpen h hopen
  split
  · next hauth => exact .already (halready.mp hauth)
  next hauth =>
  have hauth : (s.session.sessions i).authenticated = false := by
    simpa using mt halready.mpr hauth
  have hsession := (authClientHandshake_keeps s io.handshake).1
  dsimp only
  split
  · next hstatus => exact .refused hauth rfl hstatus (Or.inl ⟨hstatus, rfl⟩)
  rw [Server.conn, hsession, sessionAuthComplete_of_isOpen h hopen]
  by_cases hbusy : 0 ≤ s.session.authenticatedId
  · have hsame : { (authClientHandshake s io.handshake).1 with session := s.session } =
        (authClientHandshake s io.handshake).1 := by rw [← hsession]
    simp only [hbusy, if_true, ne_eq, reduceCtorEq, not_false_eq_true, hsame]
    exact .refused hauth rfl (by simp) (Or.inr ⟨hbusy, rfl⟩)
  · simp only [hbusy, if_false, ne_eq, not_true_eq_false]
    split
    · next hfailed => exact .aborted _ hauth (by omega) rfl rfl hfailed
    · next hconnected => exact .admitted _ hauth (by omega) rfl (by simpa using hconnected)

theorem closeSession_wf {s : Server} (h : s.session.Wf) (i : Fin maxSessions) :
    (s.closeSession i).session.Wf :=
  sessionClose_wf h _

/-- The authenticated session is the only one. -/
theorem closeSession_clears {s : Server} (h : s.session.Wf) {i : Fin maxSessions}
    (hi : (s.session.sessions i).authenticated = true) (j : Fin maxSessions) :
    ¬ ((s.closeSession i).session.sessions j).authenticated = true := by
  intro hj
  rw [closeSession_session h (h.authOpen i hi), sessionClosePrivate_authenticated_iff] at hj
  exact hj.1 (h.authenticated_unique hj.2 hi)

section Outcome
variable {s : Server} {i : Fin maxSessions} {io : ClientIo} {client : ClientAuthResult}

theorem AuthOutcome.wf (outcome : AuthOutcome s i io client) (h : s.session.Wf)
    (hopen : s.session.IsOpen i) : client.server.session.Wf := by
  have hsession := (authClientHandshake_keeps s io.handshake).1
  cases outcome with
  | already => exact h
  | refused => exact closeSession_wf (by rwa [hsession]) i
  | aborted t hauth hnone ht =>
      refine closeSession_wf ?_ i
      rw [onClientDisconnect_session, onClientConnect_session, ht]
      exact markAuthenticated_wf h hopen hnone
  | admitted t hauth hnone ht =>
      rw [onClientConnect_session, ht]
      exact markAuthenticated_wf h hopen hnone

/-- A client that passes is in an open, authenticated slot. -/
theorem AuthOutcome.admits (outcome : AuthOutcome s i io client) (hopen : s.session.IsOpen i)
    (hok : client.status = .ok) :
    client.server.session.IsOpen i ∧
      (client.server.session.sessions i).authenticated = true := by
  cases outcome with
  | already hauth => exact ⟨hopen, hauth⟩
  | refused _ _ hstatus => exact absurd hok hstatus
  | aborted t _ _ _ hstatus hfailed => exact absurd (hstatus ▸ hok) hfailed
  | admitted t hauth hnone ht =>
      rw [onClientConnect_session, ht]
      exact ⟨(markAuthenticated_isOpen_iff _ _ _).mpr hopen,
        (markAuthenticated_authenticated_iff _ _ _).mpr (Or.inl rfl)⟩

end Outcome

/-- The server when the message of an admitted client has been processed. -/
def afterMessage (client : ClientAuthResult) (io : ClientIo) : Server :=
  { client.server with msg := (processMsg client.server.msg io.message).1 }

theorem processClientMessage_of_lookup {s : Server} (h : s.session.Wf) {fd : Int}
    {i : Fin maxSessions} (hfind : sessionLookupConn s.session fd = some i) (io : ClientIo) :
    (processClientMessage s fd true io).1 =
      let client := ensureClientAuthenticated s i io
      let after := afterMessage client io
      if client.status ≠ .ok then client.server
      else if io.message.status ≠ .ok then (onClientDisconnect after io.release).1.closeSession i
      else { after with
        session := (sessionSetDataPending after.session (after.conn i) io.dataPending).1 } := by
  have hpending : sessionGetDataPending s.session (s.conn i) =
      (.ok, some (s.session.sessions i).dataPending) :=
    sessionGetDataPending_of_isOpen h (sessionLookupConn_some hfind).1
  rw [processClientMessage]
  rw [hfind]
  dsimp only
  rw [hpending]
  simp only [Bool.or_true, if_true]
  split
  · rfl
  · split
    · next hstatus =>
        rw [if_pos (show io.message.status ≠ .ok from hstatus)]
        rfl
    · next hstatus =>
        rw [if_neg (show ¬ io.message.status ≠ .ok from hstatus)]
        rfl

theorem processClientMessage_wf {s : Server} (h : s.session.Wf) (fd : Int) (io : ClientIo) :
    (processClientMessage s fd true io).1.session.Wf := by
  cases hfind : sessionLookupConn s.session fd with
  | none => simpa only [processClientMessage, hfind] using h
  | some i =>
      have hopen := (sessionLookupConn_some hfind).1
      have hclient := (ensureClientAuthenticated_outcome h hopen io).wf h hopen
      rw [processClientMessage_of_lookup h hfind]
      dsimp only
      split
      · exact hclient
      · split
        · exact closeSession_wf hclient i
        · exact sessionSetDataPending_wf hclient _ _

theorem processNewClient_session (s : Server) (io : AcceptIo) :
    (processNewClient s io 0 []).1.session =
      match io.conn with
      | none => s.session
      | some conn => (sessionOpen s.session conn io.now).1 := by
  rw [processNewClient]
  cases io.conn with
  | none => rfl
  | some conn =>
      obtain ⟨-, heq⟩ | ⟨i, -, heq⟩ := sessionOpen_cases s.session conn io.now
      · simp [heq]
      · simp only [heq, ne_eq, not_true_eq_false, if_false]
        split <;> rfl

theorem serverStep_wf {s : Server} (action : LoopAction) (h : s.session.Wf)
    (ok : action.Admissible s) : (serverStep s action).session.Wf := by
  cases action with
  | closeConnection release =>
      simp only [serverStep, closeConnection]
      split
      · split
        · exact sessionClose_wf h _
        · exact h
      · exact h
  | newClient io =>
      rw [serverStep, processNewClient_session]
      cases hconn : io.conn with
      | none => exact h
      | some conn => exact sessionOpen_wf h (ok conn hconn)
  | expireUnauth now => exact sessionCloseExpiredUnauth_wf h now
  | clientMessage fd io => exact processClientMessage_wf h fd io
  | setActivity now => exact h
  | noteActivity now =>
      simp only [serverStep]
      split <;> exact h

end Wellformed

section Scenarios

/-- A client that gives the right password at one moment and then sends a
message that initialises the target handler. -/
def goodClient (time : Int) : ClientIo where
  handshake := ⟨true, 9, 0x30, false, ⟨true, true, true⟩, time, time, time, true⟩
  connect := ⟨true, ⟨true, true, true, true, true, true⟩⟩
  message := ⟨.ok, true, false, false⟩
  release := ⟨true, true⟩
  dataPending := false

/-- An iteration at `time` in which nothing is polled. -/
def quietIteration (time : Int) : IterationIo where
  now := ⟨time, 0⟩
  idleRelease := ⟨true, true⟩
  closedTime := ⟨time, 0⟩
  pinFds := none
  poll := .timeout
  clientReady := fun _ => false
  accept := ⟨none, time⟩
  expireTimes := fun _ => time
  client := fun _ => goodClient time
  activityTime := ⟨time, 0⟩
  pinEvents := .ok
  pinRelease := ⟨true, true⟩

def acceptIteration (fd time : Int) : IterationIo :=
  { quietIteration time with poll := .events true, accept := ⟨some ⟨fd, none⟩, time⟩ }

/-- The client at position `k` of the polled descriptors is readable. -/
def messageIteration (k : Nat) (time : Int) (client : ClientIo) : IterationIo :=
  { quietIteration time with
    poll := .events false
    clientReady := (· == k)
    client := fun _ => client }

end Scenarios

end AtScaleDebug
