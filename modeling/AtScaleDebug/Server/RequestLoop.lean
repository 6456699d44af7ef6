import AtScaleDebug.Server.AuthPam
import AtScaleDebug.Target.Lifecycle

/-!
The request loop of the daemon: idle timeout, polling, new clients, expiry of
unauthenticated sessions, client messages and pin events. One iteration is a
function of the server state and of what the environment answers during it.
The handlers' work on a message is the argument `ProcessMsgIo`; logging and
the idle warning are left out.
-/

namespace AtScaleDebug

def msToSec : Int := 1000
def gpioFdIndex : Nat := 1
def numI3cDebugFds : Nat := 1
def maxFds : Nat := gpioFdIndex + maxSessions + numGpios + numDbusFds + numI3cDebugFds

inductive AuthHdlrType where
  | none
  | pam
  deriving DecidableEq, Repr

structure Timeval where
  sec : Int
  usec : Int
  deriving DecidableEq, Repr

structure TimeoutConfig where
  isTimeoutEnabled : Bool
  idleTimeout : Int
  deriving DecidableEq, Repr

structure Server where
  session : Session
  auth : AuthState
  authType : AuthHdlrType
  msg : MsgLifecycle
  isConnected : Bool
  timecfg : TimeoutConfig
  lastActivityTime : Timeval

/-- The state in which `request_processing_loop` is entered. -/
def Server.initial (hdlrData : Fin maxSessions → Option Nat) (authType : AuthHdlrType)
    (timecfg : TimeoutConfig) (now : Timeval) : Server where
  session := sessionInit hdlrData
  auth := .initial
  authType := authType
  msg := .initial
  isConnected := false
  timecfg := timecfg
  lastActivityTime := now

/-- The connection a pointer into slot `i` points at. -/
def Server.conn (s : Server) (i : Fin maxSessions) : ExtnetConn :=
  (s.session.sessions i).extconn

section Clients

structure ConnectIo where
  /-- The version checks between server and target succeed. -/
  apiSupported : Bool
  create : CreateIo
  deriving DecidableEq, Repr

structure ClientIo where
  handshake : HandshakeIo
  connect : ConnectIo
  message : ProcessMsgIo
  release : ReleaseIo
  /-- The pending flag the transport left after the message was read. -/
  dataPending : Bool
  deriving DecidableEq, Repr

/-- A failing read of the platform's bus configuration is not fatal and
`set_config_defaults` cannot fail on the server's own configuration. -/
def onClientConnect (s : Server) (io : ConnectIo) (release : ReleaseIo) : Server × Status :=
  if io.apiSupported then
    let (msg, status) := asdMsgInit s.msg io.create release
    ({ s with msg := msg }, status)
  else (s, .err)

def onClientDisconnect (s : Server) (io : ReleaseIo) : Server × Status :=
  let (msg, status) := asdMsgFree s.msg io
  ({ s with isConnected := false, msg := msg }, if status ≠ .ok then .err else .ok)

/-- Close the session of the pointer into slot `i`. -/
def Server.closeSession (s : Server) (i : Fin maxSessions) : Server :=
  { s with session := (sessionClose s.session (s.conn i)).1 }

/-- What happened while a client was authenticated: the handshake, if the
password handler ran one, and what `session_auth_complete` returned, if it was
reached. -/
structure ClientAuthResult where
  server : Server
  status : Status
  handshake : Option HandshakeResult
  completed : Option Status

/-- `auth_client_handshake` through the configured handler. -/
def authClientHandshake (s : Server) (io : HandshakeIo) :
    Server × Status × Option HandshakeResult :=
  match s.authType with
  | .none => (s, .ok, none)
  | .pam =>
      let h := authpamClientHandshake s.session s.auth io
      ({ s with auth := h.auth }, h.status, some h)

def ensureClientAuthenticated (s : Server) (i : Fin maxSessions) (io : ClientIo) :
    ClientAuthResult :=
  if sessionAlreadyAuthenticated s.session (s.conn i) = .ok then ⟨s, .ok, none, none⟩
  else
    let (s, result, handshake) := authClientHandshake s io.handshake
    if result ≠ .ok then ⟨s.closeSession i, result, handshake, none⟩
    else
      let (session, result) := sessionAuthComplete s.session (s.conn i)
      let s := { s with session := session }
      if result ≠ .ok then ⟨s.closeSession i, result, handshake, some result⟩
      else
        let (s, connected) := onClientConnect s io.connect io.release
        if connected ≠ .ok then
          ⟨(onClientDisconnect s io.release).1.closeSession i, connected, handshake, some result⟩
        else ⟨s, .ok, handshake, some result⟩

def processClientMessage (s : Server) (fd : Int) (pollin : Bool) (io : ClientIo) :
    Server × Status :=
  match sessionLookupConn s.session fd with
  | none => (s, .err)
  | some i =>
      match sessionGetDataPending s.session (s.conn i) with
      | (.ok, some pending) =>
          if pending || pollin then
            let client := ensureClientAuthenticated s i io
            if client.status ≠ .ok then (client.server, client.status)
            else
              let (msg, result) := processMsg client.server.msg io.message
              let s := { client.server with msg := msg }
              if result ≠ .ok then ((onClientDisconnect s io.release).1.closeSession i, result)
              else
                let (session, result) := sessionSetDataPending s.session (s.conn i) io.dataPending
                ({ s with session := session }, result)
          else (s, .ok)
      | (result, _) => (s, result)

end Clients

section Connections

/-- The connection `accept` returns, if it succeeds, and the clock in `session_open`. -/
structure AcceptIo where
  conn : Option ExtnetConn
  now : Int
  deriving DecidableEq, Repr

/-- A polled descriptor and whether it is readable. -/
structure PollFd where
  fd : Int
  pollin : Bool
  deriving DecidableEq, Repr

/-- Without authentication the new descriptor is added to the polled ones, as
readable, when the array has room. -/
def processNewClient (s : Server) (io : AcceptIo) (clientIndex : Nat) (polled : List PollFd) :
    Server × Status × List PollFd :=
  match io.conn with
  | none => (s, .err, polled)
  | some conn =>
      let (session, result) := sessionOpen s.session conn io.now
      if result ≠ .ok then (s, result, polled)
      else
        let s := { s with session := session, isConnected := true }
        if s.authType = .none then
          (s, .ok, if clientIndex + polled.length < maxFds then polled ++ [⟨conn.sockfd, true⟩]
            else polled)
        else (s, .ok, polled)

/-- Body of the loop of `process_all_client_messages`. -/
def processPolledClient (s : Server) (client : PollFd × ClientIo) : Server :=
  if client.1.pollin then (processClientMessage s client.1.fd client.1.pollin client.2).1 else s

/-- The status, which only says that some client failed, is not used by the loop. -/
def processAllClientMessages (s : Server) (polled : List PollFd)
    (expireTimes : Fin maxSessions → Int) (io : Nat → ClientIo) : Server :=
  Machine.run processPolledClient
    { s with session := sessionCloseExpiredUnauth s.session expireTimes }
    (polled.mapIdx fun k client => (client, io k))

def closeConnection (s : Server) (io : ReleaseIo) : Server × Status :=
  match sessionGetAuthenticatedConn s.session true with
  | (.ok, some conn) =>
      let (s, result) := onClientDisconnect s io
      if result = .ok then ({ s with session := (sessionClose s.session conn).1 }, result)
      else (s, result)
  | _ => (s, .ok)

end Connections

section Iteration

inductive PollResult where
  | error
  | timeout
  /-- Some descriptor has an event; the flag is `POLLIN` of the listening socket. -/
  | events (hostReady : Bool)
  deriving DecidableEq, Repr

structure IterationIo where
  now : Timeval
  idleRelease : ReleaseIo
  closedTime : Timeval
  /-- Descriptors the target reports when it is initialised; `none` also covers
  the agent control messages for which it is not asked. -/
  pinFds : Option Nat
  poll : PollResult
  clientReady : Nat → Bool
  accept : AcceptIo
  expireTimes : Fin maxSessions → Int
  client : Nat → ClientIo
  activityTime : Timeval
  pinEvents : Status
  pinRelease : ReleaseIo

def checkIdleTimeout (lastActivity now : Timeval) (idleTimeout : Int) : Bool :=
  let elapsed := (now.sec - lastActivity.sec) * msToSec +
    (now.usec - lastActivity.usec).tdiv msToSec
  decide (elapsed > idleTimeout)

def Server.idle (s : Server) (now : Timeval) : Bool :=
  s.isConnected && s.timecfg.isTimeoutEnabled &&
    checkIdleTimeout s.lastActivityTime now s.timecfg.idleTimeout

/-- `IOCTL_TARGET_GET_PIN_FDS`: the number of descriptors, zero when it fails. -/
def targetPinFds (m : MsgLifecycle) (pinFds : Option Nat) : Nat :=
  if m.targetHandler = some true then pinFds.getD 0 else 0

/-- The part after polling reported events. -/
def processEvents (s : Server) (io : IterationIo) (hostReady : Bool) (clientIndex : Nat)
    (polled : List PollFd) : Server :=
  let (s, polled) :=
    if hostReady then
      let (s, _, polled) := processNewClient s io.accept clientIndex polled
      (s, polled)
    else (s, polled)
  let s := processAllClientMessages s polled io.expireTimes io.client
  if s.isConnected then { s with lastActivityTime := io.activityTime } else s

def processPins (s : Server) (io : IterationIo) (pins : Nat) : Server :=
  if pins > 0 then
    if io.pinEvents ≠ .ok then (closeConnection s io.pinRelease).1 else s
  else s

/-- One pass of the `while` loop; the status is the one that ends the loop. -/
def requestProcessingIteration (s : Server) (io : IterationIo) : Server × Status :=
  if s.idle io.now then
    ({ (closeConnection s io.idleRelease).1 with lastActivityTime := io.closedTime }, .ok)
  else
    let pins := targetPinFds s.msg io.pinFds
    match sessionGetfds s.session with
    | (.ok, fds) =>
        match io.poll with
        | .error => (s, .err)
        | .timeout => (processPins s io pins, .ok)
        | .events hostReady =>
            let polled := fds.mapIdx fun k fd => ⟨fd, io.clientReady k⟩
            (processPins (processEvents s io hostReady (gpioFdIndex + pins) polled) io pins, .ok)
    | (result, _) => (s, result)

/-- The server between two iterations and the status of `request_processing_loop`. -/
structure LoopState where
  server : Server
  result : Status

def requestProcessingLoop (l : LoopState) (io : IterationIo) : LoopState :=
  if l.result = .ok then
    let (server, result) := requestProcessingIteration l.server io
    ⟨server, result⟩
  else l

end Iteration

end AtScaleDebug
