import AtScaleDebug.Server.Session

/-!
Password authentication and its lockout. The static ring of attempt times and
the static lockout deadline are the state; what PAM, the random source, the
clock and the socket answer during one handshake is an argument. The clock is
read up to three times in a handshake, so there are three readings.
-/

namespace AtScaleDebug

def authHdrVersion : UInt8 := 0x30
def maxPwLen : Nat := 128
def invalidAuthMaxAttempts : Nat := 3
def invalidAuthPeriodNsecs : Int := 60
def invalidAuthLockoutNsecs : Int := 60

instance : NeZero invalidAuthMaxAttempts := ⟨Nat.succ_ne_zero 2⟩

/-- Size of `auth_handshake_req_t`: the version byte and the password. -/
def authHandshakeReqSize : Int := 1 + maxPwLen

inductive AuthRet where
  | ok
  | sysErr
  | invalidData
  | unauthorized
  | lockout
  deriving DecidableEq, Repr

inductive AuthHandshakeRet where
  | success
  | sysErr
  | busy
  | failure
  deriving DecidableEq, Repr

structure AuthState where
  attempts : Fin invalidAuthMaxAttempts → Int
  lockout : Int

def AuthState.initial : AuthState where
  attempts := fun _ => 0
  lockout := 0

/-- Which PAM calls answer `PAM_SUCCESS`. -/
structure PamIo where
  start : Bool
  authenticate : Bool
  acctMgmt : Bool
  deriving DecidableEq, Repr

def credentialsAreValid (pam : PamIo) : AuthRet :=
  if !pam.start then .sysErr
  else if !pam.authenticate then .unauthorized
  else if !pam.acctMgmt then .unauthorized
  else .ok

structure TrackScan where
  invalidInPeriod : Nat
  oldestIndex : Fin invalidAuthMaxAttempts

/-- Body of the loop of `auth_track_attempt`. -/
def trackScanStep (attempts : Fin invalidAuthMaxAttempts → Int) (now : Int) (scan : TrackScan)
    (i : Fin invalidAuthMaxAttempts) : TrackScan where
  oldestIndex := if attempts i < attempts scan.oldestIndex then i else scan.oldestIndex
  invalidInPeriod :=
    if attempts i > now - invalidAuthPeriodNsecs then scan.invalidInPeriod + 1
    else scan.invalidInPeriod

def trackScan (attempts : Fin invalidAuthMaxAttempts → Int) (now : Int) : TrackScan :=
  Machine.run (trackScanStep attempts now) ⟨1, 0⟩ (List.finRange invalidAuthMaxAttempts)

def authTrackAttempt (attempts : Fin invalidAuthMaxAttempts → Int) (errCode : AuthRet)
    (now : Int) : (Fin invalidAuthMaxAttempts → Int) × AuthRet :=
  match errCode with
  | .ok => (fun _ => 0, errCode)
  | .unauthorized | .invalidData =>
      let scan := trackScan attempts now
      (Function.update attempts scan.oldestIndex now,
        if scan.invalidInPeriod > invalidAuthMaxAttempts then .lockout else errCode)
  | .sysErr | .lockout => (attempts, errCode)

def authenticateClient (attempts : Fin invalidAuthMaxAttempts → Int) (version : UInt8)
    (numRead : Int) (pam : PamIo) (now : Int) :
    (Fin invalidAuthMaxAttempts → Int) × AuthRet :=
  if numRead > authHandshakeReqSize || decide (version > authHdrVersion) then
    authTrackAttempt attempts .invalidData now
  else authTrackAttempt attempts (credentialsAreValid pam) now

/-- What the environment answers during one handshake: the random source, the
received length and version byte, the pending flag, PAM, the clock when the
deadline is checked, when the attempt is tracked and when a new deadline is
set, and whether the whole reply was written. -/
structure HandshakeIo where
  randomOk : Bool
  numRead : Int
  version : UInt8
  dataPending : Bool
  pam : PamIo
  checkTime : Int
  trackTime : Int
  endTime : Int
  sendOk : Bool
  deriving DecidableEq, Repr

/-- The state after the credentials were looked at and the code they earned. -/
def authpamVerdict (a : AuthState) (io : HandshakeIo) : AuthState × AuthRet :=
  if !io.randomOk then (a, .invalidData)
  else if io.numRead ≤ 0 then (a, .invalidData)
  else if io.checkTime < a.lockout then
    -- a random password is checked to keep the timing, and its failure counts
    ({ a with attempts := (authenticateClient a.attempts authHdrVersion 20 io.pam io.trackTime).1 },
      .lockout)
  else if io.dataPending then (a, .invalidData)
  else
    let (attempts, ret) := authenticateClient a.attempts io.version io.numRead io.pam io.trackTime
    ({ a with attempts := attempts }, ret)

structure HandshakeResult where
  auth : AuthState
  verdict : AuthRet
  reply : AuthHandshakeRet
  status : Status

def authpamClientHandshake (session : Session) (a : AuthState) (io : HandshakeIo) :
    HandshakeResult :=
  let (a, ret) := authpamVerdict a io
  match ret with
  | .ok =>
      if (sessionGetAuthenticatedConn session false).1 ≠ .ok then
        ⟨a, ret, .success, if io.sendOk then .ok else .err⟩
      else ⟨a, ret, .busy, .err⟩
  | .sysErr => ⟨a, ret, .sysErr, .err⟩
  | .lockout => ⟨{ a with lockout := io.endTime + invalidAuthLockoutNsecs }, ret, .failure, .err⟩
  | .unauthorized | .invalidData => ⟨a, ret, .failure, .err⟩

end AtScaleDebug
