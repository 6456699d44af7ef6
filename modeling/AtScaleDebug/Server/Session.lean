import Mathlib.Algebra.GroupWithZero.Nat
import Mathlib.Data.List.FinRange
import Mathlib.Logic.Function.Basic
import AtScaleDebug.Common
import AtScaleDebug.Lib.Machine

/-!
The session table. Five slots hold the accepted connections, one of which may
be authenticated. The table stores that fact twice, as a flag in the slot and
as an id in the table, and looks every connection up by its descriptor.

Pointers to the table and to a connection are never null at the call sites of
the daemon, except the result argument of `sessionGetAuthenticatedConn`; only
that one is modelled as optional. `time(0)` is an argument.
-/

namespace AtScaleDebug

def unusedSocketFd : Int := -1
def maxSessions : Nat := 5
def sessionAuthExpireTimeout : Int := 15
def noSessionAuthenticated : Int := -1

instance : NeZero maxSessions := ⟨Nat.succ_ne_zero 4⟩

/-- A connection as the network layer sees it: a descriptor and the private
pointer of the transport, null for plain TCP. -/
structure ExtnetConn where
  sockfd : Int
  hdlrData : Option Nat
  deriving DecidableEq, Repr

def extnetIsClientClosed (conn : ExtnetConn) : Bool :=
  decide (conn.sockfd < 0)

def extnetCloseClient (conn : ExtnetConn) : ExtnetConn :=
  if conn.sockfd < 0 then conn else ⟨unusedSocketFd, none⟩

structure SessionSlot where
  id : Int
  extconn : ExtnetConn
  authTout : Int
  authenticated : Bool
  dataPending : Bool
  deriving DecidableEq, Repr

structure Session where
  initialized : Bool
  sessions : Fin maxSessions → SessionSlot
  authenticatedId : Int

/-- The table after `session_init`. The transport's `init_client` decides what
the private pointer holds; plain TCP leaves it as it was. -/
def sessionInit (hdlrData : Fin maxSessions → Option Nat) : Session where
  initialized := true
  sessions := fun i => ⟨i, ⟨unusedSocketFd, hdlrData i⟩, 0, false, false⟩
  authenticatedId := noSessionAuthenticated

namespace Session

def IsOpen (s : Session) (i : Fin maxSessions) : Prop :=
  0 ≤ (s.sessions i).extconn.sockfd

instance (s : Session) (i : Fin maxSessions) : Decidable (s.IsOpen i) :=
  inferInstanceAs (Decidable (0 ≤ _))

def setSlot (s : Session) (i : Fin maxSessions) (slot : SessionSlot) : Session :=
  { s with sessions := Function.update s.sessions i slot }

@[simp] theorem setSlot_authenticatedId (s : Session) (i : Fin maxSessions)
    (slot : SessionSlot) : (s.setSlot i slot).authenticatedId = s.authenticatedId := rfl

@[simp] theorem setSlot_self (s : Session) (i : Fin maxSessions) (slot : SessionSlot) :
    (s.setSlot i slot).sessions i = slot := by
  simp [setSlot]

theorem setSlot_of_ne (s : Session) {i j : Fin maxSessions} (slot : SessionSlot) (h : j ≠ i) :
    (s.setSlot i slot).sessions j = s.sessions j := by
  simp [setSlot, h]

end Session

/-- Record slot `i` as the authenticated one, in the slot and in the table. -/
def Session.markAuthenticated (s : Session) (i : Fin maxSessions) : Session :=
  { s.setSlot i { s.sessions i with authenticated := true } with
    authenticatedId := (s.sessions i).id }

def sessionFindPrivate (s : Session) (sockfd : Int) : Option (Fin maxSessions) :=
  if s.initialized then
    (List.finRange maxSessions).find? fun i => (s.sessions i).extconn.sockfd = sockfd
  else none

/-- The slot whose connection `session_lookup_conn` points at. -/
def sessionLookupConn (s : Session) (fd : Int) : Option (Fin maxSessions) :=
  match sessionFindPrivate s fd with
  | some i => if 0 ≤ (s.sessions i).extconn.sockfd then some i else none
  | none => none

def sessionOpen (s : Session) (conn : ExtnetConn) (now : Int) : Session × Status :=
  match sessionFindPrivate s unusedSocketFd with
  | none => (s, .err)
  | some i =>
      (s.setSlot i { s.sessions i with
        extconn := conn
        authTout := sessionAuthExpireTimeout + now
        authenticated := false
        dataPending := false }, .ok)

def sessionClosePrivate (s : Session) (i : Fin maxSessions) : Session × Status :=
  let slot := s.sessions i
  let closed := s.setSlot i { slot with
    extconn := if extnetIsClientClosed slot.extconn then slot.extconn
      else extnetCloseClient slot.extconn
    authTout := 0
    authenticated := false }
  ({ closed with
    authenticatedId :=
      if slot.id = s.authenticatedId then noSessionAuthenticated else s.authenticatedId }, .ok)

def sessionClose (s : Session) (conn : ExtnetConn) : Session × Status :=
  if conn.sockfd ≠ unusedSocketFd then
    match sessionFindPrivate s conn.sockfd with
    | none => (s, .err)
    | some i => sessionClosePrivate s i
  else (s, .err)

/-- Body of the loop of `session_close_all`. -/
def sessionCloseAllStep (s : Session) (i : Fin maxSessions) : Session :=
  if !extnetIsClientClosed (s.sessions i).extconn then (sessionClosePrivate s i).1 else s

def sessionCloseAll (s : Session) : Session :=
  if s.initialized then Machine.run sessionCloseAllStep s (List.finRange maxSessions) else s

/-- Body of the loop of `session_close_expired_unauth`; the clock is read anew
for each slot. -/
def sessionCloseExpiredStep (now : Fin maxSessions → Int) (s : Session)
    (i : Fin maxSessions) : Session :=
  if !extnetIsClientClosed (s.sessions i).extconn && !(s.sessions i).authenticated
      && decide ((s.sessions i).authTout ≤ now i) then (sessionClosePrivate s i).1 else s

def sessionCloseExpiredUnauth (s : Session) (now : Fin maxSessions → Int) : Session :=
  if s.initialized then Machine.run (sessionCloseExpiredStep now) s (List.finRange maxSessions)
  else s

def sessionAlreadyAuthenticated (s : Session) (conn : ExtnetConn) : Status :=
  if s.initialized && !extnetIsClientClosed conn then
    match sessionFindPrivate s conn.sockfd with
    | none => .err
    | some i => if (s.sessions i).authenticated then .ok else .err
  else .err

def sessionAuthComplete (s : Session) (conn : ExtnetConn) : Session × Status :=
  if s.initialized then
    if 0 ≤ s.authenticatedId then (s, .err)
    else
      match sessionFindPrivate s conn.sockfd with
      | none => (s, .err)
      | some i => (s.markAuthenticated i, .ok)
  else (s, .err)

/-- `wanted` says whether the caller passes a place for the connection. Without
one the source returns `ST_ERR` even when a session is authenticated. An id
outside the array is undefined behaviour there; `Session.Wf` excludes it. -/
def sessionGetAuthenticatedConn (s : Session) (wanted : Bool) : Status × Option ExtnetConn :=
  if s.initialized && decide (0 ≤ s.authenticatedId) then
    if wanted then
      if h : s.authenticatedId.toNat < maxSessions then
        (.ok, some (s.sessions ⟨s.authenticatedId.toNat, h⟩).extconn)
      else (.err, none)
    else (.err, none)
  else (.err, none)

def sessionGetDataPending (s : Session) (conn : ExtnetConn) : Status × Option Bool :=
  if s.initialized then
    match sessionFindPrivate s conn.sockfd with
    | none => (.err, none)
    | some i => (.ok, some (s.sessions i).dataPending)
  else (.err, none)

def sessionSetDataPending (s : Session) (conn : ExtnetConn) (dataPending : Bool) :
    Session × Status :=
  if s.initialized then
    match sessionFindPrivate s conn.sockfd with
    | none => (s, .err)
    | some i => (s.setSlot i { s.sessions i with dataPending := dataPending }, .ok)
  else (s, .err)

/-- The descriptors of the open slots, in slot order. The millisecond timeout
the source computes beside them is not passed to `poll` and is left out. -/
def sessionGetfds (s : Session) : Status × List Int :=
  if s.initialized then
    (.ok, ((List.finRange maxSessions).filter fun i =>
      !extnetIsClientClosed (s.sessions i).extconn).map fun i => (s.sessions i).extconn.sockfd)
  else (.err, [])

end AtScaleDebug
