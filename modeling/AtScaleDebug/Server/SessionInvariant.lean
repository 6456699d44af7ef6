import AtScaleDebug.Server.Session

/-!
What every operation keeps true of the session table. `Session.Wf` ties the
flag in a slot to the id in the table and makes the descriptors of open slots
distinct, which is what makes a lookup by descriptor name one slot. Runs of
the operations are restricted only in what the callers promise: an accepted
descriptor is non-negative and not in the table, and authentication completes
for a connection found in the table.
-/

namespace AtScaleDebug

namespace Session

structure Wf (s : Session) : Prop where
  initialized : s.initialized = true
  ids : ∀ i, (s.sessions i).id = i
  fds : ∀ i, (s.sessions i).extconn.sockfd = unusedSocketFd ∨ s.IsOpen i
  auth : ∀ i : Fin maxSessions, (s.sessions i).authenticated = true ↔ s.authenticatedId = i
  authId : s.authenticatedId = noSessionAuthenticated ∨
    ∃ i : Fin maxSessions, s.authenticatedId = i
  authOpen : ∀ i, (s.sessions i).authenticated = true → s.IsOpen i
  distinct : ∀ i j, s.IsOpen i → s.IsOpen j →
    (s.sessions i).extconn.sockfd = (s.sessions j).extconn.sockfd → i = j

theorem not_isOpen_of_unused {s : Session} {i : Fin maxSessions}
    (h : (s.sessions i).extconn.sockfd = unusedSocketFd) : ¬ s.IsOpen i := by
  simp [Session.IsOpen, h, unusedSocketFd]

theorem extnetIsClientClosed_iff (s : Session) (i : Fin maxSessions) :
    extnetIsClientClosed (s.sessions i).extconn = false ↔ s.IsOpen i := by
  simp [extnetIsClientClosed, IsOpen]

theorem Wf.authenticated_unique {s : Session} (h : s.Wf) {i j : Fin maxSessions}
    (hi : (s.sessions i).authenticated = true) (hj : (s.sessions j).authenticated = true) :
    i = j := by
  have hij : (i : Int) = j := ((h.auth i).mp hi).symm.trans ((h.auth j).mp hj)
  exact Fin.ext (by omega)

theorem Wf.authenticatedId_nonneg_iff {s : Session} (h : s.Wf) :
    0 ≤ s.authenticatedId ↔ ∃ i, (s.sessions i).authenticated = true := by
  constructor
  · intro hid
    obtain none | ⟨i, hi⟩ := h.authId
    · simp [none, noSessionAuthenticated] at hid
    · exact ⟨i, (h.auth i).mpr hi⟩
  · rintro ⟨i, hi⟩
    have := (h.auth i).mp hi
    omega

theorem Wf.authenticatedId_eq_none_iff {s : Session} (h : s.Wf) :
    s.authenticatedId = noSessionAuthenticated ↔
      ∀ i, (s.sessions i).authenticated = false := by
  constructor
  · intro hid i
    by_contra hi
    have := (h.auth i).mp (by simpa using hi)
    simp [hid, noSessionAuthenticated] at this
  · intro hall
    obtain none | ⟨i, hi⟩ := h.authId
    · exact none
    · have := (h.auth i).mpr hi
      simp [hall i] at this

end Session

open Session

section Lookup

theorem sessionFindPrivate_some {s : Session} {fd : Int} {i : Fin maxSessions}
    (h : sessionFindPrivate s fd = some i) : (s.sessions i).extconn.sockfd = fd := by
  rw [sessionFindPrivate] at h
  split at h
  · simpa using List.find?_some h
  · cases h

theorem sessionFindPrivate_none {s : Session} {fd : Int} (init : s.initialized = true)
    (h : sessionFindPrivate s fd = none) (i : Fin maxSessions) :
    (s.sessions i).extconn.sockfd ≠ fd := by
  simp only [sessionFindPrivate, init, if_true, List.find?_eq_none] at h
  simpa using h i (List.mem_finRange i)

/-- Distinct descriptors make the first match the only match. -/
theorem sessionFindPrivate_eq_some {s : Session} (h : s.Wf) {i : Fin maxSessions}
    (hopen : s.IsOpen i) : sessionFindPrivate s (s.sessions i).extconn.sockfd = some i := by
  cases hfind : sessionFindPrivate s (s.sessions i).extconn.sockfd with
  | none => exact absurd rfl (sessionFindPrivate_none h.initialized hfind i)
  | some j =>
      have hfd := sessionFindPrivate_some hfind
      have hj : s.IsOpen j := by simpa only [Session.IsOpen, hfd] using hopen
      rw [h.distinct j i hj hopen hfd]

theorem sessionLookupConn_some {s : Session} {fd : Int} {i : Fin maxSessions}
    (h : sessionLookupConn s fd = some i) :
    s.IsOpen i ∧ (s.sessions i).extconn.sockfd = fd := by
  rw [sessionLookupConn] at h
  split at h
  · next j hfind =>
      split at h
      · cases h
        exact ⟨‹_›, sessionFindPrivate_some hfind⟩
      · cases h
  · cases h

end Lookup

theorem sessionInit_wf (hdlrData : Fin maxSessions → Option Nat) :
    (sessionInit hdlrData).Wf where
  initialized := rfl
  ids _ := rfl
  fds _ := Or.inl rfl
  auth i := by simp [sessionInit, noSessionAuthenticated]
  authId := Or.inl rfl
  authOpen i h := by simp [sessionInit] at h
  distinct i _ h := absurd h (not_isOpen_of_unused rfl)

section Open
variable {s : Session} {conn : ExtnetConn} {now : Int}

theorem sessionOpen_cases (s : Session) (conn : ExtnetConn) (now : Int) :
    (sessionFindPrivate s unusedSocketFd = none ∧ sessionOpen s conn now = (s, .err)) ∨
    ∃ i, (s.sessions i).extconn.sockfd = unusedSocketFd ∧
      sessionOpen s conn now = (s.setSlot i { s.sessions i with
        extconn := conn
        authTout := sessionAuthExpireTimeout + now
        authenticated := false
        dataPending := false }, .ok) := by
  rw [sessionOpen]
  cases hfind : sessionFindPrivate s unusedSocketFd with
  | none => exact Or.inl ⟨rfl, rfl⟩
  | some i => exact Or.inr ⟨i, sessionFindPrivate_some hfind, rfl⟩

/-- A descriptor `accept` may return: non-negative and not in use by the table. -/
def FreshConn (s : Session) (conn : ExtnetConn) : Prop :=
  0 ≤ conn.sockfd ∧ ∀ i, (s.sessions i).extconn.sockfd ≠ conn.sockfd

instance (s : Session) (conn : ExtnetConn) : Decidable (FreshConn s conn) :=
  inferInstanceAs (Decidable (_ ∧ _))

theorem sessionOpen_wf (h : s.Wf) (fresh : FreshConn s conn) :
    (sessionOpen s conn now).1.Wf := by
  obtain ⟨-, heq⟩ | ⟨i, hfd, heq⟩ := sessionOpen_cases s conn now
  · simpa only [heq] using h
  have hclosed : ¬ s.IsOpen i := not_isOpen_of_unused hfd
  have hunauth : (s.sessions i).authenticated = false := by
    simpa using mt (h.authOpen i) hclosed
  rw [heq]
  constructor
  · exact h.initialized
  · intro j
    obtain rfl | hj := eq_or_ne j i
    · simpa using h.ids j
    · simpa [setSlot_of_ne s _ hj] using h.ids j
  · intro j
    obtain rfl | hj := eq_or_ne j i
    · exact Or.inr (by simpa [Session.IsOpen] using fresh.1)
    · simpa [Session.IsOpen, setSlot_of_ne s _ hj] using h.fds j
  · intro j
    obtain rfl | hj := eq_or_ne j i
    · have := (h.auth j).not
      simp_all
    · simpa [setSlot_of_ne s _ hj] using h.auth j
  · exact h.authId
  · intro j hj
    obtain rfl | hne := eq_or_ne j i
    · simp at hj
    · simp only [Session.IsOpen, setSlot_of_ne s _ hne] at hj ⊢
      exact h.authOpen j hj
  · intro j k hj hk heq
    -- the new descriptor differs from every descriptor already in the table
    by_cases hji : j = i <;> by_cases hki : k = i
    · rw [hji, hki]
    · rw [hji, setSlot_self, setSlot_of_ne s _ hki] at heq
      exact absurd heq.symm (fresh.2 k)
    · rw [hki, setSlot_self, setSlot_of_ne s _ hji] at heq
      exact absurd heq (fresh.2 j)
    · simp only [Session.IsOpen, setSlot_of_ne s _ hji, setSlot_of_ne s _ hki] at hj hk heq
      exact h.distinct j k hj hk heq

theorem sessionOpen_authenticated_iff (h : s.Wf) (j : Fin maxSessions) :
    ((sessionOpen s conn now).1.sessions j).authenticated = true ↔
      (s.sessions j).authenticated = true := by
  obtain ⟨-, heq⟩ | ⟨i, hfd, heq⟩ := sessionOpen_cases s conn now
  · rw [heq]
  · rw [heq]
    by_cases hj : j = i
    · have hunauth := mt (h.authOpen i) (not_isOpen_of_unused hfd)
      simp [hj, hunauth]
    · simp [setSlot, hj]

end Open

section Close

theorem sessionClosePrivate_self (s : Session) (i : Fin maxSessions) :
    (sessionClosePrivate s i).1.sessions i = { s.sessions i with
      extconn := extnetCloseClient (s.sessions i).extconn
      authTout := 0
      authenticated := false } := by
  by_cases hclosed : (s.sessions i).extconn.sockfd < 0 <;>
    simp [sessionClosePrivate, extnetIsClientClosed, extnetCloseClient, setSlot, hclosed]

theorem sessionClosePrivate_of_ne (s : Session) {i j : Fin maxSessions} (h : j ≠ i) :
    (sessionClosePrivate s i).1.sessions j = s.sessions j := by
  simp [sessionClosePrivate, setSlot, h]

theorem sessionClosePrivate_authenticatedId {s : Session} (h : s.Wf) (i : Fin maxSessions) :
    (sessionClosePrivate s i).1.authenticatedId =
      if s.authenticatedId = i then noSessionAuthenticated else s.authenticatedId := by
  simp only [sessionClosePrivate, h.ids i, eq_comm]

theorem extnetCloseClient_not_open (conn : ExtnetConn) : (extnetCloseClient conn).sockfd < 0 := by
  rw [extnetCloseClient]
  split
  · assumption
  · decide

theorem sessionClosePrivate_not_isOpen (s : Session) (i : Fin maxSessions) :
    ¬ (sessionClosePrivate s i).1.IsOpen i := by
  have := extnetCloseClient_not_open (s.sessions i).extconn
  simp only [Session.IsOpen, sessionClosePrivate_self]
  omega

theorem sessionClosePrivate_isOpen_iff (s : Session) {i j : Fin maxSessions} :
    (sessionClosePrivate s i).1.IsOpen j ↔ j ≠ i ∧ s.IsOpen j := by
  obtain rfl | hj := eq_or_ne j i
  · simpa using sessionClosePrivate_not_isOpen s j
  · simp [Session.IsOpen, sessionClosePrivate_of_ne s hj, hj]

theorem sessionClosePrivate_authenticated_iff (s : Session) {i j : Fin maxSessions} :
    ((sessionClosePrivate s i).1.sessions j).authenticated = true ↔
      j ≠ i ∧ (s.sessions j).authenticated = true := by
  obtain rfl | hj := eq_or_ne j i
  · simp [sessionClosePrivate_self]
  · simp [sessionClosePrivate_of_ne s hj, hj]

theorem sessionClosePrivate_wf {s : Session} (h : s.Wf) (i : Fin maxSessions) :
    (sessionClosePrivate s i).1.Wf := by
  constructor
  · exact h.initialized
  · intro j
    obtain rfl | hj := eq_or_ne j i
    · rw [sessionClosePrivate_self]
      exact h.ids j
    · rw [sessionClosePrivate_of_ne s hj]
      exact h.ids j
  · intro j
    obtain rfl | hj := eq_or_ne j i
    · left
      rw [sessionClosePrivate_self]
      obtain hfd | hopen := h.fds j
      · simp [extnetCloseClient, hfd, unusedSocketFd]
      · have : ¬ (s.sessions j).extconn.sockfd < 0 := by simpa [Session.IsOpen] using hopen
        simp [extnetCloseClient, this]
    · simpa [Session.IsOpen, sessionClosePrivate_of_ne s hj] using h.fds j
  · intro j
    rw [sessionClosePrivate_authenticated_iff, sessionClosePrivate_authenticatedId h, h.auth j]
    split
    · next hid =>
        have : noSessionAuthenticated ≠ (j : Int) := by simp [noSessionAuthenticated]
        simp only [hid, this, iff_false, not_and]
        exact fun hj hij => hj (Fin.ext (by omega))
    · next hid =>
        refine ⟨And.right, fun hj => ⟨?_, hj⟩⟩
        rintro rfl
        exact hid hj
  · rw [sessionClosePrivate_authenticatedId h]
    split
    · exact Or.inl rfl
    · exact h.authId
  · intro j hj
    rw [sessionClosePrivate_authenticated_iff] at hj
    rw [sessionClosePrivate_isOpen_iff]
    exact ⟨hj.1, h.authOpen j hj.2⟩
  · intro j k hj hk heq
    rw [sessionClosePrivate_isOpen_iff] at hj hk
    rw [sessionClosePrivate_of_ne s hj.1, sessionClosePrivate_of_ne s hk.1] at heq
    exact h.distinct j k hj.2 hk.2 heq

theorem sessionClose_cases (s : Session) (conn : ExtnetConn) :
    sessionClose s conn = (s, .err) ∨
    ∃ i, (s.sessions i).extconn.sockfd = conn.sockfd ∧
      sessionClose s conn = sessionClosePrivate s i := by
  rw [sessionClose]
  split
  · cases hfind : sessionFindPrivate s conn.sockfd with
    | none => exact Or.inl rfl
    | some i => exact Or.inr ⟨i, sessionFindPrivate_some hfind, rfl⟩
  · exact Or.inl rfl

theorem sessionClose_of_isOpen {s : Session} (h : s.Wf) {i : Fin maxSessions}
    (hopen : s.IsOpen i) :
    sessionClose s (s.sessions i).extconn = sessionClosePrivate s i := by
  have hused : (s.sessions i).extconn.sockfd ≠ unusedSocketFd :=
    fun hfd => not_isOpen_of_unused hfd hopen
  simp [sessionClose, hused, sessionFindPrivate_eq_some h hopen]

theorem sessionClose_wf {s : Session} (h : s.Wf) (conn : ExtnetConn) :
    (sessionClose s conn).1.Wf := by
  obtain heq | ⟨i, -, heq⟩ := sessionClose_cases s conn
  · simpa only [heq] using h
  · simpa only [heq] using sessionClosePrivate_wf h i

theorem sessionCloseAll_wf {s : Session} (h : s.Wf) : (sessionCloseAll s).Wf := by
  simp only [sessionCloseAll, h.initialized, if_true]
  refine Machine.run_invariant_of_step (I := Session.Wf) (fun t i ht => ?_) _ h
  rw [sessionCloseAllStep]
  split
  · exact sessionClosePrivate_wf ht i
  · exact ht

theorem sessionCloseExpiredStep_wf {s : Session} (now : Fin maxSessions → Int) (h : s.Wf)
    (i : Fin maxSessions) : (sessionCloseExpiredStep now s i).Wf := by
  rw [sessionCloseExpiredStep]
  split
  · exact sessionClosePrivate_wf h i
  · exact h

theorem sessionCloseExpiredUnauth_wf {s : Session} (h : s.Wf) (now : Fin maxSessions → Int) :
    (sessionCloseExpiredUnauth s now).Wf := by
  simp only [sessionCloseExpiredUnauth, h.initialized, if_true]
  refine Machine.run_invariant_of_step (I := Session.Wf) (fun t i ht => ?_) _ h
  exact sessionCloseExpiredStep_wf now ht i

theorem sessionCloseExpiredUnauth_authenticated_iff {s : Session} (now : Fin maxSessions → Int)
    (j : Fin maxSessions) :
    ((sessionCloseExpiredUnauth s now).sessions j).authenticated = true ↔
      (s.sessions j).authenticated = true := by
  rw [sessionCloseExpiredUnauth]
  split
  · refine Machine.run_invariant_of_step (I := fun t : Session =>
      (t.sessions j).authenticated = true ↔ (s.sessions j).authenticated = true)
      (fun t i ht => ?_) _ Iff.rfl
    rw [sessionCloseExpiredStep]
    split
    · next hexpired =>
        simp only [Bool.and_eq_true, Bool.not_eq_true'] at hexpired
        rw [sessionClosePrivate_authenticated_iff, ht, and_iff_right_of_imp]
        rintro hj rfl
        simp [ht.mpr hj] at hexpired
    · exact ht
  · exact Iff.rfl

end Close

section Authenticate

theorem markAuthenticated_extconn (s : Session) (i j : Fin maxSessions) :
    ((s.markAuthenticated i).sessions j).extconn = (s.sessions j).extconn := by
  by_cases hj : j = i
  · simp [markAuthenticated, hj]
  · simp [markAuthenticated, setSlot, hj]

theorem markAuthenticated_isOpen_iff (s : Session) (i j : Fin maxSessions) :
    (s.markAuthenticated i).IsOpen j ↔ s.IsOpen j := by
  simp only [Session.IsOpen, markAuthenticated_extconn]

theorem markAuthenticated_authenticated_iff (s : Session) (i j : Fin maxSessions) :
    ((s.markAuthenticated i).sessions j).authenticated = true ↔
      j = i ∨ (s.sessions j).authenticated = true := by
  by_cases hj : j = i
  · simp [markAuthenticated, hj]
  · simp [markAuthenticated, setSlot, hj]

theorem markAuthenticated_wf {s : Session} (h : s.Wf) {i : Fin maxSessions}
    (hopen : s.IsOpen i) (hnone : s.authenticatedId < 0) : (s.markAuthenticated i).Wf := by
  have hunauth : ∀ j, ¬ (s.sessions j).authenticated = true := by
    intro j hj
    have := h.authenticatedId_nonneg_iff.mpr ⟨j, hj⟩
    omega
  constructor
  · exact h.initialized
  · intro j
    by_cases hj : j = i
    · simpa [markAuthenticated, hj] using h.ids i
    · simpa [markAuthenticated, setSlot, hj] using h.ids j
  · intro j
    rw [markAuthenticated_isOpen_iff, markAuthenticated_extconn]
    exact h.fds j
  · intro j
    have hid : (s.markAuthenticated i).authenticatedId = i := h.ids i
    rw [markAuthenticated_authenticated_iff, hid, or_iff_left (hunauth j)]
    constructor
    · rintro rfl
      rfl
    · exact fun hij => Fin.ext (by omega)
  · exact Or.inr ⟨i, h.ids i⟩
  · intro j hj
    rw [markAuthenticated_authenticated_iff, or_iff_left (hunauth j)] at hj
    rw [markAuthenticated_isOpen_iff, hj]
    exact hopen
  · intro j k hj hk hjk
    rw [markAuthenticated_isOpen_iff] at hj hk
    rw [markAuthenticated_extconn, markAuthenticated_extconn] at hjk
    exact h.distinct j k hj hk hjk

/-- A connection that belongs to an open slot, as `session_lookup_conn` returns it. -/
def LookedUp (s : Session) (conn : ExtnetConn) : Prop :=
  ∃ i, sessionLookupConn s conn.sockfd = some i ∧ (s.sessions i).extconn = conn

instance (s : Session) (conn : ExtnetConn) : Decidable (LookedUp s conn) :=
  inferInstanceAs (Decidable (∃ _, _))

/-- Completion for a connection of the table is refused exactly while some
session is authenticated. -/
theorem sessionAuthComplete_of_isOpen {s : Session} (h : s.Wf) {i : Fin maxSessions}
    (hopen : s.IsOpen i) :
    sessionAuthComplete s (s.sessions i).extconn =
      if 0 ≤ s.authenticatedId then (s, .err) else (s.markAuthenticated i, .ok) := by
  simp only [sessionAuthComplete, h.initialized, if_true, sessionFindPrivate_eq_some h hopen]

theorem sessionAuthComplete_wf {s : Session} (h : s.Wf) {i : Fin maxSessions}
    (hopen : s.IsOpen i) : (sessionAuthComplete s (s.sessions i).extconn).1.Wf := by
  rw [sessionAuthComplete_of_isOpen h hopen]
  split
  · exact h
  · exact markAuthenticated_wf h hopen (by omega)

theorem sessionAlreadyAuthenticated_of_isOpen {s : Session} (h : s.Wf) {i : Fin maxSessions}
    (hopen : s.IsOpen i) :
    sessionAlreadyAuthenticated s (s.sessions i).extconn = .ok ↔
      (s.sessions i).authenticated = true := by
  simp [sessionAlreadyAuthenticated, h.initialized, (extnetIsClientClosed_iff s i).mpr hopen,
    sessionFindPrivate_eq_some h hopen]

theorem sessionGetDataPending_of_isOpen {s : Session} (h : s.Wf) {i : Fin maxSessions}
    (hopen : s.IsOpen i) :
    sessionGetDataPending s (s.sessions i).extconn = (.ok, some (s.sessions i).dataPending) := by
  simp [sessionGetDataPending, h.initialized, sessionFindPrivate_eq_some h hopen]

theorem sessionSetDataPending_of_isOpen {s : Session} (h : s.Wf) {i : Fin maxSessions}
    (hopen : s.IsOpen i) (pending : Bool) :
    sessionSetDataPending s (s.sessions i).extconn pending =
      (s.setSlot i { s.sessions i with dataPending := pending }, .ok) := by
  simp [sessionSetDataPending, h.initialized, sessionFindPrivate_eq_some h hopen]

theorem sessionSetDataPending_cases (s : Session) (conn : ExtnetConn) (pending : Bool) :
    sessionSetDataPending s conn pending = (s, .err) ∨
    ∃ i, (s.sessions i).extconn.sockfd = conn.sockfd ∧
      sessionSetDataPending s conn pending =
        (s.setSlot i { s.sessions i with dataPending := pending }, .ok) := by
  rw [sessionSetDataPending]
  split
  · cases hfind : sessionFindPrivate s conn.sockfd with
    | none => exact Or.inl rfl
    | some i => exact Or.inr ⟨i, sessionFindPrivate_some hfind, rfl⟩
  · exact Or.inl rfl

/-- Only the hint for pending data may differ. -/
theorem Session.Wf.of_same {s t : Session} (h : s.Wf)
    (sameInit : t.initialized = s.initialized) (sameId : t.authenticatedId = s.authenticatedId)
    (same : ∀ i, (t.sessions i).id = (s.sessions i).id ∧
      (t.sessions i).extconn = (s.sessions i).extconn ∧
      (t.sessions i).authenticated = (s.sessions i).authenticated) : t.Wf := by
  have hopen : ∀ i, t.IsOpen i ↔ s.IsOpen i := fun i => by simp only [Session.IsOpen, (same i).2.1]
  constructor
  · exact sameInit.trans h.initialized
  · exact fun i => (same i).1.trans (h.ids i)
  · intro i
    rw [hopen, (same i).2.1]
    exact h.fds i
  · intro i
    rw [(same i).2.2, sameId]
    exact h.auth i
  · rw [sameId]
    exact h.authId
  · intro i hi
    rw [(same i).2.2] at hi
    exact (hopen i).mpr (h.authOpen i hi)
  · intro i j hi hj hij
    rw [(same i).2.1, (same j).2.1] at hij
    exact h.distinct i j ((hopen i).mp hi) ((hopen j).mp hj) hij

theorem sessionSetDataPending_wf {s : Session} (h : s.Wf) (conn : ExtnetConn)
    (pending : Bool) : (sessionSetDataPending s conn pending).1.Wf := by
  obtain heq | ⟨i, -, heq⟩ := sessionSetDataPending_cases s conn pending
  · simpa only [heq] using h
  rw [heq]
  refine h.of_same rfl rfl fun j => ?_
  by_cases hj : j = i
  · simp [hj]
  · simp [setSlot, hj]

theorem sessionSetDataPending_authenticated (s : Session) (conn : ExtnetConn) (pending : Bool)
    (j : Fin maxSessions) :
    ((sessionSetDataPending s conn pending).1.sessions j).authenticated =
      (s.sessions j).authenticated := by
  obtain heq | ⟨i, -, heq⟩ := sessionSetDataPending_cases s conn pending
  · rw [heq]
  · rw [heq]
    by_cases hj : j = i
    · simp [hj]
    · simp [setSlot, hj]

end Authenticate

section Runs

inductive SessionOp where
  | open (conn : ExtnetConn) (now : Int)
  | close (conn : ExtnetConn)
  | authComplete (conn : ExtnetConn)
  | closeExpiredUnauth (now : Fin maxSessions → Int)
  | closeAll
  | setDataPending (conn : ExtnetConn) (pending : Bool)

def sessionStep (s : Session) : SessionOp → Session
  | .open conn now => (sessionOpen s conn now).1
  | .close conn => (sessionClose s conn).1
  | .authComplete conn => (sessionAuthComplete s conn).1
  | .closeExpiredUnauth now => sessionCloseExpiredUnauth s now
  | .closeAll => sessionCloseAll s
  | .setDataPending conn pending => (sessionSetDataPending s conn pending).1

/-- What the callers promise about the arguments. -/
def SessionOp.Admissible (s : Session) : SessionOp → Prop
  | .open conn _ => FreshConn s conn
  | .authComplete conn => LookedUp s conn
  | _ => True

instance (s : Session) : (op : SessionOp) → Decidable (op.Admissible s)
  | .open conn _ => inferInstanceAs (Decidable (FreshConn s conn))
  | .authComplete conn => inferInstanceAs (Decidable (LookedUp s conn))
  | .close _ | .closeExpiredUnauth _ | .closeAll | .setDataPending _ _ =>
      inferInstanceAs (Decidable True)

theorem sessionStep_wf {s : Session} (op : SessionOp) (h : s.Wf) (ok : op.Admissible s) :
    (sessionStep s op).Wf := by
  cases op with
  | «open» conn now => exact sessionOpen_wf h ok
  | close conn => exact sessionClose_wf h conn
  | authComplete conn =>
      obtain ⟨i, hfind, rfl⟩ := ok
      exact sessionAuthComplete_wf h (sessionLookupConn_some hfind).1
  | closeExpiredUnauth now => exact sessionCloseExpiredUnauth_wf h now
  | closeAll => exact sessionCloseAll_wf h
  | setDataPending conn pending => exact sessionSetDataPending_wf h conn pending

theorem sessionGetAuthenticatedConn_of_authenticated {s : Session} (h : s.Wf)
    {i : Fin maxSessions} (hi : (s.sessions i).authenticated = true) :
    sessionGetAuthenticatedConn s true = (.ok, some (s.sessions i).extconn) := by
  have hid := (h.auth i).mp hi
  have hbound : s.authenticatedId.toNat < maxSessions := by omega
  have hindex : (⟨s.authenticatedId.toNat, hbound⟩ : Fin maxSessions) = i :=
    Fin.ext (by simp [hid])
  simp only [sessionGetAuthenticatedConn, h.initialized, Bool.true_and, if_true, hbound,
    dite_true, hindex]
  simp [hid]

theorem sessionGetAuthenticatedConn_of_none {s : Session} (h : s.Wf)
    (hnone : ∀ i, (s.sessions i).authenticated = false) (wanted : Bool) :
    sessionGetAuthenticatedConn s wanted = (.err, none) := by
  have hid := h.authenticatedId_eq_none_iff.mpr hnone
  simp [sessionGetAuthenticatedConn, hid, noSessionAuthenticated]

/-- Target access is exclusive: along every admissible run from `session_init`
the flag and the id name the same one open slot, open slots have distinct
descriptors, and the query for the authenticated connection returns it. -/
theorem session_run_exclusive (hdlrData : Fin maxSessions → Option Nat) (ops : List SessionOp)
    (admissible : Machine.Meets sessionStep (fun s op => op.Admissible s)
      (sessionInit hdlrData) ops) :
    let s := Machine.run sessionStep (sessionInit hdlrData) ops
    (∀ i j, (s.sessions i).authenticated = true → (s.sessions j).authenticated = true → i = j) ∧
    (∀ i, (s.sessions i).authenticated = true → s.authenticatedId = (s.sessions i).id) ∧
    ((∀ i, (s.sessions i).authenticated = false) → s.authenticatedId = noSessionAuthenticated) ∧
    (∀ i, (s.sessions i).authenticated = true →
      extnetIsClientClosed (s.sessions i).extconn = false) ∧
    (∀ i j, extnetIsClientClosed (s.sessions i).extconn = false →
      extnetIsClientClosed (s.sessions j).extconn = false →
      (s.sessions i).extconn.sockfd = (s.sessions j).extconn.sockfd → i = j) ∧
    (∀ i, (s.sessions i).authenticated = true →
      sessionGetAuthenticatedConn s true = (.ok, some (s.sessions i).extconn)) ∧
    ((∀ i, (s.sessions i).authenticated = false) →
      sessionGetAuthenticatedConn s true = (.err, none)) := by
  intro s
  have h : s.Wf := Machine.run_invariant (fun _ op hs ok => sessionStep_wf op hs ok)
    (sessionInit_wf hdlrData) admissible
  refine ⟨fun i j hi hj => h.authenticated_unique hi hj, ?_, h.authenticatedId_eq_none_iff.mpr,
    ?_, ?_, fun i hi => sessionGetAuthenticatedConn_of_authenticated h hi,
    fun hnone => sessionGetAuthenticatedConn_of_none h hnone true⟩
  · intro i hi
    rw [h.ids i]
    exact (h.auth i).mp hi
  · exact fun i hi => (extnetIsClientClosed_iff s i).mpr (h.authOpen i hi)
  · intro i j hi hj
    rw [extnetIsClientClosed_iff] at hi hj
    exact h.distinct i j hi hj

/-- Two clients connect, the second authenticates and the first is expired. -/
theorem session_run_exclusive_second_client :
    let s := Machine.run sessionStep (sessionInit fun _ => none)
      [.open ⟨7, none⟩ 100, .open ⟨9, none⟩ 101, .authComplete ⟨9, none⟩,
        .closeExpiredUnauth fun _ => 115]
    (s.sessions 1).authenticated = true ∧ (s.sessions 0).extconn.sockfd = unusedSocketFd ∧
      s.authenticatedId = 1 ∧ sessionGetAuthenticatedConn s true = (.ok, some ⟨9, none⟩) := by
  have h := session_run_exclusive (fun _ => none)
    [.open ⟨7, none⟩ 100, .open ⟨9, none⟩ 101, .authComplete ⟨9, none⟩,
      .closeExpiredUnauth fun _ => 115] (by decide)
  exact ⟨by decide, by decide, h.2.1 1 (by decide), h.2.2.2.2.2.1 1 (by decide)⟩

end Runs

end AtScaleDebug
