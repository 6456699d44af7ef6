import AtScaleDebug.Lib.RecentWindow
import AtScaleDebug.Server.AuthPam

/-!
The lockout policy. The ring of `auth_track_attempt` is compared with the full
list of invalid attempts since the last success, and the static deadline is
followed along a sequence of handshakes. Tables of sessions enter a handshake
as arbitrary arguments, because the policy does not depend on them.
-/

namespace AtScaleDebug

open RecentWindow

def AuthRet.Invalid (ret : AuthRet) : Prop :=
  ret = .unauthorized ∨ ret = .invalidData

instance (ret : AuthRet) : Decidable ret.Invalid :=
  inferInstanceAs (Decidable (_ ∨ _))

section Scan
variable (attempts : Fin invalidAuthMaxAttempts → Int) (now : Int)

theorem trackScan_run_invalidInPeriod (scan : TrackScan)
    (is : List (Fin invalidAuthMaxAttempts)) :
    (Machine.run (trackScanStep attempts now) scan is).invalidInPeriod =
      scan.invalidInPeriod +
        is.countP fun i => decide (now - invalidAuthPeriodNsecs < attempts i) := by
  induction is generalizing scan with
  | nil => rfl
  | cons i is ih =>
      rw [Machine.run_cons, ih, List.countP_cons]
      by_cases h : now - invalidAuthPeriodNsecs < attempts i
      · simp only [trackScanStep, gt_iff_lt, h, if_true, decide_true]
        omega
      · simp only [trackScanStep, gt_iff_lt, h, if_false, decide_false]
        simp

theorem trackScan_invalidInPeriod :
    (trackScan attempts now).invalidInPeriod =
      1 + (List.finRange invalidAuthMaxAttempts).countP fun i =>
        decide (now - invalidAuthPeriodNsecs < attempts i) :=
  trackScan_run_invalidInPeriod attempts now ⟨1, 0⟩ _

theorem trackScan_run_oldest (scan : TrackScan) (is : List (Fin invalidAuthMaxAttempts)) :
    let last := (Machine.run (trackScanStep attempts now) scan is).oldestIndex
    attempts last ≤ attempts scan.oldestIndex ∧ ∀ i ∈ is, attempts last ≤ attempts i := by
  induction is generalizing scan with
  | nil => simp
  | cons i is ih =>
      intro last
      obtain ⟨hscan, his⟩ := ih (trackScanStep attempts now scan i)
      have hstep : attempts (trackScanStep attempts now scan i).oldestIndex ≤
          attempts scan.oldestIndex ∧
          attempts (trackScanStep attempts now scan i).oldestIndex ≤ attempts i := by
        simp only [trackScanStep]
        split <;> constructor <;> omega
      refine ⟨hscan.trans hstep.1, fun j hj => ?_⟩
      obtain rfl | hj := List.mem_cons.mp hj
      · exact hscan.trans hstep.2
      · exact his j hj

theorem trackScan_oldest (i : Fin invalidAuthMaxAttempts) :
    attempts (trackScan attempts now).oldestIndex ≤ attempts i :=
  (trackScan_run_oldest attempts now ⟨1, 0⟩ _).2 i (List.mem_finRange i)

end Scan

section Attempts

/-- An outcome fed to `auth_track_attempt` and the clock at that call. -/
structure Attempt where
  code : AuthRet
  time : Int
  deriving DecidableEq, Repr

def trackStep (attempts : Fin invalidAuthMaxAttempts → Int) (attempt : Attempt) :
    Fin invalidAuthMaxAttempts → Int :=
  (authTrackAttempt attempts attempt.code attempt.time).1

def invalidStep (times : List Int) (attempt : Attempt) : List Int :=
  if attempt.code = .ok then []
  else if attempt.code.Invalid then times ++ [attempt.time]
  else times

/-- Times of the invalid outcomes after the last success, oldest first. -/
def invalidSinceOk (history : List Attempt) : List Int :=
  Machine.run invalidStep [] history

theorem invalidSinceOk_append (history : List Attempt) (attempt : Attempt) :
    invalidSinceOk (history ++ [attempt]) = invalidStep (invalidSinceOk history) attempt := by
  simp [invalidSinceOk, Machine.run_append]

theorem invalidSinceOk_sublist (history : List Attempt) :
    (invalidSinceOk history).Sublist (history.map Attempt.time) := by
  induction history using List.reverseRecOn with
  | nil => exact List.Sublist.refl _
  | append_singleton history attempt ih =>
      rw [invalidSinceOk_append, List.map_append]
      rw [invalidStep]
      split
      · exact List.nil_sublist _
      · split
        · exact ih.append (List.Sublist.refl _)
        · exact ih.trans (List.sublist_append_left _ _)

/-- The history as the ring sees it: its zero cells count as attempts at time zero. -/
def paddedHistory (history : List Attempt) : List Int :=
  List.replicate invalidAuthMaxAttempts 0 ++ invalidSinceOk history

theorem paddedHistory_sorted {history : List Attempt}
    (clock : (history.map Attempt.time).Pairwise (· ≤ ·))
    (start : ∀ attempt ∈ history, invalidAuthPeriodNsecs ≤ attempt.time) :
    (paddedHistory history).Pairwise (· ≤ ·) := by
  rw [paddedHistory, List.pairwise_append]
  refine ⟨List.pairwise_replicate.mpr (Or.inr le_rfl),
    clock.sublist (invalidSinceOk_sublist history), fun x hx y hy => ?_⟩
  obtain ⟨attempt, hmem, rfl⟩ := List.mem_map.mp ((invalidSinceOk_sublist history).subset hy)
  have := start attempt hmem
  rw [List.eq_of_mem_replicate hx]
  simp only [invalidAuthPeriodNsecs] at this
  omega

theorem le_length_paddedHistory (history : List Attempt) :
    invalidAuthMaxAttempts ≤ (paddedHistory history).length := by
  simp [paddedHistory]

/-- The ring holds the latest three invalid attempts since the last success. -/
theorem trackStep_run_entries {history : List Attempt}
    (clock : (history.map Attempt.time).Pairwise (· ≤ ·))
    (start : ∀ attempt ∈ history, invalidAuthPeriodNsecs ≤ attempt.time) :
    entries (Machine.run trackStep (fun _ => 0) history) =
      latest invalidAuthMaxAttempts (paddedHistory history) := by
  induction history using List.reverseRecOn with
  | nil => rfl
  | append_singleton history attempt ih =>
      rw [List.map_append, List.pairwise_append] at clock
      simp only [List.mem_append] at start
      have holds := ih clock.1 fun a ha => start a (Or.inl ha)
      have sorted := paddedHistory_sorted clock.1 fun a ha => start a (Or.inl ha)
      rw [Machine.run_append, Machine.run_cons, Machine.run_nil, paddedHistory,
        invalidSinceOk_append]
      generalize Machine.run trackStep (fun _ => 0) history = ring at holds ⊢
      obtain ⟨code, time⟩ := attempt
      have replaced : entries (Function.update ring (trackScan ring time).oldestIndex time) =
          latest invalidAuthMaxAttempts (paddedHistory history ++ [time]) :=
        entries_replace_oldest (by decide) sorted (le_length_paddedHistory history) holds
          (trackScan_oldest ring time) time
      cases code with
      | ok => rfl
      | sysErr | lockout => exact holds
      | unauthorized | invalidData =>
          simpa only [trackStep, authTrackAttempt, invalidStep, AuthRet.Invalid, paddedHistory,
            List.append_assoc, reduceCtorEq, if_false, if_true, true_or, or_true] using replaced

section Verdict
variable {history : List Attempt} {attempt : Attempt}

/-- The attempts that count at `now`. -/
def recent (now time : Int) : Bool :=
  decide (now - invalidAuthPeriodNsecs < time)

theorem recent_iff (now time : Int) : recent now time = true ↔ now < time + 60 := by
  rw [recent, decide_eq_true_iff, invalidAuthPeriodNsecs]
  omega

theorem recent_up (now a b : Int) (hab : a ≤ b) (ha : recent now a) : recent now b := by
  rw [recent_iff] at ha ⊢
  omega

private theorem countP_paddedHistory (start : invalidAuthPeriodNsecs ≤ attempt.time) :
    (paddedHistory history).countP (recent attempt.time) =
      (invalidSinceOk history).countP (recent attempt.time) := by
  have hzero : ¬ recent attempt.time 0 = true := by
    rw [recent_iff]
    simp only [invalidAuthPeriodNsecs] at start
    omega
  rw [paddedHistory, List.countP_append, List.countP_replicate, if_neg hzero, Nat.zero_add]

private theorem countP_invalidSinceOk_append (invalid : attempt.code.Invalid) :
    (invalidSinceOk (history ++ [attempt])).countP (recent attempt.time) =
      (invalidSinceOk history).countP (recent attempt.time) + 1 := by
  have hself : recent attempt.time attempt.time = true := by
    rw [recent_iff]
    omega
  have hcode : attempt.code ≠ .ok := by
    rintro h
    simp [AuthRet.Invalid, h] at invalid
  rw [invalidSinceOk_append]
  simp [invalidStep, hcode, invalid, List.countP_append, hself]

/-- An invalid outcome is turned into a lockout exactly when it is at least the
fourth invalid one since the last success inside the period. -/
theorem authTrackAttempt_lockout
    (clock : ((history ++ [attempt]).map Attempt.time).Pairwise (· ≤ ·))
    (start : ∀ a ∈ history ++ [attempt], invalidAuthPeriodNsecs ≤ a.time)
    (invalid : attempt.code.Invalid) :
    (authTrackAttempt (Machine.run trackStep (fun _ => 0) history)
        attempt.code attempt.time).2 = .lockout ↔
      invalidAuthMaxAttempts + 1 ≤
        (invalidSinceOk (history ++ [attempt])).countP (recent attempt.time) := by
  rw [List.map_append, List.pairwise_append] at clock
  simp only [List.mem_append] at start
  have holds := trackStep_run_entries clock.1 fun a ha => start a (Or.inl ha)
  have sorted := paddedHistory_sorted clock.1 fun a ha => start a (Or.inl ha)
  have hwindow := countP_latest_iff sorted (le_length_paddedHistory history)
    (recent_up attempt.time)
  rw [countP_paddedHistory (start attempt (Or.inr List.mem_cons_self))] at hwindow
  generalize Machine.run trackStep (fun _ => 0) history = ring at holds ⊢
  have hscan : (trackScan ring attempt.time).invalidInPeriod =
      1 + (latest invalidAuthMaxAttempts (paddedHistory history)).countP
        (recent attempt.time) := by
    rw [trackScan_invalidInPeriod, ← countP_finRange_of_entries holds]
    rfl
  have hret : (authTrackAttempt ring attempt.code attempt.time).2 = .lockout ↔
      invalidAuthMaxAttempts < (trackScan ring attempt.time).invalidInPeriod := by
    obtain hcode | hcode := invalid <;> simp [authTrackAttempt, hcode]
  rw [hret, hscan, countP_invalidSinceOk_append invalid]
  omega

end Verdict

end Attempts

section Handshakes

/-- One handshake of a run: the session table at that moment and the answers of
the environment. -/
structure Handshake where
  session : Session
  io : HandshakeIo

def handshakeStep (a : AuthState) (h : Handshake) : AuthState :=
  (authpamClientHandshake h.session a h.io).auth

/-- The readings of one handshake in the order they are taken. -/
def HandshakeIo.readings (io : HandshakeIo) : List Int :=
  [io.checkTime, io.trackTime, io.endTime]

theorem authpamVerdict_lockout (a : AuthState) (io : HandshakeIo) :
    (authpamVerdict a io).1.lockout = a.lockout := by
  rw [authpamVerdict]
  repeat' split
  all_goals rfl

theorem authpamVerdict_of_locked {a : AuthState} {io : HandshakeIo}
    (locked : io.checkTime < a.lockout) : (authpamVerdict a io).2 ≠ .ok := by
  simp only [authpamVerdict, locked, if_true]
  split
  · simp
  · split <;> simp

theorem authpamClientHandshake_ok {session : Session} {a : AuthState} {io : HandshakeIo}
    (h : (authpamClientHandshake session a io).status = .ok) : (authpamVerdict a io).2 = .ok := by
  rw [authpamClientHandshake] at h
  generalize authpamVerdict a io = verdict at h ⊢
  obtain ⟨a, ret⟩ := verdict
  cases ret <;> simp at h ⊢

/-- A handshake moves the deadline only by ending in lockout. -/
theorem handshakeStep_lockout (a : AuthState) (h : Handshake) :
    (handshakeStep a h).lockout =
      if (authpamClientHandshake h.session a h.io).verdict = .lockout then
        h.io.endTime + invalidAuthLockoutNsecs
      else a.lockout := by
  have hkeep := authpamVerdict_lockout a h.io
  rw [handshakeStep, authpamClientHandshake]
  generalize authpamVerdict a h.io = verdict at hkeep ⊢
  obtain ⟨b, ret⟩ := verdict
  cases ret with
  | ok => dsimp only; split <;> simpa using hkeep
  | lockout => rfl
  | sysErr | invalidData | unauthorized => simpa using hkeep

/-- With a non-decreasing clock a deadline is never moved back. -/
theorem handshake_run_lockout_le {deadline : Int} {hs : List Handshake} {a : AuthState}
    (start : deadline ≤ a.lockout)
    (clock : ∀ h ∈ hs, deadline ≤ h.io.endTime + invalidAuthLockoutNsecs) :
    deadline ≤ (Machine.run handshakeStep a hs).lockout := by
  induction hs generalizing a with
  | nil => exact start
  | cons h hs ih =>
      refine ih ?_ fun h' hmem => clock h' (List.mem_cons_of_mem h hmem)
      rw [handshakeStep_lockout]
      split
      · exact clock h List.mem_cons_self
      · exact start

/-- After a handshake ended in lockout at its last reading, no handshake that
reads the clock before the deadline returns `ST_OK`. -/
theorem handshake_run_locked_out {a : AuthState} {before between : List Handshake}
    {locking later : Handshake}
    (clock : ((before ++ locking :: between ++ [later]).flatMap
      fun h => h.io.readings).Pairwise (· ≤ ·))
    (ended : (authpamClientHandshake locking.session
      (Machine.run handshakeStep a before) locking.io).verdict = .lockout)
    (early : later.io.checkTime < locking.io.endTime + invalidAuthLockoutNsecs) :
    (authpamClientHandshake later.session
      (Machine.run handshakeStep a (before ++ locking :: between)) later.io).status ≠ .ok := by
  have hset : locking.io.endTime + invalidAuthLockoutNsecs ≤
      (handshakeStep (Machine.run handshakeStep a before) locking).lockout := by
    rw [handshakeStep_lockout, if_pos ended]
  have hclock : ∀ h ∈ between, locking.io.endTime + invalidAuthLockoutNsecs ≤
      h.io.endTime + invalidAuthLockoutNsecs := by
    intro h hmem
    have hle : locking.io.endTime ≤ h.io.endTime := by
      simp only [List.append_assoc, List.cons_append, List.flatMap_append, List.flatMap_cons,
        List.pairwise_append] at clock
      refine clock.2.1.2.2 _ ?_ _ ?_
      · simp [HandshakeIo.readings]
      · exact List.mem_append_left _
          (List.mem_flatMap.mpr ⟨h, hmem, by simp [HandshakeIo.readings]⟩)
    omega
  have hdeadline := handshake_run_lockout_le hset hclock
  intro hok
  refine authpamVerdict_of_locked ?_ (authpamClientHandshake_ok hok)
  rw [Machine.run_append, Machine.run_cons]
  exact early.trans_le hdeadline

/-- The whole policy: the ring counts like a sliding window over the history,
and a lockout refuses every password until its deadline. -/
theorem authpam_lockout_policy :
    (∀ (history : List Attempt) (attempt : Attempt),
      ((history ++ [attempt]).map Attempt.time).Pairwise (· ≤ ·) →
      (∀ a ∈ history ++ [attempt], invalidAuthPeriodNsecs ≤ a.time) →
      attempt.code.Invalid →
      ((authTrackAttempt (Machine.run trackStep (fun _ => 0) history)
          attempt.code attempt.time).2 = .lockout ↔
        invalidAuthMaxAttempts + 1 ≤
          (invalidSinceOk (history ++ [attempt])).countP (recent attempt.time))) ∧
    (∀ (a : AuthState) (before between : List Handshake) (locking later : Handshake),
      ((before ++ locking :: between ++ [later]).flatMap
        fun h => h.io.readings).Pairwise (· ≤ ·) →
      (authpamClientHandshake locking.session
        (Machine.run handshakeStep a before) locking.io).verdict = .lockout →
      later.io.checkTime < locking.io.endTime + invalidAuthLockoutNsecs →
      (authpamClientHandshake later.session
        (Machine.run handshakeStep a (before ++ locking :: between)) later.io).status ≠ .ok) :=
  ⟨fun _ _ clock start invalid => authTrackAttempt_lockout clock start invalid,
    fun _ _ _ _ _ clock ended early => handshake_run_locked_out clock ended early⟩

/-- A handshake with a wrong password, all readings at one time. -/
def wrongPassword (time : Int) : Handshake :=
  ⟨sessionInit fun _ => none, ⟨true, 9, 0x30, false, ⟨true, false, true⟩, time, time, time, true⟩⟩

def rightPassword (time : Int) : Handshake :=
  ⟨sessionInit fun _ => none, ⟨true, 9, 0x30, false, ⟨true, true, true⟩, time, time, time, true⟩⟩

theorem authpam_lockout_policy_four_failures :
    (authTrackAttempt (Machine.run trackStep (fun _ => 0)
      [⟨.unauthorized, 100⟩, ⟨.invalidData, 110⟩, ⟨.unauthorized, 110⟩])
      .unauthorized 159).2 = .lockout ∧
    (authpamClientHandshake (sessionInit fun _ => none)
      (Machine.run handshakeStep .initial
        [wrongPassword 100, wrongPassword 110, wrongPassword 110, wrongPassword 159])
      (rightPassword 218).io).status ≠ .ok := by
  constructor
  · refine (authpam_lockout_policy.1
      [⟨.unauthorized, 100⟩, ⟨.invalidData, 110⟩, ⟨.unauthorized, 110⟩]
      ⟨.unauthorized, 159⟩ ?_ ?_ ?_).mpr ?_ <;> decide
  · exact authpam_lockout_policy.2 .initial
      [wrongPassword 100, wrongPassword 110, wrongPassword 110] [] (wrongPassword 159)
      (rightPassword 218) (by decide) (by decide) (by decide)

end Handshakes

end AtScaleDebug
