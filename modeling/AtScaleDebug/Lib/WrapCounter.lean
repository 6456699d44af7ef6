import Mathlib.Logic.Function.Basic
import AtScaleDebug.Lib.Machine

/-!
A bank of counters that go up and down. The exact ones are natural numbers that stay at
zero when there is nothing to count down; the wrapping ones start again at zero when they
reach their modulus. They agree for as long as no counter goes up from the last value
that a wrapping one can hold.
-/

namespace AtScaleDebug.WrapCounter

universe u
variable {κ : Type u}

inductive Move (κ : Type u) where
  | up (k : κ)
  | down (k : κ)
  deriving DecidableEq

variable [DecidableEq κ]

def exact (n : κ → Nat) : Move κ → κ → Nat
  | .up k => Function.update n k (n k + 1)
  | .down k => Function.update n k (n k - 1)

def wrapping (m : Nat) (n : κ → Nat) : Move κ → κ → Nat
  | .up k => Function.update n k ((n k + 1) % m)
  | .down k => Function.update n k (n k - 1)

/-- The counter that goes up can hold the next value. -/
def Room (m : Nat) (n : κ → Nat) : Move κ → Prop
  | .up k => n k + 1 < m
  | .down _ => True

variable {m : Nat} {n : κ → Nat} {move : Move κ} {moves last : List (Move κ)}

theorem wrapping_eq_iff (h : ∀ k, n k < m) : wrapping m n move = exact n move ↔ Room m n move := by
  cases move with
  | down k => exact iff_of_true rfl True.intro
  | up k =>
      constructor
      · intro heq
        have hk := congrFun heq k
        simp only [wrapping, exact, Function.update_self] at hk
        have hlt := Nat.mod_lt (n k + 1) (Nat.zero_lt_of_lt (h k))
        rw [hk] at hlt
        exact hlt
      · intro hroom
        rw [wrapping, exact, Nat.mod_eq_of_lt hroom]

theorem exact_lt (h : ∀ k, n k < m) (hroom : Room m n move) (k : κ) : exact n move k < m := by
  cases move with
  | up j =>
      rw [exact]
      by_cases hk : k = j
      · rw [hk, Function.update_self]
        exact hroom
      · rw [Function.update_of_ne hk]
        exact h k
  | down j =>
      rw [exact]
      by_cases hk : k = j
      · rw [hk, Function.update_self]
        exact Nat.lt_of_le_of_lt (Nat.sub_le _ _) (h j)
      · rw [Function.update_of_ne hk]
        exact h k

theorem run_exact_lt (h : ∀ k, n k < m) (hroom : Machine.Meets exact (Room m) n moves) :
    ∀ k, Machine.run exact n moves k < m :=
  Machine.run_invariant (I := fun n : κ → Nat => ∀ k, n k < m)
    (fun _ _ hlt hmove => exact_lt hlt hmove) h hroom

/-- The counters agree along moves that find room. -/
theorem run_wrapping (h : ∀ k, n k < m) (hroom : Machine.Meets exact (Room m) n moves) :
    Machine.run (wrapping m) n moves = Machine.run exact n moves := by
  induction moves generalizing n with
  | nil => rfl
  | cons move moves ih =>
      obtain ⟨hmove, hmoves⟩ := hroom
      rw [Machine.run_cons, Machine.run_cons, (wrapping_eq_iff h).mpr hmove]
      exact ih (exact_lt h hmove) hmoves

theorem meets_downs (hdowns : ∀ move ∈ moves, ∃ k, move = .down k) :
    Machine.Meets exact (Room m) n moves := by
  refine (Machine.meets_iff exact (Room m) n moves).mpr fun before move after heq => ?_
  obtain ⟨k, rfl⟩ := hdowns move (heq ▸ List.mem_append_right before List.mem_cons_self)
  exact True.intro

/-- Where only the last move may go up, the counters agree after it if and only if it
finds room. -/
theorem run_wrapping_iff (h : ∀ k, n k < m) (hdowns : ∀ move ∈ moves, ∃ k, move = .down k)
    (hlast : last.length ≤ 1) :
    Machine.run (wrapping m) n (moves ++ last) = Machine.run exact n (moves ++ last) ↔
      Machine.Meets exact (Room m) n (moves ++ last) := by
  have hmoves : Machine.Meets exact (Room m) n moves := meets_downs hdowns
  rw [Machine.run_append, Machine.run_append, Machine.meets_append, run_wrapping h hmoves,
    and_iff_right hmoves]
  match last, hlast with
  | [], _ => exact iff_of_true rfl True.intro
  | [move], _ =>
      rw [Machine.meets_cons, and_iff_left (Machine.meets_nil _ _ _)]
      exact wrapping_eq_iff (run_exact_lt h hmoves)

/-- The counters agree after a block and then after each of its continuations if and only
if all moves find room, when this is so for the block and, behind it, for what follows. -/
theorem run_wrapping_append_iff {block : List (Move κ)} (more : Nat → List (Move κ)) (count : Nat)
    (hnone : more 0 = [])
    (hblock : Machine.run (wrapping m) n block = Machine.run exact n block ↔
      Machine.Meets exact (Room m) n block)
    (hmore : Machine.run (wrapping m) n block = Machine.run exact n block →
      ((∀ i ≤ count, Machine.run (wrapping m) (Machine.run exact n block) (more i) =
          Machine.run exact (Machine.run exact n block) (more i)) ↔
        Machine.Meets exact (Room m) (Machine.run exact n block) (more count))) :
    (∀ i ≤ count, Machine.run (wrapping m) n (block ++ more i) =
        Machine.run exact n (block ++ more i)) ↔
      Machine.Meets exact (Room m) n (block ++ more count) := by
  rw [Machine.meets_append, ← hblock]
  constructor
  · intro h
    have hfirst := h 0 (Nat.zero_le count)
    rw [hnone, List.append_nil] at hfirst
    refine ⟨hfirst, (hmore hfirst).mp fun i hi => ?_⟩
    have hboth := h i hi
    rw [Machine.run_append, Machine.run_append, hfirst] at hboth
    exact hboth
  · rintro ⟨hfirst, hrest⟩ i hi
    rw [Machine.run_append, Machine.run_append, hfirst]
    exact (hmore hfirst).mpr hrest i hi

end AtScaleDebug.WrapCounter
