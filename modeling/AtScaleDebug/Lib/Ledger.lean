import AtScaleDebug.Lib.Machine
import Mathlib.Data.Multiset.OrderedMonoid
import Mathlib.Algebra.Order.BigOperators.Group.List
import Mathlib.Algebra.BigOperators.Group.Finset.Basic

/-!
Accounts of resources that are acquired and released. `settle` plays the events against
what is held, and has no result when something is released that is not held, so a result
excludes a second release of the same thing. The frame rule lets each function be settled
against nothing but what it touches, and the run rule adds up what the steps of a machine
hold and what they lose.
-/

namespace AtScaleDebug.Ledger

universe u v w
variable {ρ : Type u} {σ : Type v} {ι : Type w}

inductive Event (ρ : Type u) where
  | acquire (resource : ρ)
  | release (resource : ρ)
  deriving DecidableEq, Repr

section Settle
variable [DecidableEq ρ]

def settle : Multiset ρ → List (Event ρ) → Option (Multiset ρ)
  | held, [] => some held
  | held, .acquire r :: es => settle (r ::ₘ held) es
  | held, .release r :: es => if r ∈ held then settle (held.erase r) es else none

variable {held held' : Multiset ρ} {es fs : List (Event ρ)}

@[simp] theorem settle_nil (held : Multiset ρ) : settle held [] = some held := rfl

@[simp] theorem settle_acquire (held : Multiset ρ) (r : ρ) (es : List (Event ρ)) :
    settle held (.acquire r :: es) = settle (r ::ₘ held) es := rfl

@[simp] theorem settle_release (held : Multiset ρ) (r : ρ) (es : List (Event ρ)) :
    settle (r ::ₘ held) (.release r :: es) = settle held es := by
  rw [settle, if_pos (Multiset.mem_cons_self r held), Multiset.erase_cons_head]

theorem settle_append (held : Multiset ρ) (es fs : List (Event ρ)) :
    settle held (es ++ fs) = (settle held es).bind fun h => settle h fs := by
  induction es generalizing held with
  | nil => rfl
  | cons e es ih =>
      cases e with
      | acquire r => exact ih (r ::ₘ held)
      | release r =>
          simp only [List.cons_append, settle]
          split
          · exact ih (held.erase r)
          · rfl

theorem settle_trans {mid : Multiset ρ} (first : settle held es = some mid)
    (second : settle mid fs = some held') : settle held (es ++ fs) = some held' := by
  simp only [settle_append, first, Option.bind_some, second]

/-- What a function does not touch stays beside what it does. -/
theorem settle_frame (h : settle held es = some held') (other : Multiset ρ) :
    settle (held + other) es = some (held' + other) := by
  induction es generalizing held with
  | nil =>
      cases h
      rfl
  | cons e es ih =>
      cases e with
      | acquire r =>
          rw [settle_acquire] at h
          have hrest := ih h
          simpa only [settle_acquire, Multiset.cons_add] using hrest
      | release r =>
          simp only [settle] at h
          split at h
          · next hmem =>
              have hrest := ih h
              have hother : r ∈ held + other := Multiset.mem_add.mpr (.inl hmem)
              simp only [settle, if_pos hother, Multiset.erase_add_left_pos other hmem, hrest]
          · cases h

theorem settle_frame_left (other : Multiset ρ) (h : settle held es = some held') :
    settle (other + held) es = some (other + held') := by
  simpa only [add_comm other] using settle_frame h other

theorem settle_releases (resources : List ρ) :
    settle (resources : Multiset ρ) (resources.map Event.release) = some 0 := by
  induction resources with
  | nil => rfl
  | cons r rs ih =>
      rw [← Multiset.cons_coe, List.map_cons, settle_release]
      exact ih

/-- Two functions that touch different things, one after the other. -/
theorem settle_both {a a' b b' : Multiset ρ} (first : settle a es = some a')
    (second : settle b fs = some b') : settle (a + b) (es ++ fs) = some (a' + b') :=
  settle_trans (settle_frame first b) (settle_frame_left a' second)

/-- A loop over slots that each hold their own. -/
theorem settle_flatMap {κ : Type*} (slots : List κ) {before after : κ → Multiset ρ}
    {events : κ → List (Event ρ)}
    (each : ∀ slot ∈ slots, settle (before slot) (events slot) = some (after slot)) :
    settle (slots.map before).sum (slots.flatMap events) = some (slots.map after).sum := by
  induction slots with
  | nil => rfl
  | cons slot slots ih =>
      simp only [List.map_cons, List.sum_cons, List.flatMap_cons]
      apply settle_both
      · exact each slot List.mem_cons_self
      · exact ih fun other hother => each other (List.mem_cons_of_mem slot hother)

/-- An operation on one of many slots. -/
theorem settle_slot {κ : Type*} [Fintype κ] [DecidableEq κ] {before after : κ → Multiset ρ}
    (slot : κ) (same : ∀ other, other ≠ slot → after other = before other)
    (each : settle (before slot) es = some (after slot)) :
    settle (∑ k, before k) es = some (∑ k, after k) := by
  have hothers : ∑ k ∈ Finset.univ.erase slot, after k = ∑ k ∈ Finset.univ.erase slot, before k :=
    Finset.sum_congr rfl fun other hother => same other (Finset.ne_of_mem_erase hother)
  rw [← Finset.add_sum_erase _ before (Finset.mem_univ slot),
    ← Finset.add_sum_erase _ after (Finset.mem_univ slot), hothers]
  exact settle_frame each _

end Settle

section Run

/-- The events of a run. -/
def emitted (step : σ → ι → σ) (out : σ → ι → List (Event ρ)) : σ → List ι → List (Event ρ)
  | _, [] => []
  | s, i :: is => out s i ++ emitted step out (step s i) is

/-- What the steps of a run lose, together. -/
def lost (step : σ → ι → σ) (leak : σ → ι → Multiset ρ) : σ → List ι → Multiset ρ
  | _, [] => 0
  | s, i :: is => leak s i + lost step leak (step s i) is

variable {step : σ → ι → σ} {out : σ → ι → List (Event ρ)} {leak : σ → ι → Multiset ρ}
  {I : σ → Prop} {s : σ}

theorem lost_eq_zero_iff (s : σ) (is : List ι) :
    lost step leak s is = 0 ↔ Machine.Meets step (fun s i => leak s i = 0) s is := by
  induction is generalizing s with
  | nil => exact iff_of_true rfl trivial
  | cons i is ih => simp only [lost, add_eq_zero, ih, Machine.meets_cons]

variable [DecidableEq ρ] {holds : σ → Multiset ρ}

/-- Every step accounts for what it takes over, so the run does. -/
theorem settle_run (preserved : ∀ s i, I s → I (step s i))
    (balanced : ∀ s i, I s → settle (holds s) (out s i) = some (holds (step s i) + leak s i))
    (start : I s) (is : List ι) :
    settle (holds s) (emitted step out s is) =
      some (holds (Machine.run step s is) + lost step leak s is) := by
  induction is generalizing s with
  | nil => simp only [emitted, lost, settle_nil, Machine.run_nil, add_zero]
  | cons i is ih =>
      have hrest := ih (preserved s i start)
      have hframe := settle_frame hrest (leak s i)
      simp only [emitted, lost, Machine.run_cons]
      apply settle_trans (balanced s i start)
      rw [hframe, add_assoc, add_comm (lost step leak (step s i) is)]

/-- A machine that loses nothing holds behind a run what its last state holds. -/
theorem settle_run_of_meets {ok : σ → ι → Prop} (preserved : ∀ s i, I s → ok s i → I (step s i))
    (balanced : ∀ s i, I s → ok s i → settle (holds s) (out s i) = some (holds (step s i)))
    (start : I s) {is : List ι} (meets : Machine.Meets step ok s is) :
    settle (holds s) (emitted step out s is) = some (holds (Machine.run step s is)) := by
  induction is generalizing s with
  | nil => rfl
  | cons i is ih =>
      simp only [emitted, Machine.run_cons]
      apply settle_trans (balanced s i start meets.1)
      exact ih (preserved s i start meets.1) meets.2

end Run

end AtScaleDebug.Ledger
