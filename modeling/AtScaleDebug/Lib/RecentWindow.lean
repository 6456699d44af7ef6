import Mathlib.Data.Fintype.Card
import Mathlib.Data.Multiset.Basic
import Mathlib.Order.Basic

/-!
A fixed number of cells that keeps the latest entries of a sorted history by
always overwriting the smallest cell. The cells are compared with the history
as multisets, so equal entries need no tie-breaking. The last result is what a
rate limiter needs: for an upward closed condition the cells are full of
matching entries exactly when the whole history holds that many of them.
-/

namespace AtScaleDebug.RecentWindow

universe u v
variable {ι : Type u} {τ : Type v}

/-- The last `k` entries of a history, oldest first. -/
def latest (k : Nat) (history : List τ) : List τ :=
  history.drop (history.length - k)

section Latest

theorem length_latest {k : Nat} {history : List τ} (h : k ≤ history.length) :
    (latest k history).length = k := by
  simp only [latest, List.length_drop]
  omega

theorem latest_append_singleton {k : Nat} {history : List τ} (pos : 0 < k)
    (h : k ≤ history.length) (t : τ) :
    latest k (history ++ [t]) = (latest k history).tail ++ [t] := by
  have hsplit : history.length + 1 - k = history.length - k + 1 := by omega
  have hle : history.length - k + 1 ≤ history.length := by omega
  simp only [latest, List.length_append, List.length_singleton, hsplit, List.tail_drop]
  exact List.drop_append_of_le_length hle

variable [LinearOrder τ]

/-- A condition that is kept by larger entries holds of all the last `k`
entries as soon as it holds of any `k` entries. -/
theorem countP_latest_iff {k : Nat} {history : List τ} (sorted : history.Pairwise (· ≤ ·))
    (h : k ≤ history.length) {p : τ → Bool} (up : ∀ a b, a ≤ b → p a → p b) :
    k ≤ (latest k history).countP p ↔ k ≤ history.countP p := by
  constructor
  · intro hk
    exact hk.trans (List.drop_sublist _ _).countP_le
  · intro hk
    by_cases hall : ∀ x ∈ latest k history, p x
    · rw [List.countP_eq_length.mpr hall, length_latest h]
    · push Not at hall
      obtain ⟨x, hx, hpx⟩ := hall
      -- one entry of the window fails, so every entry before the window fails
      have hsorted := sorted
      rw [← List.take_append_drop (history.length - k) history, List.pairwise_append] at hsorted
      have hbefore : (history.take (history.length - k)).countP p = 0 := by
        rw [List.countP_eq_zero]
        intro y hy hpy
        exact hpx (up y x (hsorted.2.2 y hy x hx) hpy)
      rw [← List.take_append_drop (history.length - k) history, List.countP_append, hbefore,
        Nat.zero_add] at hk
      exact hk

end Latest

section Cells
variable [Fintype ι] [DecidableEq ι]

/-- The cell contents without their positions. -/
def entries (ring : ι → τ) : Multiset τ :=
  Finset.univ.val.map ring

theorem entries_eq_cons (ring : ι → τ) (i : ι) :
    entries ring = ring i ::ₘ (Finset.univ.erase i).val.map ring := by
  have hmem : i ∈ (Finset.univ : Finset ι).val := Finset.mem_univ i
  rw [entries, ← Multiset.cons_erase hmem, Multiset.map_cons, Finset.erase_val]

theorem entries_update (ring : ι → τ) (i : ι) (t : τ) :
    entries (Function.update ring i t) = t ::ₘ (Finset.univ.erase i).val.map ring := by
  rw [entries_eq_cons _ i, Function.update_self]
  congr 1
  refine Multiset.map_congr rfl fun j hj => ?_
  exact Function.update_of_ne (Finset.ne_of_mem_erase hj) t ring

variable [LinearOrder τ]

/-- Overwriting a smallest cell moves the window by one entry. -/
theorem entries_replace_oldest {k : Nat} {ring : ι → τ} {history : List τ} {i : ι}
    (pos : 0 < k) (sorted : history.Pairwise (· ≤ ·)) (h : k ≤ history.length)
    (holds : entries ring = latest k history) (oldest : ∀ j, ring i ≤ ring j) (t : τ) :
    entries (Function.update ring i t) = latest k (history ++ [t]) := by
  have hlen := length_latest h
  have hwin : (latest k history).Pairwise (· ≤ ·) := sorted.drop
  rw [latest_append_singleton pos h]
  generalize latest k history = window at *
  cases window with
  | nil => simp only [List.length_nil] at hlen; omega
  | cons a rest =>
      have ha : a ∈ entries ring := by
        rw [holds]
        exact List.mem_cons_self
      rw [← Multiset.cons_coe] at holds
      have hi : ring i ∈ a ::ₘ (rest : Multiset τ) := by
        rw [← holds, entries_eq_cons ring i]
        exact Multiset.mem_cons_self _ _
      obtain ⟨j, -, hj⟩ := Multiset.mem_map.mp ha
      have hmin : a = ring i := by
        refine le_antisymm ?_ (hj ▸ oldest j)
        obtain heq | hmem := Multiset.mem_cons.mp hi
        · exact heq.ge
        · exact (List.pairwise_cons.mp hwin).1 _ hmem
      rw [entries_eq_cons ring i, hmin, Multiset.cons_inj_right] at holds
      rw [entries_update, holds, List.tail_cons, Multiset.cons_coe, Multiset.coe_eq_coe]
      exact (List.perm_append_singleton t rest).symm

end Cells

/-- Counting over the cells in index order is counting over the window. -/
theorem countP_finRange_of_entries {n k : Nat} {ring : Fin n → τ} {history : List τ}
    (holds : entries ring = latest k history) (p : τ → Bool) :
    (List.finRange n).countP (fun i => p (ring i)) = (latest k history).countP p := by
  have hperm : List.Perm (List.ofFn ring) (latest k history) := by
    rw [← Multiset.coe_eq_coe, ← holds, entries, Fin.univ_val_map]
  rw [← hperm.countP_eq p, List.ofFn_eq_map, List.countP_map]
  rfl

end AtScaleDebug.RecentWindow
