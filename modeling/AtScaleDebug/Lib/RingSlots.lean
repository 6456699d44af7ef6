import Mathlib.Data.List.Induction
import AtScaleDebug.Lib.LastWrite

/-!
A row of slots that is filled by a counter which starts again at zero when it reaches its
modulus. A slot holds the last item that came at its position, counted modulo that number;
as long as the counter does not start again this is the item at the position itself.
-/

namespace AtScaleDebug.RingSlots

universe u
variable {α : Type u}

/-- The last item at a position that is `j` modulo `m`, when the first is at `start`. -/
def lastAt (m j start : Nat) (items : List α) : Option α :=
  LastWrite.lastWrite (fun p : α × Nat => if p.2 % m = j then some p.1 else none)
    (items.zipIdx start)

variable (m j start : Nat)

@[simp] theorem lastAt_nil : lastAt m j start ([] : List α) = none := rfl

theorem lastAt_append (xs ys : List α) :
    lastAt m j start (xs ++ ys) =
      (lastAt m j (start + xs.length) ys).or (lastAt m j start xs) := by
  simp only [lastAt, LastWrite.lastWrite, List.zipIdx_append, List.filterMap_append,
    List.getLast?_append]

theorem lastAt_singleton (item : α) :
    lastAt m j start [item] = if start % m = j then some item else none := by
  rw [lastAt, LastWrite.lastWrite, List.zipIdx_cons, List.zipIdx_nil]
  split
  · next h => simp [h]
  · next h => simp [h]

variable {m j}

/-- A slot behind the last item is not reached. -/
theorem lastAt_of_length_le {items : List α} (h : items.length ≤ j) :
    lastAt m j 0 items = none := by
  refine LastWrite.lastWrite_eq_none_iff.mpr ?_
  rintro ⟨item, position⟩ hmem
  have hlt : position < 0 + items.length := (List.mem_zipIdx hmem).2.1
  have hle := Nat.mod_le position m
  have hne : position % m ≠ j := by omega
  exact if_neg hne

/-- Before the counter starts again a slot holds its own item. -/
theorem lastAt_eq_getElem? {items : List α} (h : items.length ≤ m) :
    lastAt m j 0 items = items[j]? := by
  induction items using List.reverseRecOn with
  | nil => rfl
  | append_singleton items item ih =>
      rw [List.length_append, List.length_singleton] at h
      rw [lastAt_append, lastAt_singleton, Nat.zero_add, Nat.mod_eq_of_lt h,
        ih (Nat.le_of_succ_le h)]
      split
      · next hat => rw [← hat, List.getElem?_concat_length, Option.some_or]
      · next hne =>
          rw [Option.none_or]
          rcases Nat.lt_or_ge j items.length with hlt | hge
          · rw [List.getElem?_append_left hlt]
          · rw [List.getElem?_eq_none hge, List.getElem?_eq_none]
            rw [List.length_append, List.length_singleton]
            omega

end AtScaleDebug.RingSlots
