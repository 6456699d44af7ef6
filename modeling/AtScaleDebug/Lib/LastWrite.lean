import AtScaleDebug.Lib.Machine
import Mathlib.Data.List.Induction

/-!
Registers of a machine whose inputs write to some of them. A register that every write
assigns holds the last value written. A flag that writes only ever set holds it too, as
long as the last write does not clear what was set before.
-/

namespace AtScaleDebug.LastWrite

universe u v w x
variable {σ : Type u} {ι : Type v} {α : Type w} {β : Type x}

/-- The last value written, if there is any. -/
def lastWrite (writes : ι → Option β) (inputs : List ι) : Option β :=
  (inputs.filterMap writes).getLast?

variable {writes : ι → Option β} {step : σ → ι → σ} {s : σ} {inputs : List ι}

theorem lastWrite_cons_of_none {i : ι} (h : writes i = none) :
    lastWrite writes (i :: inputs) = lastWrite writes inputs := by
  rw [lastWrite, List.filterMap_cons_none h, lastWrite]

theorem lastWrite_cons_of_some {i : ι} {value : β} (h : writes i = some value) :
    lastWrite writes (i :: inputs) = some ((lastWrite writes inputs).getD value) := by
  rw [lastWrite, List.filterMap_cons_some h, List.getLast?_cons, lastWrite]

theorem lastWrite_concat {i : ι} {value : β} (h : writes i = some value) :
    lastWrite writes (inputs ++ [i]) = some value := by
  rw [lastWrite, List.filterMap_append, List.filterMap_cons_some h, List.filterMap_nil,
    List.getLast?_concat]

theorem lastWrite_append_of_none {others : List ι} (h : ∀ i ∈ others, writes i = none) :
    lastWrite writes (inputs ++ others) = lastWrite writes inputs := by
  rw [lastWrite, List.filterMap_append, List.filterMap_eq_nil_iff.mpr h, List.append_nil,
    lastWrite]

theorem lastWrite_eq_some_iff {value : β} : lastWrite writes inputs = some value ↔
    ∃ front i back, inputs = front ++ i :: back ∧ writes i = some value ∧
      ∀ j ∈ back, writes j = none := by
  constructor
  · intro h
    induction inputs using List.reverseRecOn with
    | nil => cases h
    | append_singleton inputs i ih =>
        cases hi : writes i with
        | none =>
            have hnone : ∀ j ∈ [i], writes j = none := by
              intro j hj
              rw [List.mem_singleton.mp hj, hi]
            rw [lastWrite_append_of_none hnone] at h
            obtain ⟨front, j, back, hinputs, hj, hback⟩ := ih h
            refine ⟨front, j, back ++ [i], ?_, hj, ?_⟩
            · rw [hinputs, List.append_assoc, List.cons_append]
            · intro k hk
              exact (List.mem_append.mp hk).elim (hback k) (hnone k)
        | some last =>
            rw [lastWrite_concat hi] at h
            exact ⟨inputs, i, [], rfl, hi.trans h, nofun⟩
  · intro h
    obtain ⟨front, i, back, hinputs, hi, hback⟩ := h
    have hsplit : front ++ i :: back = (front ++ [i]) ++ back := by
      rw [List.append_assoc, List.singleton_append]
    rw [hinputs, hsplit, lastWrite_append_of_none hback, lastWrite_concat hi]

/-- What is written last is written by some input. -/
theorem exists_of_lastWrite {value : β} (h : lastWrite writes inputs = some value) :
    ∃ i ∈ inputs, writes i = some value :=
  List.mem_filterMap.mp (List.mem_of_getLast? h)

theorem lastWrite_eq_none_iff : lastWrite writes inputs = none ↔ ∀ i ∈ inputs, writes i = none := by
  rw [lastWrite, List.getLast?_eq_none_iff, List.filterMap_eq_nil_iff]

/-- A register that is assigned a function of what is written. -/
theorem run_assigned (register : σ → α) {of : β → α}
    (assigns : ∀ s i, register (step s i) = (writes i).elim (register s) of) :
    register (Machine.run step s inputs) = (lastWrite writes inputs).elim (register s) of := by
  induction inputs generalizing s with
  | nil => rfl
  | cons i inputs ih =>
      rw [Machine.run_cons, ih, assigns]
      cases hi : writes i with
      | none => rw [lastWrite_cons_of_none hi, Option.elim_none]
      | some value =>
          rw [lastWrite_cons_of_some hi]
          cases lastWrite writes inputs with
          | none => rfl
          | some last => rfl

section Flag
variable {flag : σ → Bool} {of : β → Bool}

/-- A flag that is only set is set if and only if it was or some write sets it. -/
theorem run_set_iff (sets : ∀ s i, flag (step s i) = (flag s || (writes i).elim false of)) :
    flag (Machine.run step s inputs) = true ↔
      flag s = true ∨ ∃ i ∈ inputs, ∃ value, writes i = some value ∧ of value = true := by
  induction inputs generalizing s with
  | nil => simp only [Machine.run_nil, List.not_mem_nil, false_and, exists_false, or_false]
  | cons i inputs ih =>
      have hfirst : (writes i).elim false of = true ↔
          ∃ value, writes i = some value ∧ of value = true := by
        cases writes i with
        | none => simp
        | some value => simp
      rw [Machine.run_cons, ih, sets, Bool.or_eq_true, hfirst, List.exists_mem_cons_iff, or_assoc]

/-- It holds the last write if and only if that does not clear what was set before. -/
theorem run_set_last_iff (sets : ∀ s i, flag (step s i) = (flag s || (writes i).elim false of)) :
    flag (Machine.run step s inputs) = (lastWrite writes inputs).elim (flag s) of ↔
      ∀ last, lastWrite writes inputs = some last → of last = false →
        flag s = false ∧ ∀ i ∈ inputs, ∀ value, writes i = some value → of value = false := by
  have hset : flag (Machine.run step s inputs) = true ↔ _ := run_set_iff sets
  cases hlast : lastWrite writes inputs with
  | none =>
      refine iff_of_true (Bool.eq_iff_iff.mpr (hset.trans (or_iff_left ?_))) (by rintro last ⟨⟩)
      rintro ⟨i, hi, value, hvalue, _⟩
      rw [lastWrite_eq_none_iff.mp hlast i hi] at hvalue
      cases hvalue
  | some last =>
      rw [Option.elim_some]
      cases hof : of last with
      | true =>
          obtain ⟨i, hi, hwrite⟩ := exists_of_lastWrite hlast
          refine iff_of_true (hset.mpr (.inr ⟨i, hi, last, hwrite, hof⟩)) ?_
          rintro _ ⟨⟩ hclear
          rw [hof] at hclear
          cases hclear
      | false =>
          rw [← Bool.not_eq_true, hset, not_or, Bool.not_eq_true]
          constructor
          · rintro ⟨hbefore, hnone⟩ _ ⟨⟩ _
            refine ⟨hbefore, fun i hi value hvalue => eq_false_of_ne_true fun htrue => ?_⟩
            exact hnone ⟨i, hi, value, hvalue, htrue⟩
          · intro hkept
            obtain ⟨hbefore, hnone⟩ := hkept last rfl hof
            refine ⟨hbefore, ?_⟩
            rintro ⟨i, hi, value, hvalue, htrue⟩
            exact ne_true_of_eq_false (hnone i hi value hvalue) htrue

end Flag

section Acting
variable {register : σ → β} {acts : σ → ι → Option β}

/-- A register that the inputs leave alone. -/
theorem run_kept (assigns : ∀ s i, register (step s i) = (acts s i).getD (register s))
    (h : Machine.Meets step (fun s i => acts s i = none) s inputs) :
    register (Machine.run step s inputs) = register s := by
  induction inputs generalizing s with
  | nil => rfl
  | cons i inputs ih => rw [Machine.run_cons, ih h.2, assigns, h.1, Option.getD_none]

/-- Where it depends on the state whether an input writes: a value that the register does not
have at the start is there in the end if and only if the last input that writes has written
such a value. -/
theorem run_acting_iff (assigns : ∀ s i, register (step s i) = (acts s i).getD (register s))
    {P : β → Prop} (hstart : ¬ P (register s)) :
    P (register (Machine.run step s inputs)) ↔ ∃ front i back value, inputs = front ++ i :: back ∧
      acts (Machine.run step s front) i = some value ∧ P value ∧
      Machine.Meets step (fun s i => acts s i = none)
        (step (Machine.run step s front) i) back := by
  constructor
  · intro h
    induction inputs using List.reverseRecOn with
    | nil => exact absurd h hstart
    | append_singleton inputs i ih =>
        rw [Machine.run_append, Machine.run_cons, Machine.run_nil, assigns] at h
        cases hi : acts (Machine.run step s inputs) i with
        | none =>
            rw [hi, Option.getD_none] at h
            obtain ⟨front, j, back, value, rfl, hj, hvalue, hback⟩ := ih h
            refine ⟨front, j, back ++ [i], value, ?_, hj, hvalue, ?_⟩
            · rw [List.append_assoc, List.cons_append]
            · rw [Machine.run_append, Machine.run_cons] at hi
              exact (Machine.meets_append _ _ _ back [i]).mpr ⟨hback, hi, True.intro⟩
        | some value =>
            rw [hi, Option.getD_some] at h
            exact ⟨inputs, i, [], value, rfl, hi, h, True.intro⟩
  · intro h
    obtain ⟨front, i, back, value, rfl, hi, hvalue, hback⟩ := h
    rw [Machine.run_append, Machine.run_cons, run_kept assigns hback, assigns, hi,
      Option.getD_some]
    exact hvalue

end Acting

end AtScaleDebug.LastWrite
