import Mathlib.Data.List.Basic

/-!
Deterministic machines driven by a list of inputs.

`run` feeds the inputs from left to right. `Meets` says that every input is
taken in a state where a side condition holds, so a result about guarded runs
has the side condition as an explicit premise on the states actually visited.
The rules below are the ones the protocol developments use: an invariant along
a run, a step property along a run, exchange of two step properties that agree
under an invariant, and agreement of two machines related by a relation.
-/
namespace AtScaleDebug.Machine

universe u v w
variable {σ : Type u} {τ : Type v} {ι : Type w}

def run (step : σ → ι → σ) : σ → List ι → σ
  | s, [] => s
  | s, i :: is => run step (step s i) is

/-- Every input of the run meets `ok` in the state in which it is taken. -/
def Meets (step : σ → ι → σ) (ok : σ → ι → Prop) : σ → List ι → Prop
  | _, [] => True
  | s, i :: is => ok s i ∧ Meets step ok (step s i) is

instance decidableMeets (step : σ → ι → σ) (ok : σ → ι → Prop)
    [∀ s i, Decidable (ok s i)] : ∀ (s : σ) (is : List ι), Decidable (Meets step ok s is)
  | _, [] => inferInstanceAs (Decidable True)
  | s, i :: is =>
      have := decidableMeets step ok (step s i) is
      inferInstanceAs (Decidable (_ ∧ _))

@[simp] theorem run_nil (step : σ → ι → σ) (s : σ) : run step s [] = s := rfl

@[simp] theorem run_cons (step : σ → ι → σ) (s : σ) (i : ι) (is : List ι) :
    run step s (i :: is) = run step (step s i) is := rfl

theorem run_append (step : σ → ι → σ) (s : σ) (is js : List ι) :
    run step s (is ++ js) = run step (run step s is) js := by
  induction is generalizing s with
  | nil => rfl
  | cons i is ih => exact ih (step s i)

@[simp] theorem meets_nil (step : σ → ι → σ) (ok : σ → ι → Prop) (s : σ) :
    Meets step ok s [] := True.intro

@[simp] theorem meets_cons (step : σ → ι → σ) (ok : σ → ι → Prop) (s : σ) (i : ι)
    (is : List ι) :
    Meets step ok s (i :: is) ↔ ok s i ∧ Meets step ok (step s i) is := Iff.rfl

theorem meets_append (step : σ → ι → σ) (ok : σ → ι → Prop) (s : σ) (is js : List ι) :
    Meets step ok s (is ++ js) ↔ Meets step ok s is ∧ Meets step ok (run step s is) js := by
  induction is generalizing s with
  | nil => simp
  | cons i is ih => simp only [List.cons_append, meets_cons, ih, run_cons, and_assoc]

/-- The pointwise reading of `Meets`: each input, in the state its prefix leads to. -/
theorem meets_iff (step : σ → ι → σ) (ok : σ → ι → Prop) (s : σ) (is : List ι) :
    Meets step ok s is ↔
      ∀ before i after, is = before ++ i :: after → ok (run step s before) i := by
  constructor
  · rintro h before i after rfl
    exact ((meets_append step ok s before (i :: after)).mp h).2.1
  · intro h
    induction is generalizing s with
    | nil => exact meets_nil step ok s
    | cons i is ih =>
        refine ⟨h [] i is rfl, ih (step s i) ?_⟩
        rintro before j after rfl
        exact h (i :: before) j after rfl

theorem meets_and (step : σ → ι → σ) (P Q : σ → ι → Prop) (s : σ) (is : List ι) :
    Meets step (fun s i => P s i ∧ Q s i) s is ↔ Meets step P s is ∧ Meets step Q s is := by
  induction is generalizing s with
  | nil => simp
  | cons i is ih => simp only [meets_cons, ih, and_and_and_comm]

/-- A machine whose steps are runs of a finer machine is itself such a run. -/
theorem run_flatMap {κ : Type*} {coarse : σ → κ → σ} {step : σ → ι → σ} {parts : κ → List ι}
    (refines : ∀ s k, coarse s k = run step s (parts k)) (s : σ) (ks : List κ) :
    run coarse s ks = run step s (ks.flatMap parts) := by
  induction ks generalizing s with
  | nil => rfl
  | cons k ks ih => rw [run_cons, ih, refines, List.flatMap_cons, run_append]

/-- A condition that the inputs meet in every state. -/
theorem meets_of_mem {step : σ → ι → σ} {ok : σ → ι → Prop} {is : List ι}
    (h : ∀ s i, i ∈ is → ok s i) (s : σ) : Meets step ok s is := by
  induction is generalizing s with
  | nil => exact True.intro
  | cons i is ih =>
      refine ⟨h s i List.mem_cons_self, ?_⟩
      exact ih (fun t j hj => h t j (List.mem_cons_of_mem i hj)) (step s i)

section Invariant
variable {step : σ → ι → σ} {ok : σ → ι → Prop} {I : σ → Prop}

theorem run_invariant (preserved : ∀ s i, I s → ok s i → I (step s i))
    {s : σ} {is : List ι} (start : I s) (meets : Meets step ok s is) :
    I (run step s is) := by
  induction is generalizing s with
  | nil => exact start
  | cons i is ih => exact ih (preserved s i start meets.1) meets.2

theorem run_invariant_of_step (preserved : ∀ s i, I s → I (step s i)) {s : σ}
    (is : List ι) (start : I s) : I (run step s is) := by
  induction is generalizing s with
  | nil => exact start
  | cons i is ih => exact ih (preserved s i start)

/-- A step property that follows from the invariant and the side condition
holds at every step of the run. -/
theorem meets_of_invariant {P : σ → ι → Prop}
    (preserved : ∀ s i, I s → ok s i → I (step s i))
    (holds : ∀ s i, I s → ok s i → P s i)
    {s : σ} {is : List ι} (start : I s) (meets : Meets step ok s is) :
    Meets step P s is := by
  induction is generalizing s with
  | nil => exact True.intro
  | cons i is ih =>
      exact ⟨holds s i start meets.1, ih (preserved s i start meets.1) meets.2⟩

theorem meets_congr {P Q : σ → ι → Prop}
    (preserved : ∀ s i, I s → ok s i → I (step s i))
    (agree : ∀ s i, I s → ok s i → (P s i ↔ Q s i))
    {s : σ} {is : List ι} (start : I s) (meets : Meets step ok s is) :
    Meets step P s is ↔ Meets step Q s is := by
  induction is generalizing s with
  | nil => exact Iff.rfl
  | cons i is ih =>
      exact and_congr (agree s i start meets.1) (ih (preserved s i start meets.1) meets.2)

/-- Two step properties agree along every run when they agree under an invariant that
one of them is enough to keep. -/
theorem meets_iff_of_invariant {P : σ → ι → Prop}
    (preserved : ∀ s i, I s → ok s i → I (step s i)) (agree : ∀ s i, I s → (P s i ↔ ok s i))
    {s : σ} (start : I s) (is : List ι) : Meets step P s is ↔ Meets step ok s is := by
  induction is generalizing s with
  | nil => exact Iff.rfl
  | cons i is ih =>
      rw [meets_cons, meets_cons, agree s i start]
      exact and_congr_right fun hi => ih (preserved s i start hi)

/-- What is never won back holds at the end of a run if and only if every step keeps it. -/
theorem holds_run_iff {P : σ → Prop} (lost : ∀ s i, I s → ¬ P s → ¬ P (step s i))
    (kept : ∀ s i, I s → P s → (P (step s i) ↔ ok s i)) (preserved : ∀ s i, I s → I (step s i))
    {s : σ} (start : I s) (holds : P s) (is : List ι) :
    P (run step s is) ↔ Meets step ok s is := by
  have hlost (s : σ) (is : List ι) (start : I s) (h : ¬ P s) : ¬ P (run step s is) := by
    induction is generalizing s with
    | nil => exact h
    | cons i is ih => exact ih (step s i) (preserved s i start) (lost s i start h)
  induction is generalizing s with
  | nil => exact iff_of_true holds True.intro
  | cons i is ih =>
      rw [run_cons, meets_cons, ← kept s i start holds]
      by_cases hnext : P (step s i)
      · exact (ih (preserved s i start) hnext).trans (and_iff_right hnext).symm
      · exact iff_of_false (hlost _ is (preserved s i start) hnext) fun h => hnext h.1

end Invariant

section Tracks
variable {step : σ → ι → σ} {P Q : σ → ι → Prop} {I J : σ → Prop} {s : σ} {is : List ι}

/-- The inputs all meet `P` if and only if they all meet `Q`, and then the run
ends in `I`. Unlike `meets_congr` this speaks about an input list that is still
being produced. -/
structure Tracks (step : σ → ι → σ) (P Q : σ → ι → Prop) (s : σ) (I : σ → Prop)
    (is : List ι) : Prop where
  meets_iff : Meets step P s is ↔ Meets step Q s is
  holds : Meets step P s is → I (run step s is)

theorem Tracks.nil (start : I s) : Tracks step P Q s I [] := ⟨Iff.rfl, fun _ => start⟩

theorem Tracks.mono (h : Tracks step P Q s I is) (weaker : ∀ t, I t → J t) :
    Tracks step P Q s J is := ⟨h.meets_iff, fun meets => weaker _ (h.holds meets)⟩

theorem Tracks.snoc {i : ι} (h : Tracks step P Q s I is)
    (next : ∀ t, I t → (P t i ↔ Q t i) ∧ (P t i → J (step t i))) :
    Tracks step P Q s J (is ++ [i]) := by
  have hlast (R : σ → ι → Prop) :
      Meets step R s (is ++ [i]) ↔ Meets step R s is ∧ R (run step s is) i := by
    simp only [meets_append, meets_cons, meets_nil, and_true]
  constructor
  · rw [hlast, hlast, ← h.meets_iff]
    exact and_congr_right fun meets => (next _ (h.holds meets)).1
  · intro meets
    obtain ⟨hinit, hi⟩ := (hlast P).mp meets
    rw [run_append]
    exact (next _ (h.holds hinit)).2 hi

end Tracks

/-- Two machines fed the same inputs stay related when one step keeps the relation. -/
theorem run_related {step : σ → ι → σ} {step' : τ → ι → τ} {R : σ → τ → Prop}
    (related : ∀ s t i, R s t → R (step s i) (step' t i))
    {s : σ} {t : τ} (start : R s t) (is : List ι) :
    R (run step s is) (run step' t is) := by
  induction is generalizing s t with
  | nil => exact start
  | cons i is ih => exact ih (related s t i start)

/-- The same for inputs that all meet a condition in the first machine. -/
theorem run_related_of_meets {step : σ → ι → σ} {step' : τ → ι → τ} {R : σ → τ → Prop}
    {ok : σ → ι → Prop} (related : ∀ s t i, R s t → ok s i → R (step s i) (step' t i))
    {s : σ} {t : τ} (start : R s t) {is : List ι} (h : Meets step ok s is) :
    R (run step s is) (run step' t is) := by
  induction is generalizing s t with
  | nil => exact start
  | cons i is ih => exact ih (related s t i start h.1) h.2

end AtScaleDebug.Machine
