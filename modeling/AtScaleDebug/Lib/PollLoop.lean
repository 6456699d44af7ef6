import Mathlib.Data.List.Basic

/-!
Loops over a level-triggered poll.

A source has a finite list of pending events and may be failed, which every poll reports
whether or not there is an event. The loop polls, leaves when nothing is reported, and
otherwise hands each source with its first event, if it has one, to a handler that may
leave as well. The handler takes the event off with a read that can fail; the event is
then pending at the next poll again. Such a loop ends when it never gets to a round in
which the poll reports something and no read takes an event.
-/

namespace AtScaleDebug.PollLoop

universe u v w x
variable {σ : Type u} {δ : Type v} {ε : Type w} {ρ : Type x}

structure Source (δ : Type v) (ε : Type w) where
  name : δ
  pending : List ε
  failed : Bool

namespace Source

def Reported (source : Source δ ε) : Prop := source.pending ≠ [] ∨ source.failed = true

instance (source : Source δ ε) : Decidable source.Reported :=
  match h : source.pending with
  | [] => decidable_of_iff (source.failed = true) (by simp [Reported, h])
  | _ :: _ => .isTrue (.inl (by simp [h]))

/-- The source after a call that takes its first event or not. -/
def after (source : Source δ ε) (taken : Bool) : Source δ ε :=
  if taken then { source with pending := source.pending.tail } else source

@[simp] theorem after_name (source : Source δ ε) (taken : Bool) :
    (source.after taken).name = source.name := by
  cases taken <;> rfl

@[simp] theorem after_failed (source : Source δ ε) (taken : Bool) :
    (source.after taken).failed = source.failed := by
  cases taken <;> rfl

theorem after_pending_le (source : Source δ ε) (taken : Bool) :
    (source.after taken).pending.length ≤ source.pending.length := by
  cases taken with
  | false => exact Nat.le_refl _
  | true => exact Nat.le_trans (Nat.le_of_eq List.length_tail) (Nat.sub_le _ _)

end Source

/-- How many events are pending. -/
def backlog : List (Source δ ε) → Nat
  | [] => 0
  | source :: sources => source.pending.length + backlog sources

/-- The poll of a round reports something, and no read of the round takes an event. -/
def Stalled (taken : Nat → δ → Bool) (k : Nat) (sources : List (Source δ ε)) : Prop :=
  (∃ source ∈ sources, source.Reported) ∧
    ∀ source ∈ sources, source.pending ≠ [] → taken k source.name = false

section Loop
variable (handle : Nat → σ → δ → Option ε → σ ⊕ ρ) (taken : Nat → δ → Bool) (quiet : σ → ρ)

/-- Round `k`: each source in turn, until the handler leaves. -/
def handleAll (k : Nat) : σ → List (Source δ ε) → (σ × List (Source δ ε)) ⊕ ρ
  | s, [] => .inl (s, [])
  | s, source :: sources =>
      match handle k s source.name source.pending.head? with
      | .inr result => .inr result
      | .inl s =>
          match handleAll k s sources with
          | .inr result => .inr result
          | .inl (s, sources) => .inl (s, source.after (taken k source.name) :: sources)

/-- A poll and the round behind it. -/
def iteration (k : Nat) (s : σ) (sources : List (Source δ ε)) : (σ × List (Source δ ε)) ⊕ ρ :=
  if ∃ source ∈ sources, source.Reported then handleAll handle taken k s sources
  else .inr (quiet s)

/-- So many iterations from number `k` on; `none` is when the loop is not done by then. -/
def pollLoop : Nat → Nat → σ → List (Source δ ε) → Option ρ
  | 0, _, _, _ => none
  | n + 1, k, s, sources =>
      match iteration handle taken quiet k s sources with
      | .inr result => some result
      | .inl (s, sources) => pollLoop n (k + 1) s sources

/-- Where the loop stands after so many iterations from number `k` on, if it gets there. -/
def before : Nat → Nat → σ → List (Source δ ε) → Option (σ × List (Source δ ε))
  | 0, _, s, sources => some (s, sources)
  | n + 1, k, s, sources =>
      match iteration handle taken quiet k s sources with
      | .inr _ => none
      | .inl (s, sources) => before n (k + 1) s sources

/-- The iteration leaves the loop or takes an event. -/
def Progress (k : Nat) (s : σ) (sources : List (Source δ ε)) : Prop :=
  ∀ t rest, iteration handle taken quiet k s sources = .inl (t, rest) →
    backlog rest < backlog sources

/-- The iteration leaves the loop. -/
def Leaves (k : Nat) (s : σ) (sources : List (Source δ ε)) : Prop :=
  ∃ result, iteration handle taken quiet k s sources = .inr result

end Loop

section Rounds
variable {handle : Nat → σ → δ → Option ε → σ ⊕ ρ} {taken : Nat → δ → Bool} {quiet : σ → ρ}
  {k : Nat}

@[simp] theorem backlog_cons (source : Source δ ε) (sources : List (Source δ ε)) :
    backlog (source :: sources) = source.pending.length + backlog sources := rfl

/-- A round that goes on changes the sources by its reads. -/
theorem handleAll_sources {s t : σ} {sources rest : List (Source δ ε)}
    (h : handleAll handle taken k s sources = .inl (t, rest)) :
    rest = sources.map fun source => source.after (taken k source.name) := by
  induction sources generalizing s rest with
  | nil =>
      cases h
      rfl
  | cons source sources ih =>
      rw [handleAll] at h
      split at h
      · cases h
      · split at h
        · cases h
        · next hrest =>
            cases h
            rw [List.map_cons, ih hrest]

/-- An iteration goes on only when something is reported. -/
theorem iteration_goes {s t : σ} {sources rest : List (Source δ ε)}
    (h : iteration handle taken quiet k s sources = .inl (t, rest)) :
    (∃ source ∈ sources, source.Reported) ∧
      rest = sources.map fun source => source.after (taken k source.name) := by
  rw [iteration] at h
  split at h
  · next hreported => exact ⟨hreported, handleAll_sources h⟩
  · cases h

theorem iteration_single {source : Source δ ε} {s t : σ} (hreported : source.Reported)
    (h : handle k s source.name source.pending.head? = .inl t) :
    iteration handle taken quiet k s [source] =
      .inl (t, [source.after (taken k source.name)]) := by
  rw [iteration, if_pos ⟨source, List.mem_singleton_self _, hreported⟩, handleAll, h]
  rfl

theorem backlog_after_le (sources : List (Source δ ε)) :
    backlog (sources.map fun source => source.after (taken k source.name)) ≤ backlog sources := by
  induction sources with
  | nil => exact Nat.le_refl 0
  | cons source sources ih =>
      rw [List.map_cons, backlog_cons, backlog_cons]
      exact Nat.add_le_add (source.after_pending_le _) ih

theorem backlog_after_lt {sources : List (Source δ ε)}
    (h : ∃ source ∈ sources, source.pending ≠ [] ∧ taken k source.name = true) :
    backlog (sources.map fun source => source.after (taken k source.name)) < backlog sources := by
  induction sources with
  | nil =>
      obtain ⟨_, hmem, _⟩ := h
      cases hmem
  | cons source sources ih =>
      rw [List.map_cons, backlog_cons, backlog_cons]
      obtain ⟨s, hmem, hpending, htaken⟩ := h
      obtain rfl | hmem := List.mem_cons.mp hmem
      · refine Nat.add_lt_add_of_lt_of_le ?_ (backlog_after_le sources)
        rw [Source.after, if_pos htaken, List.length_tail]
        exact Nat.sub_one_lt (mt List.length_eq_zero_iff.mp hpending)
      · exact Nat.add_lt_add_of_le_of_lt (source.after_pending_le _)
          (ih ⟨s, hmem, hpending, htaken⟩)

/-- A stalled round that goes on leaves all events where they are. -/
theorem backlog_after_stalled {sources : List (Source δ ε)} (h : Stalled taken k sources) :
    backlog (sources.map fun source => source.after (taken k source.name)) = backlog sources := by
  obtain ⟨-, hreads⟩ := h
  induction sources with
  | nil => rfl
  | cons source sources ih =>
      obtain ⟨hsource, hsources⟩ := List.forall_mem_cons.mp hreads
      rw [List.map_cons, backlog_cons, backlog_cons, ih hsources]
      by_cases hpending : source.pending = []
      · have hafter : (source.after (taken k source.name)).pending.length = 0 := by
          have hle := source.after_pending_le (taken k source.name)
          rw [hpending] at hle
          exact Nat.le_zero.mp hle
        rw [hafter, hpending]
        rfl
      · rw [hsource hpending]
        rfl

theorem exists_taken_of_not_stalled {sources : List (Source δ ε)}
    (hreported : ∃ source ∈ sources, source.Reported) (h : ¬ Stalled taken k sources) :
    ∃ source ∈ sources, source.pending ≠ [] ∧ taken k source.name = true := by
  by_contra hnone
  refine h ⟨hreported, fun source hmem hpending => ?_⟩
  exact Bool.eq_false_iff.mpr fun htaken => hnone ⟨source, hmem, hpending, htaken⟩

/-- An iteration makes progress if and only if it leaves when it is stalled. -/
theorem progress_iff (s : σ) (sources : List (Source δ ε)) :
    Progress handle taken quiet k s sources ↔
      (Stalled taken k sources → Leaves handle taken quiet k s sources) := by
  constructor
  · intro hprogress hstalled
    cases hround : iteration handle taken quiet k s sources with
    | inr result => exact ⟨result, hround⟩
    | inl next =>
        obtain ⟨t, rest⟩ := next
        have hlt := hprogress t rest hround
        rw [(iteration_goes hround).2, backlog_after_stalled hstalled] at hlt
        exact absurd hlt (Nat.lt_irrefl _)
  · intro hleaves t rest hround
    obtain ⟨hreported, hrest⟩ := iteration_goes hround
    have hstalled : ¬ Stalled taken k sources := by
      intro hstalled
      obtain ⟨result, hresult⟩ := hleaves hstalled
      rw [hround] at hresult
      cases hresult
    rw [hrest]
    exact backlog_after_lt (exists_taken_of_not_stalled hreported hstalled)

/-- With progress in every iteration that it gets to, the loop ends within as many
iterations as events are pending and one more. -/
theorem pollLoop_ends {n : Nat} {s : σ} {sources : List (Source δ ε)}
    (enough : backlog sources < n)
    (h : ∀ j t rest, before handle taken quiet j k s sources = some (t, rest) →
      Progress handle taken quiet (k + j) t rest) :
    ∃ result, pollLoop handle taken quiet n k s sources = some result := by
  induction n generalizing k s sources with
  | zero => exact absurd enough (Nat.not_lt_zero _)
  | succ n ih =>
      have hprogress : Progress handle taken quiet k s sources := h 0 s sources rfl
      rw [pollLoop]
      cases hround : iteration handle taken quiet k s sources with
      | inr result => exact ⟨result, rfl⟩
      | inl next =>
          obtain ⟨t, rest⟩ := next
          refine ih (Nat.lt_of_lt_of_le (hprogress t rest hround) (Nat.le_of_lt_succ enough)) ?_
          intro j u last hbefore
          rw [Nat.add_right_comm, Nat.add_assoc]
          refine h (j + 1) u last ?_
          rw [before, hround]
          exact hbefore

/-- A loop that an invariant keeps in the same round never ends. -/
theorem pollLoop_spins (inv : σ → Prop) {sources : List (Source δ ε)}
    (h : ∀ k s, inv s → ∃ t, inv t ∧ iteration handle taken quiet k s sources = .inl (t, sources))
    (n : Nat) {s : σ} (hs : inv s) : pollLoop handle taken quiet n k s sources = none := by
  induction n generalizing k s with
  | zero => rfl
  | succ n ih =>
      obtain ⟨t, ht, hround⟩ := h k s hs
      rw [pollLoop, hround]
      exact ih ht

/-- Sources that have not failed and are read without an error never stall. -/
theorem not_stalled_of_sound {j : Nat} {s t : σ} {sources rest : List (Source δ ε)}
    (h : ∀ source ∈ sources, source.failed = false ∧ ∀ k, taken k source.name = true)
    (hbefore : before handle taken quiet j k s sources = some (t, rest)) (i : Nat) :
    ¬ Stalled taken i rest := by
  induction j generalizing k s sources with
  | zero =>
      cases hbefore
      rintro ⟨⟨source, hmem, hreported⟩, hreads⟩
      obtain ⟨hsound, htaken⟩ := h source hmem
      cases hreported with
      | inl hpending => exact absurd (htaken i) (by rw [hreads source hmem hpending]; decide)
      | inr hfailed => exact absurd hfailed (by rw [hsound]; decide)
  | succ j ih =>
      rw [before] at hbefore
      cases hround : iteration handle taken quiet k s sources with
      | inr _ =>
          rw [hround] at hbefore
          cases hbefore
      | inl next =>
          rw [hround] at hbefore
          obtain ⟨u, left⟩ := next
          refine ih (fun source hmem => ?_) hbefore
          rw [(iteration_goes hround).2] at hmem
          obtain ⟨original, horiginal, rfl⟩ := List.mem_map.mp hmem
          rw [Source.after_name, Source.after_failed]
          exact h original horiginal

end Rounds

section Rule
variable {handle : Nat → σ → δ → Option ε → σ ⊕ ρ} {taken : Nat → δ → Bool} {quiet : σ → ρ}
  {P : σ → ρ → Prop}

theorem handleAll_rule (stays : ∀ k s name e t r, handle k s name e = .inl t → P t r → P s r)
    (leaves : ∀ k s name e r, handle k s name e = .inr r → P s r) (k : Nat) (s : σ)
    (sources : List (Source δ ε)) :
    (∀ r, handleAll handle taken k s sources = .inr r → P s r) ∧
      ∀ t rest r, handleAll handle taken k s sources = .inl (t, rest) → P t r → P s r := by
  induction sources generalizing s with
  | nil =>
      refine ⟨(fun r h => by cases h), fun t rest r h hr => ?_⟩
      cases h
      exact hr
  | cons source sources ih =>
      rw [handleAll]
      cases hfirst : handle k s source.name source.pending.head? with
      | inr result =>
          refine ⟨fun r h => ?_, fun t rest r h => by cases h⟩
          cases h
          exact leaves k s _ _ result hfirst
      | inl u =>
          dsimp only
          obtain ⟨hleaves, hstays⟩ := ih u
          cases hrest : handleAll handle taken k u sources with
          | inr result =>
              refine ⟨fun r h => ?_, fun t rest r h => by cases h⟩
              cases h
              exact stays k s _ _ u result hfirst (hleaves result hrest)
          | inl next =>
              refine ⟨(fun r h => by cases h), fun t rest r h hr => ?_⟩
              cases h
              exact stays k s _ _ u r hfirst (hstays _ _ r hrest hr)

/-- What holds when the handler leaves or the poll times out, and is carried back over a
call of the handler, holds when the loop ends. -/
theorem pollLoop_rule (quiets : ∀ s, P s (quiet s))
    (stays : ∀ k s name e t r, handle k s name e = .inl t → P t r → P s r)
    (leaves : ∀ k s name e r, handle k s name e = .inr r → P s r) {n k : Nat} {s : σ}
    {sources : List (Source δ ε)} {result : ρ}
    (h : pollLoop handle taken quiet n k s sources = some result) : P s result := by
  induction n generalizing k s sources with
  | zero => cases h
  | succ n ih =>
      obtain ⟨hleaves, hstays⟩ := @handleAll_rule _ _ _ _ _ taken _ stays leaves k s sources
      rw [pollLoop, iteration] at h
      split at h
      · next r hround =>
          cases h
          split at hround
          · exact hleaves result hround
          · cases hround
            exact quiets s
      · next t rest hround =>
          split at hround
          · exact hstays t rest result hround (ih h)
          · cases hround

end Rule

end AtScaleDebug.PollLoop
