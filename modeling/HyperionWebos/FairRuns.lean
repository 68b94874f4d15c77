import HyperionWebos.Runs

/-! Progress of threads that take turns. A schedule is a list of events, cut into rounds in
each of which every thread takes part. A rank that no step raises, with a thread at hand
whose next step lowers it, runs out within as many rounds. What the surroundings promise is
a law of the steps. -/

namespace HyperionWebos.FairRuns
open Runs

variable {σ ε φ ι : Type}

/-- `es` begins with `n` rounds, one after the other, in each of which every thread moves. -/
inductive Rounds (moves : ι → ε → Prop) : Nat → List ε → Prop
  | done (es : List ε) : Rounds moves 0 es
  | round {n : Nat} {first later : List ε} (all : ∀ i, ∃ e ∈ first, moves i e)
      (rest : Rounds moves n later) : Rounds moves (n + 1) (first ++ later)

/-- The run ends in a failure, or some beginning of it in a state that meets the goal. -/
def Meets (step : σ → ε → Except φ σ) (goal : σ → Prop) : σ → List ε → Prop
  | s, [] => goal s
  | s, e :: es => goal s ∨ ∀ t, step s e = .ok t → Meets step goal t es

/-- From a state of the invariant that is short of the goal, a step lowers the rank; or it
leaves rank and helper as they are, and the helper did not take it. -/
structure Progress (step : σ → ε → Except φ σ) (moves : ι → ε → Prop) (I goal : σ → Prop)
    (rank : σ → Nat) (helper : σ → ι) : Prop where
  keeps : ∀ s e t, I s → ¬ goal s → step s e = .ok t → I t
  lowers : ∀ s e t, I s → ¬ goal s → step s e = .ok t →
    rank t < rank s ∨ (rank t = rank s ∧ helper t = helper s ∧ ¬ moves (helper s) e)

/-- The system where its surroundings keep the law `R`; a step that breaks it is none. -/
def lawful (step : σ → ε → Except φ σ) (R : σ → ε → σ → Prop) [∀ s e t, Decidable (R s e t)]
    (s : σ) (e : ε) : Except (Option φ) σ :=
  match step s e with
  | .ok t => if R s e t then .ok t else .error none
  | .error f => .error (some f)

section Lawful

variable {step : σ → ε → Except φ σ} {R : σ → ε → σ → Prop} [∀ s e t, Decidable (R s e t)]
  {s t : σ} {e : ε} {es : List ε}

theorem lawful_ok : lawful step R s e = .ok t ↔ step s e = .ok t ∧ R s e t := by
  unfold lawful
  cases step s e with
  | error f => simp
  | ok u =>
    dsimp only
    split
    · next law =>
      constructor
      · intro taken
        cases taken
        exact ⟨rfl, law⟩
      · rintro ⟨taken, _⟩
        exact congrArg Except.ok (Except.ok.inj taken)
    · next broken =>
      constructor
      · intro taken
        cases taken
      · rintro ⟨taken, law⟩
        cases taken
        exact absurd law broken

theorem run_lawful_ok : run (lawful step R) s es = .ok t ↔
    run step s es = .ok t ∧ Throughout step R s es := by
  induction es generalizing s with
  | nil => simp [Throughout]
  | cons e es ih =>
    rw [run_cons_ok, run_cons_ok]
    constructor
    · rintro ⟨u, taken, rest⟩
      obtain ⟨taken, law⟩ := lawful_ok.mp taken
      obtain ⟨ran, later⟩ := ih.mp rest
      exact ⟨⟨u, taken, ran⟩, (throughout_cons taken).mpr ⟨law, later⟩⟩
    · rintro ⟨⟨u, taken, ran⟩, laws⟩
      obtain ⟨law, later⟩ := (throughout_cons taken).mp laws
      exact ⟨u, lawful_ok.mpr ⟨taken, law⟩, ih.mpr ⟨ran, later⟩⟩

end Lawful

section Rules

variable {step : σ → ε → Except φ σ} {moves : ι → ε → Prop} {I goal : σ → Prop}
  {rank : σ → Nat} {helper : σ → ι} {s : σ} {es later : List ε} {n : Nat}

theorem rounds_flatten {rounds : List (List ε)} (all : ∀ r ∈ rounds, ∀ i, ∃ e ∈ r, moves i e) :
    Rounds moves rounds.length rounds.flatten := by
  induction rounds with
  | nil => exact .done []
  | cons r rounds ih =>
    obtain ⟨here, later⟩ := List.forall_mem_cons.mp all
    exact .round here (ih later)

theorem meets_goal (here : goal s) : Meets step goal s es := by
  cases es with
  | nil => exact here
  | cons e es => exact .inl here

theorem meets_iff : Meets step goal s es ↔
    (∃ f, run step s es = .error f) ∨
      ∃ before t, before <+: es ∧ run step s before = .ok t ∧ goal t := by
  induction es generalizing s with
  | nil =>
    constructor
    · exact fun here => .inr ⟨[], s, List.nil_prefix, rfl, here⟩
    · rintro (⟨f, failed⟩ | ⟨before, t, early, ran, here⟩)
      · cases failed
      · cases List.prefix_nil.mp early
        cases ran
        exact here
  | cons e es ih =>
    constructor
    · rintro (here | meets)
      · exact .inr ⟨[], s, List.nil_prefix, rfl, here⟩
      · cases taken : step s e with
        | error f => exact .inl ⟨f, by rw [run, taken, error_bind]⟩
        | ok t =>
          obtain ⟨f, failed⟩ | ⟨before, u, early, ran, here⟩ := ih.mp (meets t taken)
          · exact .inl ⟨f, by rw [run, taken, ok_bind, failed]⟩
          · exact .inr ⟨e :: before, u, List.cons_prefix_cons.mpr ⟨rfl, early⟩,
              run_cons_ok.mpr ⟨t, taken, ran⟩, here⟩
    · rintro (⟨f, failed⟩ | ⟨before, u, early, ran, here⟩)
      · refine .inr fun t taken => ih.mpr (.inl ⟨f, ?_⟩)
        rw [run, taken, ok_bind] at failed
        exact failed
      · cases before with
        | nil =>
          cases ran
          exact .inl here
        | cons e' before =>
          obtain ⟨rfl, later⟩ := List.cons_prefix_cons.mp early
          obtain ⟨t, taken, ran⟩ := run_cons_ok.mp ran
          refine .inr fun t' taken' => ?_
          cases taken.symm.trans taken'
          exact ih.mpr (.inr ⟨before, u, later, ran, here⟩)

theorem Progress.coast (p : Progress step moves I goal rank helper) {first : List ε} {r : Nat}
    (start : I s) (low : rank s < r)
    (rest : ∀ t, I t → rank t < r → Meets step goal t later) :
    Meets step goal s (first ++ later) := by
  induction first generalizing s with
  | nil => exact rest s start low
  | cons e first ih =>
    by_cases here : goal s
    · exact meets_goal here
    · refine .inr fun t taken => ih (p.keeps s e t start here taken) ?_
      obtain less | ⟨same, -⟩ := p.lowers s e t start here taken
      · exact Nat.lt_trans less low
      · exact same ▸ low

theorem Progress.round (p : Progress step moves I goal rank helper) {first : List ε}
    (start : I s) (helps : ∃ e ∈ first, moves (helper s) e)
    (rest : ∀ t, I t → rank t < rank s → Meets step goal t later) :
    Meets step goal s (first ++ later) := by
  induction first generalizing s with
  | nil =>
    obtain ⟨e, member, -⟩ := helps
    cases member
  | cons e first ih =>
    by_cases here : goal s
    · exact meets_goal here
    · refine .inr fun t taken => ?_
      have kept := p.keeps s e t start here taken
      obtain less | ⟨same, still, other⟩ := p.lowers s e t start here taken
      · exact p.coast kept less rest
      · refine ih kept ?_ fun u keeps low => rest u keeps (same ▸ low)
        obtain ⟨e', member, moved⟩ := helps
        obtain rfl | member := List.mem_cons.mp member
        · exact absurd moved other
        · exact ⟨e', member, still ▸ moved⟩

theorem Progress.meets (p : Progress step moves I goal rank helper) (start : I s)
    (rounds : Rounds moves n es) (enough : rank s < n) : Meets step goal s es := by
  induction rounds generalizing s with
  | done es => exact absurd enough (Nat.not_lt_zero _)
  | round all rest ih =>
    refine p.round start (all (helper s)) fun t kept low => ih kept ?_
    omega

end Rules

end HyperionWebos.FairRuns
