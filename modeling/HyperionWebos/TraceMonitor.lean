import Mathlib.Data.List.Basic

/-! Safety monitors over call traces: a partial automaton that gets stuck at the
first call it forbids. A trace is lawful when the monitor reads all of it, hence
every beginning of a lawful trace is lawful. -/

namespace HyperionWebos.TraceMonitor

structure Monitor (α μ : Type*) where
  start : μ
  next : μ → α → Option μ

namespace Monitor

variable {α μ : Type*} (M : Monitor α μ)

def readFrom : μ → List α → Option μ
  | m, [] => some m
  | m, a :: as => (M.next m a).bind fun m' => readFrom m' as

def after (trace : List α) : Option μ := M.readFrom M.start trace

def Accepts (trace : List α) : Prop := (M.after trace).isSome

instance (trace : List α) : Decidable (M.Accepts trace) :=
  inferInstanceAs (Decidable ((M.after trace).isSome = true))

@[simp] theorem readFrom_nil (m : μ) : M.readFrom m [] = some m := rfl

theorem readFrom_append (m : μ) (xs ys : List α) :
    M.readFrom m (xs ++ ys) = (M.readFrom m xs).bind fun m' => M.readFrom m' ys := by
  induction xs generalizing m with
  | nil => rfl
  | cons x xs ih =>
    rw [List.cons_append, readFrom, readFrom, Option.bind_assoc]
    exact congrArg _ (funext ih)

@[simp] theorem after_nil : M.after [] = some M.start := rfl

theorem after_append {xs : List α} {m : μ} (h : M.after xs = some m) (ys : List α) :
    M.after (xs ++ ys) = M.readFrom m ys := by
  rw [after, readFrom_append, ← after, h, Option.bind_some]

theorem Accepts.of_append {xs ys : List α} (h : M.Accepts (xs ++ ys)) : M.Accepts xs := by
  rw [Accepts, after, readFrom_append, ← after] at h
  rw [Accepts]
  cases hx : M.after xs with
  | none => simp [hx] at h
  | some m => rfl

theorem accepts_of_after {xs : List α} {m : μ} (h : M.after xs = some m) : M.Accepts xs := by
  rw [Accepts, h]
  rfl

/-- What has been added to a trace takes the monitor from `m` to `m'`. -/
def Between (before trace : List α) (m m' : μ) : Prop :=
  ∃ during, trace = before ++ during ∧ M.readFrom m during = some m'

theorem between_refl (trace : List α) (m : μ) : M.Between trace trace m m :=
  ⟨[], (List.append_nil trace).symm, rfl⟩

theorem Between.concat {before trace : List α} {m m' m'' : μ} {a : α}
    (h : M.Between before trace m m') (step : M.next m' a = some m'') :
    M.Between before (trace ++ [a]) m m'' := by
  obtain ⟨during, rfl, reads⟩ := h
  refine ⟨during ++ [a], List.append_assoc .., ?_⟩
  rw [readFrom_append, reads, Option.bind_some, readFrom, step]
  rfl

theorem Between.drop {before trace : List α} {m m' : μ} (h : M.Between before trace m m') :
    M.readFrom m (trace.drop before.length) = some m' := by
  obtain ⟨during, rfl, reads⟩ := h
  rw [List.drop_left, reads]

end Monitor

section Since

variable {α : Type*}

/-- An `x` has occurred and no `y` after it. -/
def Since (x y : α) (trace : List α) : Prop :=
  ∃ before after, trace = before ++ x :: after ∧ y ∉ after

def EachAllowed (allowed : List α → α → Prop) (trace : List α) : Prop :=
  ∀ before a after, trace = before ++ a :: after → allowed before a

theorem since_nil (x y : α) : ¬ Since x y [] := by
  rintro ⟨before, after, split, _⟩
  simp at split

theorem since_concat {x y : α} (apart : x ≠ y) (trace : List α) (a : α) :
    Since x y (trace ++ [a]) ↔ a = x ∨ a ≠ y ∧ Since x y trace := by
  constructor
  · rintro ⟨before, after, split, absent⟩
    rcases List.eq_nil_or_concat after with rfl | ⟨after', last, rfl⟩
    · obtain ⟨_, same⟩ := List.append_inj' split rfl
      exact Or.inl (List.singleton_inj.mp same)
    · rw [List.concat_eq_append, ← List.cons_append, ← List.append_assoc] at split
      obtain ⟨rfl, same⟩ := List.append_inj' split rfl
      rw [List.concat_eq_append, List.mem_append, not_or] at absent
      refine Or.inr ⟨?_, before, after', rfl, absent.1⟩
      rintro rfl
      exact absent.2 (by rw [List.singleton_inj.mp same]; exact List.mem_singleton_self _)
  · rintro (rfl | ⟨other, before, after, rfl, absent⟩)
    · exact ⟨trace, [], rfl, List.not_mem_nil⟩
    · refine ⟨before, after ++ [a], by simp, ?_⟩
      rw [List.mem_append, List.mem_singleton, not_or]
      exact ⟨absent, Ne.symm other⟩

theorem eachAllowed_nil (allowed : List α → α → Prop) : EachAllowed allowed [] := by
  rintro before a after split
  simp at split

theorem eachAllowed_concat {allowed : List α → α → Prop} {trace : List α} {a : α} :
    EachAllowed allowed (trace ++ [a]) ↔ EachAllowed allowed trace ∧ allowed trace a := by
  constructor
  · intro each
    refine ⟨?_, each trace a [] rfl⟩
    rintro before b after rfl
    exact each before b (after ++ [a]) (by simp)
  · rintro ⟨each, last⟩ before b after split
    rcases List.eq_nil_or_concat after with rfl | ⟨after', c, rfl⟩
    · obtain ⟨rfl, same⟩ := List.append_inj' split rfl
      rwa [← List.singleton_inj.mp same]
    · rw [List.concat_eq_append, ← List.cons_append, ← List.append_assoc] at split
      obtain ⟨rfl, _⟩ := List.append_inj' split rfl
      exact each before b after' rfl

end Since

end HyperionWebos.TraceMonitor
