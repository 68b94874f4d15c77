import Mathlib.Data.List.Basic

/-! Registers that a sequence of optional writes goes to. Where two kinds of writers share a
register, the last write wins; one kind has precedence over the other, whatever the order,
exactly if no later write of the other changes what it wrote last. -/

namespace HyperionWebos.LastWriter

variable {υ α : Type}

def lastWrite (write : υ → Option α) : List υ → Option α
  | [] => none
  | u :: us => (lastWrite write us).or (write u)

/-- Two kinds of writes; of one element that of the first kind counts. -/
def either (high low : υ → Option α) (u : υ) : Option α := (high u).or (low u)

def Stands (write : υ → Option α) (v : α) (us : List υ) : Prop :=
  ∀ v', lastWrite write us = some v' → v' = v

/-- What `high` writes last stands against the later writes of `low`. -/
def Outlasts (high low : υ → Option α) : List υ → Prop
  | [] => True
  | u :: us =>
    (lastWrite high us = none → ∀ v, high u = some v → Stands low v us) ∧ Outlasts high low us

section Writes

variable {write high low : υ → Option α} {us vs : List υ} {u u' : υ} {prior v : α}

theorem lastWrite_append (write : υ → Option α) (us vs : List υ) :
    lastWrite write (us ++ vs) = (lastWrite write vs).or (lastWrite write us) := by
  induction us with
  | nil => exact Option.or_none.symm
  | cons u us ih => rw [List.cons_append, lastWrite, lastWrite, ih, Option.or_assoc]

theorem lastWrite_of_silent (silent : ∀ u ∈ us, write u = none) : lastWrite write us = none := by
  induction us with
  | nil => rfl
  | cons u us ih =>
    rw [List.forall_mem_cons] at silent
    rw [lastWrite, ih silent.2, silent.1]
    rfl

theorem lastWrite_silent (silent : ∀ u, write u = none) (us : List υ) :
    lastWrite write us = none := lastWrite_of_silent fun u _ => silent u

theorem lastWrite_of_last {i : Nat} (there : us[i]? = some u) (writes : write u = some v)
    (later : ∀ (j : Nat) (u' : υ), i < j → us[j]? = some u' → write u' = none) :
    lastWrite write us = some v := by
  induction us generalizing i with
  | nil => simp at there
  | cons u₀ us ih =>
    rw [lastWrite]
    cases i with
    | zero =>
      rw [List.getElem?_cons_zero, Option.some.injEq] at there
      rw [there, writes, lastWrite_of_silent fun u' member => ?_, Option.none_or]
      obtain ⟨j, place⟩ := List.mem_iff_getElem?.mp member
      exact later (j + 1) u' (Nat.succ_pos j) (List.getElem?_cons_succ.trans place)
    | succ i =>
      rw [List.getElem?_cons_succ] at there
      rw [ih there fun j u' after place => later (j + 1) u' (Nat.succ_lt_succ after)
        (List.getElem?_cons_succ.trans place), Option.some_or]

theorem lastWrite_swap (one : write u = none ∨ write u' = none) (us vs : List υ) :
    lastWrite write (us ++ u :: u' :: vs) = lastWrite write (us ++ u' :: u :: vs) := by
  rw [lastWrite_append, lastWrite_append]
  simp only [lastWrite, Option.or_assoc]
  rcases one with silent | silent
  · rw [silent, Option.none_or, Option.none_or]
  · rw [silent, Option.none_or, Option.none_or]

theorem stands_iff : Stands write v us ↔ (lastWrite write us).getD v = v := by
  unfold Stands
  cases lastWrite write us with
  | none => simp
  | some v' => simp

theorem stands_silent (silent : ∀ u, write u = none) (v : α) (us : List υ) :
    Stands write v us := by
  intro v' written
  rw [lastWrite_silent silent] at written
  cases written

theorem either_silent (silent : lastWrite high us = none) :
    lastWrite (either high low) us = lastWrite low us ∧ Outlasts high low us := by
  induction us with
  | nil => exact ⟨rfl, trivial⟩
  | cons u us ih =>
    rw [lastWrite, Option.or_eq_none_iff] at silent
    obtain ⟨same, outlasts⟩ := ih silent.1
    refine ⟨?_, fun _ v wrote => ?_, outlasts⟩
    · rw [lastWrite, lastWrite, same, either, silent.2, Option.none_or]
    · rw [silent.2] at wrote
      cases wrote

theorem outlasts_silent (silent : ∀ u, low u = none) (us : List υ) : Outlasts high low us := by
  induction us with
  | nil => trivial
  | cons u us ih => exact ⟨fun _ v _ => stands_silent silent v us, ih⟩

theorem either_writes (writes : lastWrite high us = some v) :
    ∃ v', lastWrite (either high low) us = some v' := by
  induction us generalizing v with
  | nil => cases writes
  | cons u us ih =>
    rw [lastWrite]
    cases later : lastWrite high us with
    | none =>
      rw [lastWrite, later, Option.none_or] at writes
      rw [either, writes, Option.some_or, Option.or_some]
      exact ⟨_, rfl⟩
    | some w =>
      obtain ⟨v', some⟩ := ih later
      rw [some, Option.some_or]
      exact ⟨v', rfl⟩

/-- The exact condition for precedence. -/
theorem precedence_iff (high low : υ → Option α) (us : List υ) (prior : α) :
    (lastWrite (either high low) us).getD prior =
        (lastWrite high us).getD ((lastWrite low us).getD prior) ↔ Outlasts high low us := by
  induction us with
  | nil => exact iff_of_true rfl trivial
  | cons u us ih =>
    cases later : lastWrite high us with
    | some v =>
      obtain ⟨v', writes⟩ := @either_writes υ α high low us v later
      rw [later, writes] at ih
      simp only [lastWrite, later, writes, Option.some_or, Option.getD_some] at ih ⊢
      rw [ih, Outlasts, later]
      simp
    | none =>
      obtain ⟨same, outlasts⟩ := @either_silent υ α high low us later
      simp only [Outlasts, lastWrite, later, same, outlasts, Option.none_or, and_true,
        true_implies, either]
      cases wrote : high u with
      | none => simp
      | some v =>
        rw [Option.some_or, Option.or_some, Option.getD_some, Option.getD_some, ← stands_iff]
        simp

/-- The exact condition for writes of `low` that change nothing. -/
theorem undisturbed_iff (high low : υ → Option α) (us : List υ) (prior : α) :
    (lastWrite (either high low) us).getD prior = (lastWrite high us).getD prior ↔
      Outlasts high low us ∧ (lastWrite high us = none → Stands low prior us) := by
  cases silent : lastWrite high us with
  | some v =>
    have precedence := precedence_iff high low us prior
    rw [silent] at precedence
    simp only [Option.getD_some] at precedence ⊢
    rw [precedence]
    simp
  | none =>
    obtain ⟨same, outlasts⟩ := @either_silent υ α high low us silent
    rw [same, Option.getD_none, ← stands_iff]
    exact ⟨fun stands => ⟨outlasts, fun _ => stands⟩, fun both => both.2 rfl⟩

end Writes

end HyperionWebos.LastWriter
