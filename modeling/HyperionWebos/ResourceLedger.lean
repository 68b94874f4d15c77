import HyperionWebos.TraceMonitor

/-! Books of what a program holds. Each resource is entered when it is acquired and
struck when it is released; the ledger is stuck at a release of what is not held, so a
trace it reads releases nothing twice and what is left at the end was never released.
`Held` reads books with stray releases too. -/

namespace HyperionWebos.ResourceLedger
open TraceMonitor

inductive Entry (ρ : Type*) where
  | acquire (r : ρ)
  | release (r : ρ)
deriving DecidableEq, Repr

section Ledger

variable {ρ : Type*} [DecidableEq ρ]

def ledger : Monitor (Entry ρ) (List ρ) where
  start := []
  next held
    | .acquire r => some (r :: held)
    | .release r => if r ∈ held then some (held.erase r) else none

@[simp] theorem readFrom_acquire (held : List ρ) (r : ρ) (es : List (Entry ρ)) :
    ledger.readFrom held (.acquire r :: es) = ledger.readFrom (r :: held) es := rfl

@[simp] theorem readFrom_release (held : List ρ) (r : ρ) (es : List (Entry ρ)) :
    ledger.readFrom (r :: held) (.release r :: es) = ledger.readFrom held es := by
  simp [Monitor.readFrom, ledger]

end Ledger

section Held

variable {ρ : Type*}

/-- `r` was acquired and has not been released since. -/
def Held (books : List (Entry ρ)) (r : ρ) : Prop := Since (.acquire r) (.release r) books

def Restores (before after : List (Entry ρ)) : Prop := ∀ r, Held after r → Held before r

/-- Whatever is acquired here is released here, exactly once. -/
def ReleasedOnce [DecidableEq ρ] (during : List (Entry ρ)) : Prop :=
  ∀ r, .acquire r ∈ during → during.count (.release r) = 1

@[simp] theorem held_acquire (books : List (Entry ρ)) (r r' : ρ) :
    Held (books ++ [.acquire r']) r ↔ r = r' ∨ Held books r := by
  simp [Held, since_concat, eq_comm]

@[simp] theorem held_release (books : List (Entry ρ)) (r r' : ρ) :
    Held (books ++ [.release r']) r ↔ r ≠ r' ∧ Held books r := by
  simp [Held, since_concat, eq_comm]

theorem restores_refl (books : List (Entry ρ)) : Restores books books := fun _ held => held

theorem Restores.trans {first second third : List (Entry ρ)} (one : Restores first second)
    (two : Restores second third) : Restores first third :=
  fun r held => one r (two r held)

theorem held_acquires (books : List (Entry ρ)) (rs : List ρ) (r : ρ) :
    Held (books ++ rs.map .acquire) r ↔ Held books r ∨ r ∈ rs := by
  induction rs generalizing books with
  | nil => simp
  | cons r' rs ih =>
    rw [List.map_cons, ← List.singleton_append, ← List.append_assoc, ih, held_acquire,
      List.mem_cons, @or_comm (r = r'), or_assoc]

theorem Held.acquired {books : List (Entry ρ)} {r : ρ} (held : Held books r) :
    .acquire r ∈ books := by
  obtain ⟨before, after, rfl, _⟩ := held
  simp

end Held

end HyperionWebos.ResourceLedger
