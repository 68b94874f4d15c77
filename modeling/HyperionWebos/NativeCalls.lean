import HyperionWebos.ResourceLedger

/-! Computations that take resources and give them back, as a state monad of the books.
A resource is a kind and a number, and every call that hands one out numbers it above all
the books have seen, so nothing that was held before is taken for it. -/

namespace HyperionWebos.NativeCalls
open ResourceLedger

/-- A handle: what it names, and its number. No call hands out number 0. -/
structure Resource (κ : Type*) where
  kind : κ
  id : Nat
deriving DecidableEq, Repr

variable {κ : Type}

def entryResource {ρ : Type*} : Entry ρ → ρ
  | .acquire r => r
  | .release r => r

def fresh : List (Entry (Resource κ)) → Nat
  | [] => 1
  | e :: books => max ((entryResource e).id + 1) (fresh books)

/-- A computation whose calls write the books. -/
def Native (κ α : Type) := List (Entry (Resource κ)) → α × List (Entry (Resource κ))

instance : Monad (Native κ) where
  pure a := fun books => (a, books)
  bind m f := fun books => f (m books).1 (m books).2

def acquire (kind : κ) : Native κ Nat :=
  fun books => (fresh books, books ++ [.acquire ⟨kind, fresh books⟩])

/-- For calls that hand out what the caller already has a number for. -/
def acquireAs (kind : κ) (id : Nat) : Native κ Unit :=
  fun books => ((), books ++ [.acquire ⟨kind, id⟩])

def release (kind : κ) (id : Nat) : Native κ Unit :=
  fun books => ((), books ++ [.release ⟨kind, id⟩])

theorem mem_lt_fresh {books : List (Entry (Resource κ))} {e : Entry (Resource κ)}
    (member : e ∈ books) : (entryResource e).id < fresh books := by
  induction books with
  | nil => simp at member
  | cons e' books ih =>
    rw [fresh]
    rcases List.mem_cons.mp member with rfl | member
    · omega
    · have := ih member
      omega

theorem one_le_fresh (books : List (Entry (Resource κ))) : 1 ≤ fresh books := by
  cases books with
  | nil => exact Nat.le_refl 1
  | cons e books =>
    rw [fresh]
    omega

theorem fresh_le_append (books more : List (Entry (Resource κ))) :
    fresh books ≤ fresh (books ++ more) := by
  induction books with
  | nil => exact one_le_fresh more
  | cons e books ih =>
    rw [List.cons_append, fresh, fresh]
    omega

theorem not_held_fresh {books : List (Entry (Resource κ))} (kind : κ) {id : Nat}
    (new : fresh books ≤ id) : ¬ Held books ⟨kind, id⟩ := by
  intro held
  have := mem_lt_fresh held.acquired
  simp only [entryResource] at this
  omega

section Apply

variable (books : List (Entry (Resource κ)))

@[simp] theorem pure_apply {α : Type} (a : α) : (pure a : Native κ α) books = (a, books) := rfl

@[simp] theorem bind_apply {α β : Type} (m : Native κ α) (f : α → Native κ β) :
    (m >>= f) books = f (m books).1 (m books).2 := rfl

@[simp] theorem ite_run {α : Type} (c : Prop) [Decidable c] (m m' : Native κ α) :
    (if c then m else m') books = if c then m books else m' books := by
  split <;> rfl

@[simp] theorem acquire_apply (kind : κ) :
    acquire kind books = (fresh books, books ++ [.acquire ⟨kind, fresh books⟩]) := rfl

@[simp] theorem acquireAs_apply (kind : κ) (id : Nat) :
    acquireAs kind id books = ((), books ++ [.acquire ⟨kind, id⟩]) := rfl

@[simp] theorem release_apply (kind : κ) (id : Nat) :
    release kind id books = ((), books ++ [.release ⟨kind, id⟩]) := rfl

end Apply

def Grown (before after : List (Entry (Resource κ))) : Prop :=
  ∃ rs : List (Resource κ), after = before ++ rs.map .acquire

namespace Grown

variable {first second third : List (Entry (Resource κ))}

theorem refl (books : List (Entry (Resource κ))) : Grown books books := ⟨[], by simp⟩

theorem trans (one : Grown first second) (two : Grown second third) : Grown first third := by
  obtain ⟨rs, rfl⟩ := one
  obtain ⟨rs', rfl⟩ := two
  exact ⟨rs ++ rs', by rw [List.map_append, List.append_assoc]⟩

theorem isPrefix (grown : Grown first second) : first <+: second := by
  obtain ⟨rs, rfl⟩ := grown
  exact List.prefix_append first _

theorem held (grown : Grown first second) {r : Resource κ} (held : Held first r) :
    Held second r := by
  obtain ⟨rs, rfl⟩ := grown
  exact (held_acquires first rs r).mpr (Or.inl held)

theorem fresh_le (grown : Grown first second) : fresh first ≤ fresh second := by
  obtain ⟨rs, rfl⟩ := grown
  exact fresh_le_append first _

end Grown

theorem grown_acquire (books : List (Entry (Resource κ))) (r : Resource κ) :
    Grown books (books ++ [.acquire r]) := ⟨[r], rfl⟩

def Gathers {α : Type} (m : Native κ α) : Prop := ∀ books, Grown books (m books).2

theorem gathers_pure {α : Type} (a : α) : Gathers (pure a : Native κ α) :=
  fun books => .refl books

theorem gathers_acquire (kind : κ) : Gathers (acquire kind) :=
  fun books => grown_acquire books _

theorem Gathers.bind {α β : Type} {m : Native κ α} {f : α → Native κ β} (first : Gathers m)
    (rest : ∀ a, Gathers (f a)) : Gathers (m >>= f) :=
  fun books => (first books).trans (rest (m books).1 (m books).2)

theorem Gathers.elim {α β : Type} {m : Native κ α} {f : α → Native κ β} (gathers : Gathers m)
    {books : List (Entry (Resource κ))} {P : β × List (Entry (Resource κ)) → Prop}
    (rest : ∀ a next, Grown books next → P (f a next)) : P ((m >>= f) books) :=
  rest (m books).1 (m books).2 (gathers books)

theorem acquire_elim {β : Type} {kind : κ} {f : Nat → Native κ β}
    {books : List (Entry (Resource κ))} {P : β × List (Entry (Resource κ)) → Prop}
    (rest : ∀ id next, Grown books next → fresh books ≤ id → Held next ⟨kind, id⟩ →
      P (f id next)) : P ((acquire kind >>= f) books) := by
  apply rest _ _ (grown_acquire books _) (Nat.le_refl _)
  exact (held_acquire books _ _).mpr (Or.inl rfl)

end HyperionWebos.NativeCalls
