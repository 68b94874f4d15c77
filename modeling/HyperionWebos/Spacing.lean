import Mathlib.Data.List.Chain

/-! Readings that are kept apart. Of a sequence of readings `spaced` takes each one that is far
enough from the one taken last, and leaves the others; nothing is left that was far from
what had been taken by then. -/

namespace HyperionWebos.Spacing

variable {τ : Type} {far : τ → τ → Bool} {last : τ} {ts : List τ}

def spaced (far : τ → τ → Bool) : τ → List τ → List τ
  | _, [] => []
  | last, t :: ts => if far last t then t :: spaced far t ts else spaced far last ts

def latest (far : τ → τ → Bool) (last : τ) (ts : List τ) : τ := (spaced far last ts).getLastD last

theorem spaced_append (xs ys : List τ) :
    spaced far last (xs ++ ys) = spaced far last xs ++ spaced far (latest far last xs) ys := by
  induction xs generalizing last with
  | nil => rfl
  | cons x xs ih =>
    rw [List.cons_append, latest, spaced, spaced]
    split
    · rw [List.getLastD_cons, List.cons_append, ih]
      rfl
    · exact ih

theorem latest_snoc (ts : List τ) (t : τ) : latest far last (ts ++ [t]) =
    if far (latest far last ts) t then t else latest far last ts := by
  rw [latest, spaced_append, spaced]
  split
  · exact List.getLastD_concat ..
  · rw [spaced, List.append_nil]
    rfl

theorem spaced_chain {R : τ → τ → Prop} (ordered : (last :: ts).Pairwise R) :
    List.IsChain (fun s t => far s t = true ∧ R s t) (last :: spaced far last ts) := by
  induction ts generalizing last with
  | nil => exact List.isChain_singleton last
  | cons t ts ih =>
    obtain ⟨above, later⟩ := List.pairwise_cons.mp ordered
    rw [spaced]
    split
    · next apart =>
      exact List.isChain_cons_cons.mpr ⟨⟨apart, above t List.mem_cons_self⟩, ih later⟩
    · exact ih (ordered.sublist ((List.sublist_cons_self t ts).cons_cons last))

/-- Where each reading taken is more than `gap` above the one before, `n` further readings
span more than `n` times the gap. -/
theorem chain_span {value : τ → Nat} {gap : Nat} {t u : τ} {rest : List τ}
    (apart : List.IsChain (fun s t => value s + gap < value t) (t :: rest))
    (ends : (t :: rest).getLast? = some u) : value t + rest.length * (gap + 1) ≤ value u := by
  induction rest generalizing t with
  | nil =>
    rw [List.getLast?_singleton] at ends
    cases ends
    simp
  | cons s rest ih =>
    obtain ⟨here, later⟩ := List.isChain_cons_cons.mp apart
    have tail := ih later (by rwa [List.getLast?_cons_cons] at ends)
    rw [List.length_cons, Nat.add_mul, Nat.one_mul]
    omega

end HyperionWebos.Spacing
