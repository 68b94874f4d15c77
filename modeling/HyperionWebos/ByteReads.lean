import Mathlib.Data.List.Basic

/-! Programs that only read bytes. A program is the tree of its reads: which byte it looks
at next may depend on the bytes before. `touched` lists the indices it looks at in one
memory, and a memory that agrees on these gives the same reads and the same result. -/

namespace HyperionWebos.ByteReads

inductive Reads (α : Type) where
  | done (a : α)
  | byte (i : Int) (next : UInt8 → Reads α)

namespace Reads

variable {α β : Type}

protected def bind : Reads α → (α → Reads β) → Reads β
  | done a, f => f a
  | byte i next, f => byte i fun b => (next b).bind f

instance : Monad Reads where
  pure := done
  bind := Reads.bind

def run (m : Int → UInt8) : Reads α → α
  | done a => a
  | byte i next => (next (m i)).run m

def touched (m : Int → UInt8) : Reads α → List Int
  | done _ => []
  | byte i next => i :: (next (m i)).touched m

@[simp] theorem run_pure (m : Int → UInt8) (a : α) : (pure a : Reads α).run m = a := rfl

@[simp] theorem run_bind (m : Int → UInt8) (r : Reads α) (f : α → Reads β) :
    (r >>= f).run m = (f (r.run m)).run m := by
  induction r with
  | done a => rfl
  | byte i next ih => exact ih (m i)

theorem touched_bind (m : Int → UInt8) (r : Reads α) (f : α → Reads β) :
    (r >>= f).touched m = r.touched m ++ (f (r.run m)).touched m := by
  induction r with
  | done a => rfl
  | byte i next ih => exact congrArg (i :: ·) (ih (m i))

/-- The bytes a program touches decide what it touches and what it returns. -/
theorem touched_congr {m m' : Int → UInt8} (r : Reads α)
    (agree : ∀ i ∈ r.touched m, m i = m' i) :
    r.touched m' = r.touched m ∧ r.run m' = r.run m := by
  induction r with
  | done a => exact ⟨rfl, rfl⟩
  | byte i next ih =>
    have here : m i = m' i := agree i (List.mem_cons_self ..)
    have rest := ih (m i) fun j touched => agree j (List.mem_cons_of_mem _ touched)
    unfold touched run
    rw [← here]
    exact ⟨congrArg (i :: ·) rest.1, rest.2⟩

def Within (n : Nat) (m : Int → UInt8) (r : Reads α) : Prop :=
  ∀ i ∈ r.touched m, 0 ≤ i ∧ i < n

@[simp] theorem within_pure (n : Nat) (m : Int → UInt8) (a : α) :
    Within n m (pure a : Reads α) := List.forall_mem_nil _

theorem within_byte {n : Nat} {m : Int → UInt8} {i : Int} {next : UInt8 → Reads α} :
    Within n m (byte i next) ↔ (0 ≤ i ∧ i < n) ∧ Within n m (next (m i)) :=
  List.forall_mem_cons

@[simp] theorem within_bind {n : Nat} {m : Int → UInt8} {r : Reads α} {f : α → Reads β} :
    Within n m (r >>= f) ↔ Within n m r ∧ Within n m (f (r.run m)) := by
  unfold Within
  rw [touched_bind]
  exact List.forall_mem_append

theorem within_congr {n : Nat} {m m' : Int → UInt8} {r : Reads α}
    (agree : ∀ i : Int, 0 ≤ i → i < n → m i = m' i) (within : Within n m r) :
    Within n m' r ∧ r.run m' = r.run m := by
  have same := touched_congr r fun i touched => agree i (within i touched).1 (within i touched).2
  refine ⟨?_, same.2⟩
  unfold Within
  rw [same.1]
  exact within

/-- An unsigned number of `w` bytes, the lowest first. -/
def littleEndian (i : Int) : Nat → Reads Nat
  | 0 => done 0
  | w + 1 => byte i fun b => littleEndian (i + 1) w >>= fun rest => pure (b.toNat + 256 * rest)

theorem within_littleEndian {n : Nat} {m : Int → UInt8} {i : Int} {w : Nat} :
    Within n m (littleEndian i (w + 1)) ↔ 0 ≤ i ∧ i + (w + 1) ≤ n := by
  induction w generalizing i with
  | zero =>
    unfold littleEndian
    rw [within_byte, within_bind]
    simp only [within_pure, and_true]
    have rest : Within n m (littleEndian (i + 1) 0) := List.forall_mem_nil _
    simp only [rest, and_true]
    omega
  | succ w ih =>
    unfold littleEndian
    rw [within_byte, within_bind, ih]
    simp only [within_pure, and_true]
    push_cast
    omega

/-- A string up to its NUL, of which at most `fuel` bytes are looked at. -/
def cstring (i : Int) : Nat → Reads (List UInt8)
  | 0 => done []
  | fuel + 1 => byte i fun b =>
    if b = 0 then done [] else cstring (i + 1) fuel >>= fun rest => pure (b :: rest)

theorem within_cstring {n : Nat} {m : Int → UInt8} {i : Int} {fuel : Nat} (low : 0 ≤ i)
    (enough : n < i + (fuel + 1)) :
    Within n m (cstring i (fuel + 1)) ↔ ∃ k, i ≤ k ∧ k < n ∧ m k = 0 := by
  induction fuel generalizing i with
  | zero =>
    unfold cstring
    rw [within_byte]
    constructor
    · rintro ⟨⟨_, high⟩, _⟩
      omega
    · rintro ⟨k, above, below, _⟩
      omega
  | succ fuel ih =>
    unfold cstring
    rw [within_byte]
    push_cast at enough
    have rest := ih (i := i + 1) (by omega) (by omega)
    by_cases ends : m i = 0
    · rw [if_pos ends]
      constructor
      · rintro ⟨⟨_, high⟩, _⟩
        exact ⟨i, Int.le_refl i, high, ends⟩
      · rintro ⟨k, above, below, _⟩
        exact ⟨⟨low, by omega⟩, List.forall_mem_nil _⟩
    · rw [if_neg ends, within_bind, rest]
      constructor
      · rintro ⟨_, ⟨k, above, below, nul⟩, _⟩
        exact ⟨k, by omega, below, nul⟩
      · rintro ⟨k, above, below, nul⟩
        have later : i ≠ k := by
          rintro rfl
          exact ends nul
        exact ⟨⟨low, by omega⟩, ⟨k, by omega, below, nul⟩, within_pure n m _⟩

theorem run_cstring {m : Int → UInt8} {i : Int} {n fuel : Nat} (enough : n < fuel)
    (nul : m (i + n) = 0) :
    (cstring i fuel).run m =
      ((List.range n).map fun k => m (i + (k : Nat))).takeWhile (· ≠ 0) := by
  induction n generalizing i fuel with
  | zero =>
    obtain ⟨fuel, rfl⟩ : ∃ k, fuel = k + 1 := ⟨fuel - 1, by omega⟩
    have here : m i = 0 := by simpa using nul
    simp [cstring, run, here]
  | succ n ih =>
    obtain ⟨fuel, rfl⟩ : ∃ k, fuel = k + 1 := ⟨fuel - 1, by omega⟩
    have shift : ∀ k : Nat, i + 1 + k = i + (k + 1 : Nat) := by omega
    have nulNext : m (i + 1 + n) = 0 := by rwa [shift]
    have later := ih (show n < fuel by omega) nulNext
    simp only [shift] at later
    rw [List.range_succ_eq_map, List.map_cons, List.map_map, List.takeWhile_cons]
    by_cases ends : m i = 0
    · simp [cstring, run, ends]
    · simp only [cstring, run, ends, if_false, run_bind, later, run_pure]
      simp [ends, Function.comp_def]

end Reads

end HyperionWebos.ByteReads
