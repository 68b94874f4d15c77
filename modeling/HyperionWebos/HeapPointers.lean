import HyperionWebos.Runs
import Mathlib.Data.Finset.Basic
import Mathlib.Logic.Function.Basic

/-! Heap blocks behind pointer variables that are only resized, looked through and freed.
A pointer keeps its value when its block is freed, so a block freed twice or looked at
afterwards is a fault. Such a program never faults but through a null pointer, and the
blocks it leaves are those it lost to a refused `realloc`. -/

namespace HyperionWebos.HeapPointers
open Runs

variable {β : Type}

/-- `live` are the blocks allocated and not freed, `lost` those of them that a refused
`realloc` has left behind without a pointer. -/
structure Heap (β : Type) where
  pointer : β → Option Nat
  live : Finset Nat
  lost : Finset Nat
  next : Nat

inductive HeapFault where
  | nullAccess
  | danglingAccess
  | strayFree
deriving DecidableEq, Repr

inductive Op (β : Type) where
  | realloc (b : β) (size : Int) (granted : Bool)
  | access (b : β)

namespace Heap

def empty : Heap β := ⟨fun _ => none, ∅, ∅, 0⟩

variable [DecidableEq β]

def free (id : Nat) (h : Heap β) : Except HeapFault (Heap β) :=
  if id ∈ h.live then .ok { h with live := h.live.erase id } else .error .strayFree

def setNull (b : β) (h : Heap β) : Heap β :=
  { h with pointer := Function.update h.pointer b none }

def malloc (b : β) (h : Heap β) : Heap β where
  pointer := Function.update h.pointer b (some h.next)
  live := insert h.next h.live
  lost := h.lost
  next := h.next + 1

/-- `p = realloc(p, size)`: a block of size 0 is freed, and a refusal leaves it as it is. -/
def realloc (b : β) (size : Int) (granted : Bool) (h : Heap β) : Except HeapFault (Heap β) :=
  match h.pointer b with
  | none => .ok (if granted then h.malloc b else h)
  | some id =>
    if size ≠ 0 ∧ granted = false then
      if id ∈ h.live then .ok { h.setNull b with lost := insert id h.lost }
      else .error .strayFree
    else do
      let h ← h.free id
      .ok (if size = 0 then h.setNull b else h.malloc b)

def access (b : β) (h : Heap β) : Except HeapFault (Heap β) :=
  match h.pointer b with
  | none => .error .nullAccess
  | some id => if id ∈ h.live then .ok h else .error .danglingAccess

def step (h : Heap β) : Op β → Except HeapFault (Heap β)
  | .realloc b size granted => h.realloc b size granted
  | .access b => h.access b

/-- `if (p != NULL) free(p);` -/
def freeUnlessNull (h : Heap β) (b : β) : Except HeapFault (Heap β) :=
  match h.pointer b with
  | none => .ok h
  | some id => h.free id

@[simp] theorem malloc_pointer_self (b : β) (h : Heap β) :
    (h.malloc b).pointer b = some h.next := Function.update_self ..

theorem malloc_pointer_of_ne {b b' : β} (other : b' ≠ b) (h : Heap β) :
    (h.malloc b).pointer b' = h.pointer b' := Function.update_of_ne other ..

@[simp] theorem setNull_pointer_self (b : β) (h : Heap β) : (h.setNull b).pointer b = none :=
  Function.update_self ..

theorem setNull_pointer_of_ne {b b' : β} (other : b' ≠ b) (h : Heap β) :
    (h.setNull b).pointer b' = h.pointer b' := Function.update_of_ne other ..

end Heap

/-- Each pointer but those of `gone` has a live block of its own, and the other live blocks
are lost. -/
structure Owned (gone : List β) (h : Heap β) : Prop where
  kept : ∀ b id, b ∉ gone → h.pointer b = some id → id ∉ h.lost
  single : ∀ b b' id, b ∉ gone → b' ∉ gone → h.pointer b = some id → h.pointer b' = some id →
    b = b'
  live : ∀ id, id ∈ h.live ↔ id ∈ h.lost ∨ ∃ b, b ∉ gone ∧ h.pointer b = some id
  fresh : ∀ id ∈ h.live, id < h.next

section Steps

variable {gone : List β} {h h' : Heap β} {b : β} {id : Nat}

theorem owned_empty : Owned gone (Heap.empty : Heap β) where
  kept _ _ _ pointed := by cases pointed
  single _ _ _ _ _ pointed := by cases pointed
  live id := by simp [Heap.empty]
  fresh id here := by simp [Heap.empty] at here

theorem Owned.alive (owned : Owned gone h) (outside : b ∉ gone) (pointed : h.pointer b = some id) :
    id ∈ h.live := (owned.live id).mpr (Or.inr ⟨b, outside, pointed⟩)

variable [DecidableEq β]

theorem Owned.malloc (owned : Owned gone h) (outside : b ∉ gone) (null : h.pointer b = none) :
    Owned gone (h.malloc b) := by
  have new : h.next ∉ h.live := fun here => Nat.lt_irrefl _ (owned.fresh _ here)
  have pointer (b' : β) (id : Nat) (pointed : (h.malloc b).pointer b' = some id) :
      b' = b ∧ id = h.next ∨ b' ≠ b ∧ h.pointer b' = some id := by
    by_cases same : b' = b
    · subst same
      rw [Heap.malloc_pointer_self, Option.some.injEq] at pointed
      exact Or.inl ⟨rfl, pointed.symm⟩
    · rw [Heap.malloc_pointer_of_ne same] at pointed
      exact Or.inr ⟨same, pointed⟩
  refine ⟨fun b' id out pointed lost => ?_, fun b₁ b₂ id out₁ out₂ first second => ?_,
    fun id => ?_, fun id here => ?_⟩
  · rcases pointer b' id pointed with ⟨_, rfl⟩ | ⟨_, old⟩
    · exact new ((owned.live _).mpr (Or.inl lost))
    · exact owned.kept b' id out old lost
  · rcases pointer b₁ id first with ⟨rfl, rfl⟩ | ⟨_, old₁⟩
    · rcases pointer b₂ _ second with ⟨rfl, _⟩ | ⟨_, old₂⟩
      · rfl
      · exact absurd (owned.alive out₂ old₂) new
    · rcases pointer b₂ _ second with ⟨_, rfl⟩ | ⟨_, old₂⟩
      · exact absurd (owned.alive out₁ old₁) new
      · exact owned.single b₁ b₂ id out₁ out₂ old₁ old₂
  · change id ∈ insert h.next h.live ↔ id ∈ h.lost ∨ _
    rw [Finset.mem_insert, owned.live id]
    constructor
    · rintro (rfl | lost | ⟨b', out, pointed⟩)
      · exact Or.inr ⟨b, outside, Heap.malloc_pointer_self b h⟩
      · exact Or.inl lost
      · refine Or.inr ⟨b', out, ?_⟩
        have other : b' ≠ b := by
          rintro rfl
          rw [null] at pointed
          cases pointed
        rw [Heap.malloc_pointer_of_ne other, pointed]
    · rintro (lost | ⟨b', out, pointed⟩)
      · exact Or.inr (Or.inl lost)
      · rcases pointer b' id pointed with ⟨_, rfl⟩ | ⟨_, old⟩
        · exact Or.inl rfl
        · exact Or.inr (Or.inr ⟨b', out, old⟩)
  · rcases Finset.mem_insert.mp here with rfl | here
    · exact Nat.lt_succ_self _
    · exact Nat.lt_succ_of_lt (owned.fresh id here)

theorem Owned.forget (owned : Owned gone h) (outside : b ∉ gone) (pointed : h.pointer b = some id) :
    Owned gone { h.setNull b with live := h.live.erase id } := by
  have pointer (b' : β) (id' : Nat) (kept : (h.setNull b).pointer b' = some id') :
      b' ≠ b ∧ h.pointer b' = some id' := by
    have other : b' ≠ b := by
      rintro rfl
      rw [Heap.setNull_pointer_self] at kept
      cases kept
    rw [Heap.setNull_pointer_of_ne other] at kept
    exact ⟨other, kept⟩
  refine ⟨fun b' id' out here => owned.kept b' id' out (pointer b' id' here).2,
    fun b₁ b₂ id' out₁ out₂ first second => owned.single b₁ b₂ id' out₁ out₂
      (pointer b₁ id' first).2 (pointer b₂ id' second).2, fun id' => ?_, fun id' here => ?_⟩
  · change id' ∈ h.live.erase id ↔ id' ∈ h.lost ∨ _
    rw [Finset.mem_erase, owned.live id']
    constructor
    · rintro ⟨other, lost | ⟨b', out, here⟩⟩
      · exact Or.inl lost
      · have elsewhere : b' ≠ b := by
          rintro rfl
          rw [pointed, Option.some.injEq] at here
          exact other here.symm
        exact Or.inr ⟨b', out, (Heap.setNull_pointer_of_ne elsewhere h).trans here⟩
    · rintro (lost | ⟨b', out, here⟩)
      · refine ⟨?_, Or.inl lost⟩
        rintro rfl
        exact owned.kept b id' outside pointed lost
      · obtain ⟨other, old⟩ := pointer b' id' here
        refine ⟨?_, Or.inr ⟨b', out, old⟩⟩
        rintro rfl
        exact other (owned.single b' b id' out outside old pointed)
  · exact owned.fresh id' (Finset.mem_of_mem_erase here)

theorem Owned.lose (owned : Owned gone h) (outside : b ∉ gone) (pointed : h.pointer b = some id) :
    Owned gone { h.setNull b with lost := insert id h.lost } := by
  have forgotten := owned.forget outside pointed
  have alive := owned.alive outside pointed
  refine ⟨fun b' id' out here lost => ?_, forgotten.single, fun id' => ?_, owned.fresh⟩
  · rcases Finset.mem_insert.mp lost with rfl | lost
    · have gone' := (forgotten.live id').mpr (Or.inr ⟨b', out, here⟩)
      exact absurd rfl (Finset.ne_of_mem_erase gone')
    · exact forgotten.kept b' id' out here lost
  · have others := forgotten.live id'
    change id' ∈ h.live ↔ id' ∈ insert id h.lost ∨ _
    change id' ∈ h.live.erase id ↔ id' ∈ h.lost ∨ _ at others
    rw [Finset.mem_insert, or_assoc, ← others, Finset.mem_erase]
    by_cases same : id' = id
    · simp [same, alive]
    · simp [same]

theorem Owned.realloc (owned : Owned gone h) (outside : b ∉ gone) (size : Int) (granted : Bool) :
    ∃ h', h.realloc b size granted = .ok h' ∧ Owned gone h' ∧
      (∀ b', b' ≠ b → h'.pointer b' = h.pointer b') ∧
      (granted = true → h'.lost = h.lost ∧ (size ≠ 0 → (h'.pointer b).isSome = true)) := by
  unfold Heap.realloc
  cases pointed : h.pointer b with
  | none =>
    cases granted with
    | false => exact ⟨h, rfl, owned, fun _ _ => rfl, fun on => absurd on Bool.false_ne_true⟩
    | true =>
      exact ⟨_, rfl, owned.malloc outside pointed, fun _ other => Heap.malloc_pointer_of_ne other h,
        fun _ => ⟨rfl, fun _ => by rw [if_pos rfl, Heap.malloc_pointer_self]; rfl⟩⟩
  | some id =>
    have alive := owned.alive outside pointed
    dsimp only
    by_cases refused : size ≠ 0 ∧ granted = false
    · rw [if_pos refused, if_pos alive]
      refine ⟨_, rfl, owned.lose outside pointed, fun _ other => Heap.setNull_pointer_of_ne other h,
        fun on => ?_⟩
      rw [refused.2] at on
      cases on
    · rw [if_neg refused, Heap.free, if_pos alive, ok_bind]
      have forgotten := owned.forget outside pointed
      by_cases none : size = 0
      · rw [if_pos none]
        exact ⟨_, rfl, forgotten, fun _ other => Heap.setNull_pointer_of_ne other h,
          fun _ => ⟨rfl, fun some => absurd none some⟩⟩
      · rw [if_neg none]
        -- the new block of `realloc` is one allocated after the old one was freed
        have moved := forgotten.malloc outside (Heap.setNull_pointer_self b h)
        have same : ({ h.setNull b with live := h.live.erase id } : Heap β).malloc b =
            ({ h with live := h.live.erase id } : Heap β).malloc b := by
          simp [Heap.malloc, Heap.setNull]
        refine ⟨_, rfl, same ▸ moved, fun _ other => Heap.malloc_pointer_of_ne other _,
          fun _ => ⟨rfl, fun _ => ?_⟩⟩
        rw [Heap.malloc_pointer_self]
        rfl

omit [DecidableEq β] in
theorem Owned.access (owned : Owned gone h) (outside : b ∉ gone) :
    h.pointer b = none ∧ h.access b = .error .nullAccess ∨
      (h.pointer b).isSome = true ∧ h.access b = .ok h := by
  unfold Heap.access
  cases pointed : h.pointer b with
  | none => exact Or.inl ⟨rfl, rfl⟩
  | some id =>
    dsimp only
    rw [if_pos (owned.alive outside pointed)]
    exact Or.inr ⟨rfl, rfl⟩

theorem Owned.freeUnlessNull (owned : Owned gone h) (outside : b ∉ gone) :
    ∃ h', h.freeUnlessNull b = .ok h' ∧ Owned (b :: gone) h' ∧ h'.pointer = h.pointer ∧
      h'.lost = h.lost := by
  have less (b' : β) : b' ∉ b :: gone ↔ b' ≠ b ∧ b' ∉ gone := by simp
  unfold Heap.freeUnlessNull
  cases pointed : h.pointer b with
  | none =>
    refine ⟨h, rfl, ⟨fun b' id out => owned.kept b' id ((less b').mp out).2,
      fun b₁ b₂ id out₁ out₂ => owned.single b₁ b₂ id ((less b₁).mp out₁).2 ((less b₂).mp out₂).2,
      fun id => ?_, owned.fresh⟩, rfl, rfl⟩
    rw [owned.live id]
    refine or_congr_right (exists_congr fun b' => ?_)
    rw [less]
    constructor
    · rintro ⟨out, here⟩
      refine ⟨⟨?_, out⟩, here⟩
      rintro rfl
      rw [pointed] at here
      cases here
    · rintro ⟨⟨_, out⟩, here⟩
      exact ⟨out, here⟩
  | some id =>
    have forgotten := owned.forget outside pointed
    have pointer (b' : β) (id' : Nat) (out : b' ∉ b :: gone) (here : h.pointer b' = some id') :
        b' ∉ gone ∧ (h.setNull b).pointer b' = some id' :=
      ⟨((less b').mp out).2, (Heap.setNull_pointer_of_ne ((less b').mp out).1 h).trans here⟩
    dsimp only
    rw [Heap.free, if_pos (owned.alive outside pointed)]
    refine ⟨_, rfl, ⟨fun b' id' out here => owned.kept b' id' ((less b').mp out).2 here,
      fun b₁ b₂ id' out₁ out₂ => owned.single b₁ b₂ id' ((less b₁).mp out₁).2 ((less b₂).mp out₂).2,
      fun id' => ?_, fun id' here => owned.fresh id' (Finset.mem_of_mem_erase here)⟩, rfl, rfl⟩
    refine (forgotten.live id').trans (or_congr_right ⟨?_, ?_⟩)
    · rintro ⟨b', out, here⟩
      have other : b' ≠ b := by
        rintro rfl
        rw [Heap.setNull_pointer_self] at here
        cases here
      exact ⟨b', (less b').mpr ⟨other, out⟩, (Heap.setNull_pointer_of_ne other h).symm.trans here⟩
    · rintro ⟨b', out, here⟩
      exact ⟨b', pointer b' id' out here⟩

end Steps

/-! ### Programs -/

section Programs

variable [DecidableEq β] {gone known : List β} {h : Heap β}

/-- Every pointer that is looked through has been given a block before. -/
def Guarded : List β → List (Op β) → Prop
  | _, [] => True
  | known, .realloc b size granted :: ops =>
    granted = true ∧ size ≠ 0 ∧ Guarded (b :: known) ops
  | known, .access b :: ops => b ∈ known ∧ Guarded known ops

omit [DecidableEq β] in
theorem Guarded.mono {ops : List (Op β)} {known known' : List β} (more : known ⊆ known')
    (guarded : Guarded known ops) : Guarded known' ops := by
  induction ops generalizing known known' with
  | nil => trivial
  | cons op ops ih =>
    cases op with
    | realloc b size granted =>
      exact ⟨guarded.1, guarded.2.1, ih (List.cons_subset_cons b more) guarded.2.2⟩
    | access b => exact ⟨more guarded.1, ih more guarded.2⟩

def resized (ops : List (Op β)) : List β :=
  ops.filterMap fun
    | .realloc b _ _ => some b
    | .access _ => none

omit [DecidableEq β] in
theorem Guarded.append {ops ops' : List (Op β)} (first : Guarded known ops)
    (second : Guarded (resized ops ++ known) ops') : Guarded known (ops ++ ops') := by
  induction ops generalizing known with
  | nil => exact second
  | cons op ops ih =>
    cases op with
    | realloc b size granted =>
      refine ⟨first.1, first.2.1, ih first.2.2 (second.mono ?_)⟩
      exact List.perm_middle.symm.subset
    | access b => exact ⟨first.1, ih first.2 second⟩

theorem run_owned (owned : Owned [] h) (ops : List (Op β)) :
    (∃ h', run Heap.step h ops = .ok h' ∧ Owned [] h') ∨
      run Heap.step h ops = .error .nullAccess := by
  induction ops generalizing h with
  | nil => exact Or.inl ⟨h, rfl, owned⟩
  | cons op ops ih =>
    cases op with
    | realloc b size granted =>
      obtain ⟨h', taken, owned', _⟩ := owned.realloc (List.not_mem_nil (a := b)) size granted
      rw [run, Heap.step, taken, ok_bind]
      exact ih owned'
    | access b =>
      rcases owned.access (List.not_mem_nil (a := b)) with ⟨_, fault⟩ | ⟨_, taken⟩
      · rw [run, Heap.step, fault, error_bind]
        exact Or.inr rfl
      · rw [run, Heap.step, taken, ok_bind]
        exact ih owned

/-- A guarded program runs to its end and loses nothing. -/
theorem run_guarded (owned : Owned [] h) (known_some : ∀ b ∈ known, (h.pointer b).isSome = true)
    {ops : List (Op β)} (guarded : Guarded known ops) :
    ∃ h', run Heap.step h ops = .ok h' ∧ Owned [] h' ∧ h'.lost = h.lost := by
  induction ops generalizing h known with
  | nil => exact ⟨h, rfl, owned, rfl⟩
  | cons op ops ih =>
    cases op with
    | realloc b size granted =>
      obtain ⟨on, some, rest⟩ := guarded
      obtain ⟨h', taken, owned', others, given⟩ :=
        owned.realloc (List.not_mem_nil (a := b)) size granted
      obtain ⟨lost, pointed⟩ := given on
      have known' : ∀ b' ∈ b :: known, (h'.pointer b').isSome = true := by
        intro b' member
        by_cases same : b' = b
        · rw [same]
          exact pointed some
        · rw [others b' same]
          exact known_some b' (List.mem_of_ne_of_mem same member)
      obtain ⟨t, ends, last, kept⟩ := ih owned' known' rest
      exact ⟨t, run_cons_ok.mpr ⟨h', taken, ends⟩, last, kept.trans lost⟩
    | access b =>
      rcases owned.access (List.not_mem_nil (a := b)) with ⟨null, _⟩ | ⟨_, taken⟩
      · have some := known_some b guarded.1
        rw [null] at some
        cases some
      · obtain ⟨t, ends, last, kept⟩ := ih owned known_some guarded.2
        exact ⟨t, run_cons_ok.mpr ⟨h, taken, ends⟩, last, kept⟩

theorem freeAll_owned (owned : Owned gone h) {bs : List β} (once : bs.Nodup)
    (outside : ∀ b ∈ bs, b ∉ gone) (covered : ∀ b, b ∈ bs ∨ b ∈ gone) :
    ∃ h', run Heap.freeUnlessNull h bs = .ok h' ∧ h'.live = h'.lost ∧ h'.lost = h.lost := by
  induction bs generalizing gone h with
  | nil =>
    refine ⟨h, rfl, Finset.ext fun id => ?_, rfl⟩
    rw [owned.live id, or_iff_left]
    rintro ⟨b, out, _⟩
    exact out ((covered b).resolve_left List.not_mem_nil)
  | cons b bs ih =>
    obtain ⟨fresh, once⟩ := List.nodup_cons.mp once
    rw [List.forall_mem_cons] at outside
    obtain ⟨h₁, freed, owned₁, _, lost⟩ := owned.freeUnlessNull outside.1
    have outside₁ : ∀ b' ∈ bs, b' ∉ b :: gone := by
      intro b' member gone'
      rcases List.mem_cons.mp gone' with rfl | gone'
      · exact fresh member
      · exact outside.2 b' member gone'
    have covered₁ (b' : β) : b' ∈ bs ∨ b' ∈ b :: gone := by
      rcases covered b' with member | member
      · rcases List.mem_cons.mp member with rfl | member
        · exact Or.inr List.mem_cons_self
        · exact Or.inl member
      · exact Or.inr (List.mem_cons_of_mem b member)
    obtain ⟨t, ends, live, kept⟩ := ih owned₁ once outside₁ covered₁
    exact ⟨t, run_cons_ok.mpr ⟨h₁, freed, ends⟩, live, kept.trans lost⟩

end Programs

end HyperionWebos.HeapPointers
