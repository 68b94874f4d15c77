import HyperionWebos.Runs

/-! Heap arrays with one owner. An array pointer is null, points to a live block or
dangles; each cell of a live block is unassigned, holds an entry or has had its entry
released. Reading or releasing in any other way is a fault, never a silent value. -/

namespace HyperionWebos.OwnedArray
open Runs

inductive MemoryFault where
  | doubleRelease
  | readReleased
  | readUnassigned
  | outOfBlock
  | nullDereference
deriving DecidableEq, Repr

inductive Cell (α : Type) where
  | unassigned
  | assigned (a : α)
  | released
deriving DecidableEq, Repr

inductive Owned (α : Type) where
  | null
  | live (cells : List (Cell α))
  | released
deriving DecidableEq, Repr

variable {α : Type}

def Cell.entry : Cell α → Option α
  | assigned a => some a
  | _ => none

namespace Owned

def cells : Owned α → Except MemoryFault (List (Cell α))
  | null => .error .nullDereference
  | live cs => .ok cs
  | released => .error .readReleased

def malloc (n : Nat) : Owned α := live (List.replicate n .unassigned)

def calloc (n : Nat) (a : α) : Owned α := live (List.replicate n (.assigned a))

/-- `free` of the array pointer itself; freeing null does nothing. -/
def free : Owned α → Except MemoryFault (Owned α)
  | null => .ok null
  | live _ => .ok released
  | released => .error .doubleRelease

def read (o : Owned α) (i : Nat) : Except MemoryFault α := do
  match (← o.cells)[i]? with
  | none => .error .outOfBlock
  | some .unassigned => .error .readUnassigned
  | some (.assigned a) => .ok a
  | some .released => .error .readReleased

def store (o : Owned α) (i : Nat) (a : α) : Except MemoryFault (Owned α) := do
  let cs ← o.cells
  if i < cs.length then .ok (live (cs.set i (.assigned a))) else .error .outOfBlock

/-- `free` of the entry that cell `i` points to. -/
def releaseCell (o : Owned α) (i : Nat) : Except MemoryFault (Owned α) := do
  let cs ← o.cells
  match cs[i]? with
  | none => .error .outOfBlock
  | some .unassigned => .error .readUnassigned
  | some (.assigned _) => .ok (live (cs.set i .released))
  | some .released => .error .doubleRelease

def readEach (visit : α → Except MemoryFault Unit) (o : Owned α) (k : Nat) :
    Nat → Except MemoryFault Unit
  | 0 => .ok ()
  | n + 1 => do
    let a ← o.read k
    visit a
    readEach visit o (k + 1) n

def foldEach {β : Type} (visit : Nat → α → β → Except MemoryFault β) (o : Owned α) (k : Nat) :
    Nat → β → Except MemoryFault β
  | 0, b => .ok b
  | n + 1, b => do
    let a ← o.read k
    let b ← visit k a b
    foldEach visit o (k + 1) n b

def releaseEach (visit : α → Except MemoryFault Unit) (o : Owned α) (k : Nat) :
    Nat → Except MemoryFault (Owned α)
  | 0 => .ok o
  | n + 1 => do
    let a ← o.read k
    visit a
    let o ← o.releaseCell k
    releaseEach visit o (k + 1) n

/-- The block's first cells hold exactly `xs`; `rest` is whatever follows them. -/
def Holds (o : Owned α) (xs : List α) : Prop :=
  ∃ rest, o = live (xs.map .assigned ++ rest)

/-- An array whose `count` promises that many initialised entries satisfying `P`. -/
def Filled (P : α → Prop) (count : Nat) (o : Owned α) : Prop :=
  count = 0 ∨ ∃ xs, xs.length = count ∧ o.Holds xs ∧ ∀ x ∈ xs, P x

def contents (count : Nat) : Owned α → List α
  | live cs => (cs.take count).filterMap Cell.entry
  | _ => []

def partly (xs : List α) (m : Nat) : Owned α :=
  live (xs.map .assigned ++ List.replicate m .unassigned)

theorem malloc_eq_partly (n : Nat) : (malloc n : Owned α) = partly [] n := rfl

theorem partly_holds (xs : List α) (m : Nat) : (partly xs m).Holds xs := ⟨_, rfl⟩

theorem filled_of_holds {P : α → Prop} {o : Owned α} {xs : List α} (h : o.Holds xs)
    (hP : ∀ x ∈ xs, P x) : o.Filled P xs.length :=
  Or.inr ⟨xs, rfl, h, hP⟩

theorem store_partly (xs : List α) (m : Nat) (a : α) :
    (partly xs (m + 1)).store xs.length a = .ok (partly (xs ++ [a]) m) := by
  have room : xs.length <
      (xs.map Cell.assigned ++ List.replicate (m + 1) Cell.unassigned).length := by
    simp
  simp only [partly, store, cells, ok_bind, if_pos room]
  simp [List.replicate_succ, List.set_append_right]

theorem read_filled {P : α → Prop} {count : Nat} {o : Owned α} {i : Nat}
    (h : o.Filled P count) (hi : i < count) : ∃ a, o.read i = .ok a ∧ P a := by
  rcases h with rfl | ⟨xs, rfl, ⟨rest, rfl⟩, each⟩
  · omega
  · refine ⟨xs[i], ?_, each _ (List.getElem_mem hi)⟩
    simp [read, cells, ok_bind, List.getElem?_append_left, hi]

theorem releaseCell_append (a : α) (ys rest : List (Cell α)) :
    (live (ys ++ (Cell.assigned a :: rest))).releaseCell ys.length =
      .ok (live ((ys ++ [.released]) ++ rest)) := by
  simp [releaseCell, cells, ok_bind, List.set_append_right]

theorem readEach_live {visit : α → Except MemoryFault Unit} {xs : List α}
    (ok : ∀ x ∈ xs, visit x = .ok ()) (ys rest : List (Cell α)) :
    (live (ys ++ (xs.map .assigned ++ rest))).readEach visit ys.length xs.length = .ok () := by
  induction xs generalizing ys with
  | nil => rfl
  | cons x xs ih =>
    have here : (live (ys ++ ((x :: xs).map .assigned ++ rest))).read ys.length = .ok x := by
      simp [read, cells, ok_bind]
    rw [List.length_cons, readEach, here, ok_bind, ok x List.mem_cons_self, ok_bind]
    have rest_ok := ih (fun y hy => ok y (List.mem_cons_of_mem x hy)) (ys ++ [.assigned x])
    simpa using rest_ok

theorem readEach_holds {visit : α → Except MemoryFault Unit} {o : Owned α} {xs : List α}
    (h : o.Holds xs) (ok : ∀ x ∈ xs, visit x = .ok ()) :
    o.readEach visit 0 xs.length = .ok () := by
  obtain ⟨rest, rfl⟩ := h
  simpa using readEach_live ok [] rest

theorem readEach_live_error {visit : α → Except MemoryFault Unit} {xs : List α}
    (bad : ∃ x ∈ xs, visit x ≠ .ok ()) (ys rest : List (Cell α)) :
    ∃ x ∈ xs, ∃ f, visit x = .error f ∧
      (live (ys ++ (xs.map .assigned ++ rest))).readEach visit ys.length xs.length = .error f := by
  induction xs generalizing ys with
  | nil =>
    obtain ⟨x, member, _⟩ := bad
    cases member
  | cons x xs ih =>
    have here : (live (ys ++ ((x :: xs).map .assigned ++ rest))).read ys.length = .ok x := by
      simp [read, cells, ok_bind]
    cases visited : visit x with
    | error f =>
      refine ⟨x, List.mem_cons_self, f, visited, ?_⟩
      rw [List.length_cons, readEach, here, ok_bind, visited, error_bind]
    | ok u =>
      obtain ⟨z, member, fails⟩ := bad
      have later : z ∈ xs := by
        rcases List.mem_cons.mp member with rfl | later
        · exact absurd visited fails
        · exact later
      obtain ⟨y, member', f, faults, loop⟩ := ih ⟨z, later, fails⟩ (ys ++ [.assigned x])
      refine ⟨y, List.mem_cons_of_mem x member', f, faults, ?_⟩
      rw [List.length_cons, readEach, here, ok_bind, visited, ok_bind]
      simpa using loop

theorem readEach_holds_error {visit : α → Except MemoryFault Unit} {o : Owned α} {xs : List α}
    (h : o.Holds xs) (bad : ∃ x ∈ xs, visit x ≠ .ok ()) :
    ∃ x ∈ xs, ∃ f, visit x = .error f ∧ o.readEach visit 0 xs.length = .error f := by
  obtain ⟨rest, rfl⟩ := h
  simpa using readEach_live_error bad [] rest

theorem readEach_unassigned {visit : α → Except MemoryFault Unit} {xs : List α}
    (ok : ∀ x ∈ xs, visit x = .ok ()) (ys : List (Cell α)) (m : Nat) :
    (live (ys ++ (xs.map .assigned ++ List.replicate (m + 1) .unassigned))).readEach visit
      ys.length (xs.length + (m + 1)) = .error .readUnassigned := by
  induction xs generalizing ys with
  | nil =>
    rw [List.length_nil, Nat.zero_add, readEach]
    simp [read, cells, ok_bind, List.replicate_succ, error_bind]
  | cons x xs ih =>
    have here : (live (ys ++ ((x :: xs).map .assigned ++ List.replicate (m + 1) .unassigned))).read
        ys.length = .ok x := by
      simp [read, cells, ok_bind]
    rw [show (x :: xs).length + (m + 1) = (xs.length + (m + 1)) + 1 by simp; omega, readEach, here,
      ok_bind, ok x List.mem_cons_self, ok_bind]
    have rest_ok := ih (fun y hy => ok y (List.mem_cons_of_mem x hy)) (ys ++ [.assigned x])
    simpa using rest_ok

theorem readEach_partly {visit : α → Except MemoryFault Unit} {xs : List α}
    (ok : ∀ x ∈ xs, visit x = .ok ()) (m : Nat) :
    (partly xs (m + 1)).readEach visit 0 (xs.length + (m + 1)) = .error .readUnassigned := by
  simpa [partly] using readEach_unassigned ok [] m

theorem releaseEach_live {visit : α → Except MemoryFault Unit} {xs : List α}
    (ok : ∀ x ∈ xs, visit x = .ok ()) (ys rest : List (Cell α)) :
    (live (ys ++ (xs.map .assigned ++ rest))).releaseEach visit ys.length xs.length =
      .ok (live (ys ++ (List.replicate xs.length .released ++ rest))) := by
  induction xs generalizing ys with
  | nil => rfl
  | cons x xs ih =>
    have here : (live (ys ++ ((x :: xs).map .assigned ++ rest))).read ys.length = .ok x := by
      simp [read, cells, ok_bind]
    have gone := releaseCell_append x ys (xs.map .assigned ++ rest)
    rw [List.length_cons, releaseEach, here, ok_bind, ok x List.mem_cons_self, ok_bind,
      List.map_cons, List.cons_append, gone, ok_bind]
    have rest_ok := ih (fun y hy => ok y (List.mem_cons_of_mem x hy)) (ys ++ [.released])
    simpa [List.replicate_succ] using rest_ok

theorem releaseEach_holds {visit : α → Except MemoryFault Unit} {o : Owned α} {xs : List α}
    (h : o.Holds xs) (ok : ∀ x ∈ xs, visit x = .ok ()) :
    ∃ cs, o.releaseEach visit 0 xs.length = .ok (live cs) := by
  obtain ⟨rest, rfl⟩ := h
  exact ⟨_, by simpa using releaseEach_live ok [] rest⟩

theorem foldEach_live {β : Type} {visit : Nat → α → β → Except MemoryFault β}
    {f : Nat → α → β → β} {xs : List α} (ok : ∀ x ∈ xs, ∀ k b, visit k x b = .ok (f k x b))
    (ys rest : List (Cell α)) (b : β) :
    (live (ys ++ (xs.map .assigned ++ rest))).foldEach visit ys.length xs.length b =
      .ok ((xs.zipIdx ys.length).foldl (fun b p => f p.2 p.1 b) b) := by
  induction xs generalizing ys b with
  | nil => rfl
  | cons x xs ih =>
    have here : (live (ys ++ ((x :: xs).map .assigned ++ rest))).read ys.length = .ok x := by
      simp [read, cells, ok_bind]
    have tail := ih (fun y hy => ok y (List.mem_cons_of_mem x hy)) (ys ++ [.assigned x])
      (f ys.length x b)
    rw [List.length_cons, foldEach, here, ok_bind, ok x List.mem_cons_self, ok_bind]
    simpa [List.zipIdx_cons] using tail

theorem contents_holds {o : Owned α} {xs : List α} (h : o.Holds xs) :
    o.contents xs.length = xs := by
  obtain ⟨rest, rfl⟩ := h
  rw [contents, List.take_left' (by simp), List.filterMap_map]
  exact List.filterMap_some

theorem contents_zero (o : Owned α) : o.contents 0 = [] := by
  cases o <;> rfl

theorem contents_filled {P : α → Prop} {count : Nat} {o : Owned α} (h : o.Filled P count) :
    ∀ x ∈ o.contents count, P x := by
  rcases h with rfl | ⟨xs, rfl, held, each⟩
  · rw [contents_zero]
    intro x member
    simp at member
  · rwa [contents_holds held]

theorem contents_nil_iff {P : α → Prop} {count : Nat} {o : Owned α} (h : o.Filled P count) :
    o.contents count = [] ↔ count = 0 := by
  rcases h with rfl | ⟨xs, rfl, held, _⟩
  · simp [contents_zero]
  · rw [contents_holds held, List.length_eq_zero_iff]

theorem contents_partly (xs : List α) (m : Nat) : (partly xs m).contents (xs.length + m) = xs := by
  have all : (xs.map Cell.assigned ++ List.replicate m Cell.unassigned).take (xs.length + m) =
      xs.map Cell.assigned ++ List.replicate m Cell.unassigned :=
    List.take_of_length_le (by simp)
  have kept : (xs.map Cell.assigned).filterMap Cell.entry = xs := by
    rw [List.filterMap_map]
    exact List.filterMap_some
  have none_kept : (List.replicate m (Cell.unassigned : Cell α)).filterMap Cell.entry = [] := by
    simp [Cell.entry]
  unfold contents partly
  dsimp only
  rw [all, List.filterMap_append, kept, none_kept, List.append_nil]

theorem foldEach_filled {P : α → Prop} {count : Nat} {o : Owned α} {β : Type}
    {visit : Nat → α → β → Except MemoryFault β} {f : Nat → α → β → β} (h : o.Filled P count)
    (ok : ∀ x ∈ o.contents count, ∀ k b, visit k x b = .ok (f k x b)) (b : β) :
    o.foldEach visit 0 count b =
      .ok ((o.contents count).zipIdx.foldl (fun b p => f p.2 p.1 b) b) := by
  rcases h with rfl | ⟨xs, rfl, held, _⟩
  · rw [contents_zero]
    rfl
  · rw [contents_holds held] at ok ⊢
    obtain ⟨rest, rfl⟩ := held
    exact foldEach_live ok [] rest b

theorem read_live_ok {cs : List (Cell α)} {i : Nat} {a : α} :
    (live cs).read i = .ok a ↔ cs[i]? = some (.assigned a) := by
  simp only [read, cells, ok_bind]
  cases h : cs[i]? with
  | none => simp
  | some c =>
    cases c with
    | assigned b => simp
    | unassigned => simp
    | released => simp

theorem mem_contents {count : Nat} {o : Owned α} {a : α} :
    a ∈ o.contents count ↔ ∃ i < count, o.read i = .ok a := by
  cases o with
  | null =>
    refine ⟨nofun, ?_⟩
    rintro ⟨i, _, fault⟩
    cases fault
  | released =>
    refine ⟨nofun, ?_⟩
    rintro ⟨i, _, fault⟩
    cases fault
  | live cs =>
    simp only [read_live_ok]
    rw [contents, List.mem_filterMap]
    constructor
    · rintro ⟨c, member, value⟩
      obtain ⟨i, hi⟩ := List.mem_iff_getElem?.mp member
      cases c with
      | unassigned => cases value
      | released => cases value
      | assigned b =>
        cases value
        rw [List.getElem?_take] at hi
        by_cases h : i < count
        · rw [if_pos h] at hi
          exact ⟨i, h, hi⟩
        · rw [if_neg h] at hi
          cases hi
    · rintro ⟨i, hi, cell⟩
      refine ⟨.assigned a, List.mem_iff_getElem?.mpr ⟨i, ?_⟩, rfl⟩
      rw [List.getElem?_take, if_pos hi, cell]

end Owned

end HyperionWebos.OwnedArray
