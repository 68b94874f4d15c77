import HyperionWebos.Pbnjson

/-! JSON values whose objects are maps: two values are the same when they differ only in
the order of the members of their objects, at every depth. Looking a key up in two such
values gives two such values, and anything but an array or an object is the same only as
itself. -/

namespace HyperionWebos.JsonMaps
open AssocLists Pbnjson

mutual

inductive SameJson : JVal → JVal → Prop where
  | same (v : JVal) : SameJson v v
  | array {xs ys : List JVal} : SameItems xs ys → SameJson (.array xs) (.array ys)
  | object {xs ys zs : List (String × JVal)} : SameMembers xs ys → ys.Perm zs →
      SameJson (.object xs) (.object zs)

inductive SameItems : List JVal → List JVal → Prop where
  | nil : SameItems [] []
  | cons {v w : JVal} {xs ys : List JVal} : SameJson v w → SameItems xs ys →
      SameItems (v :: xs) (w :: ys)

inductive SameMembers : List (String × JVal) → List (String × JVal) → Prop where
  | nil : SameMembers [] []
  | cons (key : String) {v w : JVal} {xs ys : List (String × JVal)} : SameJson v w →
      SameMembers xs ys → SameMembers ((key, v) :: xs) ((key, w) :: ys)

end

def isLeaf : JVal → Bool
  | .array _ | .object _ => false
  | _ => true

theorem SameJson.leaf {v w : JVal} (h : SameJson v w) (leaf : isLeaf v = true) : w = v := by
  cases h with
  | same => rfl
  | array => simp [isLeaf] at leaf
  | object => simp [isLeaf] at leaf

theorem SameItems.leaves {xs ys : List JVal} (h : SameItems xs ys)
    (leaves : ∀ x ∈ xs, isLeaf x = true) : ys = xs := by
  induction xs generalizing ys with
  | nil =>
    cases h
    rfl
  | cons v xs ih =>
    cases h with
    | cons first rest =>
      rw [List.forall_mem_cons] at leaves
      rw [first.leaf leaves.1, ih rest leaves.2]

theorem SameJson.leaves {xs : List JVal} {w : JVal} (h : SameJson (.array xs) w)
    (leaves : ∀ x ∈ xs, isLeaf x = true) : w = .array xs := by
  cases h with
  | same => rfl
  | array items => rw [items.leaves leaves]

theorem SameMembers.refl (xs : List (String × JVal)) : SameMembers xs xs := by
  induction xs with
  | nil => exact .nil
  | cons p xs ih => exact .cons p.1 (.same p.2) ih

theorem SameMembers.leaves {xs ys : List (String × JVal)} (h : SameMembers xs ys)
    (leaves : ∀ p ∈ xs, isLeaf p.2 = true) : ys = xs := by
  induction xs generalizing ys with
  | nil =>
    cases h
    rfl
  | cons p xs ih =>
    cases h with
    | cons key first rest =>
      rw [List.forall_mem_cons] at leaves
      rw [first.leaf leaves.1, ih rest leaves.2]

theorem SameJson.members {xs : List (String × JVal)} {w : JVal} (h : SameJson (.object xs) w) :
    ∃ ys zs, w = .object zs ∧ SameMembers xs ys ∧ ys.Perm zs := by
  cases h with
  | same => exact ⟨xs, xs, rfl, .refl xs, .refl xs⟩
  | object members perm => exact ⟨_, _, rfl, members, perm⟩

theorem SameMembers.keys {xs ys : List (String × JVal)} (h : SameMembers xs ys) :
    ys.map Prod.fst = xs.map Prod.fst := by
  induction xs generalizing ys with
  | nil =>
    cases h
    rfl
  | cons p xs ih =>
    cases h with
    | cons key first rest => rw [List.map_cons, List.map_cons, ih rest]

theorem SameMembers.lookup {xs ys : List (String × JVal)} (h : SameMembers xs ys) (key : String) :
    SameJson ((xs.lookup key).getD .invalid) ((ys.lookup key).getD .invalid) := by
  induction xs generalizing ys with
  | nil =>
    cases h
    exact .same _
  | cons p xs ih =>
    cases h with
    | cons key' first rest =>
      rw [List.lookup_cons, List.lookup_cons]
      split
      · exact first
      · exact ih rest

theorem SameJson.get {v w : JVal} (h : SameJson v w) (distinct : Distinct (jmembers v))
    (key : String) : SameJson (jobjectGet v key) (jobjectGet w key) := by
  cases h with
  | same => exact .same _
  | array => exact .same _
  | @object xs ys zs members perm =>
    have keys : Distinct ys := by
      unfold Distinct
      rw [members.keys]
      exact distinct
    unfold jobjectGet jmembers
    rw [← lookup_perm keys perm]
    exact members.lookup key

theorem SameJson.get_assigned {l target : List (String × JVal)} {w : JVal}
    (h : SameJson (.object (l.foldl (fun acc p => assign acc p.1 p.2) target)) w)
    (fresh : Distinct l) (distinct : Distinct target) {key : String} {v : JVal}
    (found : l.lookup key = some v) : SameJson v (jobjectGet w key) := by
  have got := h.get (distinct_foldl_assign distinct l) key
  rwa [jobjectGet_object, lookup_foldl_assign target fresh found, Option.getD_some] at got

theorem SameJson.isObject {v w : JVal} (h : SameJson v w) : jisObject w = jisObject v := by
  cases h <;> rfl

end HyperionWebos.JsonMaps
