import Mathlib.Data.List.Nodup

/-! Association lists as maps: when no key occurs twice, a lookup is membership, it does
not depend on the order of the pairs, and assigning fresh keys one after another builds
the list itself. -/

namespace HyperionWebos.AssocLists

variable {κ α β : Type}

def Distinct (l : List (κ × α)) : Prop := (l.map Prod.fst).Nodup

theorem Distinct.perm {l l' : List (κ × α)} (distinct : Distinct l) (p : l.Perm l') :
    Distinct l' :=
  (p.map Prod.fst).nodup distinct

variable [DecidableEq κ]

def assign (l : List (κ × α)) (k : κ) (a : α) : List (κ × α) :=
  l.filter (fun p => p.1 ≠ k) ++ [(k, a)]

theorem mem_of_lookup {l : List (κ × α)} {k : κ} {a : α} (h : l.lookup k = some a) :
    (k, a) ∈ l := by
  rw [List.lookup_eq_some_iff] at h
  obtain ⟨before, after, rfl, _⟩ := h
  simp

theorem lookup_of_mem {l : List (κ × α)} {k : κ} {a : α} (distinct : Distinct l)
    (h : (k, a) ∈ l) : l.lookup k = some a := by
  induction l with
  | nil => simp at h
  | cons p rest ih =>
    rw [Distinct, List.map_cons, List.nodup_cons] at distinct
    rw [List.mem_cons] at h
    rcases h with rfl | later
    · rw [List.lookup_cons_self]
    · have other : k ≠ p.1 := by
        rintro rfl
        apply distinct.1
        exact List.mem_map.mpr ⟨_, later, rfl⟩
      rw [List.lookup_cons, beq_false_of_ne other]
      exact ih distinct.2 later

theorem lookup_iff_mem {l : List (κ × α)} (distinct : Distinct l) (k : κ) (a : α) :
    l.lookup k = some a ↔ (k, a) ∈ l :=
  ⟨mem_of_lookup, lookup_of_mem distinct⟩

theorem lookup_perm {l l' : List (κ × α)} (distinct : Distinct l) (p : l.Perm l') (k : κ) :
    l.lookup k = l'.lookup k := by
  ext a
  rw [lookup_iff_mem distinct, lookup_iff_mem (distinct.perm p), p.mem_iff]

theorem lookup_assign (l : List (κ × α)) (k : κ) (a : α) (k' : κ) :
    (assign l k a).lookup k' = if k' = k then some a else l.lookup k' := by
  induction l with
  | nil =>
    rw [assign, List.filter_nil, List.nil_append, List.lookup_cons]
    by_cases asked : k' = k
    · rw [if_pos asked, asked, beq_self_eq_true]
    · rw [if_neg asked, beq_false_of_ne asked]
  | cons p rest ih =>
    unfold assign at ih ⊢
    by_cases here : p.1 = k
    · rw [List.filter_cons_of_neg (by simpa using here), ih, List.lookup_cons]
      by_cases asked : k' = k
      · rw [if_pos asked, if_pos asked]
      · rw [if_neg asked, if_neg asked, beq_false_of_ne (by rw [here]; exact asked)]
    · rw [List.filter_cons_of_pos (by simpa using here), List.cons_append, List.lookup_cons,
        List.lookup_cons, ih]
      by_cases asked : k' = p.1
      · simp only [asked, beq_self_eq_true, if_neg here]
      · rw [beq_false_of_ne asked]

theorem Distinct.assign {l : List (κ × α)} (distinct : Distinct l) (k : κ) (a : α) :
    Distinct (assign l k a) := by
  unfold Distinct AssocLists.assign
  rw [List.map_append, List.nodup_append]
  refine ⟨List.Nodup.sublist (List.filter_sublist.map _) distinct, by simp, ?_⟩
  intro k₁ member k₂ last
  simp only [List.mem_map, List.mem_filter] at member
  obtain ⟨p, ⟨_, other⟩, rfl⟩ := member
  simp at last
  rw [last]
  simpa using other

theorem distinct_foldl_assign {acc : List (κ × α)} (distinct : Distinct acc)
    (l : List (κ × α)) : Distinct (l.foldl (fun acc p => assign acc p.1 p.2) acc) := by
  induction l generalizing acc with
  | nil => exact distinct
  | cons p rest ih => exact ih (distinct.assign p.1 p.2)

theorem lookup_foldl_assign {l : List (κ × α)} (acc : List (κ × α)) (distinct : Distinct l)
    {k : κ} {a : α} (found : l.lookup k = some a) :
    (l.foldl (fun acc p => assign acc p.1 p.2) acc).lookup k = some a := by
  have later : ∀ (l acc : List (κ × α)), k ∉ l.map Prod.fst →
      (l.foldl (fun acc p => assign acc p.1 p.2) acc).lookup k = acc.lookup k := by
    intro l
    induction l with
    | nil => intro acc _; rfl
    | cons p rest ih =>
      intro acc absent
      rw [List.map_cons, List.mem_cons, not_or] at absent
      rw [List.foldl_cons, ih _ absent.2, lookup_assign, if_neg absent.1]
  induction l generalizing acc with
  | nil => simp at found
  | cons p rest ih =>
    unfold Distinct at distinct
    rw [List.map_cons, List.nodup_cons] at distinct
    rw [List.foldl_cons]
    by_cases here : k = p.1
    · rw [here, List.lookup_cons_self] at found
      rw [later rest _ (by rw [here]; exact distinct.1), lookup_assign, if_pos here, ← found]
    · rw [List.lookup_cons, beq_false_of_ne here] at found
      exact ih _ distinct.2 found

theorem foldl_assign (l acc : List (κ × α)) (distinct : Distinct (acc ++ l)) :
    l.foldl (fun acc p => assign acc p.1 p.2) acc = acc ++ l := by
  induction l generalizing acc with
  | nil => rw [List.foldl_nil, List.append_nil]
  | cons p rest ih =>
    have fresh : acc.filter (fun q => q.1 ≠ p.1) = acc := by
      rw [List.filter_eq_self]
      intro q member
      rw [Distinct, List.map_append, List.nodup_append] at distinct
      have apart := distinct.2.2 q.1 (List.mem_map_of_mem member) p.1 (by simp)
      simpa using apart
    rw [List.foldl_cons, assign, fresh, ih _ (by simpa using distinct)]
    simp

end HyperionWebos.AssocLists
