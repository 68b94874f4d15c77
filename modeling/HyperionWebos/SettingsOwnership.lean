import HyperionWebos.SettingsLoad

/-! Ownership of the settings arrays over any sequence of loads. One load is decided
completely from arrays that do not dangle; the sequence is then judged by which keys
consecutive documents carry. -/

namespace HyperionWebos.SettingsOwnership
open Runs OwnedArray Pbnjson SettingsLoad

/-- Not dangling: null with nothing counted, or a block holding all counted entries. -/
def Settled {α : Type} (P : α → Prop) (count : Nat) (o : Owned α) : Prop :=
  (count = 0 ∧ o = .null) ∨ ∃ xs, xs.length = count ∧ o.Holds xs ∧ ∀ x ∈ xs, P x

def GainsFilled (a : HyperionAdjustments) : Prop :=
  a.adjustments.Filled (fun _ => True) a.adjustmentsCount

/-- Every array with a non-zero count is a live block of that many initialised entries. -/
structure Represented (s : Settings) : Prop where
  adjustments : s.hyperion.adjustments.Filled GainsFilled s.hyperion.adjustmentsCount
  instances : s.hyperion.instances.Filled (fun _ => True) s.hyperion.instancesCount
  included : s.includedApps.apps.Filled (fun _ => True) s.includedApps.count
  excluded : s.excludedApps.apps.Filled (fun _ => True) s.excludedApps.count

theorem filled_zero {α : Type} (P : α → Prop) (o : Owned α) : o.Filled P 0 := Or.inl rfl

theorem Settled.filled {α : Type} {P : α → Prop} {count : Nat} {o : Owned α}
    (h : Settled P count o) : o.Filled P count := by
  rcases h with ⟨rfl, _⟩ | held
  · exact filled_zero P o
  · exact Or.inr held

/-- The pointer value `free` leaves behind, which nobody resets. -/
def afterFree {α : Type} : Owned α → Owned α
  | .null => .null
  | _ => .released

theorem release_filled {α : Type} {P : α → Prop} {count : Nat} {o : Owned α}
    {visit : α → Except MemoryFault Unit} (h : o.Filled P count) (here : o ≠ .released)
    (ok : ∀ x, P x → visit x = .ok ()) :
    ∃ cells, o.releaseEach visit 0 count = .ok cells ∧
      cells.free = .ok (afterFree o) := by
  rcases h with rfl | ⟨xs, rfl, held, each⟩
  · refine ⟨o, rfl, ?_⟩
    cases o with
    | null => rfl
    | live cs => rfl
    | released => exact absurd rfl here
  · obtain ⟨cs, released⟩ := Owned.releaseEach_holds held
      (fun x hx => ok x (each x hx))
    refine ⟨_, released, ?_⟩
    obtain ⟨rest, rfl⟩ := held
    rfl

theorem filled_released {α : Type} {P : α → Prop} {count : Nat}
    (h : (.released : Owned α).Filled P count) : count = 0 := by
  rcases h with rfl | ⟨xs, _, ⟨rest, live⟩, _⟩
  · rfl
  · cases live

theorem Settled.not_released {α : Type} {P : α → Prop} {count : Nat} {o : Owned α}
    (h : Settled P count o) : o ≠ .released := by
  rintro rfl
  rcases h with ⟨_, null⟩ | ⟨xs, _, ⟨rest, live⟩, _⟩
  · cases null
  · cases live

def gains (members : List (String × JVal)) : List HyperionAdjustment :=
  members.filterMap fun m => match m.2 with
    | .number n => some ⟨cstr m.1, n.f64⟩
    | _ => none

def hdrEntry (key : String) (inner : List (String × JVal)) : HyperionAdjustments :=
  ⟨cstr key, .partly (gains inner) (inner.length - (gains inner).length), inner.length⟩

def entries (members : List (String × JVal)) : List HyperionAdjustments :=
  members.filterMap fun m => match m.2 with
    | .object inner => some (hdrEntry m.1 inner)
    | _ => none

theorem gains_length_le (members : List (String × JVal)) :
    (gains members).length ≤ members.length :=
  List.length_filterMap_le _ _

theorem entries_length_le (members : List (String × JVal)) :
    (entries members).length ≤ members.length :=
  List.length_filterMap_le _ _

theorem loadKvmap_partly (members : List (String × JVal)) (xs : List HyperionAdjustment) (m : Nat)
    (room : (gains members).length ≤ m) :
    loadKvmap members xs.length (.partly xs m) =
      .ok (.partly (xs ++ gains members) (m - (gains members).length)) := by
  induction members generalizing xs m with
  | nil => simp [loadKvmap, gains]
  | cons member rest ih =>
    obtain ⟨key, value⟩ := member
    cases value with
    | number n =>
      have split : gains ((key, .number n) :: rest) = ⟨cstr key, n.f64⟩ :: gains rest := rfl
      rw [split] at room ⊢
      obtain ⟨m, rfl⟩ : ∃ m', m = m' + 1 := ⟨m - 1, by simp at room; omega⟩
      have stored := Owned.store_partly xs m ⟨cstr key, n.f64⟩
      have readBack : (Owned.partly (xs ++ [(⟨cstr key, n.f64⟩ : HyperionAdjustment)]) m).read
          xs.length = .ok ⟨cstr key, n.f64⟩ := by
        simp [Owned.partly, Owned.read, Owned.cells, ok_bind]
      have tail := ih (xs ++ [⟨cstr key, n.f64⟩]) m (by simpa using room)
      rw [List.length_append, List.length_singleton] at tail
      rw [loadKvmap, stored, ok_bind, readBack, ok_bind, tail]
      simp
    | invalid => exact ih xs m room
    | null => exact ih xs m room
    | boolean b => exact ih xs m room
    | string s => exact ih xs m room
    | array items => exact ih xs m room
    | object inner => exact ih xs m room

theorem loadAdjustments_partly (members : List (String × JVal)) (xs : List HyperionAdjustments)
    (m : Nat) (room : (entries members).length ≤ m) :
    loadAdjustments members xs.length (.partly xs m) =
      .ok (.partly (xs ++ entries members) (m - (entries members).length),
        xs.length + (entries members).length) := by
  induction members generalizing xs m with
  | nil => simp [loadAdjustments, entries]
  | cons member rest ih =>
    obtain ⟨key, value⟩ := member
    cases value with
    | object inner =>
      have split : entries ((key, .object inner) :: rest) = hdrEntry key inner :: entries rest :=
        rfl
      rw [split] at room ⊢
      obtain ⟨m, rfl⟩ : ∃ m', m = m' + 1 := ⟨m - 1, by simp at room; omega⟩
      have kvmap := loadKvmap_partly inner [] inner.length (gains_length_le inner)
      rw [List.length_nil, List.nil_append] at kvmap
      have tail := ih (xs ++ [hdrEntry key inner]) m (by simpa using room)
      rw [List.length_append, List.length_singleton] at tail
      rw [loadAdjustments, Owned.malloc_eq_partly, kvmap, ok_bind,
        show (⟨cstr key, _, inner.length⟩ : HyperionAdjustments) = hdrEntry key inner from rfl,
        Owned.store_partly, ok_bind, tail]
      simp [Nat.add_assoc, Nat.add_comm 1]
    | invalid => exact ih xs m room
    | null => exact ih xs m room
    | boolean b => exact ih xs m room
    | string s => exact ih xs m room
    | array items => exact ih xs m room
    | number n => exact ih xs m room

def instanceValue : JVal → Int
  | .number n => n.i32
  | _ => 0

theorem loadInstances_zeroed (items : List JVal) (xs : List Int) :
    loadInstances items xs.length (.partly (xs ++ List.replicate items.length 0) 0) =
      .ok (.partly (xs ++ items.map instanceValue) 0) := by
  induction items generalizing xs with
  | nil => rfl
  | cons item rest ih =>
    have loaded : loadInstance (.partly (xs ++ List.replicate (item :: rest).length 0) 0) xs.length
        item = .ok (.partly ((xs ++ [instanceValue item]) ++ List.replicate rest.length 0) 0) := by
      rw [List.length_cons, List.replicate_succ]
      cases item with
      | number n =>
        simp [loadInstance, Owned.store, Owned.cells, ok_bind, Owned.partly, instanceValue]
      | _ => simp [loadInstance, instanceValue]
    have readBack : (Owned.partly ((xs ++ [instanceValue item]) ++
        List.replicate rest.length 0) 0).read xs.length = .ok (instanceValue item) := by
      simp [Owned.partly, Owned.read, Owned.cells, ok_bind]
    have tail := ih (xs ++ [instanceValue item])
    rw [List.length_append, List.length_singleton] at tail
    rw [loadInstances, loaded, ok_bind, readBack, ok_bind, tail]
    simp

theorem copyApps_partly (items : List JVal) (xs : List String) (m : Nat)
    (room : items.length ≤ m) (strings : ∀ item ∈ items, jisString item = true) :
    copyApps items xs.length (.partly xs m) =
      .ok (.partly (xs ++ items.filterMap jstringGet) (m - items.length)) := by
  induction items generalizing xs m with
  | nil => simp [copyApps]
  | cons item rest ih =>
    have isString := strings item List.mem_cons_self
    rw [← jstringGet_isSome, Option.isSome_iff_exists] at isString
    obtain ⟨str, buffer⟩ := isString
    obtain ⟨m, rfl⟩ : ∃ m', m = m' + 1 := ⟨m - 1, by simp at room; omega⟩
    have readBack : (Owned.partly (xs ++ [str]) m).read xs.length = .ok str := by
      simp [Owned.partly, Owned.read, Owned.cells, ok_bind]
    have tail := ih (xs ++ [str]) m (by simpa using room)
      (fun item member => strings item (List.mem_cons_of_mem _ member))
    rw [List.length_append, List.length_singleton] at tail
    simp only [copyApps, buffer]
    rw [Owned.store_partly, ok_bind, readBack, ok_bind, tail, List.filterMap_cons_some buffer]
    simp

theorem filterMap_jstringGet_length {items : List JVal}
    (strings : ∀ item ∈ items, jisString item = true) :
    (items.filterMap jstringGet).length = items.length := by
  rw [List.filterMap_length_eq_length]
  intro item member
  rw [jstringGet_isSome]
  exact strings item member

theorem copyApps_null (items : List JVal) (xs : List String) (m : Nat) (room : items.length ≤ m)
    (odd : ∃ item ∈ items, jisString item = false) :
    copyApps items xs.length (.partly xs m) = .error .nullDereference := by
  induction items generalizing xs m with
  | nil =>
    obtain ⟨item, member, _⟩ := odd
    cases member
  | cons item rest ih =>
    cases buffer : jstringGet item with
    | none => simp only [copyApps, buffer]
    | some str =>
      obtain ⟨m, rfl⟩ : ∃ m', m = m' + 1 := ⟨m - 1, by simp at room; omega⟩
      have readBack : (Owned.partly (xs ++ [str]) m).read xs.length = .ok str := by
        simp [Owned.partly, Owned.read, Owned.cells, ok_bind]
      have later : ∃ item ∈ rest, jisString item = false := by
        obtain ⟨bad, member, notString⟩ := odd
        rcases List.mem_cons.mp member with rfl | later
        · rw [← jstringGet_isSome, buffer] at notString
          cases notString
        · exact ⟨bad, later, notString⟩
      have tail := ih (xs ++ [str]) m (by simpa using room) later
      rw [List.length_append, List.length_singleton] at tail
      simp only [copyApps, buffer]
      rw [Owned.store_partly, ok_bind, readBack, ok_bind, tail]

def hasHyperion (j : JVal) : Bool := jisObject (jobjectGet j "hyperion")

def hdrMembers (j : JVal) : List (String × JVal) :=
  jmembers (jobjectGet (jobjectGet j "hyperion") "adjustments")

def hdrEntries (j : JVal) : List HyperionAdjustments := entries (hdrMembers j)

def NumericGains (j : JVal) : Prop :=
  ∀ m ∈ hdrMembers j, ∀ inner ∈ jmembers m.2, jisNumber inner.2 = true

theorem gains_length_eq {members : List (String × JVal)} :
    (gains members).length = members.length ↔ ∀ m ∈ members, jisNumber m.2 = true := by
  induction members with
  | nil => simp [gains]
  | cons member rest ih =>
    have bound := gains_length_le rest
    obtain ⟨key, value⟩ := member
    cases value with
    | number n =>
      have split : gains ((key, .number n) :: rest) = ⟨cstr key, n.f64⟩ :: gains rest := rfl
      rw [split, List.length_cons, List.length_cons, Nat.add_right_cancel_iff, ih,
        List.forall_mem_cons]
      exact ⟨fun h => ⟨rfl, h⟩, And.right⟩
    | _ =>
      rw [List.forall_mem_cons]
      refine ⟨fun h => ?_, fun h => absurd h.1 Bool.false_ne_true⟩
      change (gains rest).length = rest.length + 1 at h
      omega

theorem mem_entries {members : List (String × JVal)} {e : HyperionAdjustments} :
    e ∈ entries members ↔
      ∃ key inner, (key, JVal.object inner) ∈ members ∧ e = hdrEntry key inner := by
  rw [entries, List.mem_filterMap]
  constructor
  · rintro ⟨⟨key, value⟩, member, found⟩
    cases value with
    | object inner => exact ⟨key, inner, member, (Option.some.inj found).symm⟩
    | _ => cases found
  · rintro ⟨key, inner, member, rfl⟩
    exact ⟨(key, .object inner), member, rfl⟩

theorem hdrEntry_filled (key : String) {inner : List (String × JVal)}
    (numeric : ∀ m ∈ inner, jisNumber m.2 = true) : GainsFilled (hdrEntry key inner) := by
  have len := gains_length_eq.mpr numeric
  exact Or.inr ⟨gains inner, len, Owned.partly_holds _ _, fun _ _ => trivial⟩

theorem readEach_filled {α : Type} {P : α → Prop} {count : Nat} {o : Owned α}
    {visit : α → Except MemoryFault Unit} (h : o.Filled P count)
    (ok : ∀ x, P x → visit x = .ok ()) : o.readEach visit 0 count = .ok () := by
  rcases h with rfl | ⟨xs, rfl, held, each⟩
  · rfl
  · exact Owned.readEach_holds held fun x member => ok x (each x member)

theorem freeAdjustment_filled {a : HyperionAdjustments} (h : GainsFilled a) :
    freeAdjustment a = .ok () := by
  rcases h with zero | ⟨xs, len, held, _⟩
  · rw [freeAdjustment, zero]
    rfl
  · have ok : ∀ x ∈ xs, nothing x = .ok () := fun _ _ => rfl
    obtain ⟨cs, released⟩ := Owned.releaseEach_holds held ok
    rw [freeAdjustment, ← len, released]
    rfl

theorem dumpAdjustment_filled {a : HyperionAdjustments} (h : GainsFilled a) :
    dumpAdjustment a = .ok () :=
  readEach_filled h fun _ _ => rfl

/-- A gain that is no number leaves a counted cell unassigned, and the dump reads it. -/
theorem dumpAdjustment_mixed (key : String) {inner : List (String × JVal)}
    (mixed : ¬ ∀ m ∈ inner, jisNumber m.2 = true) :
    dumpAdjustment (hdrEntry key inner) = .error .readUnassigned := by
  have shorter : (gains inner).length < inner.length :=
    Nat.lt_of_le_of_ne (gains_length_le inner) fun len => mixed (gains_length_eq.mp len)
  obtain ⟨d, gap⟩ : ∃ d, inner.length = (gains inner).length + (d + 1) :=
    ⟨inner.length - (gains inner).length - 1, by omega⟩
  rw [dumpAdjustment, hdrEntry, show inner.length - (gains inner).length = d + 1 by omega, gap]
  exact Owned.readEach_partly (fun _ _ => rfl) d

theorem dumpAdjustments_filled {h : Hyperion}
    (filled : h.adjustments.Filled GainsFilled h.adjustmentsCount) : dumpAdjustments h = .ok () :=
  readEach_filled filled fun _ => dumpAdjustment_filled

theorem dumpAdjustments_mixed {h : Hyperion} {j : JVal} (held : h.adjustments.Holds (hdrEntries j))
    (count : h.adjustmentsCount = (hdrEntries j).length) (mixed : ¬ NumericGains j) :
    dumpAdjustments h = .error .readUnassigned := by
  rw [NumericGains] at mixed
  push Not at mixed
  obtain ⟨⟨key, value⟩, member, odd, inside, notNumber⟩ := mixed
  cases value with
  | object inner =>
    have bad : ∃ e ∈ hdrEntries j, dumpAdjustment e ≠ .ok () := by
      refine ⟨hdrEntry key inner, mem_entries.mpr ⟨key, inner, member, rfl⟩, ?_⟩
      have mixed : ¬ ∀ m ∈ inner, jisNumber m.2 = true := fun all => notNumber (all odd inside)
      rw [dumpAdjustment_mixed key mixed]
      exact nofun
    obtain ⟨e, memberE, f, faults, loop⟩ := Owned.readEach_holds_error held bad
    obtain ⟨key', inner', _, rfl⟩ := mem_entries.mp memberE
    rw [dumpAdjustments, count, loop, ← faults]
    by_cases numeric : ∀ m ∈ inner', jisNumber m.2 = true
    · rw [dumpAdjustment_filled (hdrEntry_filled key' numeric)] at faults
      cases faults
    · exact dumpAdjustment_mixed key' numeric
  | _ => cases inside

structure NextHyperion (j : JVal) (h h' : Hyperion) : Prop where
  instances : h'.instances.Filled (fun _ => True) h'.instancesCount
  carried : hasHyperion j = true → h'.adjustments.Holds (hdrEntries j) ∧
    h'.adjustmentsCount = (hdrEntries j).length ∧ ∀ e ∈ hdrEntries j, GainsFilled e
  dropped : hasHyperion j = false →
    h'.adjustments = afterFree h.adjustments ∧ h'.adjustmentsCount = 0

theorem hdrMembers_of_not_hasHyperion {j : JVal} (absent : hasHyperion j = false) :
    hdrMembers j = [] := by
  rw [hasHyperion] at absent
  rw [hdrMembers]
  generalize jobjectGet j "hyperion" = value at absent ⊢
  cases value with
  | object members => cases absent
  | _ => rfl

theorem numericGains_of_not_hasHyperion {j : JVal} (absent : hasHyperion j = false) :
    NumericGains j := by
  intro m member
  rw [hdrMembers_of_not_hasHyperion absent] at member
  cases member

theorem gainsFilled_of_numeric {j : JVal} (numeric : NumericGains j) :
    ∀ e ∈ hdrEntries j, GainsFilled e := by
  intro e member
  obtain ⟨key, inner, found, rfl⟩ := mem_entries.mp member
  exact hdrEntry_filled key fun m m_in => numeric (key, .object inner) found m m_in

def instanceItems (j : JVal) : List JVal :=
  jitems (jobjectGet (jobjectGet j "hyperion") "instances")

def carriedHyperion (h : Hyperion) (j : JVal) : Hyperion where
  hyperionAdjustments := loadBool (jobjectGet j "hyperion") "enabled" h.hyperionAdjustments
  adjustments := .partly (hdrEntries j) ((hdrMembers j).length - (hdrEntries j).length)
  adjustmentsCount := (hdrEntries j).length
  instances := .partly ((instanceItems j).map instanceValue) 0
  instancesCount := (instanceItems j).length

theorem carriedHyperion_instances (h : Hyperion) (j : JVal) :
    (carriedHyperion h j).instances.Filled (fun _ => True) (carriedHyperion h j).instancesCount :=
  Or.inr ⟨_, List.length_map instanceValue, Owned.partly_holds _ _, fun _ _ => trivial⟩

theorem settingsHyperionLoad_carried {h : Hyperion} {j : JVal}
    (filled : h.adjustments.Filled GainsFilled h.adjustmentsCount)
    (here : h.adjustments ≠ .released) (has : hasHyperion j = true) :
    settingsHyperionLoad h j = (do
      dumpAdjustments (carriedHyperion h j)
      return carriedHyperion h j) := by
  obtain ⟨cells, released, freed⟩ := release_filled filled here fun _ => freeAdjustment_filled
  have outer := loadAdjustments_partly (hdrMembers j) [] (hdrMembers j).length
    (entries_length_le _)
  rw [List.length_nil, List.nil_append, Nat.zero_add] at outer
  have inner := loadInstances_zeroed (instanceItems j) []
  rw [List.length_nil, List.nil_append, List.nil_append] at inner
  have zeroed : (Owned.calloc (instanceItems j).length 0 : Owned Int) =
      .partly (List.replicate (instanceItems j).length 0) 0 := by
    simp [Owned.calloc, Owned.partly]
  rw [hasHyperion] at has
  simp only [settingsHyperionLoad, settingsHyperionLoadWith, loadAdjustmentsMember_nil, released,
    ok_bind, freed, has, if_true]
  rw [show jmembers (jobjectGet (jobjectGet j "hyperion") "adjustments") = hdrMembers j from rfl,
    show jobjectSize (jobjectGet (jobjectGet j "hyperion") "adjustments") =
      (hdrMembers j).length from rfl, Owned.malloc_eq_partly, outer, ok_bind,
    show jitems (jobjectGet (jobjectGet j "hyperion") "instances") = instanceItems j from rfl,
    show jarraySize (jobjectGet (jobjectGet j "hyperion") "instances") =
      (instanceItems j).length from rfl, zeroed, inner, ok_bind]
  rfl

theorem settingsHyperionLoadWith_released {h : Hyperion}
    (filled : h.adjustments.Filled GainsFilled h.adjustmentsCount)
    (released : h.adjustments = .released) (unset : List (String × JVal)) (j : JVal) :
    settingsHyperionLoadWith unset h j = .error .doubleRelease := by
  rw [released] at filled
  rw [settingsHyperionLoadWith, filled_released filled, released]
  rfl

theorem settingsHyperionLoad_dropped {h : Hyperion} {j : JVal}
    (settled : Settled GainsFilled h.adjustmentsCount h.adjustments)
    (absent : hasHyperion j = false) :
    settingsHyperionLoad h j = (do
      let h' := { h with adjustments := afterFree h.adjustments }
      dumpAdjustments h'
      return h') := by
  obtain ⟨cells, released, freed⟩ :=
    release_filled settled.filled settled.not_released fun _ => freeAdjustment_filled
  rw [hasHyperion] at absent
  simp only [settingsHyperionLoad, settingsHyperionLoadWith, loadAdjustmentsMember_nil, released,
    ok_bind, freed, absent, Bool.false_eq_true, if_false]
  rfl

/-- One load of the hyperion object from settled arrays: it faults exactly on a gain
that is no number and on a counted array that the document does not carry again. -/
theorem settingsHyperionLoad_cases {h : Hyperion} (j : JVal)
    (settled : Settled GainsFilled h.adjustmentsCount h.adjustments)
    (instances : h.instances.Filled (fun _ => True) h.instancesCount) :
    (∃ f, settingsHyperionLoad h j = .error f ∧ f ≠ .nullDereference ∧
      (¬ NumericGains j ∨ hasHyperion j = false ∧ h.adjustmentsCount ≠ 0)) ∨
    ∃ h', settingsHyperionLoad h j = .ok h' ∧ NextHyperion j h h' ∧ dumpAdjustments h' = .ok () ∧
      NumericGains j ∧ (hasHyperion j = false → h.adjustmentsCount = 0) := by
  cases has : hasHyperion j with
  | true =>
    have load := settingsHyperionLoad_carried settled.filled settled.not_released has
    have held : (carriedHyperion h j).adjustments.Holds (hdrEntries j) := Owned.partly_holds _ _
    by_cases numeric : NumericGains j
    · right
      have each := gainsFilled_of_numeric numeric
      have dump : dumpAdjustments (carriedHyperion h j) = .ok () :=
        dumpAdjustments_filled (Owned.filled_of_holds held each)
      refine ⟨carriedHyperion h j, by rw [load, dump]; rfl,
        ⟨carriedHyperion_instances h j, fun _ => ⟨held, rfl, each⟩, ?_⟩, dump, numeric, nofun⟩
      rw [has]
      exact nofun
    · left
      refine ⟨.readUnassigned, ?_, nofun, Or.inl numeric⟩
      rw [load, dumpAdjustments_mixed held rfl numeric]
      rfl
  | false =>
    have load := settingsHyperionLoad_dropped settled has
    cases count : h.adjustmentsCount with
    | zero =>
      right
      have dump : dumpAdjustments { h with adjustments := afterFree h.adjustments } = .ok () := by
        rw [dumpAdjustments, count]
        rfl
      refine ⟨{ h with adjustments := afterFree h.adjustments }, ?_, ⟨instances, ?_, ?_⟩, dump,
        numericGains_of_not_hasHyperion has, fun _ => rfl⟩
      · simp only [load, dump, ok_bind]
        rfl
      · rw [has]
        exact nofun
      · exact fun _ => ⟨rfl, count⟩
    | succ n =>
      left
      refine ⟨.readReleased, ?_, nofun, Or.inr ⟨rfl, Nat.succ_ne_zero n⟩⟩
      have dangling : afterFree h.adjustments = .released := by
        rcases settled with ⟨zero, _⟩ | ⟨xs, _, ⟨rest, live⟩, _⟩
        · omega
        · rw [live]
          rfl
      simp only [load, dumpAdjustments, dangling, count]
      rfl

end HyperionWebos.SettingsOwnership
