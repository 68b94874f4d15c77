import HyperionWebos.SettingsOwnership

/-! Any sequence of `settings_load_json` calls from `settings_init`. The ownership law
holds for a sequence of documents exactly when every HDR type maps names to numbers and
no array key is dropped after it was carried, except by the last document. -/

namespace HyperionWebos.SettingsUpdates
open Runs OwnedArray Pbnjson SettingsLoad SettingsOwnership

def hasApps (key : String) (j : JVal) : Bool := jisArray (jobjectGet j key)

def StringApps (key : String) (j : JVal) : Prop :=
  ∀ item ∈ jitems (jobjectGet j key), jisString item = true

def AppsAreStrings (j : JVal) : Prop :=
  StringApps "included_apps" j ∧ StringApps "excluded_apps" j

def AppsSettled (a : Apps) : Prop := Settled (fun _ => True) a.count a.apps

structure NextApps (key : String) (j : JVal) (a a' : Apps) : Prop where
  carried : hasApps key j = true → AppsSettled a' ∧ a'.apps ≠ .null
  dropped : hasApps key j = false → a' = ⟨0, afterFree a.apps⟩

theorem freeApps_filled {a : Apps} (filled : a.apps.Filled (fun _ => True) a.count)
    (here : a.apps ≠ .released) : freeApps a = .ok ⟨0, afterFree a.apps⟩ := by
  have ok : ∀ app : String, True → nothing app = .ok () := fun _ _ => rfl
  obtain ⟨cells, released, freed⟩ := release_filled filled here ok
  rw [freeApps, released, ok_bind, freed]
  rfl

theorem freeApps_settled {a : Apps} (settled : AppsSettled a) :
    freeApps a = .ok ⟨0, afterFree a.apps⟩ :=
  freeApps_filled settled.filled settled.not_released

theorem loadAppList_odd {key : String} {j : JVal} (a : Apps) (odd : ¬ StringApps key j) :
    loadAppList a j key = .error .nullDereference := by
  rw [StringApps] at odd
  push Not at odd
  obtain ⟨item, member, notString⟩ := odd
  rw [loadAppList]
  generalize jobjectGet j key = value at member ⊢
  cases value with
  | array items =>
    have copy := copyApps_null items [] items.length (Nat.le_refl _)
      ⟨item, member, by simpa using notString⟩
    rw [List.length_nil] at copy
    simp only [jisArray, if_true, jitems, jarraySize, Owned.malloc_eq_partly, copy]
    rfl
  | _ => cases member

theorem loadAppList_carried {key : String} {j : JVal} (a : Apps) {items : List JVal}
    (found : jobjectGet j key = .array items)
    (strings : ∀ item ∈ items, jisString item = true) :
    loadAppList a j key = .ok ⟨items.length, .partly (items.filterMap jstringGet) 0⟩ := by
  have copy := copyApps_partly items [] items.length (Nat.le_refl _) strings
  rw [List.length_nil, List.nil_append, Nat.sub_self] at copy
  simp only [loadAppList, found, jisArray, if_true, jitems, jarraySize, Owned.malloc_eq_partly,
    copy]
  rfl

theorem loadAppList_strings {key : String} {j : JVal} (a : Apps) (strings : StringApps key j) :
    ∃ a', loadAppList a j key = .ok a' ∧
      (hasApps key j = true → AppsSettled a' ∧ a'.apps ≠ .null) ∧
      (hasApps key j = false → a' = a) := by
  rw [StringApps] at strings
  cases found : jobjectGet j key with
  | array items =>
    rw [found] at strings
    refine ⟨_, loadAppList_carried a found strings, fun _ => ⟨?_, nofun⟩, fun absent => ?_⟩
    · exact Or.inr ⟨_, filterMap_jstringGet_length strings, Owned.partly_holds _ _,
        fun _ _ => trivial⟩
    · rw [hasApps, found] at absent
      simp [jisArray] at absent
  | _ =>
    simp only [loadAppList, hasApps, found]
    exact ⟨a, rfl, nofun, fun _ => rfl⟩

theorem settingsLoadApps_cases {included excluded : Apps} (j : JVal)
    (inc : AppsSettled included) (exc : AppsSettled excluded) :
    (¬ AppsAreStrings j ∧ settingsLoadApps included excluded j = .error .nullDereference) ∨
    ∃ i e, AppsAreStrings j ∧ settingsLoadApps included excluded j = .ok (i, e) ∧
      NextApps "included_apps" j included i ∧ NextApps "excluded_apps" j excluded e := by
  rw [settingsLoadApps, freeApps_settled inc, ok_bind, freeApps_settled exc, ok_bind]
  by_cases first : StringApps "included_apps" j
  · obtain ⟨i, loadI, carriedI, droppedI⟩ := loadAppList_strings
      ⟨0, afterFree included.apps⟩ first
    by_cases second : StringApps "excluded_apps" j
    · obtain ⟨e, loadE, carriedE, droppedE⟩ := loadAppList_strings
        ⟨0, afterFree excluded.apps⟩ second
      refine Or.inr ⟨i, e, ⟨first, second⟩, ?_, ⟨carriedI, droppedI⟩, ⟨carriedE, droppedE⟩⟩
      rw [loadI, ok_bind, loadE]
      rfl
    · refine Or.inl ⟨fun all => second all.2, ?_⟩
      rw [loadI, ok_bind, loadAppList_odd _ second]
      rfl
  · refine Or.inl ⟨fun all => first all.1, ?_⟩
    rw [loadAppList_odd _ first]
    rfl

/-- All arrays settled: what every load starts from and a good load restores. -/
structure Tidy (s : Settings) : Prop where
  adjustments : Settled GainsFilled s.hyperion.adjustmentsCount s.hyperion.adjustments
  instances : s.hyperion.instances.Filled (fun _ => True) s.hyperion.instancesCount
  included : AppsSettled s.includedApps
  excluded : AppsSettled s.excludedApps

theorem Tidy.represented {s : Settings} (h : Tidy s) : Represented s :=
  ⟨h.adjustments.filled, h.instances, h.included.filled, h.excluded.filled⟩

theorem tidy_settingsInit : Tidy settingsInit :=
  ⟨Or.inl ⟨rfl, rfl⟩, Or.inl rfl, Or.inl ⟨rfl, rfl⟩, Or.inl ⟨rfl, rfl⟩⟩

structure Next (j : JVal) (s s' : Settings) : Prop where
  hyperion : NextHyperion j s.hyperion s'.hyperion
  included : NextApps "included_apps" j s.includedApps s'.includedApps
  excluded : NextApps "excluded_apps" j s.excludedApps s'.excludedApps

theorem NextApps.filled {key : String} {j : JVal} {a a' : Apps} (next : NextApps key j a a') :
    a'.apps.Filled (fun _ => True) a'.count := by
  cases has : hasApps key j with
  | true => exact (next.carried has).1.filled
  | false =>
    rw [next.dropped has]
    exact filled_zero _ _

theorem Next.represented {j : JVal} {s s' : Settings} (next : Next j s s') : Represented s' := by
  refine ⟨?_, next.hyperion.instances, next.included.filled, next.excluded.filled⟩
  cases has : hasHyperion j with
  | true =>
    obtain ⟨held, count, filled⟩ := next.hyperion.carried has
    rw [count]
    exact Owned.filled_of_holds held filled
  | false =>
    rw [(next.hyperion.dropped has).2]
    exact filled_zero _ _

theorem settingsLoadJson_cases {s : Settings} (j : JVal) (tidy : Tidy s) :
    (∃ f, settingsLoadJson s j = .error f ∧ f ≠ .nullDereference ∧
      (¬ NumericGains j ∨ hasHyperion j = false ∧ s.hyperion.adjustmentsCount ≠ 0)) ∨
    (NumericGains j ∧ (hasHyperion j = false → s.hyperion.adjustmentsCount = 0) ∧
      ((¬ AppsAreStrings j ∧ settingsLoadJson s j = .error .nullDereference) ∨
        ∃ s', AppsAreStrings j ∧ settingsLoadJson s j = .ok s' ∧ Next j s s')) := by
  rcases settingsHyperionLoad_cases j tidy.adjustments tidy.instances with
    ⟨f, load, memory, cause⟩ | ⟨h', load, next, dump, numeric, kept⟩
  · refine Or.inl ⟨f, ?_, memory, cause⟩
    simp only [settingsLoadJson, settingsLoadJsonWith, settingsHyperionLoadWith_nil, load]
    rfl
  · refine Or.inr ⟨numeric, kept, ?_⟩
    rcases settingsLoadApps_cases j tidy.included tidy.excluded with
      ⟨odd, apps⟩ | ⟨i, e, strings, apps, nextI, nextE⟩
    · refine Or.inl ⟨odd, ?_⟩
      simp only [settingsLoadJson, settingsLoadJsonWith, settingsHyperionLoadWith_nil, load,
        ok_bind, apps]
      rfl
    · right
      simp only [settingsLoadJson, settingsLoadJsonWith, settingsHyperionLoadWith_nil, load,
        ok_bind, apps, dump]
      exact ⟨_, strings, rfl, next, nextI, nextE⟩

/-- After `dangling` arrays the next load, whatever it carries, faults. -/
structure Dangling (s : Settings) : Prop where
  adjustments : Settled GainsFilled s.hyperion.adjustmentsCount s.hyperion.adjustments ∨
    s.hyperion.adjustments = .released ∧ s.hyperion.adjustmentsCount = 0
  instances : s.hyperion.instances.Filled (fun _ => True) s.hyperion.instancesCount
  included : AppsSettled s.includedApps ∨ s.includedApps = ⟨0, .released⟩
  excluded : AppsSettled s.excludedApps ∨ s.excludedApps = ⟨0, .released⟩
  some_dangles : s.hyperion.adjustments = .released ∨ s.includedApps = ⟨0, .released⟩ ∨
    s.excludedApps = ⟨0, .released⟩

theorem Dangling.represented {s : Settings} (h : Dangling s) : Represented s := by
  refine ⟨?_, h.instances, ?_, ?_⟩
  · rcases h.adjustments with settled | ⟨_, zero⟩
    · exact settled.filled
    · exact Or.inl zero
  · rcases h.included with settled | released
    · exact settled.filled
    · exact Or.inl (by rw [released])
  · rcases h.excluded with settled | released
    · exact settled.filled
    · exact Or.inl (by rw [released])

theorem settingsLoadJson_dangling {s : Settings} (j : JVal) (dangling : Dangling s) :
    ∃ f, settingsLoadJson s j = .error f ∧ f ≠ .nullDereference := by
  rcases dangling.adjustments with settled | ⟨released, zero⟩
  · rcases settingsHyperionLoad_cases j settled dangling.instances with
      ⟨f, load, memory, _⟩ | ⟨h', load, _⟩
    · refine ⟨f, ?_, memory⟩
      simp only [settingsLoadJson, settingsLoadJsonWith, settingsHyperionLoadWith_nil, load]
      rfl
    · refine ⟨.doubleRelease, ?_, by decide⟩
      have apps : settingsLoadApps s.includedApps s.excludedApps j = .error .doubleRelease := by
        rcases dangling.included with inc | inc
        · rcases dangling.some_dangles with adj | inc' | exc
          · rw [adj] at settled
            exact absurd rfl settled.not_released
          · rw [inc'] at inc
            exact absurd rfl inc.not_released
          · rw [settingsLoadApps, freeApps_settled inc, ok_bind, exc]
            rfl
        · rw [settingsLoadApps, inc]
          rfl
      simp only [settingsLoadJson, settingsLoadJsonWith, settingsHyperionLoadWith_nil, load,
        ok_bind, apps]
      rfl
  · refine ⟨.doubleRelease, ?_, by decide⟩
    have load : settingsHyperionLoad s.hyperion j = .error .doubleRelease := by
      rw [settingsHyperionLoad, settingsHyperionLoadWith, zero, released]
      rfl
    simp only [settingsLoadJson, settingsLoadJsonWith, settingsHyperionLoadWith_nil, load]
    rfl

/-- The ownership law for a sequence of loads: no load reads or releases wrongly, and
after each of them every counted array is live and initialised. A null dereference ends
the process before the load returns and is the subject of other laws. -/
def Sound (unset : List (String × JVal)) (s : Settings) (docs : List JVal) : Prop :=
  ∀ pre post, docs = pre ++ post →
    (∀ f, run (settingsLoadJsonWith unset) s pre = .error f → f = .nullDereference) ∧
    ∀ s', run (settingsLoadJsonWith unset) s pre = .ok s' → Represented s'

section Sound

variable {unset : List (String × JVal)}

theorem sound_here {s : Settings} (here : Represented s) :
    (∀ f, run (settingsLoadJsonWith unset) s [] = .error f → f = .nullDereference) ∧
      ∀ s', run (settingsLoadJsonWith unset) s [] = .ok s' → Represented s' := by
  rw [run_nil]
  refine ⟨nofun, ?_⟩
  rintro s' reached
  cases reached
  exact here

theorem sound_nil {s : Settings} : Sound unset s [] ↔ Represented s := by
  constructor
  · exact fun sound => (sound [] [] rfl).2 s rfl
  · intro here pre post split
    obtain ⟨rfl, rfl⟩ := List.append_eq_nil_iff.mp split.symm
    exact sound_here here

theorem sound_cons_ok {s s' : Settings} {j : JVal} {rest : List JVal} (here : Represented s)
    (load : settingsLoadJsonWith unset s j = .ok s') :
    Sound unset s (j :: rest) ↔ Sound unset s' rest := by
  have through (pre : List JVal) : run (settingsLoadJsonWith unset) s (j :: pre) =
      run (settingsLoadJsonWith unset) s' pre := by rw [run, load, ok_bind]
  constructor
  · intro sound pre post split
    have tail := sound (j :: pre) post (by rw [split]; rfl)
    rwa [through] at tail
  · intro sound pre post split
    cases pre with
    | nil => exact sound_here here
    | cons i pre =>
      obtain ⟨rfl, tail⟩ := List.cons.inj split
      rw [through]
      exact sound pre post tail

theorem sound_cons_error {s : Settings} {j : JVal} {rest : List JVal} {f : MemoryFault}
    (here : Represented s) (load : settingsLoadJsonWith unset s j = .error f) :
    Sound unset s (j :: rest) ↔ f = .nullDereference := by
  have through (pre : List JVal) :
      run (settingsLoadJsonWith unset) s (j :: pre) = .error f := by
    rw [run, load, error_bind]
  constructor
  · exact fun sound => (sound [j] rest rfl).1 f (through [])
  · rintro rfl pre post split
    cases pre with
    | nil => exact sound_here here
    | cons i pre =>
      obtain ⟨rfl, _⟩ := List.cons.inj split
      rw [through]
      refine ⟨fun g same => (Except.error.inj same).symm, ?_⟩
      rintro s' reached
      cases reached

end Sound

/-- `next` may drop an array key that the document before it carried only as the last
load that completes, and the hyperion object only if no HDR type was carried. -/
def KeepsArrays (before next : JVal) (later : List JVal) : Prop :=
  (hasHyperion before = true → hasHyperion next = false →
    hdrEntries before = [] ∧ (AppsAreStrings next → later = [])) ∧
  ∀ key ∈ ["included_apps", "excluded_apps"], hasApps key before = true →
    hasApps key next = false → AppsAreStrings next → later = []

/-- The documents alone decide soundness; those after an item that is no string are
never reached. -/
def Clean : List JVal → Prop
  | [] => True
  | j :: rest => NumericGains j ∧ (AppsAreStrings j →
      Clean rest ∧ ∀ next later, rest = next :: later → KeepsArrays j next later)

structure After (p : JVal) (s : Settings) : Prop extends Tidy s where
  hyperion_null : hasHyperion p = false ↔ s.hyperion.adjustments = .null
  hyperion_count : hasHyperion p = true → s.hyperion.adjustmentsCount = (hdrEntries p).length
  included_null : hasApps "included_apps" p = false ↔ s.includedApps.apps = .null
  excluded_null : hasApps "excluded_apps" p = false ↔ s.excludedApps.apps = .null

theorem after_settingsInit : After .invalid settingsInit where
  toTidy := tidy_settingsInit
  hyperion_null := ⟨fun _ => rfl, fun _ => rfl⟩
  hyperion_count := nofun
  included_null := ⟨fun _ => rfl, fun _ => rfl⟩
  excluded_null := ⟨fun _ => rfl, fun _ => rfl⟩

def Kept (p j : JVal) : Prop :=
  (hasHyperion p = true → hasHyperion j = true) ∧
  (hasApps "included_apps" p = true → hasApps "included_apps" j = true) ∧
  (hasApps "excluded_apps" p = true → hasApps "excluded_apps" j = true)

theorem nextApps_kept {key : String} {p j : JVal} {a a' : Apps}
    (null : hasApps key p = false ↔ a.apps = .null) (next : NextApps key j a a')
    (kept : hasApps key p = true → hasApps key j = true) :
    AppsSettled a' ∧ (hasApps key j = false ↔ a'.apps = .null) := by
  cases has : hasApps key j with
  | true =>
    obtain ⟨settled, held⟩ := next.carried has
    exact ⟨settled, nofun, fun isNull => absurd isNull held⟩
  | false =>
    have before : hasApps key p = false := by
      cases h : hasApps key p with
      | false => rfl
      | true => rw [kept h] at has; cases has
    rw [next.dropped has, null.mp before]
    exact ⟨Or.inl ⟨rfl, rfl⟩, fun _ => rfl, fun _ => rfl⟩

theorem nextApps_dangling {key : String} {p j : JVal} {a a' : Apps}
    (null : hasApps key p = false ↔ a.apps = .null) (settled : AppsSettled a)
    (next : NextApps key j a a') :
    (AppsSettled a' ∨ a' = ⟨0, .released⟩) ∧
      (hasApps key p = true → hasApps key j = false → a' = ⟨0, .released⟩) := by
  cases has : hasApps key j with
  | true => exact ⟨Or.inl (next.carried has).1, nofun⟩
  | false =>
    rw [next.dropped has]
    rcases settled with ⟨_, isNull⟩ | ⟨xs, _, ⟨rest, live⟩, _⟩
    · rw [isNull]
      refine ⟨Or.inl (Or.inl ⟨rfl, rfl⟩), fun had _ => ?_⟩
      rw [null.mpr isNull] at had
      cases had
    · rw [live]
      exact ⟨Or.inr rfl, fun _ _ => rfl⟩

theorem after_of_kept {p j : JVal} {s s' : Settings} (after : After p s) (next : Next j s s')
    (kept : Kept p j) : After j s' := by
  obtain ⟨incSettled, incNull⟩ := nextApps_kept after.included_null next.included kept.2.1
  obtain ⟨excSettled, excNull⟩ := nextApps_kept after.excluded_null next.excluded kept.2.2
  have hyperion : Settled GainsFilled s'.hyperion.adjustmentsCount s'.hyperion.adjustments ∧
      (hasHyperion j = false ↔ s'.hyperion.adjustments = .null) ∧
      (hasHyperion j = true → s'.hyperion.adjustmentsCount = (hdrEntries j).length) := by
    cases has : hasHyperion j with
    | true =>
      obtain ⟨held, count, filled⟩ := next.hyperion.carried has
      refine ⟨Or.inr ⟨_, count.symm, held, filled⟩, ⟨nofun, fun null => ?_⟩, fun _ => count⟩
      obtain ⟨rest, live⟩ := held
      rw [live] at null
      cases null
    | false =>
      obtain ⟨freed, zero⟩ := next.hyperion.dropped has
      have before : hasHyperion p = false := by
        cases h : hasHyperion p with
        | false => rfl
        | true => rw [kept.1 h] at has; cases has
      rw [after.hyperion_null.mp before] at freed
      exact ⟨Or.inl ⟨zero, freed⟩, ⟨fun _ => freed, fun _ => rfl⟩, nofun⟩
  exact ⟨⟨hyperion.1, next.hyperion.instances, incSettled, excSettled⟩, hyperion.2.1, hyperion.2.2,
    incNull, excNull⟩

theorem dangling_of_dropped {p j : JVal} {s s' : Settings} (after : After p s) (next : Next j s s')
    (dropped : ¬ Kept p j) : Dangling s' := by
  obtain ⟨incEither, incDrop⟩ := nextApps_dangling after.included_null after.included next.included
  obtain ⟨excEither, excDrop⟩ := nextApps_dangling after.excluded_null after.excluded next.excluded
  have hyperion : (Settled GainsFilled s'.hyperion.adjustmentsCount s'.hyperion.adjustments ∨
        s'.hyperion.adjustments = .released ∧ s'.hyperion.adjustmentsCount = 0) ∧
      (hasHyperion p = true → hasHyperion j = false → s'.hyperion.adjustments = .released) := by
    cases has : hasHyperion j with
    | true =>
      obtain ⟨held, count, filled⟩ := next.hyperion.carried has
      exact ⟨Or.inl (Or.inr ⟨_, count.symm, held, filled⟩), nofun⟩
    | false =>
      obtain ⟨freed, zero⟩ := next.hyperion.dropped has
      rcases after.adjustments with ⟨_, isNull⟩ | ⟨xs, _, ⟨rest, live⟩, _⟩
      · rw [isNull] at freed
        refine ⟨Or.inl (Or.inl ⟨zero, freed⟩), fun had _ => ?_⟩
        rw [after.hyperion_null.mpr isNull] at had
        cases had
      · rw [live] at freed
        exact ⟨Or.inr ⟨freed, zero⟩, fun _ _ => freed⟩
  refine ⟨hyperion.1, next.hyperion.instances, incEither, excEither, ?_⟩
  by_contra none
  push Not at none
  refine dropped ⟨fun had => ?_, fun had => ?_, fun had => ?_⟩
  · by_contra lost
    exact none.1 (hyperion.2 had (by simpa using lost))
  · by_contra lost
    exact none.2.1 (incDrop had (by simpa using lost))
  · by_contra lost
    exact none.2.2 (excDrop had (by simpa using lost))

theorem sound_dangling {s : Settings} {docs : List JVal} (dangling : Dangling s) :
    Sound [] s docs ↔ docs = [] := by
  cases docs with
  | nil => exact ⟨fun _ => rfl, fun _ => sound_nil.mpr dangling.represented⟩
  | cons j rest =>
    obtain ⟨f, load, memory⟩ := settingsLoadJson_dangling j dangling
    rw [sound_cons_error dangling.represented load]
    exact ⟨fun null => absurd null memory, nofun⟩

theorem keepsArrays_of_kept {p j : JVal} {rest : List JVal} (kept : Kept p j) :
    KeepsArrays p j rest := by
  constructor
  · intro had lost
    rw [kept.1 had] at lost
    cases lost
  · intro key member had lost
    rcases List.mem_pair.mp member with rfl | rfl
    · rw [kept.2.1 had] at lost
      cases lost
    · rw [kept.2.2 had] at lost
      cases lost

theorem last_of_dropped {p j : JVal} {rest : List JVal} (keeps : KeepsArrays p j rest)
    (dropped : ¬ Kept p j) (strings : AppsAreStrings j) : rest = [] := by
  by_contra more
  refine dropped ⟨fun had => ?_, fun had => ?_, fun had => ?_⟩
  · by_contra lost
    exact more ((keeps.1 had (by simpa using lost)).2 strings)
  · by_contra lost
    exact more (keeps.2 _ (by simp) had (by simpa using lost) strings)
  · by_contra lost
    exact more (keeps.2 _ (by simp) had (by simpa using lost) strings)

theorem hdrEntries_nil_of_count {p : JVal} {s : Settings} (after : After p s)
    (had : hasHyperion p = true) (zero : s.hyperion.adjustmentsCount = 0) : hdrEntries p = [] := by
  rw [after.hyperion_count had] at zero
  exact List.length_eq_zero_iff.mp zero

theorem sound_iff_clean {docs : List JVal} {p : JVal} {s : Settings} (after : After p s) :
    Sound [] s docs ↔
      Clean docs ∧ ∀ next later, docs = next :: later → KeepsArrays p next later := by
  induction docs generalizing p s with
  | nil =>
    rw [sound_nil]
    exact ⟨fun _ => ⟨trivial, nofun⟩, fun _ => after.represented⟩
  | cons j rest ih =>
    have first : (∀ next later, j :: rest = next :: later → KeepsArrays p next later) ↔
        KeepsArrays p j rest :=
      ⟨fun all => all j rest rfl, fun one next later same => by
        obtain ⟨rfl, rfl⟩ := List.cons.inj same
        exact one⟩
    rw [first]
    rcases settingsLoadJson_cases j after.toTidy with
      ⟨f, load, memory, cause⟩ | ⟨numeric, kept, ⟨odd, load⟩ | ⟨s', strings, load, next⟩⟩
    · -- the load itself faults: some gain is no number, or counted adjustments are dropped
      rw [sound_cons_error after.represented load]
      refine ⟨fun null => absurd null memory, ?_⟩
      rintro ⟨⟨numeric, _⟩, keeps⟩
      rcases cause with mixed | ⟨lost, counted⟩
      · exact absurd numeric mixed
      · cases had : hasHyperion p with
        | true =>
          rw [after.hyperion_count had, (keeps.1 had lost).1] at counted
          exact absurd rfl counted
        | false =>
          rcases after.adjustments with ⟨zero, _⟩ | ⟨xs, _, ⟨cells, live⟩, _⟩
          · exact absurd zero counted
          · rw [after.hyperion_null.mp had] at live
            cases live
    · -- the process ends on a null string, so nothing later is loaded
      rw [sound_cons_error after.represented load]
      refine ⟨fun _ => ⟨⟨numeric, fun strings => absurd strings odd⟩, ?_, ?_⟩, fun _ => rfl⟩
      · intro had lost
        exact ⟨hdrEntries_nil_of_count after had (kept lost), fun strings => absurd strings odd⟩
      · intro key member had lost strings
        exact absurd strings odd
    · rw [sound_cons_ok after.represented load]
      by_cases keeps : Kept p j
      · rw [ih (after_of_kept after next keeps)]
        constructor
        · rintro ⟨clean, follow⟩
          exact ⟨⟨numeric, fun _ => ⟨clean, follow⟩⟩, keepsArrays_of_kept keeps⟩
        · rintro ⟨⟨_, tail⟩, _⟩
          exact tail strings
      · rw [sound_dangling (dangling_of_dropped after next keeps)]
        constructor
        · rintro rfl
          refine ⟨⟨numeric, fun _ => ⟨trivial, nofun⟩⟩, fun had lost => ?_, fun _ _ _ _ _ => rfl⟩
          exact ⟨hdrEntries_nil_of_count after had (kept lost), fun _ => rfl⟩
        · rintro ⟨_, arrays⟩
          exact last_of_dropped arrays keeps strings

/-- From `settings_init`, a sequence of loads is sound exactly when it is clean, if an iterator
that is left unset yields nothing. -/
theorem settings_updates_sound_iff (unset : List (String × JVal)) (silent : unset = [])
    (docs : List JVal) : Sound unset settingsInit docs ↔ Clean docs := by
  rw [silent, sound_iff_clean after_settingsInit, and_iff_left]
  rintro next later _
  exact keepsArrays_of_kept ⟨nofun, nofun, nofun⟩

theorem settings_updates_sound_app :
    Sound [] settingsInit [.object [("included_apps", .array [.string "app"])]] ↔
      Clean [.object [("included_apps", .array [.string "app"])]] :=
  settings_updates_sound_iff [] rfl [.object [("included_apps", .array [.string "app"])]]

/-- A list of apps followed by two documents without it: the array is freed twice. -/
theorem settings_updates_double_release :
    ¬ Sound [] settingsInit
      [.object [("included_apps", .array [.string "app"])], .object [], .object []] := by
  intro sound
  exact nomatch (sound _ [] (List.append_nil _).symm).1 .doubleRelease rfl

end HyperionWebos.SettingsUpdates
