import HyperionWebos.JsonMaps
import HyperionWebos.ServiceSteps
import HyperionWebos.SettingsSave
import HyperionWebos.SettingsUpdates

/-! Saving and loading the settings. The object `settings_save_json` writes is known
member by member; loading it, with its members in any order, restores every persisted
field over whatever was there before, unless an array pointer of the old settings
dangles from an earlier load and is freed once more. -/

namespace HyperionWebos.SettingsRoundTrip
open Runs AssocLists OwnedArray Pbnjson JsonMaps SettingsLoad SettingsOwnership SettingsUpdates
open ServiceLoop ServiceSteps SettingsSave

def instancesOf (h : Hyperion) : List Int := h.instances.contents h.instancesCount

def appsOf (a : Apps) : List String := a.apps.contents a.count

def strings (s : Settings) : List String :=
  s.videoBackend.toList ++ s.uiBackend.toList ++ [s.address, s.lutTable] ++
    (adjustmentsOf s.hyperion).flatMap (fun a => a.hdrType :: (gainsOf a).map (·.name)) ++
    appsOf s.includedApps ++ appsOf s.excludedApps

structure WellFormed (s : Settings) : Prop where
  represented : Represented s
  hdrTypes : ((adjustmentsOf s.hyperion).map (·.hdrType)).Nodup
  names : ∀ a ∈ adjustmentsOf s.hyperion, ((gainsOf a).map (·.name)).Nodup
  backends : s.videoBackend.isSome ∧ s.uiBackend.isSome
  terminated : ∀ str ∈ strings s, cstr str = str

/-- Loading the saved object, in whatever order its members come, gives `s` back. -/
def RoundTrips (s t : Settings) : Prop :=
  ∃ doc, settingsSaveJson s (.object []) = .ok doc ∧ ∀ source, SameJson doc source →
    ∃ t', settingsLoadJson t source = .ok t' ∧ persisted t' = persisted s

def AnswerKeeps (sv : Service) : Prop :=
  ∃ answer, serviceMethodGetSettings sv = .ok answer ∧
    ∀ payload, SameJson answer payload → ∀ env, ∃ sv',
      serviceMethodSetSettings payload env sv = .ok sv' ∧
      persisted sv'.settings = persisted sv.settings

/-- An array pointer that an earlier load freed and did not replace. -/
def Dangles (t : Settings) : Prop :=
  t.hyperion.adjustments = .released ∨ t.includedApps.apps = .released ∨
    t.excludedApps.apps = .released

def savedGain (a : HyperionAdjustment) : String × JVal :=
  (a.name, .number (jnumberCreateF64 a.gain))

def savedAdjustment (a : HyperionAdjustments) : String × JVal :=
  (a.hdrType, .object ((gainsOf a).map savedGain))

def savedInstance (i : Int) : JVal := .number (jnumberCreateI32 i)

def savedHyperion (h : Hyperion) : List (String × JVal) :=
  [("enabled", .boolean h.hyperionAdjustments),
    ("adjustments", .object ((adjustmentsOf h).map savedAdjustment)),
    ("instances", .array ((instancesOf h).map savedInstance))]

def savedMembers (s : Settings) : List (String × JVal) :=
  [("backend", .string (s.videoBackend.getD "")),
    ("uibackend", .string (s.uiBackend.getD "")),
    ("address", .string s.address),
    ("port", .number (jnumberCreateI32 s.port)),
    ("priority", .number (jnumberCreateI32 s.priority)),
    ("unix_socket", .boolean s.unixSocket),
    ("lut-table", .string s.lutTable),
    ("fps", .number (jnumberCreateI32 s.fps)),
    ("width", .number (jnumberCreateI32 s.width)),
    ("height", .number (jnumberCreateI32 s.height)),
    ("quirks", .number (jnumberCreateI32 s.quirks)),
    ("process_priority", .number (jnumberCreateI32 s.processPriority)),
    ("lumen_threshold", .number (jnumberCreateI32 s.lumenThreshold)),
    ("hyperion", .object (savedHyperion s.hyperion)),
    ("included_apps", .array ((appsOf s.includedApps).map .string)),
    ("excluded_apps", .array ((appsOf s.excludedApps).map .string)),
    ("vsync", .boolean s.vsync),
    ("novideo", .boolean s.noVideo),
    ("nogui", .boolean s.noGui),
    ("autostart", .boolean s.autostart),
    ("notifications", .boolean s.notifications)]

def savedOnto (s : Settings) (target : List (String × JVal)) : JVal :=
  .object ((savedMembers s).foldl (fun acc p => assign acc p.1 p.2) target)

section Saving

theorem saveGains_saved {a : HyperionAdjustments} (filled : GainsFilled a)
    (names : ((gainsOf a).map (·.name)).Nodup)
    (terminated : ∀ g ∈ gainsOf a, cstr g.name = g.name) :
    a.adjustments.foldEach saveGain 0 a.adjustmentsCount (.object []) =
      .ok (.object ((gainsOf a).map savedGain)) := by
  have each : ∀ g ∈ a.adjustments.contents a.adjustmentsCount, ∀ k obj, saveGain k g obj =
      .ok (jobjectSet obj (savedGain g).1 (savedGain g).2) := by
    intro g member k obj
    rw [saveGain, terminated g member]
    rfl
  have distinct : Distinct ((gainsOf a).map savedGain) := by
    unfold Distinct
    rwa [List.map_map]
  have listed := foldl_jobjectSet savedGain (gainsOf a) distinct
  unfold gainsOf at listed ⊢
  rw [Owned.foldEach_filled filled each, listed]

variable {s : Settings}

theorem WellFormed.hdrType (well : WellFormed s) {a : HyperionAdjustments}
    (member : a ∈ adjustmentsOf s.hyperion) : cstr a.hdrType = a.hdrType := by
  apply well.terminated
  simp only [strings, List.mem_append, List.mem_flatMap]
  exact Or.inl (Or.inl (Or.inr ⟨a, member, List.mem_cons_self⟩))

theorem WellFormed.name (well : WellFormed s) {a : HyperionAdjustments}
    (member : a ∈ adjustmentsOf s.hyperion) {g : HyperionAdjustment} (inside : g ∈ gainsOf a) :
    cstr g.name = g.name := by
  apply well.terminated
  simp only [strings, List.mem_append, List.mem_flatMap]
  exact Or.inl (Or.inl (Or.inr ⟨a, member, List.mem_cons_of_mem _ (List.mem_map_of_mem inside)⟩))

theorem saveAdjustments_saved (well : WellFormed s) :
    s.hyperion.adjustments.foldEach saveAdjustment 0 s.hyperion.adjustmentsCount (.object []) =
      .ok (.object ((adjustmentsOf s.hyperion).map savedAdjustment)) := by
  have each : ∀ a ∈ s.hyperion.adjustments.contents s.hyperion.adjustmentsCount, ∀ k obj,
      saveAdjustment k a obj =
        .ok (jobjectSet obj (savedAdjustment a).1 (savedAdjustment a).2) := by
    intro a member k obj
    have filled := Owned.contents_filled well.represented.adjustments a member
    rw [saveAdjustment, saveGains_saved filled (well.names a member)
      (fun g inside => well.name member inside), ok_bind, well.hdrType member]
    rfl
  have distinct : Distinct ((adjustmentsOf s.hyperion).map savedAdjustment) := by
    unfold Distinct
    rw [List.map_map]
    exact well.hdrTypes
  have listed := foldl_jobjectSet savedAdjustment (adjustmentsOf s.hyperion) distinct
  unfold adjustmentsOf at listed ⊢
  rw [Owned.foldEach_filled well.represented.adjustments each, listed]

theorem settingsHyperionSaveJson_saved (well : WellFormed s) (target : List (String × JVal)) :
    settingsHyperionSaveJson s.hyperion (.object target) =
      .ok (jobjectSet (.object target) "hyperion" (.object (savedHyperion s.hyperion))) := by
  have each : ∀ i ∈ s.hyperion.instances.contents s.hyperion.instancesCount, ∀ k arr,
      saveInstance k i arr = .ok (jarraySet arr k (savedInstance i)) := fun _ _ _ _ => rfl
  have instances := Owned.foldEach_filled well.represented.instances each (.array [])
  have appended := foldl_jarraySet savedInstance (instancesOf s.hyperion) []
  rw [List.length_nil, List.nil_append, instancesOf] at appended
  rw [settingsHyperionSaveJson, saveAdjustments_saved well, ok_bind, instances, ok_bind, appended]
  rfl

theorem saveAppList_saved {a : Apps} (filled : a.apps.Filled (fun _ => True) a.count)
    (terminated : ∀ app ∈ appsOf a, cstr app = app) (key : String) (target : JVal) :
    saveAppList a key target = .ok (jobjectSet target key (.array ((appsOf a).map .string))) := by
  have each : ∀ app ∈ a.apps.contents a.count, ∀ k arr,
      saveApp k app arr = .ok (jarraySet arr k (.string app)) := by
    intro app member k arr
    rw [saveApp, jstringCreate, terminated app member]
  have appended := foldl_jarraySet JVal.string (appsOf a) []
  rw [List.length_nil, List.nil_append, appsOf] at appended
  rw [saveAppList, Owned.foldEach_filled filled each, ok_bind, appended]
  rfl

theorem WellFormed.app (well : WellFormed s) {app : String}
    (member : app ∈ appsOf s.includedApps ∨ app ∈ appsOf s.excludedApps) : cstr app = app := by
  apply well.terminated
  simp only [strings, List.mem_append]
  rcases member with included | excluded
  · exact Or.inl (Or.inr included)
  · exact Or.inr excluded

theorem saveBackend_saved {backend : Option String} (isSome : backend.isSome)
    (terminated : ∀ str ∈ backend.toList, cstr str = str) (key : String) (target : JVal) :
    saveBackend backend key target = .ok (jobjectSet target key (.string (backend.getD ""))) := by
  cases backend with
  | none => simp at isSome
  | some str =>
    have same := terminated str (by simp)
    rw [saveBackend, deref, ok_bind, jstringCreate, same]
    rfl

theorem WellFormed.backendNames (well : WellFormed s) :
    (∀ str ∈ s.videoBackend.toList, cstr str = str) ∧
      ∀ str ∈ s.uiBackend.toList, cstr str = str := by
  refine ⟨fun str member => well.terminated str ?_, fun str member => well.terminated str ?_⟩
  · simp only [strings, List.mem_append, member, true_or]
  · simp only [strings, List.mem_append, member, true_or, or_true]

theorem WellFormed.address (well : WellFormed s) : cstr s.address = s.address :=
  well.terminated _ (by simp [strings])

theorem WellFormed.lutTable (well : WellFormed s) : cstr s.lutTable = s.lutTable :=
  well.terminated _ (by simp [strings])

theorem settingsSaveJson_saved (well : WellFormed s) (target : List (String × JVal)) :
    settingsSaveJson s (.object target) = .ok (savedOnto s target) := by
  simp only [settingsSaveJson, saveBackend_saved well.backends.1 well.backendNames.1,
    saveBackend_saved well.backends.2 well.backendNames.2, ok_bind, jstringCreate, well.address,
    well.lutTable]
  simp only [jobjectSet, settingsHyperionSaveJson_saved well, ok_bind, settingsSaveApps,
    saveAppList_saved well.represented.included (fun _ member => well.app (Or.inl member)),
    saveAppList_saved well.represented.excluded (fun _ member => well.app (Or.inr member))]
  rfl

end Saving

section Loading

theorem gains_saved {xs : List HyperionAdjustment} (terminated : ∀ g ∈ xs, cstr g.name = g.name) :
    gains (xs.map savedGain) = xs := by
  induction xs with
  | nil => rfl
  | cons g xs ih =>
    rw [List.forall_mem_cons] at terminated
    have first : gains ((g :: xs).map savedGain) =
        ⟨cstr g.name, g.gain⟩ :: gains (xs.map savedGain) := rfl
    rw [first, terminated.1, ih terminated.2]

theorem gainMap_perm {xs ys : List HyperionAdjustment} (names : (xs.map (·.name)).Nodup)
    (perm : xs.Perm ys) : gainMap xs = gainMap ys := by
  funext name
  apply lookup_perm _ (perm.map _)
  unfold Distinct
  rwa [List.map_map]

theorem hdrEntry_restored {a : HyperionAdjustments} (names : ((gainsOf a).map (·.name)).Nodup)
    (terminated : ∀ g ∈ gainsOf a, cstr g.name = g.name) {w : JVal}
    (same : SameJson (.object ((gainsOf a).map savedGain)) w) :
    ∃ inner, w = .object inner ∧ (∀ m ∈ inner, jisNumber m.2 = true) ∧
      ∀ key, gainMap (gainsOf (hdrEntry key inner)) = gainMap (gainsOf a) := by
  obtain ⟨ys, inner, rfl, members, perm⟩ := same.members
  have saved : ys = (gainsOf a).map savedGain := by
    apply members.leaves
    intro p member
    obtain ⟨g, _, rfl⟩ := List.mem_map.mp member
    rfl
  subst saved
  have numeric : ∀ m ∈ inner, jisNumber m.2 = true := by
    intro m member
    obtain ⟨g, _, rfl⟩ := List.mem_map.mp (perm.mem_iff.mpr member)
    rfl
  refine ⟨inner, rfl, numeric, fun key => ?_⟩
  have stored : gainsOf (hdrEntry key inner) = gains inner := by
    rw [gainsOf, hdrEntry]
    simp only [← gains_length_eq.mpr numeric]
    exact Owned.contents_holds (Owned.partly_holds _ _)
  have reordered : (gainsOf a).Perm (gains inner) := by
    have filtered : (gains ((gainsOf a).map savedGain)).Perm (gains inner) :=
      perm.filterMap _
    rwa [gains_saved terminated] at filtered
  rw [stored, gainMap_perm names reordered]

theorem entries_restored {as : List HyperionAdjustments}
    (names : ∀ a ∈ as, ((gainsOf a).map (·.name)).Nodup)
    (hdrTypes : ∀ a ∈ as, cstr a.hdrType = a.hdrType)
    (terminated : ∀ a ∈ as, ∀ g ∈ gainsOf a, cstr g.name = g.name) {ys : List (String × JVal)}
    (same : SameMembers (as.map savedAdjustment) ys) :
    (entries ys).map adjustmentView = as.map adjustmentView ∧
      ∀ m ∈ ys, ∀ inner ∈ jmembers m.2, jisNumber inner.2 = true := by
  induction as generalizing ys with
  | nil =>
    cases same
    exact ⟨rfl, by simp⟩
  | cons a as ih =>
    rw [List.forall_mem_cons] at names hdrTypes terminated
    cases same with
    | cons key first rest =>
      obtain ⟨views, numericRest⟩ := ih names.2 hdrTypes.2 terminated.2 rest
      obtain ⟨inner, rfl, numeric, restored⟩ := hdrEntry_restored names.1 terminated.1 first
      refine ⟨?_, ?_⟩
      · have head : adjustmentView (hdrEntry a.hdrType inner) = adjustmentView a := by
          unfold adjustmentView
          rw [restored]
          exact congrArg (·, gainMap (gainsOf a)) hdrTypes.1
        rw [List.map_cons, ← views, ← head]
        rfl
      · rw [List.forall_mem_cons]
        exact ⟨numeric, numericRest⟩

variable {s : Settings} {target : List (String × JVal)} {d : JVal}

theorem savedMembers_distinct (s : Settings) : Distinct (savedMembers s) := by
  change ["backend", "uibackend", "address", "port", "priority", "unix_socket", "lut-table", "fps",
    "width", "height", "quirks", "process_priority", "lumen_threshold", "hyperion",
    "included_apps", "excluded_apps", "vsync", "novideo", "nogui", "autostart",
    "notifications"].Nodup
  decide

theorem saved_get (distinct : Distinct target) (same : SameJson (savedOnto s target) d)
    {key : String} {v : JVal} (found : (savedMembers s).lookup key = some v) :
    SameJson v (jobjectGet d key) :=
  same.get_assigned (savedMembers_distinct s) distinct found

theorem loadI32_saved (distinct : Distinct target) (same : SameJson (savedOnto s target) d)
    {key : String} {i old : Int}
    (found : (savedMembers s).lookup key = some (.number (jnumberCreateI32 i))) :
    loadI32 d key old = i := by
  rw [loadI32, (saved_get distinct same found).leaf rfl]
  rfl

theorem loadBool_saved (distinct : Distinct target) (same : SameJson (savedOnto s target) d)
    {key : String} {b old : Bool} (found : (savedMembers s).lookup key = some (.boolean b)) :
    loadBool d key old = b := by
  rw [loadBool, (saved_get distinct same found).leaf rfl]

theorem jstringGet_saved (distinct : Distinct target) (same : SameJson (savedOnto s target) d)
    {key str : String} (found : (savedMembers s).lookup key = some (.string str))
    (terminated : cstr str = str) : jstringGet (jobjectGet d key) = some str := by
  rw [(saved_get distinct same found).leaf rfl, jstringGet, terminated]

theorem backend_saved (distinct : Distinct target) (same : SameJson (savedOnto s target) d)
    {key : String} {backend old : Option String}
    (found : (savedMembers s).lookup key = some (.string (backend.getD "")))
    (isSome : backend.isSome) (terminated : ∀ str ∈ backend.toList, cstr str = str) :
    (jstringGet (jobjectGet d key)).or old = backend := by
  cases backend with
  | none => simp at isSome
  | some str =>
    rw [jstringGet_saved distinct same found (terminated str (by simp))]
    rfl

theorem loadString_saved (distinct : Distinct target) (same : SameJson (savedOnto s target) d)
    {key str old : String} (found : (savedMembers s).lookup key = some (.string str))
    (terminated : cstr str = str) : loadString d key old = str := by
  rw [loadString, jstringGet_saved distinct same found terminated]
  rfl

theorem strings_read {xs : List String} (terminated : ∀ x ∈ xs, cstr x = x) :
    (xs.map JVal.string).filterMap jstringGet = xs := by
  induction xs with
  | nil => rfl
  | cons x xs ih =>
    rw [List.forall_mem_cons] at terminated
    have first : ((x :: xs).map JVal.string).filterMap jstringGet =
        cstr x :: (xs.map JVal.string).filterMap jstringGet := rfl
    rw [first, terminated.1, ih terminated.2]

theorem loadAppList_saved (key : String) (distinct : Distinct target)
    (same : SameJson (savedOnto s target) d) {apps : List String}
    (found : (savedMembers s).lookup key = some (.array (apps.map .string)))
    (terminated : ∀ app ∈ apps, cstr app = app) (a : Apps) :
    ∃ a', loadAppList a d key = .ok a' ∧ appsOf a' = apps := by
  have listed : jobjectGet d key = .array (apps.map .string) := by
    apply (saved_get distinct same found).leaves
    intro item member
    obtain ⟨app, _, rfl⟩ := List.mem_map.mp member
    rfl
  have strings : ∀ item ∈ apps.map JVal.string, jisString item = true := by
    intro item member
    obtain ⟨app, _, rfl⟩ := List.mem_map.mp member
    rfl
  refine ⟨_, loadAppList_carried a listed strings, ?_⟩
  rw [strings_read terminated, List.length_map]
  exact Owned.contents_holds (Owned.partly_holds _ _)

theorem saved_hyperion (key : String) (distinct : Distinct target)
    (same : SameJson (savedOnto s target) d) {v : JVal}
    (found : (savedHyperion s.hyperion).lookup key = some v) :
    hasHyperion d = true ∧ SameJson v (jobjectGet (jobjectGet d "hyperion") key) := by
  have there : (savedMembers s).lookup "hyperion" = some (.object (savedHyperion s.hyperion)) :=
    rfl
  have body := saved_get distinct same there
  refine ⟨body.isObject, ?_⟩
  have keys : Distinct (savedHyperion s.hyperion) := by
    change ["enabled", "adjustments", "instances"].Nodup
    decide
  have got := body.get keys key
  rwa [jobjectGet_object, found, Option.getD_some] at got

theorem saved_sets (distinct : Distinct target) (same : SameJson (savedOnto s target) d) :
    ¬ LeavesUnset d := by
  obtain ⟨_, adjustments⟩ := saved_hyperion "adjustments" distinct same rfl
  obtain ⟨ys, zs, found, _⟩ := adjustments.members
  rintro ⟨_, odd⟩
  rw [found] at odd
  cases odd

theorem settingsHyperionLoad_saved (well : WellFormed s) (distinct : Distinct target)
    (same : SameJson (savedOnto s target) d) {h : Hyperion}
    (filled : h.adjustments.Filled GainsFilled h.adjustmentsCount)
    (here : h.adjustments ≠ .released) :
    ∃ h', settingsHyperionLoad h d = .ok h' ∧ dumpAdjustments h' = .ok () ∧
      h'.hyperionAdjustments = s.hyperion.hyperionAdjustments ∧
      adjustmentMap (adjustmentsOf h') = adjustmentMap (adjustmentsOf s.hyperion) ∧
      instancesOf h' = instancesOf s.hyperion := by
  obtain ⟨has, enabled⟩ := saved_hyperion "enabled" distinct same rfl
  obtain ⟨_, adjustments⟩ := saved_hyperion "adjustments" distinct same rfl
  obtain ⟨_, instances⟩ := saved_hyperion "instances" distinct same rfl
  obtain ⟨ys, zs, found, members, perm⟩ := adjustments.members
  have listed : hdrMembers d = zs := by rw [hdrMembers, found, jmembers]
  obtain ⟨views, numericYs⟩ := entries_restored well.names
    (fun a member => well.hdrType member) (fun a member g inside => well.name member inside) members
  have numeric : NumericGains d := by
    intro m member
    rw [listed] at member
    exact numericYs m (perm.mem_iff.mpr member)
  have held : (carriedHyperion h d).adjustments.Holds (hdrEntries d) := Owned.partly_holds _ _
  have dump : dumpAdjustments (carriedHyperion h d) = .ok () :=
    dumpAdjustments_filled (Owned.filled_of_holds held (gainsFilled_of_numeric numeric))
  refine ⟨carriedHyperion h d, ?_, dump, ?_, ?_, ?_⟩
  · rw [settingsHyperionLoad_carried filled here has, dump]
    rfl
  · rw [carriedHyperion, loadBool, enabled.leaf rfl]
  · have restored : adjustmentsOf (carriedHyperion h d) = entries zs := by
      rw [← listed]
      exact Owned.contents_holds held
    have reordered : ((adjustmentsOf s.hyperion).map adjustmentView).Perm
        ((entries zs).map adjustmentView) := by
      rw [← views]
      exact (perm.filterMap _).map _
    funext hdrType
    rw [restored]
    refine (lookup_perm ?_ reordered hdrType).symm
    unfold Distinct
    rw [List.map_map]
    exact well.hdrTypes
  · have items : instanceItems d = (instancesOf s.hyperion).map savedInstance := by
      rw [instanceItems, instances.leaves, jitems]
      intro item member
      obtain ⟨i, _, rfl⟩ := List.mem_map.mp member
      rfl
    have values : (instanceItems d).map instanceValue = instancesOf s.hyperion := by
      rw [items, List.map_map]
      exact List.map_id _
    rw [instancesOf, carriedHyperion, values, ← List.length_map instanceValue, values]
    exact Owned.contents_holds (Owned.partly_holds _ _)

theorem settingsLoadApps_saved (well : WellFormed s) (distinct : Distinct target)
    (same : SameJson (savedOnto s target) d) {included excluded : Apps}
    (inc : included.apps.Filled (fun _ => True) included.count)
    (incHere : included.apps ≠ .released)
    (exc : excluded.apps.Filled (fun _ => True) excluded.count)
    (excHere : excluded.apps ≠ .released) :
    ∃ i e, settingsLoadApps included excluded d = .ok (i, e) ∧ appsOf i = appsOf s.includedApps ∧
      appsOf e = appsOf s.excludedApps := by
  obtain ⟨i, loadI, listI⟩ := loadAppList_saved "included_apps" distinct same rfl
    (fun app member => well.app (Or.inl member)) ⟨0, afterFree included.apps⟩
  obtain ⟨e, loadE, listE⟩ := loadAppList_saved "excluded_apps" distinct same rfl
    (fun app member => well.app (Or.inr member)) ⟨0, afterFree excluded.apps⟩
  refine ⟨i, e, ?_, listI, listE⟩
  rw [settingsLoadApps, freeApps_filled inc incHere, ok_bind, freeApps_filled exc excHere, ok_bind,
    loadI, ok_bind, loadE]
  rfl

theorem settingsLoadJson_saved (well : WellFormed s) (distinct : Distinct target)
    (same : SameJson (savedOnto s target) d) {t : Settings} (represented : Represented t)
    (here : ¬ Dangles t) : ∃ t', settingsLoadJson t d = .ok t' ∧ persisted t' = persisted s := by
  unfold Dangles at here
  rw [not_or, not_or] at here
  obtain ⟨h', hyperion, dump, enabled, adjustments, instances⟩ :=
    settingsHyperionLoad_saved well distinct same represented.adjustments here.1
  obtain ⟨i, e, apps, included, excluded⟩ := settingsLoadApps_saved well distinct same
    represented.included here.2.1 represented.excluded here.2.2
  simp only [settingsLoadJson, settingsLoadJsonWith, settingsHyperionLoadWith_nil, hyperion,
    ok_bind, apps, dump]
  refine ⟨_, rfl, ?_⟩
  simp only [persisted, Persisted.mk.injEq]
  exact ⟨backend_saved distinct same rfl well.backends.1 well.backendNames.1,
    backend_saved distinct same rfl well.backends.2 well.backendNames.2,
    loadString_saved distinct same rfl well.address, loadI32_saved distinct same rfl,
    loadI32_saved distinct same rfl, loadBool_saved distinct same rfl,
    loadI32_saved distinct same rfl, loadI32_saved distinct same rfl,
    loadI32_saved distinct same rfl, enabled, adjustments, instances, included, excluded,
    loadBool_saved distinct same rfl, loadI32_saved distinct same rfl,
    loadI32_saved distinct same rfl, loadI32_saved distinct same rfl,
    loadString_saved distinct same rfl well.lutTable, loadBool_saved distinct same rfl,
    loadBool_saved distinct same rfl, loadBool_saved distinct same rfl,
    loadBool_saved distinct same rfl⟩

theorem freeApps_released {a : Apps} (filled : a.apps.Filled (fun _ => True) a.count)
    (released : a.apps = .released) : freeApps a = .error .doubleRelease := by
  rw [released] at filled
  rw [freeApps, filled_released filled, released]
  rfl

theorem settingsLoadJson_dangles {t t' : Settings} {j : JVal} (represented : Represented t)
    (load : settingsLoadJson t j = .ok t') : ¬ Dangles t := by
  simp only [settingsLoadJson, settingsLoadJsonWith, settingsHyperionLoadWith_nil,
    bind_eq_ok] at load
  obtain ⟨h', hyperion, apps, loaded, _⟩ := load
  simp only [settingsLoadApps, bind_eq_ok] at loaded
  obtain ⟨included, freedI, excluded, freedE, _⟩ := loaded
  rintro (released | released | released)
  · rw [settingsHyperionLoad, settingsHyperionLoadWith_released represented.adjustments released]
      at hyperion
    exact absurd hyperion.symm (ok_ne_error _ _)
  · rw [freeApps_released represented.included released] at freedI
    exact absurd freedI.symm (ok_ne_error _ _)
  · rw [freeApps_released represented.excluded released] at freedE
    exact absurd freedE.symm (ok_ne_error _ _)

end Loading

theorem roundTrips_iff {s t : Settings} (sWell : WellFormed s) (represented : Represented t) :
    RoundTrips s t ↔ ¬ Dangles t := by
  have empty : Distinct ([] : List (String × JVal)) := List.nodup_nil
  constructor
  · rintro ⟨doc, _, loads⟩
    obtain ⟨t', load, _⟩ := loads doc (.same doc)
    exact settingsLoadJson_dangles represented load
  · intro here
    exact ⟨savedOnto s [], settingsSaveJson_saved sWell [],
      fun source same => settingsLoadJson_saved sWell empty same represented here⟩

theorem answerKeeps_iff {sv : Service} (well : WellFormed sv.settings) :
    AnswerKeeps sv ↔ ¬ Dangles sv.settings := by
  have answer := settingsSaveJson_saved well [("returnValue", .boolean true)]
  have single : Distinct [("returnValue", JVal.boolean true)] := List.nodup_singleton _
  have handled : ∀ payload, SameJson (savedOnto sv.settings [("returnValue", .boolean true)])
      payload → ∀ env, serviceMethodSetSettings payload env sv = (do
        let settings ← settingsLoadJson sv.settings payload
        return serviceRestart env { sv with settings := settings }) := by
    intro payload same env
    rw [serviceMethodSetSettings, settingsLoadJsonWith_set (saved_sets single same)]
    obtain ⟨ys, zs, rfl, _, _⟩ := SameJson.members same
    exact if_neg Bool.false_ne_true
  constructor
  · rintro ⟨doc, saved, keeps⟩
    have same : savedOnto sv.settings [("returnValue", .boolean true)] = doc :=
      Except.ok.inj (answer.symm.trans saved)
    subst same
    obtain ⟨sv', handles, _⟩ := keeps _ (.same _) calm
    rw [handled _ (.same _)] at handles
    obtain ⟨settings, load, _⟩ := bind_eq_ok.mp handles
    exact settingsLoadJson_dangles well.represented load
  · intro here
    refine ⟨_, answer, fun payload same env => ?_⟩
    obtain ⟨settings, load, kept⟩ := settingsLoadJson_saved well single same well.represented here
    refine ⟨serviceRestart env { sv with settings := settings }, ?_, ?_⟩
    · rw [handled payload same, load]
      rfl
    · rw [serviceRestart_settings]
      exact kept

/-- Saved settings load back over any well-formed ones exactly when none of the old
array pointers dangles; so does the answer of `getSettings` sent to `setSettings`. -/
theorem settings_round_trip_iff (s t : Settings) (sWell : WellFormed s) (tWell : WellFormed t) :
    (RoundTrips s t ↔ ¬ Dangles t) ∧
      ∀ sv : Service, sv.settings = t → (AnswerKeeps sv ↔ ¬ Dangles t) := by
  refine ⟨roundTrips_iff sWell tWell.represented, ?_⟩
  rintro sv rfl
  exact answerKeeps_iff tWell

theorem wellFormed_settingsInit : WellFormed settingsInit :=
  ⟨tidy_settingsInit.represented, List.nodup_nil, by decide, by decide, by decide +kernel⟩

def sampleGains : List HyperionAdjustment := [⟨"brightness", 4⟩, ⟨"gamma", 7⟩]

def sampleAdjustments : List HyperionAdjustments := [⟨"hdr10", .partly sampleGains 0, 2⟩]

def sampleSettings : Settings := { settingsInit with
  hyperion := ⟨true, .partly sampleAdjustments 0, 1, .partly [0, 1] 0, 2⟩
  includedApps := ⟨1, .partly ["netflix"] 0⟩ }

theorem wellFormed_sampleSettings : WellFormed sampleSettings := by
  have gains : GainsFilled ⟨"hdr10", .partly sampleGains 0, 2⟩ :=
    Or.inr ⟨sampleGains, rfl, Owned.partly_holds _ _, fun _ _ => trivial⟩
  have adjustments : ∀ a ∈ sampleAdjustments, GainsFilled a := by
    intro a member
    rw [List.mem_singleton.mp member]
    exact gains
  refine ⟨⟨?_, ?_, ?_, Or.inl rfl⟩, by decide +kernel, by decide +kernel, by decide,
    by decide +kernel⟩
  · exact Or.inr ⟨sampleAdjustments, rfl, Owned.partly_holds _ _, adjustments⟩
  · exact Or.inr ⟨[0, 1], rfl, Owned.partly_holds _ _, fun _ _ => trivial⟩
  · exact Or.inr ⟨["netflix"], rfl, Owned.partly_holds _ _, fun _ _ => trivial⟩

theorem settings_round_trip_sample : RoundTrips sampleSettings settingsInit ∧
    AnswerKeeps (zeroed none none sampleSettings) := by
  have fresh : ¬ Dangles settingsInit := by simp [Dangles, settingsInit]
  have kept : ¬ Dangles sampleSettings := by
    simp [Dangles, sampleSettings, settingsInit, Owned.partly]
  exact ⟨(settings_round_trip_iff _ _ wellFormed_sampleSettings
      wellFormed_settingsInit).1.mpr fresh,
    ((settings_round_trip_iff _ _ wellFormed_settingsInit wellFormed_sampleSettings).2 _
      rfl).mpr kept⟩

/-- What a document with one app and then one without leave. -/
def danglingSettings : Settings := { settingsInit with includedApps := ⟨0, .released⟩ }

/-- Those settings count no app and are well formed, yet any load frees the array again. -/
theorem settings_round_trip_dangling :
    run settingsLoadJson settingsInit
      [.object [("included_apps", .array [.string "app"])], .object []] = .ok danglingSettings ∧
    WellFormed settingsInit ∧ WellFormed danglingSettings ∧
    ¬ RoundTrips settingsInit danglingSettings ∧
    ¬ AnswerKeeps (zeroed none none danglingSettings) := by
  have well : WellFormed danglingSettings :=
    ⟨⟨Or.inl rfl, Or.inl rfl, Or.inl rfl, Or.inl rfl⟩, List.nodup_nil, by decide, by decide,
      by decide +kernel⟩
  have dangles : Dangles danglingSettings := Or.inr (Or.inl rfl)
  refine ⟨rfl, wellFormed_settingsInit, well, ?_, ?_⟩
  · rw [roundTrips_iff wellFormed_settingsInit well.represented]
    exact not_not_intro dangles
  · rw [answerKeeps_iff well]
    exact not_not_intro dangles

end HyperionWebos.SettingsRoundTrip
