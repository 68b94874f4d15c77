import HyperionWebos.SettingsRoundTrip

/-! Partial updates. A document says something about the persisted fields whose keys it
carries; the law is that a load takes these from it and keeps all others. The scalar
fields follow it one by one. The collections are cleared before their keys are looked
for, and an array cleared without being replaced is read or freed again. -/

namespace HyperionWebos.PartialUpdates
open Runs AssocLists OwnedArray Pbnjson SettingsLoad SettingsOwnership SettingsUpdates SettingsSave
  SettingsRoundTrip

/-- `new` is what `value` gives if it is of the type that is read, and `old` if the key is
absent. -/
def Follows {α : Type} (read : JVal → Option α) (value : JVal) (old new : α) : Prop :=
  (∀ a, read value = some a → new = a) ∧ (value = .invalid → new = old)

def asI32 : JVal → Option Int
  | .number n => some n.i32
  | _ => none

def asBool : JVal → Option Bool
  | .boolean b => some b
  | _ => none

def asBackend (value : JVal) : Option (Option String) := (jstringGet value).map some

def asApps : JVal → Option (List String)
  | .array items => if items.all jisString then some (items.filterMap jstringGet) else none
  | _ => none

def asInstances : JVal → Option (List Int)
  | .array items => if items.all jisNumber then some (items.filterMap asI32) else none
  | _ => none

def gainsGiven (members : List (String × JVal)) (name : String) : Option UInt64 :=
  (members.filterMap fun m => match m.2 with
    | .number n => some (cstr m.1, n.f64)
    | _ => none).lookup name

def adjustmentsGiven (members : List (String × JVal)) (hdrType : String) :
    Option (String → Option UInt64) :=
  (members.filterMap fun m => match m.2 with
    | .object inner => some (cstr m.1, gainsGiven inner)
    | _ => none).lookup hdrType

def asAdjustments : JVal → Option (String → Option (String → Option UInt64))
  | .object members =>
    if members.all fun m => jisObject m.2 && (jmembers m.2).all fun g => jisNumber g.2 then
      some (adjustmentsGiven members)
    else none
  | _ => none

structure OnlyMentioned (j : JVal) (p q : Persisted) : Prop where
  videoBackend : Follows asBackend (jobjectGet j "backend") p.videoBackend q.videoBackend
  uiBackend : Follows asBackend (jobjectGet j "uibackend") p.uiBackend q.uiBackend
  address : Follows jstringGet (jobjectGet j "address") p.address q.address
  port : Follows asI32 (jobjectGet j "port") p.port q.port
  priority : Follows asI32 (jobjectGet j "priority") p.priority q.priority
  unixSocket : Follows asBool (jobjectGet j "unix_socket") p.unixSocket q.unixSocket
  fps : Follows asI32 (jobjectGet j "fps") p.fps q.fps
  width : Follows asI32 (jobjectGet j "width") p.width q.width
  height : Follows asI32 (jobjectGet j "height") p.height q.height
  hyperionAdjustments : Follows asBool (jobjectGet (jobjectGet j "hyperion") "enabled")
    p.hyperionAdjustments q.hyperionAdjustments
  adjustments : Follows asAdjustments (jobjectGet (jobjectGet j "hyperion") "adjustments")
    p.adjustments q.adjustments
  instances : Follows asInstances (jobjectGet (jobjectGet j "hyperion") "instances")
    p.instances q.instances
  includedApps : Follows asApps (jobjectGet j "included_apps") p.includedApps q.includedApps
  excludedApps : Follows asApps (jobjectGet j "excluded_apps") p.excludedApps q.excludedApps
  vsync : Follows asBool (jobjectGet j "vsync") p.vsync q.vsync
  quirks : Follows asI32 (jobjectGet j "quirks") p.quirks q.quirks
  processPriority : Follows asI32 (jobjectGet j "process_priority") p.processPriority
    q.processPriority
  lumenThreshold : Follows asI32 (jobjectGet j "lumen_threshold") p.lumenThreshold q.lumenThreshold
  lutTable : Follows jstringGet (jobjectGet j "lut-table") p.lutTable q.lutTable
  noVideo : Follows asBool (jobjectGet j "novideo") p.noVideo q.noVideo
  noGui : Follows asBool (jobjectGet j "nogui") p.noGui q.noGui
  autostart : Follows asBool (jobjectGet j "autostart") p.autostart q.autostart
  notifications : Follows asBool (jobjectGet j "notifications") p.notifications q.notifications

/-- The load returns, and has touched only what the document mentions. -/
def UpdatesOnlyMentioned (unset : List (String × JVal)) (s : Settings) (j : JVal) : Prop :=
  ∃ s', settingsLoadJsonWith unset s j = .ok s' ∧ OnlyMentioned j (persisted s) (persisted s')

/-- No array is freed twice, read after it was freed or read where nothing was stored, and
no null string is copied. -/
structure Loads (s : Settings) (j : JVal) : Prop where
  here : ¬ Dangles s
  numeric : NumericGains j
  strings : AppsAreStrings j
  kept : hasHyperion j = false → s.hyperion.adjustmentsCount = 0

structure CarriesCollections (s : Settings) (j : JVal) : Prop where
  adjustments : hasHyperion j = true →
    jobjectGet (jobjectGet j "hyperion") "adjustments" = .invalid →
    s.hyperion.adjustmentsCount = 0
  instances : hasHyperion j = true →
    jobjectGet (jobjectGet j "hyperion") "instances" = .invalid → s.hyperion.instancesCount = 0
  included : jobjectGet j "included_apps" = .invalid → s.includedApps.count = 0
  excluded : jobjectGet j "excluded_apps" = .invalid → s.excludedApps.count = 0

section Scalars

variable (j : JVal) (key : String)

theorem follows_loadI32 (old : Int) :
    Follows asI32 (jobjectGet j key) old (loadI32 j key old) := by
  unfold Follows loadI32
  cases jobjectGet j key <;> simp [asI32]

theorem follows_loadBool (old : Bool) :
    Follows asBool (jobjectGet j key) old (loadBool j key old) := by
  unfold Follows loadBool
  cases jobjectGet j key <;> simp [asBool]

theorem follows_loadString (old : String) :
    Follows jstringGet (jobjectGet j key) old (loadString j key old) := by
  unfold Follows loadString
  cases jobjectGet j key <;> simp [jstringGet]

theorem follows_backend (old : Option String) :
    Follows asBackend (jobjectGet j key) old ((jstringGet (jobjectGet j key)).or old) := by
  unfold Follows asBackend
  cases jobjectGet j key <;> simp [jstringGet]

end Scalars

section Merging

def mergedHyperion (h : Hyperion) (j : JVal) : Hyperion :=
  if hasHyperion j then carriedHyperion h j else { h with adjustments := afterFree h.adjustments }

def mergedApps (key : String) (j : JVal) (a : Apps) : Apps :=
  if hasApps key j then
    ⟨jarraySize (jobjectGet j key), .partly ((jitems (jobjectGet j key)).filterMap jstringGet) 0⟩
  else ⟨0, afterFree a.apps⟩

variable {s s' : Settings} {j : JVal}

theorem settled_of_filled {α : Type} {P : α → Prop} {count : Nat} {o : Owned α}
    (filled : o.Filled P count) (here : o ≠ .released) : Settled P count o := by
  rcases filled with rfl | held
  · cases o with
    | null => exact Or.inl ⟨rfl, rfl⟩
    | live cells => exact Or.inr ⟨[], rfl, ⟨cells, rfl⟩, by simp⟩
    | released => exact absurd rfl here
  · exact Or.inr held

theorem tidy_of_represented (represented : Represented s) (here : ¬ Dangles s) : Tidy s := by
  unfold Dangles at here
  rw [not_or, not_or] at here
  exact ⟨settled_of_filled represented.adjustments here.1, represented.instances,
    settled_of_filled represented.included here.2.1,
    settled_of_filled represented.excluded here.2.2⟩

theorem hyperion_absent {key : String} (absent : hasHyperion j = false) :
    jobjectGet (jobjectGet j "hyperion") key = .invalid := by
  unfold hasHyperion at absent
  generalize jobjectGet j "hyperion" = value at absent ⊢
  cases value with
  | object members => cases absent
  | _ => rfl

theorem loads_of_ok (represented : Represented s) (load : settingsLoadJson s j = .ok s') :
    Loads s j := by
  have here := settingsLoadJson_dangles represented load
  rcases settingsLoadJson_cases j (tidy_of_represented represented here) with
    ⟨f, fault, _⟩ | ⟨numeric, kept, ⟨_, fault⟩ | ⟨_, strings, _⟩⟩
  · rw [fault] at load
    cases load
  · rw [fault] at load
    cases load
  · exact ⟨here, numeric, strings, kept⟩

theorem settingsHyperionLoad_merged (represented : Represented s) (loads : Loads s j) :
    settingsHyperionLoad s.hyperion j = .ok (mergedHyperion s.hyperion j) ∧
      dumpAdjustments (mergedHyperion s.hyperion j) = .ok () := by
  have settled := (tidy_of_represented represented loads.here).adjustments
  unfold mergedHyperion
  cases has : hasHyperion j with
  | true =>
    have held : (carriedHyperion s.hyperion j).adjustments.Holds (hdrEntries j) :=
      Owned.partly_holds _ _
    have dump : dumpAdjustments (carriedHyperion s.hyperion j) = .ok () :=
      dumpAdjustments_filled (Owned.filled_of_holds held (gainsFilled_of_numeric loads.numeric))
    rw [settingsHyperionLoad_carried settled.filled settled.not_released has, if_pos rfl, dump]
    exact ⟨rfl, rfl⟩
  | false =>
    have dump : dumpAdjustments { s.hyperion with
        adjustments := afterFree s.hyperion.adjustments } = .ok () := by
      rw [dumpAdjustments, loads.kept has]
      rfl
    rw [settingsHyperionLoad_dropped settled has, if_neg Bool.false_ne_true]
    dsimp only
    rw [dump]
    exact ⟨rfl, rfl⟩

theorem loadAppList_merged {key : String} (a : Apps) (strings : StringApps key j) :
    loadAppList ⟨0, afterFree a.apps⟩ j key = .ok (mergedApps key j a) := by
  unfold mergedApps hasApps
  unfold StringApps at strings
  cases found : jobjectGet j key with
  | array items =>
    rw [found] at strings
    rw [loadAppList_carried _ found strings]
    rfl
  | _ =>
    rw [loadAppList, found]
    rfl

theorem settingsLoadApps_merged (represented : Represented s) (loads : Loads s j) :
    settingsLoadApps s.includedApps s.excludedApps j =
      .ok (mergedApps "included_apps" j s.includedApps,
        mergedApps "excluded_apps" j s.excludedApps) := by
  have tidy := tidy_of_represented represented loads.here
  rw [settingsLoadApps, freeApps_settled tidy.included, ok_bind, freeApps_settled tidy.excluded,
    ok_bind, loadAppList_merged _ loads.strings.1, ok_bind, loadAppList_merged _ loads.strings.2]
  rfl

theorem settingsLoadJson_merged (represented : Represented s) (loads : Loads s j) :
    ∃ s', settingsLoadJson s j = .ok s' ∧
      s'.hyperion = mergedHyperion s.hyperion j ∧
      s'.includedApps = mergedApps "included_apps" j s.includedApps ∧
      s'.excludedApps = mergedApps "excluded_apps" j s.excludedApps ∧
      (OnlyMentioned j (persisted s) (persisted s') ↔
        Follows asAdjustments (jobjectGet (jobjectGet j "hyperion") "adjustments")
          (persisted s).adjustments (persisted s').adjustments ∧
        Follows asInstances (jobjectGet (jobjectGet j "hyperion") "instances")
          (persisted s).instances (persisted s').instances ∧
        Follows asApps (jobjectGet j "included_apps")
          (persisted s).includedApps (persisted s').includedApps ∧
        Follows asApps (jobjectGet j "excluded_apps")
          (persisted s).excludedApps (persisted s').excludedApps) := by
  obtain ⟨load, dump⟩ := settingsHyperionLoad_merged represented loads
  have enabled : Follows asBool (jobjectGet (jobjectGet j "hyperion") "enabled")
      s.hyperion.hyperionAdjustments (mergedHyperion s.hyperion j).hyperionAdjustments := by
    unfold mergedHyperion
    cases has : hasHyperion j with
    | true => exact follows_loadBool (jobjectGet j "hyperion") "enabled" _
    | false => simp [Follows, hyperion_absent has, asBool]
  simp only [settingsLoadJson, settingsLoadJsonWith, settingsHyperionLoadWith_nil, load, ok_bind,
    settingsLoadApps_merged represented loads, dump]
  refine ⟨_, rfl, rfl, rfl, rfl, ?_⟩
  constructor
  · intro only
    exact ⟨only.adjustments, only.instances, only.includedApps, only.excludedApps⟩
  · rintro ⟨adjustments, instances, included, excluded⟩
    exact {
      videoBackend := follows_backend j _ _
      uiBackend := follows_backend j _ _
      address := follows_loadString j _ _
      port := follows_loadI32 j _ _
      priority := follows_loadI32 j _ _
      unixSocket := follows_loadBool j _ _
      fps := follows_loadI32 j _ _
      width := follows_loadI32 j _ _
      height := follows_loadI32 j _ _
      hyperionAdjustments := enabled
      adjustments := adjustments
      instances := instances
      includedApps := included
      excludedApps := excluded
      vsync := follows_loadBool j _ _
      quirks := follows_loadI32 j _ _
      processPriority := follows_loadI32 j _ _
      lumenThreshold := follows_loadI32 j _ _
      lutTable := follows_loadString j _ _
      noVideo := follows_loadBool j _ _
      noGui := follows_loadBool j _ _
      autostart := follows_loadBool j _ _
      notifications := follows_loadBool j _ _ }

end Merging

section Collections

variable {s : Settings} {j : JVal}

theorem gainMap_hdrEntry (key : String) (inner : List (String × JVal)) :
    gainMap (gainsOf (hdrEntry key inner)) = gainsGiven inner := by
  have bound := gains_length_le inner
  have stored : gainsOf (hdrEntry key inner) = gains inner := by
    have whole := Owned.contents_partly (gains inner) (inner.length - (gains inner).length)
    rwa [Nat.add_sub_cancel' bound] at whole
  funext name
  rw [stored, gainMap, gainsGiven, gains, List.map_filterMap]
  congr 2
  funext m
  obtain ⟨key, value⟩ := m
  cases value <;> rfl

theorem adjustmentMap_entries (members : List (String × JVal)) :
    adjustmentMap (entries members) = adjustmentsGiven members := by
  funext hdrType
  rw [adjustmentMap, adjustmentsGiven, entries, List.map_filterMap]
  congr 2
  funext m
  obtain ⟨key, value⟩ := m
  cases value with
  | object inner =>
    have view : adjustmentView (hdrEntry key inner) = (cstr key, gainsGiven inner) := by
      rw [adjustmentView, gainMap_hdrEntry]
      rfl
    exact congrArg some view
  | _ => rfl

theorem adjustmentMap_nil_iff (adjustments : List HyperionAdjustments) :
    adjustmentMap [] = adjustmentMap adjustments ↔ adjustments = [] := by
  constructor
  · intro same
    cases adjustments with
    | nil => rfl
    | cons a rest =>
      have there := congrFun same a.hdrType
      simp [adjustmentMap, adjustmentView] at there
  · rintro rfl
    rfl

theorem adjustmentsOf_carried (h : Hyperion) (has : hasHyperion j = true) :
    adjustmentMap (adjustmentsOf (mergedHyperion h j)) =
      adjustmentsGiven (jmembers (jobjectGet (jobjectGet j "hyperion") "adjustments")) := by
  have stored : adjustmentsOf (mergedHyperion h j) = hdrEntries j := by
    rw [mergedHyperion, has, if_pos rfl]
    exact Owned.contents_holds (Owned.partly_holds _ _)
  rw [stored, hdrEntries, adjustmentMap_entries]
  rfl

theorem adjustmentsOf_dropped {h : Hyperion} (has : hasHyperion j = false)
    (none : h.adjustmentsCount = 0) : adjustmentsOf (mergedHyperion h j) = [] := by
  rw [mergedHyperion, has, if_neg Bool.false_ne_true, adjustmentsOf]
  dsimp only
  rw [none, Owned.contents_zero]

theorem instancesOf_carried (h : Hyperion) (has : hasHyperion j = true) :
    instancesOf (mergedHyperion h j) =
      (jitems (jobjectGet (jobjectGet j "hyperion") "instances")).map instanceValue := by
  rw [mergedHyperion, has, if_pos rfl, instancesOf, carriedHyperion,
    ← List.length_map instanceValue]
  exact Owned.contents_holds (Owned.partly_holds _ _)

theorem instancesOf_dropped (h : Hyperion) (has : hasHyperion j = false) :
    instancesOf (mergedHyperion h j) = instancesOf h := by
  rw [mergedHyperion, has, if_neg Bool.false_ne_true]
  rfl

theorem appsOf_carried {key : String} {items : List JVal} (a : Apps)
    (found : jobjectGet j key = .array items) (strings : StringApps key j) :
    appsOf (mergedApps key j a) = items.filterMap jstringGet := by
  unfold StringApps at strings
  rw [found, jitems] at strings
  unfold mergedApps hasApps
  rw [found, jisArray, if_pos rfl, jarraySize, jitems, ← filterMap_jstringGet_length strings]
  exact Owned.contents_holds (Owned.partly_holds _ _)

theorem appsOf_dropped {key : String} (a : Apps) (has : hasApps key j = false) :
    appsOf (mergedApps key j a) = [] := by
  rw [mergedApps, has, if_neg Bool.false_ne_true]
  exact Owned.contents_zero _

theorem adjustments_follow_iff (represented : Represented s) (loads : Loads s j) :
    Follows asAdjustments (jobjectGet (jobjectGet j "hyperion") "adjustments")
        (adjustmentMap (adjustmentsOf s.hyperion))
        (adjustmentMap (adjustmentsOf (mergedHyperion s.hyperion j))) ↔
      (hasHyperion j = true → jobjectGet (jobjectGet j "hyperion") "adjustments" = .invalid →
        s.hyperion.adjustmentsCount = 0) := by
  have empty : adjustmentsOf s.hyperion = [] ↔ s.hyperion.adjustmentsCount = 0 :=
    Owned.contents_nil_iff represented.adjustments
  cases has : hasHyperion j with
  | true =>
    rw [adjustmentsOf_carried s.hyperion has]
    cases jobjectGet (jobjectGet j "hyperion") "adjustments" with
    | invalid =>
      have none_given : adjustmentsGiven (jmembers .invalid) = adjustmentMap [] := rfl
      simp [Follows, asAdjustments, none_given, adjustmentMap_nil_iff, empty]
    | object members =>
      have given : ∀ a, asAdjustments (.object members) = some a →
          adjustmentsGiven members = a := by
        intro a given
        rw [asAdjustments] at given
        split at given
        · exact Option.some.inj given
        · cases given
      exact iff_of_true ⟨given, by simp⟩ (by simp)
    | _ => simp [Follows, asAdjustments]
  | false =>
    have zero := loads.kept has
    rw [adjustmentsOf_dropped has zero, empty.mpr zero]
    simp [Follows, hyperion_absent has, asAdjustments]

theorem filterMap_asI32 {items : List JVal} (numbers : ∀ item ∈ items, jisNumber item = true) :
    items.filterMap asI32 = items.map instanceValue := by
  induction items with
  | nil => rfl
  | cons item rest ih =>
    rw [List.forall_mem_cons] at numbers
    rw [List.map_cons, ← ih numbers.2]
    cases item with
    | number n => rfl
    | _ => exact absurd numbers.1 Bool.false_ne_true

theorem instances_follow_iff (represented : Represented s) (j : JVal) :
    Follows asInstances (jobjectGet (jobjectGet j "hyperion") "instances")
        (instancesOf s.hyperion) (instancesOf (mergedHyperion s.hyperion j)) ↔
      (hasHyperion j = true → jobjectGet (jobjectGet j "hyperion") "instances" = .invalid →
        s.hyperion.instancesCount = 0) := by
  have empty : instancesOf s.hyperion = [] ↔ s.hyperion.instancesCount = 0 :=
    Owned.contents_nil_iff represented.instances
  cases has : hasHyperion j with
  | true =>
    rw [instancesOf_carried s.hyperion has]
    cases jobjectGet (jobjectGet j "hyperion") "instances" with
    | invalid => simp [Follows, asInstances, jitems, eq_comm (a := []), empty]
    | array items =>
      have given : ∀ a, asInstances (.array items) = some a → items.map instanceValue = a := by
        intro a given
        rw [asInstances] at given
        split at given
        · next numbers =>
          rw [← Option.some.inj given]
          exact (filterMap_asI32 (List.all_eq_true.mp numbers)).symm
        · cases given
      exact iff_of_true ⟨given, by simp⟩ (by simp)
    | _ => simp [Follows, asInstances]
  | false =>
    rw [instancesOf_dropped s.hyperion has]
    simp [Follows, hyperion_absent has, asInstances]

theorem apps_follow_iff {a : Apps} (filled : a.apps.Filled (fun _ => True) a.count) (key : String)
    (strings : StringApps key j) :
    Follows asApps (jobjectGet j key) (appsOf a) (appsOf (mergedApps key j a)) ↔
      (jobjectGet j key = .invalid → a.count = 0) := by
  have empty : appsOf a = [] ↔ a.count = 0 := Owned.contents_nil_iff filled
  cases found : jobjectGet j key with
  | array items =>
    rw [appsOf_carried a found strings]
    simp [Follows, asApps]
  | invalid =>
    have has : hasApps key j = false := by rw [hasApps, found]; rfl
    simp [Follows, asApps, appsOf_dropped a has, eq_comm (a := []), empty]
  | _ => simp [Follows, asApps]

theorem onlyMentioned_iff (represented : Represented s) (loads : Loads s j) :
    ∃ s', settingsLoadJson s j = .ok s' ∧
      (OnlyMentioned j (persisted s) (persisted s') ↔ CarriesCollections s j) := by
  obtain ⟨s', load, hyperion, included, excluded, only⟩ :=
    settingsLoadJson_merged represented loads
  refine ⟨s', load, only.trans ?_⟩
  have adjustments := adjustments_follow_iff represented loads
  have instances := instances_follow_iff represented j
  have includedApps := apps_follow_iff represented.included "included_apps" loads.strings.1
  have excludedApps := apps_follow_iff represented.excluded "excluded_apps" loads.strings.2
  rw [← hyperion] at adjustments instances
  rw [← included] at includedApps
  rw [← excluded] at excludedApps
  constructor
  · rintro ⟨a, i, inc, exc⟩
    exact ⟨adjustments.mp a, instances.mp i, includedApps.mp inc, excludedApps.mp exc⟩
  · rintro ⟨a, i, inc, exc⟩
    exact ⟨adjustments.mpr a, instances.mpr i, includedApps.mpr inc, excludedApps.mpr exc⟩

end Collections

/-- A load touches only what the document mentions exactly where it completes and every
collection it clears is empty or carried, if an iterator left unset yields nothing. -/
theorem partial_updates_iff (unset : List (String × JVal)) (silent : unset = []) (s : Settings)
    (j : JVal) (represented : Represented s) :
    UpdatesOnlyMentioned unset s j ↔ Loads s j ∧ CarriesCollections s j := by
  rw [silent, UpdatesOnlyMentioned, settingsLoadJsonWith_nil]
  constructor
  · rintro ⟨s', load, only⟩
    have loads := loads_of_ok represented load
    obtain ⟨t, load', carries⟩ := onlyMentioned_iff represented loads
    obtain rfl := Except.ok.inj (load.symm.trans load')
    exact ⟨loads, carries.mp only⟩
  · rintro ⟨loads, carried⟩
    obtain ⟨s', load, carries⟩ := onlyMentioned_iff represented loads
    exact ⟨s', load, carries.mpr carried⟩

/-- The sample settings and a document that names another frame rate. -/
theorem partial_updates_sample :
    UpdatesOnlyMentioned [] sampleSettings (.object [("fps", .number ⟨25, 0⟩)]) ↔
      Loads sampleSettings (.object [("fps", .number ⟨25, 0⟩)]) ∧
        CarriesCollections sampleSettings (.object [("fps", .number ⟨25, 0⟩)]) :=
  partial_updates_iff [] rfl sampleSettings (.object [("fps", .number ⟨25, 0⟩)])
    wellFormed_sampleSettings.represented

/-- One included app, and a document that says nothing about apps: the list is gone. -/
def includingSettings : Settings := { settingsInit with
  includedApps := ⟨1, .partly ["netflix"] 0⟩ }

theorem partial_updates_dropped :
    WellFormed includingSettings ∧
    settingsLoadJson includingSettings (.object []) =
      .ok { includingSettings with includedApps := ⟨0, .released⟩ } ∧
    ¬ UpdatesOnlyMentioned [] includingSettings (.object []) := by
  have well : WellFormed includingSettings :=
    ⟨⟨Or.inl rfl, Or.inl rfl, Or.inr ⟨["netflix"], rfl, Owned.partly_holds _ _, fun _ _ => trivial⟩,
      Or.inl rfl⟩, List.nodup_nil, by decide, by decide, by decide +kernel⟩
  have load : settingsLoadJson includingSettings (.object []) =
      .ok { includingSettings with includedApps := ⟨0, .released⟩ } := rfl
  refine ⟨well, load, ?_⟩
  rintro ⟨s', loaded, only⟩
  obtain rfl := Except.ok.inj (load.symm.trans loaded)
  have kept := only.includedApps.2 rfl
  cases kept

end HyperionWebos.PartialUpdates
