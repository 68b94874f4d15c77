import HyperionWebos.PartialUpdates
import HyperionWebos.ServiceFiles

/-! What can be saved of the settings. Every string comes through a C string and every array
is there, after any load that completes and any option; names are distinct where those of
the document last loaded were, so that nothing is lost when the settings are saved. -/

namespace HyperionWebos.SettingsSanity
open Runs OwnedArray Pbnjson SettingsLoad SettingsOwnership SettingsUpdates SettingsSave
open SettingsRoundTrip PartialUpdates Getopt OptionParsing ServiceLoop ServiceSteps ServiceFiles

structure Sane (s : Settings) : Prop where
  represented : Represented s
  backends : s.videoBackend.isSome ∧ s.uiBackend.isSome
  terminated : ∀ str ∈ strings s, cstr str = str

/-- No two keys of one object come out as the same C string. -/
def DistinctNames (members : List (String × JVal)) : Prop := (members.map fun m => cstr m.1).Nodup

def DistinctAdjustments (j : JVal) : Prop :=
  DistinctNames (hdrMembers j) ∧
    ∀ key inner, (key, JVal.object inner) ∈ hdrMembers j → DistinctNames inner

/-! ### What a load leaves -/

section Loading

variable {s s' : Settings} {j : JVal}

theorem cstr_cstr (str : String) : cstr (cstr str) = cstr str := by
  unfold cstr
  rw [String.toList_ofList, List.takeWhile_takeWhile]
  simp

theorem jstringGet_terminated {v : JVal} {str : String} (read : jstringGet v = some str) :
    cstr str = str := by
  cases v with
  | string x =>
    cases read
    exact cstr_cstr x
  | _ => cases read

theorem loadString_terminated {key old : String} (before : cstr old = old) :
    cstr (loadString j key old) = loadString j key old := by
  unfold loadString
  cases read : jstringGet (jobjectGet j key) with
  | none => exact before
  | some str => exact jstringGet_terminated read

theorem backend_terminated {key : String} {old : Option String}
    (before : ∀ str ∈ old.toList, cstr str = str) :
    ∀ str ∈ ((jstringGet (jobjectGet j key)).or old).toList, cstr str = str := by
  cases read : jstringGet (jobjectGet j key) with
  | none => exact before
  | some x =>
    intro str member
    rw [Option.some_or, Option.toList_some, List.mem_singleton] at member
    rw [member]
    exact jstringGet_terminated read

theorem gainsOf_hdrEntry (key : String) (inner : List (String × JVal)) :
    gainsOf (hdrEntry key inner) = gains inner := by
  have whole := Owned.contents_partly (gains inner) (inner.length - (gains inner).length)
  rwa [Nat.add_sub_cancel' (gains_length_le inner)] at whole

theorem adjustmentsOf_merged (loads : Loads s j) :
    adjustmentsOf (mergedHyperion s.hyperion j) = hdrEntries j := by
  cases has : hasHyperion j with
  | true =>
    rw [mergedHyperion, has, if_pos rfl]
    exact Owned.contents_holds (Owned.partly_holds _ _)
  | false =>
    rw [adjustmentsOf_dropped has (loads.kept has), hdrEntries, hdrMembers_of_not_hasHyperion has]
    rfl

theorem appsOf_merged {key : String} (a : Apps) (strings : StringApps key j) :
    ∀ app ∈ appsOf (mergedApps key j a), cstr app = app := by
  cases has : hasApps key j with
  | false =>
    rw [appsOf_dropped a has]
    exact fun _ member => absurd member List.not_mem_nil
  | true =>
    cases found : jobjectGet j key with
    | array items =>
      rw [appsOf_carried a found strings]
      intro app member
      obtain ⟨item, _, read⟩ := List.mem_filterMap.mp member
      exact jstringGet_terminated read
    | _ =>
      rw [hasApps, found] at has
      cases has

theorem gains_terminated {inner : List (String × JVal)} :
    ∀ g ∈ gains inner, cstr g.name = g.name := by
  intro g member
  obtain ⟨⟨key, value⟩, _, made⟩ := List.mem_filterMap.mp member
  cases value with
  | number n =>
    cases made
    exact cstr_cstr key
  | _ => cases made

theorem hdrEntries_terminated :
    ∀ str ∈ (hdrEntries j).flatMap (fun a => a.hdrType :: (gainsOf a).map (·.name)),
      cstr str = str := by
  intro str member
  obtain ⟨a, entry, named⟩ := List.mem_flatMap.mp member
  obtain ⟨key, inner, _, rfl⟩ := mem_entries.mp entry
  rw [gainsOf_hdrEntry] at named
  rcases List.mem_cons.mp named with rfl | gain
  · exact cstr_cstr key
  · obtain ⟨g, held, rfl⟩ := List.mem_map.mp gain
    exact gains_terminated g held

theorem settingsLoadJson_fields (represented : Represented s)
    (load : settingsLoadJson s j = .ok s') :
    s'.videoBackend = (jstringGet (jobjectGet j "backend")).or s.videoBackend ∧
      s'.uiBackend = (jstringGet (jobjectGet j "uibackend")).or s.uiBackend ∧
      s'.address = loadString j "address" s.address ∧
      s'.lutTable = loadString j "lut-table" s.lutTable ∧
      s'.hyperion = mergedHyperion s.hyperion j ∧
      s'.includedApps = mergedApps "included_apps" j s.includedApps ∧
      s'.excludedApps = mergedApps "excluded_apps" j s.excludedApps := by
  have loads := loads_of_ok represented load
  simp only [settingsLoadJson, settingsLoadJsonWith, settingsHyperionLoadWith_nil,
    (settingsHyperionLoad_merged represented loads).1, ok_bind,
    settingsLoadApps_merged represented loads,
    (settingsHyperionLoad_merged represented loads).2] at load
  cases load
  exact ⟨rfl, rfl, rfl, rfl, rfl, rfl, rfl⟩

theorem load_sane (sane : Sane s) (load : settingsLoadJson s j = .ok s') : Sane s' := by
  have loads := loads_of_ok sane.represented load
  obtain ⟨video, ui, address, lutTable, hyperion, included, excluded⟩ :=
    settingsLoadJson_fields sane.represented load
  have before := sane.terminated
  unfold strings at before
  simp only [List.forall_mem_append, List.forall_mem_cons] at before
  obtain ⟨⟨⟨⟨⟨videoBefore, uiBefore⟩, addressBefore, lutBefore, _⟩, _⟩, _⟩, _⟩ := before
  refine ⟨?_, ?_, ?_⟩
  · rcases settingsLoadJson_cases j (tidy_of_represented sane.represented loads.here) with
      ⟨f, fault, _⟩ | ⟨_, _, ⟨_, fault⟩ | ⟨t, _, same, next⟩⟩
    · exact absurd (load.symm.trans fault) (ok_ne_error _ _)
    · exact absurd (load.symm.trans fault) (ok_ne_error _ _)
    · rw [Except.ok.inj (load.symm.trans same)]
      exact next.represented
  · rw [video, ui, Option.isSome_or, Option.isSome_or, sane.backends.1, sane.backends.2]
    simp
  · unfold strings
    simp only [List.forall_mem_append, List.forall_mem_cons]
    rw [video, ui, address, lutTable, hyperion, included, excluded, adjustmentsOf_merged loads]
    exact ⟨⟨⟨⟨⟨backend_terminated videoBefore, backend_terminated uiBefore⟩,
      loadString_terminated addressBefore, loadString_terminated lutBefore, by simp⟩,
      hdrEntries_terminated⟩, appsOf_merged _ loads.strings.1⟩, appsOf_merged _ loads.strings.2⟩

theorem hdrTypes_distinct {members : List (String × JVal)} (distinct : DistinctNames members) :
    ((entries members).map (·.hdrType)).Nodup := by
  have names : ((entries members).map (·.hdrType)).Sublist (members.map fun m => cstr m.1) := by
    induction members with
    | nil => exact List.Sublist.slnil
    | cons m rest ih =>
      have tail := ih (List.nodup_cons.mp distinct).2
      obtain ⟨key, value⟩ := m
      cases value with
      | object inner => exact tail.cons_cons _
      | _ => exact tail.cons _
  exact names.nodup distinct

theorem names_distinct {members : List (String × JVal)} (distinct : DistinctNames members) :
    ((gains members).map (·.name)).Nodup := by
  have names : ((gains members).map (·.name)).Sublist (members.map fun m => cstr m.1) := by
    induction members with
    | nil => exact List.Sublist.slnil
    | cons m rest ih =>
      have tail := ih (List.nodup_cons.mp distinct).2
      obtain ⟨key, value⟩ := m
      cases value with
      | number n => exact tail.cons_cons _
      | _ => exact tail.cons _
  exact names.nodup distinct

theorem load_wellFormed (sane : Sane s) (distinct : DistinctAdjustments j)
    (load : settingsLoadJson s j = .ok s') : WellFormed s' := by
  have after := load_sane sane load
  obtain ⟨_, _, _, _, hyperion, _⟩ := settingsLoadJson_fields sane.represented load
  have held : adjustmentsOf s'.hyperion = hdrEntries j := by
    rw [hyperion]
    exact adjustmentsOf_merged (loads_of_ok sane.represented load)
  refine ⟨after.represented, ?_, ?_, after.backends, after.terminated⟩
  · rw [held]
    exact hdrTypes_distinct distinct.1
  · rw [held]
    intro a entry
    obtain ⟨key, inner, found, rfl⟩ := mem_entries.mp entry
    rw [gainsOf_hdrEntry]
    exact names_distinct (distinct.2 key inner found)

end Loading

/-! ### What `main` starts from -/

section Options

variable {s s' : Settings} {m m' : Main}

theorem sane_settingsInit : Sane settingsInit :=
  ⟨wellFormed_settingsInit.represented, wellFormed_settingsInit.backends,
    wellFormed_settingsInit.terminated⟩

def Terminated (word : List Char) : Prop := ∀ c ∈ word, c ≠ Char.ofNat 0

theorem cstr_of_terminated {a : List Char} (terminated : Terminated a) :
    cstr (.ofList a) = .ofList a := by
  unfold cstr
  rw [String.toList_ofList, List.takeWhile_eq_self_iff.mpr]
  intro c member
  simpa using terminated c member

def heads (s : Settings) : List String :=
  s.videoBackend.toList ++ s.uiBackend.toList ++ [s.address, s.lutTable]

theorem Sane.heads (sane : Sane s) : ∀ str ∈ heads s, cstr str = str := by
  intro str member
  refine sane.terminated str ?_
  unfold strings
  simp only [List.append_assoc, List.mem_append]
  unfold SettingsSanity.heads at member
  simp only [List.append_assoc, List.mem_append] at member
  tauto

theorem sane_congr (sane : Sane s) (hyperion : s'.hyperion = s.hyperion)
    (included : s'.includedApps = s.includedApps) (excluded : s'.excludedApps = s.excludedApps)
    (backends : s'.videoBackend.isSome ∧ s'.uiBackend.isSome)
    (terminated : ∀ str ∈ heads s', cstr str = str) : Sane s' := by
  have before := sane.terminated
  unfold strings at before
  simp only [List.append_assoc, List.forall_mem_append] at before
  obtain ⟨_, _, _, names, apps, others⟩ := before
  refine ⟨⟨?_, ?_, ?_, ?_⟩, backends, ?_⟩
  · rw [hyperion]
    exact sane.represented.adjustments
  · rw [hyperion]
    exact sane.represented.instances
  · rw [included]
    exact sane.represented.included
  · rw [excluded]
    exact sane.represented.excluded
  · unfold heads at terminated
    unfold strings
    rw [hyperion, included, excluded]
    simp only [List.append_assoc, List.forall_mem_append] at terminated ⊢
    exact ⟨terminated.1, terminated.2.1, terminated.2.2, names, apps, others⟩

theorem withOptarg_ok {optarg : Option (List Char)} {body : List Char → Except Exit Main}
    (taken : withOptarg optarg body = .ok m') : ∃ a, optarg = some a ∧ body a = .ok m' := by
  cases optarg with
  | none => cases taken
  | some a => exact ⟨a, rfl, taken⟩

theorem settingsLoadFile_sane {unset : List (String × JVal)} {file : ConfigFile} {ret : Int}
    (sane : Sane s) (load : settingsLoadFileWith unset s file = .ok (ret, s')) : Sane s' := by
  cases file with
  | unreadable =>
    cases load
    exact sane
  | contents parsed =>
    rw [settingsLoadFileWith] at load
    split at load
    · cases load
      exact sane
    · obtain ⟨t, loaded, same⟩ := bind_eq_ok.mp load
      cases same
      exact load_sane sane (settingsLoadJsonWith_ok loaded)

theorem sane_argument {a : List Char} (sane : Sane s) (terminated : Terminated a) :
    Sane { s with address := .ofList a } ∧ Sane { s with lutTable := .ofList a } ∧
      Sane { s with videoBackend := some (.ofList a) } ∧
      Sane { s with uiBackend := some (.ofList a) } := by
  have named := cstr_of_terminated terminated
  have kept := sane.heads
  unfold heads at kept
  simp only [List.forall_mem_append, List.forall_mem_cons] at kept
  obtain ⟨⟨video, ui⟩, address, lutTable, none⟩ := kept
  refine ⟨sane_congr sane rfl rfl rfl sane.backends ?_,
    sane_congr sane rfl rfl rfl sane.backends ?_,
    sane_congr sane rfl rfl rfl ⟨rfl, sane.backends.2⟩ ?_,
    sane_congr sane rfl rfl rfl ⟨sane.backends.1, rfl⟩ ?_⟩
  · unfold heads
    simp only [List.forall_mem_append, List.forall_mem_cons]
    exact ⟨⟨video, ui⟩, named, lutTable, none⟩
  · unfold heads
    simp only [List.forall_mem_append, List.forall_mem_cons]
    exact ⟨⟨video, ui⟩, address, named, none⟩
  · unfold heads
    simp only [List.forall_mem_append, List.forall_mem_cons]
    exact ⟨⟨by simpa using named, ui⟩, address, lutTable, none⟩
  · unfold heads
    simp only [List.forall_mem_append, List.forall_mem_cons]
    exact ⟨⟨video, by simpa using named⟩, address, lutTable, none⟩

theorem parseOption_sane {unset : List (String × JVal)} {files : String → ConfigFile}
    {r : Report Flag} (sane : Sane m.settings)
    (terminated : ∀ a, r.optarg = some a → Terminated a)
    (taken : parseOptionWith unset files m r = .ok m') : Sane m'.settings := by
  cases r with
  | flag f val =>
    cases f
    cases taken
    exact sane
  | unknown => cases taken
  | option opt optarg =>
    by_cases config : opt = 'c'
    · rw [config] at taken
      obtain ⟨a, carries, loaded⟩ := withOptarg_ok taken
      split at loaded
      · next ret settings load =>
        cases loaded
        exact settingsLoadFile_sane sane load
      · cases loaded
    unfold parseOptionWith at taken
    dsimp only at taken
    split at taken
    all_goals
      first
        | exact absurd rfl config
        | (cases taken; done)
        | (cases taken
           exact sane_congr sane rfl rfl rfl sane.backends sane.heads)
        | (obtain ⟨a, carries, set⟩ := withOptarg_ok taken
           obtain ⟨address, lutTable, video, ui⟩ := sane_argument sane (terminated a carries)
           cases set
           first
             | exact address
             | exact lutTable
             | exact video
             | exact ui
             | exact sane_congr sane rfl rfl rfl sane.backends sane.heads)

theorem parseOption_returns {unset : List (String × JVal)} {files : String → ConfigFile}
    {r : Report Flag} {ret : Int}
    (left : parseOptionWith unset files m r = .error (.returns ret m')) : ret = 1 := by
  have asked : ∀ (optarg : Option (List Char)) (body : List Char → Except Exit Main),
      (∀ a, body a ≠ .error (.returns ret m')) →
        withOptarg optarg body ≠ .error (.returns ret m') := by
    intro optarg body never
    cases optarg with
    | none => exact fun fault => by cases fault
    | some a => exact never a
  cases r with
  | flag f val =>
    cases f
    cases left
  | unknown =>
    cases left
    rfl
  | option opt optarg =>
    by_cases config : opt = 'c'
    · rw [config] at left
      refine absurd left (asked _ _ fun a => ?_)
      split
      · exact fun fault => by cases fault
      · exact fun fault => by cases fault
    unfold parseOptionWith at left
    dsimp only at left
    split at left
    all_goals
      first
        | exact absurd rfl config
        | exact absurd left (asked _ _ fun a => fun fault => by cases fault)
        | (cases left; done)
        | (cases left
           rfl)

theorem parseOptions_sane {unset : List (String × JVal)} {files : String → ConfigFile}
    {argv : List String} (sane : Sane m.settings)
    (terminated : ∀ word ∈ argv, Terminated word.toList)
    (parsed : parseOptionsWith unset files argv m = .ok (0, m')) : Sane m'.settings := by
  have arguments : ∀ r ∈ getoptLong optstring longOptions none (argv.tail.map String.toList),
      ∀ a, r.optarg = some a → Terminated a := by
    intro r reported a carries c member
    obtain ⟨word, there, made⟩ := optarg_getoptLong reported carries
    obtain ⟨str, listed, rfl⟩ := List.mem_map.mp there
    exact terminated str (List.mem_of_mem_tail listed) c (made c member)
  unfold parseOptionsWith at parsed
  split at parsed
  · next ran =>
    cases parsed
    have kept : ∀ (m : Main) (r : Report Flag) (m' : Main), Sane m.settings →
        (∀ a, r.optarg = some a → Terminated a) → parseOptionWith unset files m r = .ok m' →
        Sane m'.settings := fun _ _ _ sane terminated taken =>
      parseOption_sane sane terminated taken
    exact throughout_invariant kept (throughout_inputs arguments) sane ran
  · next ran =>
    cases parsed
    have one := run_error (P := fun f => ∀ ret m, f = .returns ret m → ret = 1)
      (fun _ _ _ left ret m is => parseOption_returns (is ▸ left)) ran 0 m' rfl
    exact absurd one (by decide)
  · cases parsed

theorem loadedSettings_sane {json : JsonText} {l : Launch} {d : Disk}
    (loaded : loadedSettings json l d = .ok s) : Sane s := by
  unfold loadedSettings at loaded
  split at loaded
  · cases loaded
    exact sane_settingsInit
  · cases load : settingsLoadFileWith l.env.unset settingsInit
        (configFile json d.settingsFile) with
    | error f =>
      rw [load] at loaded
      cases loaded
    | ok result =>
      rw [load] at loaded
      cases loaded
      exact settingsLoadFile_sane sane_settingsInit load

theorem main_serving {json : JsonText} {l : Launch} {d : Disk} {sv : Service}
    (launched : main json l d = .ok (.serving sv)) :
    ∃ settings m, loadedSettings json l d = .ok settings ∧
      parseOptionsWith l.env.unset l.files l.argv ⟨settings, .info, 0⟩ = .ok (0, m) ∧
      sv.settings = m.settings := by
  unfold main at launched
  obtain ⟨settings, loaded, launched⟩ := bind_eq_ok.mp launched
  obtain ⟨⟨ret, m⟩, parsed, launched⟩ := bind_eq_ok.mp launched
  dsimp only at launched
  split at launched
  · cases launched
  · next zero =>
    rw [Decidable.not_not] at zero
    subst zero
    refine ⟨settings, m, loaded, parsed, ?_⟩
    split at launched
    · cases launched
    · cases launched
      split
      · exact serviceStart_settings l.env _
      · rfl

theorem main_sane {json : JsonText} {l : Launch} {d : Disk} {sv : Service}
    (terminated : ∀ word ∈ l.argv, Terminated word.toList)
    (launched : main json l d = .ok (.serving sv)) : Sane sv.settings := by
  obtain ⟨settings, m, loaded, parsed, same⟩ := main_serving launched
  rw [same]
  exact parseOptions_sane (loadedSettings_sane loaded) terminated parsed

end Options

end HyperionWebos.SettingsSanity
