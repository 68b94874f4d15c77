import HyperionWebos.LastWriter
import HyperionWebos.OptionParsing
import HyperionWebos.PartialUpdates

/-! Options against config files. An option writes its setting and a file the settings it
names, in the order of the command line, so the last write wins. That the options have
precedence is an exact condition on the files loaded after them; and a file also empties
the collections it does not name. -/

namespace HyperionWebos.OptionPrecedence
open Runs OwnedArray Pbnjson SettingsLoad SettingsOwnership SettingsUpdates SettingsSave
  SettingsRoundTrip PartialUpdates Getopt LastWriter OptionParsing

/-- What options and files set, with the type of its values. -/
inductive Setting : Type → Type where
  | videoBackend : Setting (Option String)
  | uiBackend : Setting (Option String)
  | address : Setting String
  | port : Setting Int
  | priority : Setting Int
  | unixSocket : Setting Bool
  | fps : Setting Int
  | width : Setting Int
  | height : Setting Int
  | hyperionAdjustments : Setting Bool
  | adjustments : Setting (String → Option (String → Option UInt64))
  | instances : Setting (List Int)
  | includedApps : Setting (List String)
  | excludedApps : Setting (List String)
  | vsync : Setting Bool
  | quirks : Setting Int
  | processPriority : Setting Int
  | lumenThreshold : Setting Int
  | lutTable : Setting String
  | noVideo : Setting Bool
  | noGui : Setting Bool
  | autostart : Setting Bool
  | notifications : Setting Bool
  | dumpFrames : Setting Bool
  | logLevel : Setting LogLevel
  | printVersion : Setting Int

namespace Setting

def get {α : Type} (f : Setting α) (m : Main) : α :=
  match f with
  | videoBackend => m.settings.videoBackend
  | uiBackend => m.settings.uiBackend
  | address => m.settings.address
  | port => m.settings.port
  | priority => m.settings.priority
  | unixSocket => m.settings.unixSocket
  | fps => m.settings.fps
  | width => m.settings.width
  | height => m.settings.height
  | hyperionAdjustments => m.settings.hyperion.hyperionAdjustments
  | adjustments => adjustmentMap (adjustmentsOf m.settings.hyperion)
  | instances => instancesOf m.settings.hyperion
  | includedApps => appsOf m.settings.includedApps
  | excludedApps => appsOf m.settings.excludedApps
  | vsync => m.settings.vsync
  | quirks => m.settings.quirks
  | processPriority => m.settings.processPriority
  | lumenThreshold => m.settings.lumenThreshold
  | lutTable => m.settings.lutTable
  | noVideo => m.settings.noVideo
  | noGui => m.settings.noGui
  | autostart => m.settings.autostart
  | notifications => m.settings.notifications
  | dumpFrames => m.settings.dumpFrames
  | logLevel => m.logLevel
  | printVersion => m.printVersion

def explicit {α : Type} (f : Setting α) (u : Use) : Option α :=
  match f, u.opt with
  | width, .width => some (atoi u.arg.toList)
  | height, .height => some (atoi u.arg.toList)
  | address, .address => some u.arg
  | port, .port => some (atoi u.arg.toList)
  | unixSocket, .unixSocket => some true
  | fps, .fps => some (atoi u.arg.toList)
  | videoBackend, .backend => some (some u.arg)
  | uiBackend, .uiBackend => some (some u.arg)
  | noVideo, .noVideo => some true
  | noGui, .noGui => some true
  | vsync, .noVsync => some false
  | lutTable, .lutTable => some u.arg
  | quirks, .quirks => some (atoi u.arg.toList)
  | dumpFrames, .dumpFrames => some true
  | logLevel, .verbose => some .debug
  | printVersion, .version => some 1
  | _, _ => none

def adjustmentsInFile (j : JVal) : Option (String → Option (String → Option UInt64)) :=
  let value := jobjectGet (jobjectGet j "hyperion") "adjustments"
  if jisObject value then some (adjustmentsGiven (jmembers value)) else none

def instancesInFile (j : JVal) : Option (List Int) :=
  let value := jobjectGet (jobjectGet j "hyperion") "instances"
  if jisArray value then some ((jitems value).map instanceValue) else none

def appsInFile (key : String) (j : JVal) : Option (List String) :=
  if hasApps key j then some ((jitems (jobjectGet j key)).filterMap jstringGet) else none

def inFile {α : Type} (f : Setting α) (j : JVal) : Option α :=
  match f with
  | videoBackend => asBackend (jobjectGet j "backend")
  | uiBackend => asBackend (jobjectGet j "uibackend")
  | address => jstringGet (jobjectGet j "address")
  | port => asI32 (jobjectGet j "port")
  | priority => asI32 (jobjectGet j "priority")
  | unixSocket => asBool (jobjectGet j "unix_socket")
  | fps => asI32 (jobjectGet j "fps")
  | width => asI32 (jobjectGet j "width")
  | height => asI32 (jobjectGet j "height")
  | hyperionAdjustments => asBool (jobjectGet (jobjectGet j "hyperion") "enabled")
  | adjustments => adjustmentsInFile j
  | instances => instancesInFile j
  | includedApps => appsInFile "included_apps" j
  | excludedApps => appsInFile "excluded_apps" j
  | vsync => asBool (jobjectGet j "vsync")
  | quirks => asI32 (jobjectGet j "quirks")
  | processPriority => asI32 (jobjectGet j "process_priority")
  | lumenThreshold => asI32 (jobjectGet j "lumen_threshold")
  | lutTable => jstringGet (jobjectGet j "lut-table")
  | noVideo => asBool (jobjectGet j "novideo")
  | noGui => asBool (jobjectGet j "nogui")
  | autostart => asBool (jobjectGet j "autostart")
  | notifications => asBool (jobjectGet j "notifications")
  | _ => none

def cleared {α : Type} (f : Setting α) (j : JVal) : Option α :=
  match f with
  | adjustments => if hasHyperion j then some (adjustmentMap []) else none
  | instances => if hasHyperion j then some [] else none
  | includedApps => some []
  | excludedApps => some []
  | _ => none

end Setting

def document (files : String → ConfigFile) (u : Use) : Option JVal :=
  if u.opt = .config then
    match files u.arg with
    | .unreadable => none
    | .contents parsed => if jisNull parsed then none else some parsed
  else none

def Setting.config {α : Type} (files : String → ConfigFile) (f : Setting α) (u : Use) : Option α :=
  (document files u).bind f.inFile

def Setting.clears {α : Type} (files : String → ConfigFile) (f : Setting α) (u : Use) : Option α :=
  (document files u).bind f.cleared

def Setting.writes {α : Type} (files : String → ConfigFile) (f : Setting α) : Use → Option α :=
  either f.explicit (either (f.config files) (f.clears files))

/-! ### One load -/

section Loads

variable {m : Main} {s s' : Settings} {j : JVal}

theorem load_i32 (j : JVal) (key : String) (old : Int) :
    loadI32 j key old = ((asI32 (jobjectGet j key)).or none).getD old := by
  unfold loadI32
  cases jobjectGet j key <;> rfl

theorem load_bool (j : JVal) (key : String) (old : Bool) :
    loadBool j key old = ((asBool (jobjectGet j key)).or none).getD old := by
  unfold loadBool
  cases jobjectGet j key <;> rfl

theorem load_string (j : JVal) (key : String) (old : String) :
    loadString j key old = ((jstringGet (jobjectGet j key)).or none).getD old := by
  unfold loadString
  cases jobjectGet j key <;> rfl

theorem load_backend (j : JVal) (key : String) (old : Option String) :
    (jstringGet (jobjectGet j key)).or old =
      ((asBackend (jobjectGet j key)).or none).getD old := by
  unfold asBackend
  cases jobjectGet j key <;> rfl

theorem load_enabled (h : Hyperion) (j : JVal) :
    (mergedHyperion h j).hyperionAdjustments =
      ((asBool (jobjectGet (jobjectGet j "hyperion") "enabled")).or none).getD
        h.hyperionAdjustments := by
  unfold mergedHyperion
  cases has : hasHyperion j with
  | true => exact load_bool (jobjectGet j "hyperion") "enabled" _
  | false =>
    rw [hyperion_absent has]
    rfl

theorem load_adjustments (represented : Represented s) (loads : Loads s j) :
    adjustmentMap (adjustmentsOf (mergedHyperion s.hyperion j)) =
      ((Setting.adjustmentsInFile j).or
        (if hasHyperion j then some (adjustmentMap []) else none)).getD
          (adjustmentMap (adjustmentsOf s.hyperion)) := by
  unfold Setting.adjustmentsInFile
  cases has : hasHyperion j with
  | true =>
    rw [adjustmentsOf_carried s.hyperion has]
    cases jobjectGet (jobjectGet j "hyperion") "adjustments" <;> rfl
  | false =>
    have zero := loads.kept has
    have none : adjustmentsOf s.hyperion = [] :=
      (Owned.contents_nil_iff represented.adjustments).mpr zero
    rw [adjustmentsOf_dropped has zero, hyperion_absent has, none]
    rfl

theorem load_instances (h : Hyperion) (j : JVal) :
    instancesOf (mergedHyperion h j) =
      ((Setting.instancesInFile j).or (if hasHyperion j then some [] else none)).getD
        (instancesOf h) := by
  unfold Setting.instancesInFile
  cases has : hasHyperion j with
  | true =>
    rw [instancesOf_carried h has]
    cases jobjectGet (jobjectGet j "hyperion") "instances" <;> rfl
  | false =>
    rw [instancesOf_dropped h has, hyperion_absent has]
    rfl

theorem load_apps {key : String} (a : Apps) (strings : StringApps key j) (old : List String) :
    appsOf (mergedApps key j a) = ((Setting.appsInFile key j).or (some [])).getD old := by
  unfold Setting.appsInFile
  cases has : hasApps key j with
  | true =>
    unfold hasApps at has
    cases found : jobjectGet j key with
    | array items =>
      rw [appsOf_carried a found strings]
      rfl
    | _ =>
      rw [found] at has
      cases has
  | false =>
    rw [appsOf_dropped a has]
    rfl

theorem load_get {α : Type} (f : Setting α) (represented : Represented m.settings)
    (load : settingsLoadJson m.settings j = .ok s') :
    f.get { m with settings := s' } = ((f.inFile j).or (f.cleared j)).getD (f.get m) := by
  have loads := loads_of_ok represented load
  obtain ⟨hyperion, dump⟩ := settingsHyperionLoad_merged represented loads
  simp only [settingsLoadJson, settingsLoadJsonWith, settingsHyperionLoadWith_nil, hyperion,
    ok_bind, settingsLoadApps_merged represented loads, dump] at load
  cases load
  cases f with
  | adjustments => exact load_adjustments represented loads
  | instances => exact load_instances m.settings.hyperion j
  | includedApps => exact load_apps m.settings.includedApps loads.strings.1 _
  | excludedApps => exact load_apps m.settings.excludedApps loads.strings.2 _
  | hyperionAdjustments => exact load_enabled m.settings.hyperion j
  | videoBackend => exact load_backend j "backend" _
  | uiBackend => exact load_backend j "uibackend" _
  | address => exact load_string j "address" _
  | port => exact load_i32 j "port" _
  | priority => exact load_i32 j "priority" _
  | unixSocket => exact load_bool j "unix_socket" _
  | fps => exact load_i32 j "fps" _
  | width => exact load_i32 j "width" _
  | height => exact load_i32 j "height" _
  | vsync => exact load_bool j "vsync" _
  | quirks => exact load_i32 j "quirks" _
  | processPriority => exact load_i32 j "process_priority" _
  | lumenThreshold => exact load_i32 j "lumen_threshold" _
  | lutTable => exact load_string j "lut-table" _
  | noVideo => exact load_bool j "novideo" _
  | noGui => exact load_bool j "nogui" _
  | autostart => exact load_bool j "autostart" _
  | notifications => exact load_bool j "notifications" _
  | dumpFrames => rfl
  | logLevel => rfl
  | printVersion => rfl

/-- What of the settings decides whether a load completes. -/
def arrays (s : Settings) : Hyperion × Apps × Apps := (s.hyperion, s.includedApps, s.excludedApps)

theorem loads_arrays (same : arrays s = arrays s') (loads : Loads s j) : Loads s' j := by
  obtain ⟨hyperion, apps⟩ := Prod.mk.inj same
  obtain ⟨included, excluded⟩ := Prod.mk.inj apps
  obtain ⟨here, numeric, strings, kept⟩ := loads
  unfold Dangles at here
  rw [hyperion, included, excluded] at here
  exact ⟨here, numeric, strings, hyperion ▸ kept⟩

theorem represented_arrays (same : arrays s = arrays s') (represented : Represented s) :
    Represented s' := by
  obtain ⟨hyperion, apps⟩ := Prod.mk.inj same
  obtain ⟨included, excluded⟩ := Prod.mk.inj apps
  obtain ⟨adjustments, instances, inc, exc⟩ := represented
  exact ⟨hyperion ▸ adjustments, hyperion ▸ instances, included ▸ inc, excluded ▸ exc⟩

theorem load_completes (represented : Represented s) (loads : Loads s j) :
    ∃ s', settingsLoadJson s j = .ok s' ∧ Represented s' ∧ arrays s' =
      (mergedHyperion s.hyperion j, mergedApps "included_apps" j s.includedApps,
        mergedApps "excluded_apps" j s.excludedApps) := by
  obtain ⟨s', load, hyperion, included, excluded, -⟩ := settingsLoadJson_merged represented loads
  refine ⟨s', load, ?_, by rw [arrays, hyperion, included, excluded]⟩
  rcases settingsLoadJson_cases j (tidy_of_represented represented loads.here) with
    ⟨f, fault, -⟩ | ⟨-, -, ⟨-, fault⟩ | ⟨s'', -, load', next⟩⟩
  · rw [fault] at load
    cases load
  · rw [fault] at load
    cases load
  · rw [load'] at load
    cases load
    exact next.represented

end Loads

/-! ### One option -/

section Options

variable {files : String → ConfigFile} {m m' : Main} {u : Use} {j : JVal}

theorem step_plain (recognized : u.Recognized) (plain : u.opt ≠ .config) :
    ∃ m', parseOption files m u.report = .ok m' ∧ arrays m'.settings = arrays m.settings ∧
      ∀ {α : Type} (f : Setting α), f.get m' = (f.explicit u).getD (f.get m) := by
  rw [Use.report, if_pos recognized]
  obtain ⟨opt, form, joined, arg, documented, fits⟩ := u
  cases opt with
  | config => exact absurd rfl plain
  | synopsis => exact absurd (List.mem_singleton.mp documented) recognized.2
  | address =>
    refine ⟨_, rfl, rfl, fun f => ?_⟩
    cases f with
    | address => exact String.ofList_toList
    | _ => rfl
  | lutTable =>
    refine ⟨_, rfl, rfl, fun f => ?_⟩
    cases f with
    | lutTable => exact String.ofList_toList
    | _ => rfl
  | backend =>
    refine ⟨_, rfl, rfl, fun f => ?_⟩
    cases f with
    | videoBackend => exact congrArg some String.ofList_toList
    | _ => rfl
  | uiBackend =>
    refine ⟨_, rfl, rfl, fun f => ?_⟩
    cases f with
    | uiBackend => exact congrArg some String.ofList_toList
    | _ => rfl
  | _ =>
    refine ⟨_, rfl, rfl, fun f => ?_⟩
    cases f <;> rfl

theorem recognized_config (config : u.opt = .config) : u.Recognized := by
  have form := u.documented
  rw [config] at form
  unfold Use.Recognized
  rcases List.mem_pair.mp form with short | long
  · rw [short]
    decide
  · rw [long]
    decide

theorem step_config (config : u.opt = .config) :
    parseOption files m u.report =
      match document files u with
      | none => .ok m
      | some j =>
        match settingsLoadJson m.settings j with
        | .ok s => .ok { m with settings := s }
        | .error f => .error (.fault f) := by
  rw [Use.report, if_pos (recognized_config config), document, if_pos config, config]
  simp only [Opt.target, Opt.optarg, Opt.hasArg, Target.report, parseOption, parseOptionWith,
    withOptarg, String.ofList_toList]
  cases files u.arg with
  | unreadable => rfl
  | contents parsed =>
    rw [settingsLoadFileWith, settingsLoadJsonWith_nil]
    dsimp only
    cases jisNull parsed with
    | true => rfl
    | false =>
      simp only [Bool.false_eq_true, if_false]
      cases settingsLoadJson m.settings parsed <;> rfl

theorem explicit_config {α : Type} (f : Setting α) (config : u.opt = .config) :
    f.explicit u = none := by
  unfold Setting.explicit
  rw [config]
  cases f <;> rfl

theorem document_plain (plain : u.opt ≠ .config) : document files u = none := if_neg plain

theorem config_of_document (loaded : document files u = some j) : u.opt = .config := by
  by_contra plain
  rw [document_plain plain] at loaded
  cases loaded

theorem writes_document {α : Type} (f : Setting α) (loaded : document files u = some j) :
    f.writes files u = (f.inFile j).or (f.cleared j) := by
  rw [Setting.writes, either, explicit_config f (config_of_document loaded), Option.none_or,
    either, Setting.config, Setting.clears, loaded]
  rfl

theorem writes_none {α : Type} (f : Setting α) (loaded : document files u = none) :
    f.writes files u = f.explicit u := by
  rw [Setting.writes, either, either, Setting.config, Setting.clears, loaded, Option.bind_none,
    Option.bind_none, Option.none_or, Option.or_none]

theorem step_unloaded (recognized : u.Recognized) (unloaded : document files u = none) :
    ∃ m', parseOption files m u.report = .ok m' ∧ arrays m'.settings = arrays m.settings ∧
      ∀ {α : Type} (f : Setting α), f.get m' = (f.writes files u).getD (f.get m) := by
  by_cases config : u.opt = .config
  · refine ⟨m, ?_, rfl, fun f => ?_⟩
    · rw [step_config config, unloaded]
    · rw [writes_none f unloaded, explicit_config f config]
      rfl
  · obtain ⟨m', ran, same, gets⟩ := @step_plain files m u recognized config
    refine ⟨m', ran, same, fun f => ?_⟩
    rw [gets f, writes_none f unloaded]

inductive Taken (files : String → ConfigFile) (m : Main) (u : Use) : Except Exit Main → Prop
  | unrecognized (unknown : ¬ u.Recognized) : Taken files m u (.error (.returns 1 m))
  | unloaded {m' : Main} (recognized : u.Recognized) (nothing : document files u = none)
      (same : arrays m'.settings = arrays m.settings)
      (gets : ∀ {α : Type} (f : Setting α), f.get m' = (f.writes files u).getD (f.get m)) :
      Taken files m u (.ok m')
  | loaded {j : JVal} {s : Settings} (recognized : u.Recognized)
      (found : document files u = some j) (load : settingsLoadJson m.settings j = .ok s) :
      Taken files m u (.ok { m with settings := s })
  | fault {j : JVal} {f : MemoryFault} (found : document files u = some j)
      (load : settingsLoadJson m.settings j = .error f) : Taken files m u (.error (.fault f))

theorem parseOption_taken (files : String → ConfigFile) (m : Main) (u : Use) :
    Taken files m u (parseOption files m u.report) := by
  by_cases recognized : u.Recognized
  · cases found : document files u with
    | none =>
      obtain ⟨m', ran, same, gets⟩ := @step_unloaded files m u recognized found
      rw [ran]
      exact .unloaded recognized found same gets
    | some j =>
      rw [step_config (config_of_document found), found]
      dsimp only
      cases load : settingsLoadJson m.settings j with
      | ok s => exact .loaded recognized found load
      | error f => exact .fault found load
  · rw [Use.report, if_neg recognized]
    exact .unrecognized recognized

theorem step_get (represented : Represented m.settings)
    (ran : parseOption files m u.report = .ok m') :
    Represented m'.settings ∧
      ∀ {α : Type} (f : Setting α), f.get m' = (f.writes files u).getD (f.get m) := by
  have taken := parseOption_taken files m u
  rw [ran] at taken
  cases taken with
  | unloaded recognized nothing same gets =>
    exact ⟨represented_arrays same.symm represented, gets⟩
  | loaded recognized found load =>
    obtain ⟨s, load', kept, -⟩ := load_completes represented (loads_of_ok represented load)
    rw [load] at load'
    cases load'
    refine ⟨kept, fun f => ?_⟩
    rw [writes_document f found]
    exact load_get f represented load

theorem step_returns {ret : Int} (left : parseOption files m u.report = .error (.returns ret m')) :
    ret = 1 := by
  have taken := parseOption_taken files m u
  rw [left] at taken
  cases taken
  rfl

theorem step_completes_iff (represented : Represented m.settings) :
    (∃ m', parseOption files m u.report = .ok m') ↔
      u.Recognized ∧ ∀ j, document files u = some j → Loads m.settings j := by
  have taken := parseOption_taken files m u
  generalize parseOption files m u.report = result at taken
  cases taken with
  | unrecognized unknown => exact iff_of_false (by simp) fun both => unknown both.1
  | unloaded recognized nothing same gets =>
    exact iff_of_true ⟨_, rfl⟩ ⟨recognized, by simp [nothing]⟩
  | loaded recognized found load =>
    refine iff_of_true ⟨_, rfl⟩ ⟨recognized, fun j same => ?_⟩
    rw [found] at same
    cases same
    exact loads_of_ok represented load
  | fault found load =>
    refine iff_of_false (by simp) fun both => ?_
    obtain ⟨s, load', -⟩ := load_completes represented (both.2 _ found)
    rw [load] at load'
    cases load'

end Options

/-! ### The command line -/

def parseUses (files : String → ConfigFile) : Main → List Use → Except Exit Main :=
  run fun m u => parseOption files m u.report

section Lines

variable {files : String → ConfigFile} {m m' : Main} {uses : List Use} {s : Settings}

theorem parseOptions_uses (program : String) :
    parseOptions files (program :: uses.flatMap Use.words) m =
      match parseUses files m uses with
      | .ok m => .ok (0, m)
      | .error (.returns ret m) => .ok (ret, m)
      | .error (.fault f) => .error f := by
  rw [parseOptions, parseOptionsWith, List.tail_cons, getopt_uses, run_map]
  rfl

theorem parseUses_get (represented : Represented m.settings)
    (ran : parseUses files m uses = .ok m') {α : Type} (f : Setting α) :
    f.get m' = (lastWrite (f.writes files) uses).getD (f.get m) := by
  induction uses generalizing m with
  | nil =>
    cases ran
    rfl
  | cons u us ih =>
    obtain ⟨m₁, step, rest⟩ := run_cons_ok.mp ran
    obtain ⟨kept, gets⟩ := step_get represented step
    rw [ih kept rest, gets f, lastWrite, Option.getD_or]

theorem parseUses_returns {ret : Int} (left : parseUses files m uses = .error (.returns ret m')) :
    ret = 1 := by
  induction uses generalizing m with
  | nil => cases left
  | cons u us ih =>
    cases step : parseOption files m u.report with
    | error exit =>
      rw [parseUses, run, step, error_bind] at left
      cases left
      exact step_returns step
    | ok m₁ =>
      rw [parseUses, run, step, ok_bind] at left
      exact ih left

theorem step_arrays (represented : Represented m.settings) (same : arrays m.settings = arrays s)
    {u : Use} (step : parseOption files m u.report = .ok m') :
    (document files u = none ∧ arrays m'.settings = arrays s) ∨
    ∃ j s', document files u = some j ∧ Loads s j ∧ settingsLoadJson s j = .ok s' ∧
      arrays m'.settings = arrays s' := by
  have taken := parseOption_taken files m u
  rw [step] at taken
  cases taken with
  | unloaded recognized nothing kept gets => exact .inl ⟨nothing, kept.trans same⟩
  | loaded recognized found load =>
    have loads := loads_of_ok represented load
    obtain ⟨s₁, load₁, -, arrays₁⟩ := load_completes represented loads
    obtain ⟨s₂, load₂, -, arrays₂⟩ :=
      load_completes (represented_arrays same represented) (loads_arrays same loads)
    rw [load] at load₁
    cases load₁
    obtain ⟨hyperion, apps⟩ := Prod.mk.inj same
    obtain ⟨included, excluded⟩ := Prod.mk.inj apps
    rw [hyperion, included, excluded, ← arrays₂] at arrays₁
    exact .inr ⟨_, s₂, found, loads_arrays same loads, load₂, arrays₁⟩

/-- Whether the loop gets to its end is decided by the forms of the options, and by loading
the files alone. -/
theorem parseUses_completes_iff (represented : Represented m.settings)
    (same : arrays m.settings = arrays s) :
    (∃ m', parseUses files m uses = .ok m') ↔
      (∀ u ∈ uses, u.Recognized) ∧
        Ready settingsLoadJson Loads s (uses.filterMap (document files)) := by
  induction uses generalizing m s with
  | nil => exact iff_of_true ⟨m, rfl⟩ ⟨by simp, trivial⟩
  | cons u us ih =>
    rw [List.forall_mem_cons]
    constructor
    · rintro ⟨m', ran⟩
      obtain ⟨m₁, step, rest⟩ := run_cons_ok.mp ran
      have recognized := ((step_completes_iff represented).mp ⟨m₁, step⟩).1
      have kept := (step_get represented step).1
      rcases step_arrays represented same step with
        ⟨nothing, same₁⟩ | ⟨j, s₁, found, loads, load, same₁⟩
      · rw [List.filterMap_cons_none nothing]
        obtain ⟨all, ready⟩ := (ih kept same₁).mp ⟨m', rest⟩
        exact ⟨⟨recognized, all⟩, ready⟩
      · rw [List.filterMap_cons_some found, ready_cons load]
        obtain ⟨all, ready⟩ := (ih kept same₁).mp ⟨m', rest⟩
        exact ⟨⟨recognized, all⟩, loads, ready⟩
    · rintro ⟨⟨recognized, all⟩, ready⟩
      have loads : ∀ j, document files u = some j → Loads m.settings j := by
        intro j found
        rw [List.filterMap_cons_some found] at ready
        exact loads_arrays same.symm ready.1
      obtain ⟨m₁, step⟩ := (step_completes_iff represented).mpr ⟨recognized, loads⟩
      have kept := (step_get represented step).1
      have later : ∃ m', parseUses files m₁ us = .ok m' := by
        rcases step_arrays represented same step with
          ⟨nothing, same₁⟩ | ⟨j, s₁, found, -, load, same₁⟩
        · rw [List.filterMap_cons_none nothing] at ready
          exact (ih kept same₁).mpr ⟨all, ready⟩
        · rw [List.filterMap_cons_some found, ready_cons load] at ready
          exact (ih kept same₁).mpr ⟨all, ready.2⟩
      obtain ⟨m', rest⟩ := later
      exact ⟨m', run_cons_ok.mpr ⟨m₁, step, rest⟩⟩

end Lines

/-! ### Precedence -/

/-- What a setting has to be after the command line: what the last option that names it
gives, else the last file, else its prior value. -/
def Setting.intended {α : Type} (files : String → ConfigFile) (uses : List Use) (m : Main)
    (f : Setting α) : α :=
  (lastWrite f.explicit uses).getD ((lastWrite (f.config files) uses).getD (f.get m))

def CommandLineWins (unset : List (String × JVal)) (files : String → ConfigFile)
    (program : String) (uses : List Use) (m : Main) : Prop :=
  ∃ m', parseOptionsWith unset files (program :: uses.flatMap Use.words) m = .ok (0, m') ∧
    ∀ {α : Type} (f : Setting α), f.get m' = f.intended files uses m

/-- No option has a form that the short-option string lacks, and loading the files alone
completes. No file loaded after an option that gives a setting last gives it another value,
and none empties a collection that was given before or had prior entries. -/
structure Respected (files : String → ConfigFile) (uses : List Use) (m : Main) : Prop where
  recognized : ∀ u ∈ uses, u.Recognized
  loads : Ready settingsLoadJson Loads m.settings (uses.filterMap (document files))
  overrides : ∀ {α : Type} (f : Setting α), Outlasts f.explicit (f.config files) uses
  carried : ∀ {α : Type} (f : Setting α), Outlasts (f.config files) (f.clears files) uses
  kept : ∀ {α : Type} (f : Setting α), lastWrite (f.config files) uses = none →
    Stands (f.clears files) (f.get m) uses

section Precedence

variable {files : String → ConfigFile} {m : Main} {uses : List Use}

theorem one_kind {α : Type} (files : String → ConfigFile) (f : Setting α) :
    (∀ u, f.clears files u = none) ∨ ∀ u, f.explicit u = none := by
  have scalar (never : ∀ j, f.cleared j = none) : ∀ u, f.clears files u = none := by
    intro u
    unfold Setting.clears
    cases document files u with
    | none => rfl
    | some j => exact never j
  cases f with
  | adjustments => exact .inr fun u => by cases u with | mk opt => cases opt <;> rfl
  | instances => exact .inr fun u => by cases u with | mk opt => cases opt <;> rfl
  | includedApps => exact .inr fun u => by cases u with | mk opt => cases opt <;> rfl
  | excludedApps => exact .inr fun u => by cases u with | mk opt => cases opt <;> rfl
  | _ => exact .inl (scalar fun j => rfl)

theorem writes_intended_iff {α : Type} (f : Setting α) :
    (lastWrite (f.writes files) uses).getD (f.get m) = f.intended files uses m ↔
      Outlasts f.explicit (f.config files) uses ∧ Outlasts (f.config files) (f.clears files) uses ∧
        (lastWrite (f.config files) uses = none → Stands (f.clears files) (f.get m) uses) := by
  unfold Setting.intended Setting.writes
  rcases one_kind files f with never | never
  · have only : either (f.config files) (f.clears files) = f.config files := by
      funext u
      rw [either, never, Option.or_none]
    rw [only, precedence_iff]
    exact ⟨fun outlasts => ⟨outlasts, outlasts_silent never uses,
      fun _ => stands_silent never _ uses⟩, fun all => all.1⟩
  · have only : either f.explicit (either (f.config files) (f.clears files)) =
        either (f.config files) (f.clears files) := by
      funext u
      rw [either, never, Option.none_or]
    have silent := lastWrite_silent never uses
    rw [only, silent, Option.getD_none, undisturbed_iff]
    exact (and_iff_right (either_silent silent).2).symm

theorem intended_swap {α : Type} (f : Setting α) {pre post : List Use} {c e : Use}
    (config : c.opt = .config) (plain : e.opt ≠ .config) :
    f.intended files (pre ++ e :: c :: post) m = f.intended files (pre ++ c :: e :: post) m := by
  have unloaded : f.config files e = none := by
    rw [Setting.config, document_plain plain]
    rfl
  unfold Setting.intended
  rw [lastWrite_swap (.inr (explicit_config f config)), lastWrite_swap (.inl unloaded)]

theorem commandLineWins_iff (program : String) (represented : Represented m.settings) :
    CommandLineWins [] files program uses m ↔ Respected files uses m := by
  unfold CommandLineWins
  rw [show parseOptionsWith [] = parseOptions from rfl, parseOptions_uses]
  constructor
  · rintro ⟨m', returned, intends⟩
    cases ran : parseUses files m uses with
    | error exit =>
      rw [ran] at returned
      cases exit with
      | fault f => cases returned
      | returns ret m₁ =>
        obtain ⟨zero, -⟩ := Prod.mk.inj (Except.ok.inj returned)
        rw [parseUses_returns ran] at zero
        cases zero
    | ok m₁ =>
      rw [ran] at returned
      cases returned
      obtain ⟨recognized, loads⟩ := (parseUses_completes_iff represented rfl).mp ⟨m', ran⟩
      have exact_iff {α : Type} (f : Setting α) := (@writes_intended_iff files m uses α f).mp
        ((parseUses_get represented ran f).symm.trans (intends f))
      exact ⟨recognized, loads, fun f => (exact_iff f).1, fun f => (exact_iff f).2.1,
        fun f => (exact_iff f).2.2⟩
  · rintro ⟨recognized, loads, overrides, carried, kept⟩
    obtain ⟨m', ran⟩ := (parseUses_completes_iff represented rfl).mpr ⟨recognized, loads⟩
    rw [ran]
    refine ⟨m', rfl, fun f => ?_⟩
    rw [parseUses_get represented ran f]
    exact writes_intended_iff f |>.mpr ⟨overrides f, carried f, kept f⟩

end Precedence

/-- Options win over files, and all that is in files or was there before is kept, exactly on
the command lines that respect what the loop does, if an iterator left unset yields nothing;
a file and an option that trade places never change what is intended. -/
theorem command_line_wins_iff (unset : List (String × JVal)) (silent : unset = [])
    (files : String → ConfigFile) (program : String) (uses : List Use) (m : Main)
    (represented : Represented m.settings) :
    (CommandLineWins unset files program uses m ↔ Respected files uses m) ∧
      ∀ pre c e post, uses = pre ++ c :: e :: post → c.opt = .config → e.opt ≠ .config →
        ∀ {α : Type} (f : Setting α),
          f.intended files (pre ++ e :: c :: post) m = f.intended files uses m := by
  rw [silent]
  refine ⟨commandLineWins_iff program represented, ?_⟩
  rintro pre c e post rfl config plain α f
  exact intended_swap f config plain

def mainInit : Main := ⟨settingsInit, .info, 0⟩

def unixSocketUse : Use := ⟨.unixSocket, .short 'l', false, "", by decide, by decide⟩

def widthUse : Use := ⟨.width, .long "width", true, "320", by decide, by decide⟩

def configUse : Use := ⟨.config, .short 'c', false, "config.json", by decide, by decide⟩

def widthFile (_ : String) : ConfigFile := .contents (.object [("width", .number ⟨640, 0⟩)])

/-- A width after the file that has another. -/
theorem command_line_wins_width :
    CommandLineWins [] widthFile "hyperion-webos" [configUse, widthUse] mainInit ↔
      Respected widthFile [configUse, widthUse] mainInit :=
  (command_line_wins_iff [] rfl widthFile "hyperion-webos" [configUse, widthUse] mainInit
    tidy_settingsInit.represented).1

/-- `-l` is not known, and a width before the file that has another is lost. -/
theorem command_line_wins_broken :
    Represented mainInit.settings ∧
      ¬ CommandLineWins [] widthFile "hyperion-webos" [unixSocketUse] mainInit ∧
      ¬ CommandLineWins [] widthFile "hyperion-webos" [widthUse, configUse] mainInit := by
  have represented : Represented mainInit.settings := tidy_settingsInit.represented
  refine ⟨represented, ?_, ?_⟩
  · rw [commandLineWins_iff "hyperion-webos" represented]
    intro respected
    exact absurd (respected.recognized unixSocketUse (List.mem_singleton.mpr rfl)) (by decide)
  · rw [commandLineWins_iff "hyperion-webos" represented]
    intro respected
    have same : (640 : Int) = atoi "320".toList :=
      (respected.overrides .width).1 rfl (atoi "320".toList) rfl 640 rfl
    exact absurd same (by decide)

end HyperionWebos.OptionPrecedence
