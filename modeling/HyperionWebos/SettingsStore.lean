import HyperionWebos.PayloadSafety
import HyperionWebos.SettingsSanity

/-! The settings over restarts. What a process has saved the next one finds, as long as
pbnjson reads what it printed; a save that is cut short leaves nothing that parses, so the
next process starts from the defaults. Where the files can be written a restart is not
noticed, and the startup symlink says what the settings file says. -/

namespace HyperionWebos.SettingsStore
open Runs AssocLists OwnedArray Pbnjson JsonMaps SettingsLoad SettingsOwnership SettingsUpdates
open SettingsSave SettingsRoundTrip OptionParsing ServiceLoop ServiceSteps PayloadSafety
open ServiceFiles SettingsSanity

/-! ### Runs over restarts -/

/-- What the last save that opened the settings file has left there. -/
inductive Saved where
  | asFound
  | cut
  | whole (s : Settings)

def Saved.next (r : Saved) (s : Settings) : SaveOutcome → Saved
  | .unopened => r
  | .cut _ => .cut
  | .whole => .whole s

def observe (r : Saved) (_ : Machine) (e : MachineEvent) (m' : Machine) : Saved :=
  match e, m'.process with
  | .handle ⟨.setSettings payload, _⟩ o, some s =>
    if jisNull payload then r else r.next s.settings o.save
  | _, _ => r

/-- The settings that the bus would launch a process with. -/
def stored (json : JsonText) (unset : List (String × JVal)) (d : Disk) :
    Except MemoryFault Settings :=
  (settingsLoadFileWith unset settingsInit (configFile json d.settingsFile)).map Prod.snd

/-- pbnjson reads back what it printed of these settings, and parses no beginning of it. -/
structure ReadsBack (json : JsonText) (s : Settings) : Prop where
  printed : json.print (savedOnto s []) ≠ ""
  whole : SameJson (savedOnto s []) (json.parse (cstr (json.print (savedOnto s []))))
  cut : ∀ n < (json.print (savedOnto s [])).toList.length,
    jisNull (json.parse (cstr (.ofList ((json.print (savedOnto s [])).toList.take n)))) = true

/-- Command lines are C strings, names of adjustments are distinct, and pbnjson reads back
the settings that are saved. -/
def Orderly (json : JsonText) (e : MachineEvent) (m' : Machine) : Prop :=
  match e with
  | .launch l => ∀ word ∈ l.argv, Terminated word.toList
  | .handle ⟨.setSettings payload, _⟩ _ =>
    DistinctAdjustments payload ∧ ∀ s, m'.process = some s → ReadsBack json s.settings
  | _ => True

def Working (json : JsonText) (e : MachineEvent) (m' : Machine) : Prop :=
  match e with
  | .launch l => l.usingCli = false ∧ l.argv.tail = []
  | .handle e o => Orderly json (.handle e o) m' ∧ o = ⟨.whole, true, true⟩
  | .exit => True

def Restored (json : JsonText) (found d : Disk) (l : Launch) : Saved → Prop
  | .asFound => d.settingsFile = found.settingsFile
  | .cut => ∃ sv, main json l d = .ok (.serving sv) ∧ sv.settings = settingsInit ∧
    sv.running = false
  | .whole s => ∃ sv, main json l d = .ok (.serving sv) ∧
    persisted sv.settings = persisted s ∧ sv.running = (s.autostart && l.env.connectionCreated)

def FileIs (json : JsonText) (found d : Disk) : Saved → Prop
  | .asFound => d.settingsFile = found.settingsFile
  | .cut => ∃ text, d.settingsFile = some text ∧ jisNull (json.parse (cstr text)) = true
  | .whole s => WellFormed s ∧ ∃ text, d.settingsFile = some text ∧
    SameJson (savedOnto s []) (json.parse (cstr text))

section Restarts

variable {json : JsonText} {found d : Disk} {l : Launch}

theorem parseOptions_none {unset : List (String × JVal)} {files : String → ConfigFile}
    {argv : List String} (m : Main) (none : argv.tail = []) :
    parseOptionsWith unset files argv m = .ok (0, m) := by
  unfold parseOptionsWith
  rw [none]
  rfl

theorem main_plain {settings : Settings} (none : l.argv.tail = []) (service : l.usingCli = false)
    (there : stored json l.env.unset d = .ok settings) :
    ∃ sv, main json l d = .ok (.serving sv) ∧ sv.settings = settings ∧
      sv.running = (settings.autostart && l.env.connectionCreated) := by
  have loaded : loadedSettings json l d = .ok settings := by
    rw [← there, loadedSettings, service]
    rfl
  unfold main
  rw [loaded, ok_bind, parseOptions_none _ none, ok_bind, service]
  refine ⟨_, rfl, ?_, ?_⟩
  · dsimp only
    split
    · exact serviceStart_settings _ _
    · rfl
  · dsimp only
    cases autostart : settings.autostart with
    | true =>
      rw [Bool.or_true, if_pos rfl, serviceStart_running]
      rfl
    | false => rfl

theorem stored_text {unset : List (String × JVal)} {text : String}
    (there : d.settingsFile = some text) : stored json unset d =
      (settingsLoadFileWith unset settingsInit (.contents (json.parse (cstr text)))).map
        Prod.snd := by
  rw [stored, there]
  rfl

theorem stored_saved {s : Settings} {text : String} (well : WellFormed s)
    (there : d.settingsFile = some text)
    (same : SameJson (savedOnto s []) (json.parse (cstr text))) :
    ∃ t, (∀ unset, stored json unset d = .ok t) ∧ persisted t = persisted s := by
  have fresh : ¬ Dangles settingsInit := by simp [Dangles, settingsInit]
  have empty : Distinct ([] : List (String × JVal)) := List.nodup_nil
  obtain ⟨t, load, kept⟩ := settingsLoadJson_saved well empty same
    tidy_settingsInit.represented fresh
  have object : jisNull (json.parse (cstr text)) = false := by
    obtain ⟨_, _, parsed, _⟩ := SameJson.members same
    rw [parsed]
    rfl
  refine ⟨t, fun unset => ?_, kept⟩
  rw [stored_text there, settingsLoadFileWith, object,
    settingsLoadJsonWith_set (saved_sets empty same), load]
  rfl

theorem restored_of_fileIs {r : Saved} (none : l.argv.tail = []) (service : l.usingCli = false)
    (file : FileIs json found d r) : Restored json found d l r := by
  cases r with
  | asFound => exact file
  | cut =>
    obtain ⟨text, there, null⟩ := file
    refine main_plain none service ?_
    rw [stored_text there, settingsLoadFileWith, if_pos null]
    rfl
  | whole s =>
    obtain ⟨well, text, there, same⟩ := file
    obtain ⟨t, loaded, kept⟩ := stored_saved well there same
    obtain ⟨sv, launched, settings, running⟩ := main_plain none service (loaded l.env.unset)
    refine ⟨sv, launched, by rw [settings]; exact kept, ?_⟩
    rw [running]
    exact congrArg (fun p => p.autostart && l.env.connectionCreated) kept

end Restarts

structure Keeps (json : JsonText) (found : Disk) (m : Machine) (r : Saved) : Prop where
  sane : ∀ s, m.process = some s → Sane s.settings
  file : FileIs json found m.disk r

theorem observe_other {r : Saved} {m m' : Machine} {e : Event} {o : FileOutcomes}
    (other : ∀ payload, e.action ≠ .setSettings payload) : observe r m (.handle e o) m' = r := by
  obtain ⟨action, env⟩ := e
  cases action with
  | setSettings payload => exact absurd rfl (other payload)
  | _ => rfl

theorem handleStep_other {json : JsonText} {e : Event} {o : FileOutcomes} {d d' : Disk}
    {s s' : Service} (other : ∀ payload, e.action ≠ .setSettings payload)
    (handled : handleStep json e o d s = .ok (d', s')) :
    d' = d ∧ s'.settings = s.settings := by
  constructor
  · obtain ⟨action, env⟩ := e
    cases action with
    | setSettings payload => exact absurd rfl (other payload)
    | _ =>
      obtain ⟨t, _, same⟩ := bind_eq_ok.mp handled
      cases same
      rfl
  · rcases step_settings (handleStep_service handled) with unchanged | ⟨payload, action, _⟩
    · exact unchanged
    · exact absurd action (other payload)

theorem fileIs_congr {json : JsonText} {found d d' : Disk} {r : Saved}
    (same : d'.settingsFile = d.settingsFile) (file : FileIs json found d r) :
    FileIs json found d' r := by
  cases r with
  | asFound => exact same.trans file
  | cut =>
    obtain ⟨text, there, null⟩ := file
    exact ⟨text, same.trans there, null⟩
  | whole s =>
    obtain ⟨well, text, there, read⟩ := file
    exact ⟨well, text, same.trans there, read⟩

theorem updateStartup_settingsFile (autostart : Bool) (o : FileOutcomes) (d : Disk) :
    (updateStartup autostart o d).settingsFile = d.settingsFile := by
  unfold updateStartup
  split
  · rfl
  · rfl

theorem save_fileIs {json : JsonText} {found d d' : Disk} {r : Saved} {s : Settings} {ret : Int}
    {o : SaveOutcome} (well : WellFormed s) (reads : ReadsBack json s)
    (file : FileIs json found d r) (saved : settingsSaveFile json s o d = .ok (ret, d')) :
    FileIs json found d' (r.next s o) := by
  have object : settingsSaveJson s (.object []) = .ok (savedOnto s []) :=
    settingsSaveJson_saved well []
  unfold settingsSaveFile at saved
  rw [object, ok_bind] at saved
  cases o with
  | unopened =>
    cases saved
    exact file
  | cut count =>
    cases saved
    refine ⟨_, rfl, reads.cut _ ?_⟩
    have some : (json.print (savedOnto s [])).toList.length ≠ 0 := by
      rw [ne_eq, List.length_eq_zero_iff, String.toList_eq_nil_iff]
      exact reads.printed
    omega
  | whole =>
    cases saved
    exact ⟨well, _, rfl, reads.whole⟩

theorem handle_keeps {json : JsonText} {found d' : Disk} {m : Machine} {r : Saved} {e : Event}
    {o : FileOutcomes} {s s' : Service} (keeps : Keeps json found m r) (here : m.process = some s)
    (orderly : Orderly json (.handle e o) ⟨d', some s'⟩)
    (handled : handleStep json e o m.disk s = .ok (d', s')) :
    Keeps json found ⟨d', some s'⟩ (observe r m (.handle e o) ⟨d', some s'⟩) := by
  have sane := keeps.sane s here
  by_cases sets : ∃ payload, e.action = .setSettings payload
  · obtain ⟨payload, action⟩ := sets
    obtain ⟨_, env⟩ := e
    subst action
    obtain ⟨distinct, reads⟩ := orderly
    simp only [handleStep, ServiceFiles.serviceMethodSetSettings] at handled
    split at handled
    · next null =>
      cases handled
      refine ⟨fun t same => ?_, ?_⟩
      · cases same
        exact sane
      · simp only [observe, if_pos null]
        exact keeps.file
    · next null =>
      obtain ⟨settings, load, handled⟩ := bind_eq_ok.mp handled
      obtain ⟨⟨ret, d⟩, saved, handled⟩ := bind_eq_ok.mp handled
      cases handled
      have well := load_wellFormed sane distinct (settingsLoadJsonWith_ok load)
      have same : (serviceRestart env { s with settings := settings }).settings = settings :=
        serviceRestart_settings env _
      have read := reads _ rfl
      rw [same] at read
      refine ⟨fun t is => ?_, ?_⟩
      · cases is
        rw [same]
        exact load_sane sane (settingsLoadJsonWith_ok load)
      · simp only [observe, if_neg null]
        rw [same]
        refine fileIs_congr (updateStartup_settingsFile _ _ _) ?_
        exact save_fileIs well read keeps.file saved
  · have other : ∀ payload, e.action ≠ .setSettings payload := fun payload is => sets ⟨payload, is⟩
    obtain ⟨files, settings⟩ := handleStep_other other handled
    rw [observe_other other, files]
    refine ⟨fun t same => ?_, keeps.file⟩
    cases same
    rw [settings]
    exact sane

theorem machineStep_keeps {json : JsonText} {found : Disk} {m m' : Machine} {r : Saved}
    {e : MachineEvent} (keeps : Keeps json found m r) (orderly : Orderly json e m')
    (taken : machineStep json m e = .ok m') : Keeps json found m' (observe r m e m') := by
  unfold machineStep at taken
  split at taken
  · next l there =>
    obtain ⟨launched, main, taken⟩ := bind_eq_ok.mp taken
    cases launched with
    | exited ret =>
      cases taken
      exact keeps
    | serving sv =>
      cases taken
      refine ⟨fun s same => ?_, keeps.file⟩
      cases same
      exact main_sane orderly main
  · cases taken
    exact keeps
  · next e o s here =>
    obtain ⟨⟨d, t⟩, handled, taken⟩ := bind_eq_ok.mp taken
    cases taken
    exact handle_keeps keeps here orderly handled
  · next e o none =>
    cases taken
    refine ⟨keeps.sane, ?_⟩
    have same : observe r m (.handle e o) m = r := by
      obtain ⟨action, env⟩ := e
      cases action <;> simp [observe, none]
    rw [same]
    exact keeps.file
  · cases taken
    refine ⟨fun s none => ?_, keeps.file⟩
    cases none

/-! ### A run -/

def autostartSettings : Settings := { settingsInit with autostart := true }

def autostartText : String :=
  "\x7b" ++ cstr ("\"backend\":\"auto\",\"uibackend\":\"auto\",\"address\":\"\",\"port\":19400," ++
    "\"priority\":150,\"unix_socket\":false,\"lut-table\":\"\",\"fps\":30,\"width\":320," ++
    "\"height\":180,\"quirks\":0,\"process_priority\":0,\"lumen_threshold\":500," ++
    "\"hyperion\":\x7b\"enabled\":false,\"adjustments\":\x7b\x7d,\"instances\":[]\x7d," ++
    "\"included_apps\":[],\"excluded_apps\":[],\"vsync\":true,\"novideo\":false," ++
    "\"nogui\":false,\"autostart\":true,\"notifications\":false\x7d")

/-- pbnjson as far as one document goes, of which `text` is the text. -/
def oneDocument (text : String) (doc : JVal) : JsonText where
  print _ := text
  parse read := if read = text then doc else .invalid

def autostartJson : JsonText := oneDocument autostartText (savedOnto autostartSettings [])

def busLaunch : Launch := ⟨false, ["hyperion-webos"], fun _ => .unreadable, some 1, none, calm⟩

def autostartPayload : JVal := .object [("autostart", .boolean true)]

def autostartRun : List MachineEvent :=
  [.launch busLaunch, .handle ⟨.setSettings autostartPayload, calm⟩ ⟨.whole, true, true⟩]

def autostartMachine : Machine where
  disk := ⟨some autostartText, true⟩
  process := some (serviceRestart calm
    { boot calm (some 1) none settingsInit with settings := autostartSettings })

theorem oneDocument_readsBack {text : String} {s : Settings} (printed : text ≠ "")
    (terminated : cstr text = text) : ReadsBack (oneDocument text (savedOnto s [])) s where
  printed := printed
  whole := by
    have read : (oneDocument text (savedOnto s [])).parse (cstr text) = savedOnto s [] := by
      rw [terminated]
      exact if_pos rfl
    rw [show (oneDocument text (savedOnto s [])).print (savedOnto s []) = text from rfl, read]
    exact .same _
  cut n short := by
    rw [show (oneDocument text (savedOnto s [])).print (savedOnto s []) = text from rfl]
      at short ⊢
    have other : cstr (.ofList (text.toList.take n)) ≠ text := by
      intro same
      have bound : (cstr (.ofList (text.toList.take n))).toList.length ≤ n := by
        rw [cstr, String.toList_ofList, String.toList_ofList]
        exact (List.takeWhile_sublist _).length_le.trans (List.length_take_le _ _)
      rw [same] at bound
      omega
    have parsed : (oneDocument text (savedOnto s [])).parse (cstr (.ofList (text.toList.take n))) =
        .invalid := if_neg other
    rw [parsed]
    rfl

theorem cstr_append {a b : String} (head : Terminated a.toList) :
    cstr (a ++ cstr b) = a ++ cstr b := by
  have tail : Terminated (cstr b).toList := by
    intro c member
    rw [cstr, String.toList_ofList] at member
    simpa using List.mem_takeWhile_imp member
  have whole : Terminated (a ++ cstr b).toList := by
    rw [String.toList_append]
    exact List.forall_mem_append.mpr ⟨head, tail⟩
  have read := cstr_of_terminated whole
  rwa [String.ofList_toList] at read

theorem readsBack_autostart : ReadsBack autostartJson autostartSettings := by
  have all : "\x7b".toList.all (fun c => c ≠ Char.ofNat 0) = true := by decide
  have brace : ∀ c ∈ "\x7b".toList, c ≠ Char.ofNat 0 :=
    fun c member => of_decide_eq_true (List.all_eq_true.mp all c member)
  refine oneDocument_readsBack ?_ (cstr_append brace)
  unfold autostartText
  rw [ne_eq, String.append_eq_empty_iff]
  exact fun empty => absurd empty.1 (by decide)

theorem orderly_launch (m' : Machine) : Orderly autostartJson (.launch busLaunch) m' := by
  intro word member c inside
  rw [List.mem_singleton.mp member] at inside
  have all : "hyperion-webos".toList.all (fun c => c ≠ Char.ofNat 0) = true := by decide
  exact of_decide_eq_true (List.all_eq_true.mp all c inside)

theorem orderly_handle : Orderly autostartJson
    (.handle ⟨.setSettings autostartPayload, calm⟩ ⟨.whole, true, true⟩) autostartMachine := by
  refine ⟨⟨List.nodup_nil, fun _ _ member => absurd member List.not_mem_nil⟩, fun s here => ?_⟩
  cases here
  rw [serviceRestart_settings]
  exact readsBack_autostart

theorem orderly_autostart : Throughout (watched (machineStep autostartJson) observe)
    (fun _ e q => Orderly autostartJson e q.1) (⟨⟨none, false⟩, none⟩, .asFound) autostartRun :=
  (throughout_cons rfl).mpr ⟨orderly_launch _, (throughout_cons rfl).mpr ⟨orderly_handle, trivial⟩⟩

theorem working_autostart : Throughout (machineStep autostartJson)
    (fun _ e m' => Working autostartJson e m') ⟨⟨none, false⟩, none⟩ autostartRun :=
  (throughout_cons rfl).mpr ⟨⟨rfl, rfl⟩,
    (throughout_cons rfl).mpr ⟨⟨orderly_handle, rfl⟩, trivial⟩⟩

/-- However often the process is ended and launched again, a launch by the bus finds the
settings of the last save that opened the file, and starts the capture if they say so; where
that save was cut short it finds the defaults. -/
theorem restart_restores (json : JsonText) (found : Disk) (es : List MachineEvent) (m : Machine)
    (r : Saved) (l : Launch)
    (orderly : Throughout (watched (machineStep json) observe)
      (fun _ e q => Orderly json e q.1) (⟨found, none⟩, .asFound) es)
    (ran : run (watched (machineStep json) observe) (⟨found, none⟩, .asFound) es = .ok (m, r))
    (service : l.usingCli = false) (plain : l.argv.tail = []) :
    Restored json found m.disk l r := by
  have start : Keeps json found ⟨found, none⟩ .asFound := ⟨fun _ absent => (by cases absent), rfl⟩
  have kept : Keeps json found (m, r).1 (m, r).2 := by
    refine throughout_invariant (I := fun p => Keeps json found p.1 p.2) ?_ orderly start ran
    intro p e q keeps orderly taken
    obtain ⟨stepped, seen⟩ := watched_ok.mp taken
    rw [seen]
    exact machineStep_keeps keeps orderly stepped
  exact restored_of_fileIs plain service kept.file

theorem restart_restores_autostart :
    Restored autostartJson ⟨none, false⟩ autostartMachine.disk busLaunch
      (.whole autostartSettings) :=
  restart_restores autostartJson ⟨none, false⟩ autostartRun autostartMachine _ busLaunch
    orderly_autostart rfl rfl rfl

/-! ### Restarts that nobody notices -/

structure Agrees (json : JsonText) (m : Machine) (settings : Settings) : Prop where
  sane : ∀ s, m.process = some s → Sane s.settings
  stored : ∀ unset, stored json unset m.disk = .ok settings
  process : ∀ s, m.process = some s → persisted s.settings = persisted settings
  startup : m.disk.startupSymlink = settings.autostart

section Unnoticed

variable {json : JsonText} {m m' : Machine} {settings : Settings}

theorem updateStartup_works (autostart : Bool) (save : SaveOutcome) (d : Disk) :
    (updateStartup autostart ⟨save, true, true⟩ d).startupSymlink = autostart := by
  cases autostart <;> simp [updateStartup]

theorem setSettings_agrees {payload : JVal} {env : Env} {d' : Disk} {s s' : Service}
    (agrees : Agrees json m settings) (here : m.process = some s)
    (distinct : DistinctAdjustments payload) (reads : ReadsBack json s'.settings)
    (handled : ServiceFiles.serviceMethodSetSettings json payload env ⟨.whole, true, true⟩ m.disk
      s = .ok (d', s')) : ∃ settings', Agrees json ⟨d', some s'⟩ settings' := by
  unfold ServiceFiles.serviceMethodSetSettings at handled
  split at handled
  · cases handled
    refine ⟨settings, fun t same => ?_, agrees.stored, fun t same => ?_, agrees.startup⟩
    · cases same
      exact agrees.sane s here
    · cases same
      exact agrees.process s here
  · obtain ⟨new, load, handled⟩ := bind_eq_ok.mp handled
    obtain ⟨⟨ret, d⟩, saved, handled⟩ := bind_eq_ok.mp handled
    cases handled
    have well := load_wellFormed (agrees.sane s here) distinct (settingsLoadJsonWith_ok load)
    have same : (serviceRestart env { s with settings := new }).settings = new :=
      serviceRestart_settings env _
    rw [same] at reads
    have asFound : FileIs json m.disk m.disk .asFound := rfl
    obtain ⟨_, text, there, read⟩ := save_fileIs well reads asFound saved
    obtain ⟨t, found, kept⟩ := stored_saved (d := updateStartup new.autostart
      ⟨.whole, true, true⟩ d) well ((updateStartup_settingsFile _ _ _).trans there) read
    refine ⟨t, fun u is => ?_, found, fun u is => ?_, ?_⟩
    · cases is
      rw [same]
      exact load_sane (agrees.sane s here) (settingsLoadJsonWith_ok load)
    · cases is
      rw [same]
      exact kept.symm
    · rw [updateStartup_works]
      exact congrArg Persisted.autostart kept.symm

theorem handle_agrees {e : Event} {d' : Disk} {s s' : Service}
    (agrees : Agrees json m settings) (here : m.process = some s)
    (orderly : Orderly json (.handle e ⟨.whole, true, true⟩) ⟨d', some s'⟩)
    (handled : handleStep json e ⟨.whole, true, true⟩ m.disk s = .ok (d', s')) :
    ∃ settings', Agrees json ⟨d', some s'⟩ settings' := by
  by_cases sets : ∃ payload, e.action = .setSettings payload
  · obtain ⟨payload, action⟩ := sets
    obtain ⟨_, env⟩ := e
    subst action
    exact setSettings_agrees agrees here orderly.1 (orderly.2 s' rfl) handled
  · obtain ⟨rfl, same⟩ := handleStep_other (fun payload is => sets ⟨payload, is⟩) handled
    refine ⟨settings, fun t is => ?_, agrees.stored, fun t is => ?_, agrees.startup⟩
    · cases is
      rw [same]
      exact agrees.sane s here
    · cases is
      rw [same]
      exact agrees.process s here

theorem machineStep_agrees {e : MachineEvent} (agrees : Agrees json m settings)
    (works : Working json e m') (taken : machineStep json m e = .ok m') :
    ∃ settings', Agrees json m' settings' := by
  unfold machineStep at taken
  split at taken
  · next l there =>
    obtain ⟨service, plain⟩ := works
    obtain ⟨sv, launched, same, _⟩ := main_plain plain service (agrees.stored l.env.unset)
    rw [launched] at taken
    cases taken
    refine ⟨settings, fun s is => ?_, agrees.stored, fun s is => ?_, agrees.startup⟩
    · cases is
      obtain ⟨before, m, loaded, parsed, made⟩ := main_serving launched
      rw [parseOptions_none _ plain] at parsed
      cases parsed
      rw [made]
      exact loadedSettings_sane loaded
    · cases is
      rw [same]
  · cases taken
    exact ⟨settings, agrees⟩
  · next e o s here =>
    obtain ⟨orderly, rfl⟩ := works
    obtain ⟨⟨d, t⟩, handled, taken⟩ := bind_eq_ok.mp taken
    cases taken
    exact handle_agrees agrees here orderly handled
  · cases taken
    exact ⟨settings, agrees⟩
  · cases taken
    exact ⟨settings, fun s absent => (by cases absent), agrees.stored,
      fun s absent => (by cases absent), agrees.startup⟩

/-- Where the files can be written, ending the process in any state and launching it again
changes no persisted setting, and the new process starts the capture by itself exactly when
the startup symlink stands. -/
theorem restart_unnoticed (json : JsonText) (es : List MachineEvent) (m : Machine) (l : Launch)
    (works : Throughout (machineStep json) (fun _ e m' => Working json e m')
      ⟨⟨none, false⟩, none⟩ es)
    (ran : run (machineStep json) ⟨⟨none, false⟩, none⟩ es = .ok m)
    (service : l.usingCli = false) (plain : l.argv.tail = []) :
    ∃ sv, main json l m.disk = .ok (.serving sv) ∧
      (∀ s, m.process = some s → persisted sv.settings = persisted s.settings) ∧
      sv.running = (m.disk.startupSymlink && l.env.connectionCreated) := by
  have start : ∃ settings, Agrees json ⟨⟨none, false⟩, none⟩ settings :=
    ⟨settingsInit, fun _ absent => (by cases absent), fun _ => rfl,
      fun _ absent => (by cases absent), rfl⟩
  have keeps : ∀ m e m', (∃ settings, Agrees json m settings) → Working json e m' →
      machineStep json m e = .ok m' → ∃ settings, Agrees json m' settings := by
    rintro m e m' ⟨settings, agrees⟩ works taken
    exact machineStep_agrees agrees works taken
  obtain ⟨settings, agrees⟩ := throughout_invariant keeps works start ran
  obtain ⟨sv, launched, same, running⟩ := main_plain plain service (agrees.stored l.env.unset)
  refine ⟨sv, launched, fun s here => ?_, ?_⟩
  · rw [same]
    exact (agrees.process s here).symm
  · rw [running, agrees.startup]

end Unnoticed

theorem restart_unnoticed_autostart :
    ∃ sv, main autostartJson busLaunch autostartMachine.disk = .ok (.serving sv) ∧
      (∀ s, autostartMachine.process = some s → persisted sv.settings = persisted s.settings) ∧
      sv.running = (autostartMachine.disk.startupSymlink && busLaunch.env.connectionCreated) :=
  restart_unnoticed autostartJson autostartRun autostartMachine busLaunch working_autostart
    rfl rfl rfl

end HyperionWebos.SettingsStore
