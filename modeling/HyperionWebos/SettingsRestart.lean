import HyperionWebos.CaptureThread
import HyperionWebos.PartialUpdates
import HyperionWebos.PayloadSafety

/-! What survives `setSettings` and what it rebuilds. A load that completes is followed by
the teardown, a fresh `service_init` and, where the service ran, a new start; a load that
does not complete leaves nothing to speak of. -/

namespace HyperionWebos.SettingsRestart
open Runs OwnedArray Pbnjson SettingsLoad SettingsOwnership SettingsUpdates Unicapture CaptureThread
  ServiceLoop ServiceSteps PayloadSafety PartialUpdates

/-- The libraries `service_init` may try for a side. -/
def selected (backend : Option String) (candidates : List String) : List String :=
  if isAuto backend then candidates else [backendName (backend.getD "")]

def Initialises (load : String → LoadResult) (names : List String) : Prop :=
  ∃ name ∈ names, load name = .loaded 0

structure Rebuilt (payload : JVal) (env : Env) (s s' : Service) : Prop where
  settings : settingsLoadJson s.settings payload = .ok s'.settings
  running : s'.running = s.running
  powerPaused : s'.powerPaused = s.powerPaused
  lumenPaused : s'.lumenPaused = s.lumenPaused
  videoConnected : s'.videoConnected = s.videoConnected
  handle : s'.handle = s.handle
  handleLegacy : s'.handleLegacy = s.handleLegacy
  vsync : s'.capture.state.vsync = s'.settings.vsync
  fps : s'.capture.state.fps = UInt32.ofInt s'.settings.fps
  dumpFrames : s'.capture.state.dumpFrames = s'.settings.dumpFrames
  lutTableFile : s'.capture.state.lutTableFile = s'.settings.lutTable
  uiCapture : s'.capture.state.capture .ui = true ↔ s'.settings.noGui = false ∧
    Initialises (env.load .ui) (selected s'.settings.uiBackend uiBackends)
  videoCapture : s'.capture.state.capture .video = true ↔ s'.settings.noVideo = false ∧
    Initialises (env.load .video) (selected s'.settings.videoBackend videoBackends)

/-- A payload that parses rebuilds, one that does not changes nothing. -/
def PreservesRunState (payload : JVal) (env : Env) (s : Service) : Prop :=
  if jisNull payload then serviceMethodSetSettings payload env s = .ok s
  else ∃ s', serviceMethodSetSettings payload env s = .ok s' ∧ Rebuilt payload env s s'

section Selection

variable (load : String → LoadResult) (config : CapBackendConfig) (side : Side)

@[simp] theorem unicaptureInitBackend_state (name : String) (c : Capture) :
    (unicaptureInitBackend load config side name c).2.state = c.state := by
  unfold unicaptureInitBackend
  split
  · rfl
  · rfl
  · dsimp only
    split <;> rfl

theorem unicaptureInitBackend_zero (name : String) (c : Capture) :
    (unicaptureInitBackend load config side name c).1 = 0 ↔ load name = .loaded 0 := by
  unfold unicaptureInitBackend
  cases load name with
  | dlopenFailed => simp
  | dlsymFailed => simp
  | loaded ret => by_cases zero : ret = 0 <;> simp [zero]

@[simp] theorem unicaptureTryBackends_state (names : List String) (c : Capture) :
    (unicaptureTryBackends load config side names c).2.state = c.state := by
  induction names generalizing c with
  | nil => rfl
  | cons name rest ih =>
    rw [unicaptureTryBackends]
    dsimp only
    split
    · exact unicaptureInitBackend_state load config side name c
    · rw [ih, unicaptureInitBackend_state]

theorem unicaptureTryBackends_zero (names : List String) (c : Capture) :
    (unicaptureTryBackends load config side names c).1 = 0 ↔ Initialises load names := by
  induction names generalizing c with
  | nil => simp [unicaptureTryBackends, Initialises]
  | cons name rest ih =>
    have first := unicaptureInitBackend_zero load config side name c
    rw [unicaptureTryBackends]
    dsimp only
    by_cases zero : (unicaptureInitBackend load config side name c).1 = 0
    · simp [zero, Initialises, first.mp zero]
    · have failed : load name ≠ .loaded 0 := fun loaded => zero (first.mpr loaded)
      rw [if_neg zero, ih]
      simp [Initialises, failed]

variable (disabled : Bool) (backend : Option String) (candidates : List String) (c : Capture)

theorem selectBackend_state :
    ∃ chosen, (selectBackend load config side disabled backend candidates c).state =
        { c.state with capture := Function.update c.state.capture side chosen } ∧
      (chosen = true ↔ disabled = false ∧ Initialises load (selected backend candidates)) := by
  have one (name : String) : Initialises load [name] ↔ load name = .loaded 0 := by
    simp [Initialises]
  unfold selectBackend selected
  dsimp only
  cases disabled with
  | true => exact ⟨false, rfl, by simp⟩
  | false =>
    rw [if_neg Bool.false_ne_true]
    cases isAuto backend with
    | true =>
      simp only [if_true]
      rw [← unicaptureTryBackends_zero load config side candidates (c.setCapture side false)]
      split
      · next zero => exact ⟨true, by simp [Capture.setCapture], by simp [zero]⟩
      · next failed => exact ⟨false, by simp [Capture.setCapture], by simp [failed]⟩
    | false =>
      simp only [Bool.false_eq_true, if_false]
      rw [one, ← unicaptureInitBackend_zero load config side _ (c.setCapture side false)]
      split
      · next zero => exact ⟨true, by simp [Capture.setCapture], by simp [zero]⟩
      · next failed => exact ⟨false, by simp [Capture.setCapture], by simp [failed]⟩

end Selection

variable {env : Env}

theorem unicaptureLoadLutTable_state (file : LutFile) (c : Capture) :
    ∃ lutTable, (unicaptureLoadLutTable file c).2.state =
      { c.state with lutTable := lutTable } := by
  unfold unicaptureLoadLutTable
  cases held : c.state.lutTable <;> dsimp only <;> repeat' split
  all_goals exact ⟨_, rfl⟩

theorem serviceInit_state (env : Env) (settings : Settings) (s : Service) :
    (serviceInit env settings s).capture.state.vsync = settings.vsync ∧
    (serviceInit env settings s).capture.state.fps = UInt32.ofInt settings.fps ∧
    (serviceInit env settings s).capture.state.dumpFrames = settings.dumpFrames ∧
    (serviceInit env settings s).capture.state.lutTableFile = settings.lutTable ∧
    ((serviceInit env settings s).capture.state.capture .ui = true ↔ settings.noGui = false ∧
      Initialises (env.load .ui) (selected settings.uiBackend uiBackends)) ∧
    ((serviceInit env settings s).capture.state.capture .video = true ↔
      settings.noVideo = false ∧
        Initialises (env.load .video) (selected settings.videoBackend videoBackends)) := by
  obtain ⟨lutTable, loaded⟩ := unicaptureLoadLutTable_state env.lut
    { unicaptureInit s.capture with state := { (unicaptureInit s.capture).state with
      vsync := settings.vsync
      fps := UInt32.ofInt settings.fps
      dumpFrames := settings.dumpFrames
      lutTableFile := settings.lutTable } }
  obtain ⟨ui, uiState, uiChosen⟩ := selectBackend_state (env.load .ui) (backendConfig settings) .ui
    settings.noGui settings.uiBackend uiBackends (clearedCapture env settings s.capture)
  obtain ⟨video, videoState, videoChosen⟩ := selectBackend_state (env.load .video)
    (backendConfig settings) .video settings.noVideo settings.videoBackend videoBackends
    (selectBackend (env.load .ui) (backendConfig settings) .ui settings.noGui settings.uiBackend
      uiBackends (clearedCapture env settings s.capture))
  rw [serviceInit_capture, videoState, uiState, clearedCapture, loaded, ← uiChosen, ← videoChosen]
  exact ⟨rfl, rfl, rfl, rfl, by simp [Function.update], by simp⟩

theorem serviceStart_state (created : env.connectionCreated = true) (s : Service) :
    ∃ running mainThread, (serviceStart env s).2.capture.state =
      { s.capture.state with running := running, mainThread := mainThread } := by
  have started (c : Capture) : ∃ running mainThread, (unicaptureStart c).2.state =
      { c.state with running := running, mainThread := mainThread } := by
    unfold unicaptureStart
    split
    · exact ⟨_, _, rfl⟩
    · exact ⟨_, _, rfl⟩
  rcases serviceStart_cases env s with ⟨_, eq⟩ | ⟨_, _, _, eq⟩ | ⟨_, failed, _⟩
  · rw [eq]
    exact ⟨_, _, rfl⟩
  · rw [eq]
    exact started s.capture
  · rw [failed] at created
    cases created

theorem serviceStart_handles (env : Env) (s : Service) :
    (serviceStart env s).2.handle = s.handle ∧
      (serviceStart env s).2.handleLegacy = s.handleLegacy := by
  rcases serviceStart_cases env s with ⟨_, eq⟩ | ⟨_, _, _, eq⟩ | ⟨_, _, eq⟩ <;> rw [eq] <;>
    exact ⟨rfl, rfl⟩

theorem serviceDestroy_handles (env : Env) (s : Service) :
    (serviceDestroy env s).2.handle = s.handle ∧
      (serviceDestroy env s).2.handleLegacy = s.handleLegacy := by
  unfold serviceDestroy
  dsimp only
  rcases serviceStop_cases env s with ⟨_, eq⟩ | ⟨_, _, eq⟩ <;> rw [eq] <;> exact ⟨rfl, rfl⟩

theorem serviceRestart_handles (env : Env) (s : Service) :
    (serviceRestart env s).handle = s.handle ∧
      (serviceRestart env s).handleLegacy = s.handleLegacy := by
  have kept := serviceDestroy_handles env s
  rw [serviceRestart_eq]
  split
  · have started := serviceStart_handles env (serviceInit env s.settings (serviceDestroy env s).2)
    exact ⟨started.1.trans kept.1, started.2.trans kept.2⟩
  · exact kept

theorem serviceRestart_state (created : env.connectionCreated = true) (s : Service) :
    ∃ running mainThread, (serviceRestart env s).capture.state =
      { (serviceInit env s.settings (serviceDestroy env s).2).capture.state with
        running := running, mainThread := mainThread } := by
  rw [serviceRestart_eq]
  split
  · exact serviceStart_state created _
  · exact ⟨_, _, rfl⟩

theorem serviceRestart_rebuilt {payload : JVal} {s : Service} {settings : Settings}
    (created : env.connectionCreated = true)
    (load : settingsLoadJson s.settings payload = .ok settings) :
    Rebuilt payload env s (serviceRestart env { s with settings := settings }) := by
  obtain ⟨running, mainThread, state⟩ :=
    serviceRestart_state created { s with settings := settings }
  obtain ⟨vsync, fps, dumpFrames, lutTableFile, ui, video⟩ :=
    serviceInit_state env settings (serviceDestroy env { s with settings := settings }).2
  have handles := serviceRestart_handles env { s with settings := settings }
  have new : (serviceRestart env { s with settings := settings }).settings = settings :=
    serviceRestart_settings env _
  exact {
    settings := by rw [new, load]
    running := by simp [created]
    powerPaused := by simp
    lumenPaused := by simp
    videoConnected := by simp
    handle := handles.1
    handleLegacy := handles.2
    vsync := by rw [state, new, ← vsync]
    fps := by rw [state, new, ← fps]
    dumpFrames := by rw [state, new, ← dumpFrames]
    lutTableFile := by rw [state, new, ← lutTableFile]
    uiCapture := by rw [state, new, ← ui]
    videoCapture := by rw [state, new, ← video] }

/-- In every reachable state, whatever loads and initialises: `setSettings` keeps the run
state and rebuilds the capture exactly where the payload's load completes, if an iterator
left unset yields nothing. -/
theorem set_settings_preserves_iff (payload : JVal) (env : Env) (s : Service)
    (reach : Reachable s) (created : env.connectionCreated = true) (silent : env.unset = []) :
    PreservesRunState payload env s ↔ jisNull payload = true ∨ Loads s.settings payload := by
  have represented := (reachable_loaded reach).represented
  unfold PreservesRunState serviceMethodSetSettings
  rw [silent, settingsLoadJsonWith_nil]
  cases null : jisNull payload with
  | true => exact iff_of_true rfl (Or.inl rfl)
  | false =>
    simp only [Bool.false_eq_true, if_false, false_or]
    constructor
    · rintro ⟨s', done, _⟩
      obtain ⟨settings, load, _⟩ := bind_eq_ok.mp done
      exact loads_of_ok represented load
    · intro loads
      obtain ⟨settings, load, _⟩ := onlyMentioned_iff represented loads
      refine ⟨serviceRestart env { s with settings := settings }, ?_,
        serviceRestart_rebuilt created load⟩
      rw [load]
      rfl

theorem reachable_boot (settings : Settings) (docs : List JVal)
    (loaded : run settingsLoadJson settingsInit docs = .ok settings) :
    Reachable (boot calm none none settings) :=
  ⟨docs, settings, calm, none, none, [], loaded, rfl⟩

theorem set_settings_preserves_fresh :
    PreservesRunState (.object [("fps", .number ⟨25, 0⟩)]) calm
        (boot calm none none settingsInit) ↔
      jisNull (.object [("fps", .number ⟨25, 0⟩)]) = true ∨
        Loads (boot calm none none settingsInit).settings
          (.object [("fps", .number ⟨25, 0⟩)]) :=
  set_settings_preserves_iff (.object [("fps", .number ⟨25, 0⟩)]) calm
    (boot calm none none settingsInit) (reachable_boot settingsInit [] rfl) rfl rfl

def tuned : JVal := .object [("hyperion", .object
  [("adjustments", .object [("hdr", .object [("gain", .number ⟨1, 0⟩)])])])]

def tunedSettings : Settings := { settingsInit with
  hyperion := carriedHyperion settingsInit.hyperion tuned }

/-- The next payload names only a frame rate: the loader frees the adjustments and its
debug loop reads them. -/
theorem set_settings_reads_freed :
    Reachable (boot calm none none tunedSettings) ∧
    serviceMethodSetSettings (.object [("fps", .number ⟨25, 0⟩)]) calm
      (boot calm none none tunedSettings) = .error .readReleased ∧
    ¬ PreservesRunState (.object [("fps", .number ⟨25, 0⟩)]) calm
      (boot calm none none tunedSettings) := by
  have loaded : run settingsLoadJson settingsInit [tuned] = .ok tunedSettings := by
    decide +kernel
  have fault : serviceMethodSetSettings (.object [("fps", .number ⟨25, 0⟩)]) calm
      (boot calm none none tunedSettings) = .error .readReleased := rfl
  refine ⟨reachable_boot tunedSettings [tuned] loaded, fault, ?_⟩
  rintro ⟨s', done, _⟩
  rw [fault] at done
  cases done

end HyperionWebos.SettingsRestart
