import HyperionWebos.BackendPairing
import HyperionWebos.CaptureThread

/-! What the capture runs on. `service_init` copies settings into the capture state and into
the backends it selects, and nothing else writes these copies: in every reachable state they
say what the current settings say, also where a backend was opened again in between. -/

namespace HyperionWebos.SettingsInForce
open Runs TraceMonitor Pbnjson SettingsLoad Unicapture CaptureThread ServiceLoop ServiceSteps
open BackendSlot BackendPairing

/-- What `service_init` copies or selects; `fps` is a `uint32_t` there. -/
structure Setup where
  vsync : Bool
  fps : UInt32
  dumpFrames : Bool
  lutTableFile : String
  selected : Side → Bool
  name : Side → Option String
  config : Side → CapBackendConfig

def setup (c : Capture) : Setup where
  vsync := c.state.vsync
  fps := c.state.fps
  dumpFrames := c.state.dumpFrames
  lutTableFile := c.state.lutTableFile
  selected := c.state.capture
  name := fun side => (c.backend side).name
  config := fun side => (c.backend side).config

section Frame

variable (c : Capture) (side : Side) (ret : Side → Int) (it : Iteration)
  (lastStart : Side → UInt64)

@[simp] theorem setup_call (b : BackendCall) : setup (c.call side b) = setup c := rfl

@[simp] theorem setup_setCaptureRunning (b : Bool) :
    setup (c.setCaptureRunning side b) = setup c := rfl

@[simp] theorem setup_thread (a : ThreadAction) : setup (c.thread a) = setup c := rfl

@[simp] theorem setup_setInitialized (b : Bool) : setup (c.setInitialized side b) = setup c := by
  have name : (fun s => ((c.setInitialized side b).backend s).name) =
      fun s => (c.backend s).name := by
    funext s
    by_cases here : s = side
    · rw [here]
      simp [Capture.setInitialized]
    · simp [Capture.setInitialized, here]
  have config : (fun s => ((c.setInitialized side b).backend s).config) =
      fun s => (c.backend s).config := by
    funext s
    by_cases here : s = side
    · rw [here]
      simp [Capture.setInitialized]
    · simp [Capture.setInitialized, here]
  unfold setup
  rw [name, config]
  rfl

theorem setup_reinit : setup (reinit ret side c) = setup c := by
  unfold reinit
  split
  · dsimp only
    split
    · rw [setup_setInitialized, setup_call]
    · rw [setup_call]
  · rfl

theorem setup_runHead : setup (runHead ret c) = setup c :=
  (setup_reinit (reinit ret .ui c) .video ret).trans (setup_reinit c .ui ret)

theorem setup_attemptStart : setup (attemptStart it side lastStart c).2 = setup c := by
  unfold attemptStart
  split
  · dsimp only
    split <;> rfl
  · rfl

theorem setup_acquireUi : setup (acquireUi it c).2 = setup c := by
  unfold acquireUi
  split
  · dsimp only
    split <;> rfl
  · rfl

theorem setup_acquireVideo : setup (acquireVideo it c).2 = setup c := by
  unfold acquireVideo
  split
  · dsimp only
    split
    · split <;> rfl
    · rfl
  · rfl

theorem setup_release (format : PixelFormat) : setup (release side format c) = setup c := by
  unfold release
  split <;> rfl

theorem setup_runIteration : setup (runIteration it lastStart c) = setup c := by
  unfold runIteration
  change setup (release .video _ (release .ui _ _)) = _
  rw [setup_release, setup_release, setup_acquireVideo, setup_acquireUi, setup_attemptStart,
    setup_attemptStart]

theorem setup_terminateIfRunning : setup (terminateIfRunning side c) = setup c := by
  unfold terminateIfRunning
  split <;> rfl

theorem setup_cleanupIfInitialized : setup (cleanupIfInitialized side c) = setup c := by
  unfold cleanupIfInitialized
  split
  · rw [setup_setInitialized, setup_call]
  · rfl

theorem setup_runShutdown : setup (runShutdown c) = setup c := by
  unfold runShutdown
  change setup (cleanupIfInitialized .video (cleanupIfInitialized .ui
    (terminateIfRunning .video (terminateIfRunning .ui _)))) = _
  rw [setup_cleanupIfInitialized, setup_cleanupIfInitialized, setup_terminateIfRunning,
    setup_terminateIfRunning]
  rfl

theorem setup_captureStep : setup (captureStep ret it c) = setup c := by
  unfold captureStep
  split
  · rfl
  · exact setup_runHead c ret
  · split
    · exact setup_runIteration c it _
    · exact setup_runShutdown c

theorem setup_runToEnd : setup (runToEnd ret c) = setup c := by
  unfold runToEnd
  split
  · rfl
  · rw [setup_runShutdown, setup_runHead]
  · exact setup_runShutdown c

theorem setup_unicaptureStart : setup (unicaptureStart c).2 = setup c := by
  unfold unicaptureStart
  split <;> rfl

theorem setup_unicaptureStop : setup (unicaptureStop ret c).2 = setup c := by
  unfold unicaptureStop
  split
  · rfl
  · rw [setup_thread, setup_runToEnd]
    rfl

theorem setup_serviceStart (env : Env) (s : Service) :
    setup (serviceStart env s).2.capture = setup s.capture := by
  rcases serviceStart_cases env s with ⟨_, eq⟩ | ⟨_, _, _, eq⟩ | ⟨_, _, eq⟩
  · rw [eq]
  · rw [eq, setup_thread, setup_unicaptureStart]
  · rw [eq, setup_unicaptureStop, setup_unicaptureStart]

theorem setup_serviceStop (env : Env) (s : Service) :
    setup (serviceStop env s).2.capture = setup s.capture := by
  rcases serviceStop_cases env s with ⟨_, eq⟩ | ⟨_, _, eq⟩
  · rw [eq]
  · rw [eq, setup_thread, setup_unicaptureStop]

end Frame

/-! ### The selection -/

def sideDisabled (settings : Settings) : Side → Bool
  | .ui => settings.noGui
  | .video => settings.noVideo

def sideBackend (settings : Settings) : Side → Option String
  | .ui => settings.uiBackend
  | .video => settings.videoBackend

def sideCandidates : Side → List String
  | .ui => uiBackends
  | .video => videoBackends

def eligible (settings : Settings) (side : Side) : List String :=
  if isAuto (sideBackend settings side) then sideCandidates side
  else [backendName ((sideBackend settings side).getD "")]

structure Follows (settings : Settings) (u : Setup) : Prop where
  vsync : u.vsync = settings.vsync
  fps : u.fps = UInt32.ofInt settings.fps
  dumpFrames : u.dumpFrames = settings.dumpFrames
  lutTableFile : u.lutTableFile = settings.lutTable
  selected : ∀ side, u.selected side = true → sideDisabled settings side = false ∧
    u.config side = backendConfig settings ∧ ∃ name ∈ eligible settings side,
      u.name side = some name

def Setup.select (side : Side) (name : String) (config : CapBackendConfig) (u : Setup) : Setup :=
  { u with
    selected := Function.update u.selected side true
    name := Function.update u.name side (some name)
    config := Function.update u.config side config }

def Setup.deselect (side : Side) (u : Setup) : Setup :=
  { u with selected := Function.update u.selected side false }

section Selection

variable (load : String → LoadResult) (config : CapBackendConfig) (side : Side) (c : Capture)

theorem setup_loaded (name : String) :
    setup (Capture.setCapture side true { c with
      backend := Function.update c.backend side ⟨some name, true, config⟩ }) =
      (setup c).select side name config := by
  have names : (fun s => (Function.update c.backend side ⟨some name, true, config⟩ s).name) =
      Function.update (setup c).name side (some name) := by
    funext s
    by_cases here : s = side
    · rw [here]
      simp
    · simp [here, setup]
  have configs : (fun s => (Function.update c.backend side ⟨some name, true, config⟩ s).config) =
      Function.update (setup c).config side config := by
    funext s
    by_cases here : s = side
    · rw [here]
      simp
    · simp [here, setup]
  unfold Setup.select
  rw [← names, ← configs]
  rfl

theorem unicaptureInitBackend_setup (name : String) :
    ((unicaptureInitBackend load config side name c).1 = 0 ∧
      setup ((unicaptureInitBackend load config side name c).2.setCapture side true) =
        (setup c).select side name config) ∨
    ((unicaptureInitBackend load config side name c).1 ≠ 0 ∧
      setup (unicaptureInitBackend load config side name c).2 = setup c) := by
  unfold unicaptureInitBackend
  split
  · exact Or.inr ⟨(by decide : (-1 : Int) ≠ 0), rfl⟩
  · exact Or.inr ⟨(by decide : (-2 : Int) ≠ 0), rfl⟩
  · rename_i ret _
    dsimp only
    split
    · exact Or.inl ⟨rfl, setup_loaded config side (c.call side (.init ret)) name⟩
    · rename_i failed
      exact Or.inr ⟨failed, rfl⟩

theorem unicaptureTryBackends_setup (names : List String) :
    ((unicaptureTryBackends load config side names c).1 = 0 ∧ ∃ name ∈ names,
      setup ((unicaptureTryBackends load config side names c).2.setCapture side true) =
        (setup c).select side name config) ∨
    ((unicaptureTryBackends load config side names c).1 ≠ 0 ∧
      setup (unicaptureTryBackends load config side names c).2 = setup c) := by
  induction names generalizing c with
  | nil => exact Or.inr ⟨(by decide : (-1 : Int) ≠ 0), rfl⟩
  | cons name names ih =>
    rw [unicaptureTryBackends]
    dsimp only
    rcases unicaptureInitBackend_setup load config side c name with ⟨zero, loaded⟩ | ⟨failed, same⟩
    · rw [if_pos zero]
      exact Or.inl ⟨rfl, name, List.mem_cons_self, loaded⟩
    · rw [if_neg failed, ← same]
      rcases ih (unicaptureInitBackend load config side name c).2 with
        ⟨zero, other, member, loaded⟩ | rest
      · exact Or.inl ⟨zero, other, List.mem_cons_of_mem _ member, loaded⟩
      · exact Or.inr rest

theorem selectBackend_setup (disabled : Bool) (backend : Option String)
    (candidates : List String) :
    setup (selectBackend load config side disabled backend candidates c) =
      (setup c).deselect side ∨
    disabled = false ∧ ∃ name ∈ if isAuto backend then candidates
        else [backendName (backend.getD "")],
      setup (selectBackend load config side disabled backend candidates c) =
        (setup c).select side name config := by
  have again (name : String) : ((setup c).deselect side).select side name config =
      (setup c).select side name config := by
    simp [Setup.deselect, Setup.select]
  unfold selectBackend
  dsimp only
  split
  · exact Or.inl rfl
  rename_i enabled
  have enabled : disabled = false := Bool.not_eq_true _ ▸ enabled
  split
  · rcases unicaptureTryBackends_setup load config side (c.setCapture side false) candidates with
      ⟨zero, name, member, loaded⟩ | ⟨failed, same⟩
    · rw [if_pos zero, loaded]
      exact Or.inr ⟨enabled, name, member, again name⟩
    · rw [if_neg failed, same]
      exact Or.inl rfl
  · rcases unicaptureInitBackend_setup load config side (c.setCapture side false)
      (backendName (backend.getD "")) with ⟨zero, loaded⟩ | ⟨failed, same⟩
    · rw [if_pos zero, loaded]
      exact Or.inr ⟨enabled, _, List.mem_singleton_self _, again _⟩
    · rw [if_neg failed, same]
      exact Or.inl rfl

end Selection

theorem setup_unicaptureLoadLutTable (file : LutFile) (c : Capture) :
    setup (unicaptureLoadLutTable file c).2 = setup c := by
  unfold unicaptureLoadLutTable
  cases c.state.lutTable with
  | none =>
    dsimp only
    repeat' split
    all_goals rfl
  | some id =>
    dsimp only
    repeat' split
    all_goals rfl

theorem clearedCapture_selected (env : Env) (settings : Settings) (c : Capture) (side : Side) :
    (setup (clearedCapture env settings c)).selected side = false := by
  unfold clearedCapture
  rw [setup_unicaptureLoadLutTable]
  rfl

theorem Follows.select {settings : Settings} {u : Setup} (here : Follows settings u) (side : Side)
    {name : String} (enabled : sideDisabled settings side = false)
    (member : name ∈ eligible settings side) :
    Follows settings (u.select side name (backendConfig settings)) := by
  refine ⟨here.vsync, here.fps, here.dumpFrames, here.lutTableFile, fun other on => ?_⟩
  by_cases same : other = side
  · rw [same]
    exact ⟨enabled, Function.update_self .., name, member, Function.update_self ..⟩
  · have before : u.selected other = true := by simpa [Setup.select, same] using on
    simpa [Setup.select, same] using here.selected other before

theorem Follows.deselect {settings : Settings} {u : Setup} (here : Follows settings u)
    (side : Side) : Follows settings (u.deselect side) := by
  refine ⟨here.vsync, here.fps, here.dumpFrames, here.lutTableFile, fun other on => ?_⟩
  by_cases same : other = side
  · simp [same, Setup.deselect] at on
  · exact here.selected other (by simpa [Setup.deselect, same] using on)

theorem serviceInit_follows (env : Env) (settings : Settings) (s : Service) :
    Follows settings (setup (serviceInit env settings s).capture) := by
  have cleared : Follows settings (setup (clearedCapture env settings s.capture)) := by
    refine ⟨?_, ?_, ?_, ?_, fun side on => ?_⟩
    · rw [clearedCapture, setup_unicaptureLoadLutTable]
      rfl
    · rw [clearedCapture, setup_unicaptureLoadLutTable]
      rfl
    · rw [clearedCapture, setup_unicaptureLoadLutTable]
      rfl
    · rw [clearedCapture, setup_unicaptureLoadLutTable]
      rfl
    · rw [clearedCapture_selected] at on
      cases on
  have ui : Follows settings (setup (selectBackend (env.load .ui) (backendConfig settings) .ui
      settings.noGui settings.uiBackend uiBackends (clearedCapture env settings s.capture))) := by
    rcases selectBackend_setup (env.load .ui) (backendConfig settings) .ui
      (clearedCapture env settings s.capture) settings.noGui settings.uiBackend uiBackends with
      off | ⟨enabled, name, member, on⟩
    · rw [off]
      exact cleared.deselect .ui
    · rw [on]
      exact cleared.select .ui enabled member
  rw [serviceInit_capture]
  rcases selectBackend_setup (env.load .video) (backendConfig settings) .video
    (selectBackend (env.load .ui) (backendConfig settings) .ui settings.noGui settings.uiBackend
      uiBackends (clearedCapture env settings s.capture)) settings.noVideo settings.videoBackend
    videoBackends with off | ⟨enabled, name, member, on⟩
  · rw [off]
    exact ui.deselect .video
  · rw [on]
    exact ui.select .video enabled member

theorem step_follows {s s' : Service} {e : Event} (h : step s e = .ok s')
    (here : Follows s.settings (setup s.capture)) : Follows s'.settings (setup s'.capture) := by
  refine step_invariant (P := fun t => Follows t.settings (setup t.capture))
    (fun _ _ _ _ _ here => here) ?_ ?_ ?_ ?_ h here
  · intro env t here
    rw [serviceStart_settings, setup_serviceStart]
    exact here
  · intro env t here
    rw [serviceStop_settings, setup_serviceStop]
    exact here
  · intro payload _ env t settings _
    rw [serviceRestart_settings, serviceRestart_eq]
    split
    · rw [setup_serviceStart]
      exact serviceInit_follows env settings _
    · exact serviceInit_follows env settings _
  · intro it _ here
    rw [setup_captureStep]
    exact here

theorem step_paired {s s' : Service} {e : Event} (h : step s e = .ok s')
    (here : ∀ side, Paired (slot side s.capture)) (side : Side) : Paired (slot side s'.capture) :=
  step_slots keeps_paired h (fun _ _ _ here => iterate_paired _ _ _ _ _ here) (here side)

/-- In every reachable state what the capture runs on are the current settings, and every
backend that is open is a selected one. -/
theorem settings_in_force (env : Env) (handle handleLegacy : Option Nat) (settings : Settings)
    (es : List Event) (s : Service)
    (ran : run step (boot env handle handleLegacy settings) es = .ok s) :
    Follows s.settings (setup s.capture) ∧ ∀ side, (s.capture.backend side).initialized = true →
      (setup s.capture).selected side = true := by
  have follows : Follows s.settings (setup s.capture) := by
    have keeps : ∀ s e s', Follows s.settings (setup s.capture) → step s e = .ok s' →
        Follows s'.settings (setup s'.capture) := fun s e s' here taken => step_follows taken here
    exact run_invariant keeps (serviceInit_follows env settings _) ran
  have paired : ∀ side, Paired (slot side s.capture) := by
    have keeps : ∀ s e s', (∀ side, Paired (slot side s.capture)) → step s e = .ok s' →
        ∀ side, Paired (slot side s'.capture) := fun s e s' here taken => step_paired taken here
    exact run_invariant keeps (boot_paired env handle handleLegacy settings) ran
  exact ⟨follows, fun side opened => (paired side).pointer opened⟩

def loading : Env := { calm with load := fun _ _ => .loaded 0 }

def changing : List Event :=
  [⟨.start, loading⟩, ⟨.setSettings (.object [("vsync", .boolean false)]), loading⟩,
    ⟨.captureThread ⟨0, fun _ => 0, fun _ => 0, fun _ => .argb⟩, loading⟩]

theorem settings_in_force_changed : ∃ s,
    run step (boot loading none none settingsInit) changing = .ok s ∧
    s.settings.vsync = false ∧ (s.capture.backend .video).initialized = true ∧
    Follows s.settings (setup s.capture) ∧ ∀ side, (s.capture.backend side).initialized = true →
      (setup s.capture).selected side = true :=
  ⟨_, rfl, rfl, rfl, settings_in_force loading none none settingsInit changing _ rfl⟩

end HyperionWebos.SettingsInForce
