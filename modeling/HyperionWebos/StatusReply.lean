import HyperionWebos.BackendProtocol
import HyperionWebos.RetryGates
import HyperionWebos.SettingsInForce
import HyperionWebos.ThreadBookkeeping

/-! What the bus methods answer. The reply of `status` copies flags and names that other
threads and older settings have written. In every reachable state, and in the middle of a stop
by the vsync handler too, what it says of threads and backends agrees with the calls made. -/

namespace HyperionWebos.StatusReply
open Runs TraceMonitor Pbnjson SettingsLoad Unicapture CaptureThread ServiceLoop ServiceSteps
open OwnedArray BackendSlot ThreadBookkeeping SettingsInForce

/-- What the reply takes from outside the main loop: the user of the process, the version,
the flag of the connection thread and the framerate of the capture thread. -/
structure Beside where
  elevated : Bool
  version : String
  connected : Bool
  framerate : UInt64

def backendValue : Option String → JVal
  | some name => jstringCreate name
  | none => .null

def serviceMethodStatus (beside : Beside) (s : Service) : JVal :=
  let jobj := jobjectSet (.object []) "returnValue" (.boolean true)
  let jobj := jobjectSet jobj "elevated" (.boolean beside.elevated)
  let jobj := jobjectSet jobj "version" (jstringCreate beside.version)
  let jobj := jobjectSet jobj "isRunning" (.boolean s.running)
  let jobj := jobjectSet jobj "connected" (.boolean beside.connected)
  let jobj := jobjectSet jobj "videoBackend" (backendValue (s.capture.backend .video).name)
  let jobj := jobjectSet jobj "videoRunning" (.boolean (s.capture.state.captureRunning .video))
  let jobj := jobjectSet jobj "uiBackend" (backendValue (s.capture.backend .ui).name)
  let jobj := jobjectSet jobj "uiRunning" (.boolean (s.capture.state.captureRunning .ui))
  jobjectSet jobj "framerate" (.number (jnumberCreateF64 beside.framerate))

/-- The answers of `start`, `stop` and `startorstop`, with the states they leave. -/
def serviceMethodStart (env : Env) (s : Service) : JVal × Service :=
  let (ret, s) := serviceStart env s
  (jobjectSet (.object []) "returnValue" (.boolean (ret = 0)), s)

def serviceMethodStop (env : Env) (s : Service) : JVal × Service :=
  let (ret, s) := serviceStop env s
  (jobjectSet (.object []) "returnValue" (.boolean (ret = 0)), s)

def startorstopReply (env : Env) (s : Service) : JVal × Service :=
  let (ret, s) := if s.running then serviceStop env s else serviceStart env s
  let jobj := jobjectSet (.object []) "returnValue" (.boolean (ret = 0))
  (jobjectSet jobj "isRunning" (.boolean s.running), s)

def backendKey : Side → String
  | .ui => "uiBackend"
  | .video => "videoBackend"

def runningKey : Side → String
  | .ui => "uiRunning"
  | .video => "videoRunning"

section Members

variable (beside : Beside) (s : Service) (side : Side)

theorem status_isRunning :
    jobjectGet (serviceMethodStatus beside s) "isRunning" = .boolean s.running := by
  simp [serviceMethodStatus]

theorem status_running : jobjectGet (serviceMethodStatus beside s) (runningKey side) =
    .boolean (slot side s.capture).running := by
  cases side <;> simp [serviceMethodStatus, runningKey, slot]

theorem status_backend : jobjectGet (serviceMethodStatus beside s) (backendKey side) =
    backendValue (s.capture.backend side).name := by
  cases side <;> simp [serviceMethodStatus, backendKey]

end Members

section Answers

variable (beside : Beside) (env : Env) (s : Service)

/-- A request reports success exactly when `status` changes with it. -/
theorem start_answer : step s ⟨.start, env⟩ = .ok (serviceMethodStart env s).2 ∧
    (jobjectGet (serviceMethodStart env s).1 "returnValue" = .boolean true ↔
      jobjectGet (serviceMethodStatus beside s) "isRunning" = .boolean false ∧
      jobjectGet (serviceMethodStatus beside (serviceMethodStart env s).2) "isRunning" =
        .boolean true) := by
  refine ⟨rfl, ?_⟩
  rw [status_isRunning, status_isRunning]
  rcases serviceStart_cases env s with ⟨on, eq⟩ | ⟨off, _, _, eq⟩ | ⟨off, _, eq⟩ <;>
    simp [serviceMethodStart, *]

theorem stop_answer : step s ⟨.stop, env⟩ = .ok (serviceMethodStop env s).2 ∧
    (jobjectGet (serviceMethodStop env s).1 "returnValue" = .boolean true ↔
      jobjectGet (serviceMethodStatus beside s) "isRunning" = .boolean true ∧
      jobjectGet (serviceMethodStatus beside (serviceMethodStop env s).2) "isRunning" =
        .boolean false) := by
  refine ⟨rfl, ?_⟩
  rw [status_isRunning, status_isRunning]
  rcases serviceStop_cases env s with ⟨off, eq⟩ | ⟨on, _, eq⟩ <;>
    simp [serviceMethodStop, *]

theorem startorstop_answer : step s ⟨.startorstop, env⟩ = .ok (startorstopReply env s).2 ∧
    jobjectGet (startorstopReply env s).1 "isRunning" =
      jobjectGet (serviceMethodStatus beside (startorstopReply env s).2) "isRunning" ∧
    (jobjectGet (startorstopReply env s).1 "returnValue" = .boolean true ↔
      jobjectGet (serviceMethodStatus beside (startorstopReply env s).2) "isRunning" ≠
        jobjectGet (serviceMethodStatus beside s) "isRunning") := by
  rw [status_isRunning, status_isRunning]
  refine ⟨?_, by simp [startorstopReply], ?_⟩
  · unfold step serviceMethodStartorstop startorstopReply
    dsimp only
    split <;> rfl
  · cases running : s.running with
    | true =>
      rcases serviceStop_cases env s with ⟨off, eq⟩ | ⟨on, _, eq⟩
      · rw [running] at off
        cases off
      · simp [startorstopReply, running, eq]
    | false =>
      rcases serviceStart_cases env s with ⟨on, eq⟩ | ⟨off, _, _, eq⟩ | ⟨off, _, eq⟩
      · rw [running] at on
        cases on
      · simp [startorstopReply, running, eq]
      · simp [startorstopReply, running, eq]

end Answers

/-! ### One side -/

def opened (calls : List BackendCall) : Bool := calls.contains (.init 0)

structure Honest (name : Option String) (v : Slot) : Prop where
  pointer : v.running = true → v.pointer = true
  named : name.isSome = opened v.calls
  selected : v.pointer = true → name.isSome = true

section Slots

variable {name : Option String} {v : Slot}

theorem opened_call (b : BackendCall) (v : Slot) :
    opened (v.call b).calls = (opened v.calls || decide (.init 0 = b)) := by
  simp [opened, Slot.call]

theorem reinit_honest (ret : Int) (here : Honest name v) : Honest name (v.reinit ret) := by
  rw [Slot.reinit]
  split
  · next closed =>
    rw [Bool.and_eq_true] at closed
    have some := here.selected closed.1
    refine ⟨here.pointer, ?_, here.selected⟩
    change name.isSome = opened (v.call (.init ret)).calls
    rw [opened_call, ← here.named, some, Bool.true_or]
  · exact here

theorem call_honest {b : BackendCall} (running : Bool) (other : .init 0 ≠ b)
    (on : running = true → v.pointer = true) (here : Honest name v) :
    Honest name { v.call b with running := running } := by
  refine ⟨on, ?_, here.selected⟩
  change name.isSome = opened (v.call b).calls
  rw [opened_call, decide_eq_false other, Bool.or_false]
  exact here.named

theorem attempt_honest (late : Bool) (ret : Int) (here : Honest name v) :
    Honest name (v.attempt late ret) := by
  rw [Slot.attempt]
  split
  · next gate =>
    rw [Bool.and_eq_true, Bool.and_eq_true] at gate
    exact call_honest _ (by simp) (fun _ => gate.1.2) here
  · exact here

theorem acquire_honest (ret : Int) (stops : Bool) (here : Honest name v) :
    Honest name (v.acquire ret stops) := by
  have acquired : Honest name (v.call (.acquireFrame ret)) :=
    call_honest v.running (by simp) here.pointer here
  rw [Slot.acquire]
  split
  · split
    · exact call_honest false (by simp) (by simp) acquired
    · exact acquired
  · exact here

theorem release_honest (held : Bool) (here : Honest name v) : Honest name (v.release held) := by
  rw [Slot.release]
  split
  · exact call_honest v.running (by simp) here.pointer here
  · exact here

theorem iterate_honest (late : Bool) (start acquire : Int) (stops valid : Bool)
    (here : Honest name v) : Honest name (v.iterate late start acquire stops valid) :=
  release_honest _ (acquire_honest acquire stops (attempt_honest late start here))

theorem terminate_honest (here : Honest name v) : Honest name v.terminate := by
  rw [Slot.terminate]
  split
  · exact call_honest false (by simp) (by simp) here
  · exact here

theorem cleanup_honest (here : Honest name v) : Honest name v.cleanup := by
  rw [Slot.cleanup]
  split
  · have cleaned : Honest name (v.call .cleanup) :=
      call_honest v.running (by simp) here.pointer here
    exact ⟨cleaned.pointer, cleaned.named, cleaned.selected⟩
  · exact here

theorem wipe_honest (here : Honest name v) : Honest name v.wipe :=
  ⟨by simp [Slot.wipe], here.named, by simp [Slot.wipe]⟩

end Slots

/-! ### The selection -/

section Selection

variable {name : Option String}

theorem init_opened (result : LoadResult) (v : Slot) :
    opened (v.init result).2.calls = (opened v.calls || decide ((v.init result).1 = 0)) := by
  cases result with
  | dlopenFailed => exact (Bool.or_false _).symm
  | dlsymFailed => exact (Bool.or_false _).symm
  | loaded ret =>
    have success : BackendCall.init 0 = .init ret ↔ ret = 0 := by simp [eq_comm]
    refine (opened_call (.init ret) v).trans ?_
    exact congrArg (opened v.calls || ·) (decide_eq_decide.mpr success)

theorem tryInit_opened (results : List LoadResult) (v : Slot) :
    opened (v.tryInit results).2.calls =
      (opened v.calls || decide ((v.tryInit results).1 = 0)) := by
  induction results generalizing v with
  | nil => exact (Bool.or_false _).symm
  | cons result rest ih =>
    have some := init_opened result v
    rw [Slot.tryInit]
    split
    · exact some
    · next failed =>
      rw [decide_eq_false failed, Bool.or_false] at some
      rw [← some]
      exact ih (v.init result).2

theorem init_running (result : LoadResult) (v : Slot) : (v.init result).2.running = v.running := by
  cases result <;> rfl

theorem tryInit_running (results : List LoadResult) (v : Slot) :
    (v.tryInit results).2.running = v.running := by
  induction results generalizing v with
  | nil => rfl
  | cons result rest ih =>
    rw [Slot.tryInit]
    split
    · exact init_running result v
    · exact (ih _).trans (init_running result v)

theorem select_calls (disabled auto : Bool) (result : LoadResult) (results : List LoadResult)
    (v : Slot) :
    (v.select disabled auto result results).running = v.running ∧
      opened (v.select disabled auto result results).calls =
        (opened v.calls || (v.select disabled auto result results).pointer) := by
  rw [Slot.select]
  split
  · exact ⟨rfl, (Bool.or_false _).symm⟩
  · cases auto with
    | true =>
      exact ⟨tryInit_running results { v with pointer := false },
        tryInit_opened results { v with pointer := false }⟩
    | false =>
      exact ⟨init_running result { v with pointer := false },
        init_opened result { v with pointer := false }⟩

/-- A selection names the library it has opened; where it opens none the name stays. -/
theorem selectBackend_outcome (load : String → LoadResult) (config : CapBackendConfig)
    (side : Side) (disabled : Bool) (backend : Option String) (candidates : List String)
    (c : Capture) :
    let selected := selectBackend load config side disabled backend candidates c
    ((selected.backend side).name = (c.backend side).name ∧
      (slot side selected).pointer = false) ∨
    ((selected.backend side).name.isSome = true ∧ (slot side selected).pointer = true) := by
  intro selected
  rcases selectBackend_setup load config side c disabled backend candidates with
    eq | ⟨_, name, _, eq⟩
  · refine Or.inl ⟨congrFun (congrArg Setup.name eq) side, ?_⟩
    exact (congrFun (congrArg Setup.selected eq) side).trans (Function.update_self ..)
  · have named : (selected.backend side).name = some name :=
      (congrFun (congrArg Setup.name eq) side).trans (Function.update_self ..)
    refine Or.inr ⟨by rw [named]; rfl, ?_⟩
    exact (congrFun (congrArg Setup.selected eq) side).trans (Function.update_self ..)

theorem selectBackend_honest (load : String → LoadResult) (config : CapBackendConfig)
    (side : Side) (disabled : Bool) (backend : Option String) (candidates : List String)
    {c : Capture} (off : (slot side c).running = false)
    (here : Honest (c.backend side).name (slot side c)) :
    Honest ((selectBackend load config side disabled backend candidates c).backend side).name
      (slot side (selectBackend load config side disabled backend candidates c)) := by
  obtain ⟨running, some⟩ := select_calls disabled (isAuto backend)
    (load (backendName (backend.getD ""))) (candidates.map load) (slot side c)
  rw [← slot_selectBackend_self load config disabled backend candidates c] at running some
  rw [off] at running
  refine ⟨fun started => ?_, ?_, fun pointer => ?_⟩
  · rw [running] at started
    cases started
  · rw [some, ← here.named]
    rcases selectBackend_outcome load config side disabled backend candidates c with
      ⟨name, none⟩ | ⟨name, chosen⟩
    · rw [name, none, Bool.or_false]
    · rw [name, chosen, Bool.or_true]
  · rcases selectBackend_outcome load config side disabled backend candidates c with
      ⟨_, none⟩ | ⟨name, _⟩
    · rw [none] at pointer
      cases pointer
    · exact name

theorem selectBackend_name_other {side side' : Side} (other : side ≠ side')
    (load : String → LoadResult) (config : CapBackendConfig) (disabled : Bool)
    (backend : Option String) (candidates : List String) (c : Capture) :
    ((selectBackend load config side' disabled backend candidates c).backend side).name =
      (c.backend side).name := by
  rcases selectBackend_setup load config side' c disabled backend candidates with
    eq | ⟨_, name, _, eq⟩
  · exact congrFun (congrArg Setup.name eq) side
  · refine (congrFun (congrArg Setup.name eq) side).trans ?_
    exact Function.update_of_ne other _ _

end Selection

/-! ### The service -/

/-- Between two steps: a capture thread that was told to stop has ended, one that has ended
captures nothing, and both sides are honest. -/
structure Told (c : Capture) : Prop where
  stopped : c.state.running = false → c.phase = .absent
  quiet : c.phase = .absent → ∀ side, (slot side c).running = false
  sides : ∀ side, Honest (c.backend side).name (slot side c)

section Thread

variable {c : Capture} (ret : Side → Int) (it : Iteration) (lastStart : Side → UInt64)

theorem name_runHead (side : Side) : ((runHead ret c).backend side).name = (c.backend side).name :=
  congrFun (congrArg Setup.name (setup_runHead c ret)) side

theorem name_runIteration (side : Side) :
    ((runIteration it lastStart c).backend side).name = (c.backend side).name :=
  congrFun (congrArg Setup.name (setup_runIteration c it lastStart)) side

theorem name_runShutdown (side : Side) :
    ((runShutdown c).backend side).name = (c.backend side).name :=
  congrFun (congrArg Setup.name (setup_runShutdown c)) side

theorem runHead_sides (here : ∀ side, Honest (c.backend side).name (slot side c)) (side : Side) :
    Honest ((runHead ret c).backend side).name (slot side (runHead ret c)) := by
  rw [name_runHead, slot_runHead]
  exact reinit_honest (ret side) (here side)

theorem runShutdown_sides (here : ∀ side, Honest (c.backend side).name (slot side c))
    (side : Side) : Honest ((runShutdown c).backend side).name (slot side (runShutdown c)) := by
  rw [name_runShutdown, slot_runShutdown]
  exact cleanup_honest (terminate_honest (here side))

theorem runShutdown_quiet (side : Side) : (slot side (runShutdown c)).running = false := by
  rw [slot_runShutdown, BackendProtocol.cleanup_running, BackendProtocol.terminate_running]

theorem captureStep_told (here : Told c) : Told (captureStep ret it c) := by
  have same := (captureStep_undisturbed ret it c).running
  rw [captureStep] at same ⊢
  cases phase : c.phase with
  | absent => exact here
  | created =>
    rw [phase] at same
    refine ⟨fun off => ?_, fun ended => ?_, runHead_sides ret here.sides⟩
    · rw [here.stopped (same.symm.trans off)] at phase
      cases phase
    · cases ended
  | looping lastStart =>
    rw [phase] at same
    dsimp only at same ⊢
    by_cases on : c.state.running = true
    · rw [if_pos on] at same ⊢
      refine ⟨fun off => ?_, fun ended => ?_, fun side => ?_⟩
      · rw [← same, off] at on
        cases on
      · cases ended
      · rw [name_runIteration, slot_runIteration]
        exact iterate_honest _ _ _ _ _ (here.sides side)
    · rw [if_neg on]
      exact ⟨fun _ => rfl, fun _ => runShutdown_quiet, runShutdown_sides here.sides⟩

theorem runToEnd_told (quiet : c.phase = .absent → ∀ side, (slot side c).running = false)
    (sides : ∀ side, Honest (c.backend side).name (slot side c)) : Told (runToEnd ret c) := by
  rw [runToEnd]
  cases phase : c.phase with
  | absent => exact ⟨fun _ => phase, quiet, sides⟩
  | created =>
    exact ⟨fun _ => rfl, fun _ => runShutdown_quiet, runShutdown_sides (runHead_sides ret sides)⟩
  | looping lastStart =>
    exact ⟨fun _ => rfl, fun _ => runShutdown_quiet, runShutdown_sides sides⟩

theorem unicaptureStart_told (here : Told c) : Told (unicaptureStart c).2 := by
  have sides (side : Side) : Honest ((unicaptureStart c).2.backend side).name
      (slot side (unicaptureStart c).2) := by
    rw [slot_unicaptureStart]
    have kept := congrFun (congrArg Setup.name (setup_unicaptureStart c)) side
    exact (show ((unicaptureStart c).2.backend side).name = (c.backend side).name from kept) ▸
      here.sides side
  rw [unicaptureStart] at sides ⊢
  split
  · exact here
  · next off =>
    rw [if_neg off] at sides
    refine ⟨fun idle => ?_, fun ended => ?_, sides⟩
    · cases idle
    · cases ended

theorem unicaptureStop_told (here : Told c) : Told (unicaptureStop ret c).2 := by
  rw [unicaptureStop]
  split
  · exact here
  · have ended := @runToEnd_told { c with state := { c.state with running := false } } ret
      here.quiet here.sides
    exact ⟨ended.stopped, ended.quiet, ended.sides⟩

theorem cleanupIfInitialized_told (side : Side) (here : Told c) :
    Told (cleanupIfInitialized side c) := by
  have slots (side' : Side) : slot side' (cleanupIfInitialized side c) = slot side' c ∨
      slot side' (cleanupIfInitialized side c) = (slot side' c).cleanup := by
    by_cases same : side' = side
    · rw [same]
      exact Or.inr slot_cleanupIfInitialized_self
    · exact Or.inl (slot_cleanupIfInitialized_other same)
  have name (side' : Side) := congrFun (congrArg Setup.name (setup_cleanupIfInitialized c side))
    side'
  refine ⟨fun off => ?_, fun ended side' => ?_, fun side' => ?_⟩
  · rw [RetryGates.cleanupIfInitialized_phase]
    exact here.stopped ((cleanupIfInitialized_undisturbed side c).running.symm.trans off)
  · rw [RetryGates.cleanupIfInitialized_phase] at ended
    rcases slots side' with eq | eq
    · rw [eq]
      exact here.quiet ended side'
    · rw [eq, BackendProtocol.cleanup_running]
      exact here.quiet ended side'
  · have kept : ((cleanupIfInitialized side c).backend side').name = (c.backend side').name :=
      name side'
    rw [kept]
    rcases slots side' with eq | eq
    · rw [eq]
      exact here.sides side'
    · rw [eq]
      exact cleanup_honest (here.sides side')

end Thread

theorem selectBackend_sides (load : String → LoadResult) (config : CapBackendConfig)
    (side' : Side) (disabled : Bool) (backend : Option String) (candidates : List String)
    {c : Capture}
    (here : ∀ side, (slot side c).running = false ∧ Honest (c.backend side).name (slot side c))
    (side : Side) :
    let selected := selectBackend load config side' disabled backend candidates c
    (slot side selected).running = false ∧
      Honest (selected.backend side).name (slot side selected) := by
  intro selected
  by_cases same : side = side'
  · subst same
    refine ⟨?_, selectBackend_honest load config side disabled backend candidates (here side).1
      (here side).2⟩
    rw [slot_selectBackend_self]
    exact (select_calls ..).1.trans (here side).1
  · rw [slot_selectBackend_other same, selectBackend_name_other same]
    exact here side

theorem serviceInit_told (env : Env) (settings : Settings) {s : Service} (here : Told s.capture)
    (off : s.capture.state.running = false) : Told (serviceInit env settings s).capture := by
  have ended := here.stopped off
  have cleared (side : Side) :
      (slot side (clearedCapture env settings s.capture)).running = false ∧
        Honest ((clearedCapture env settings s.capture).backend side).name
          (slot side (clearedCapture env settings s.capture)) := by
    have kept : (setup (clearedCapture env settings s.capture)).name = (setup s.capture).name := by
      rw [clearedCapture, setup_unicaptureLoadLutTable]
      rfl
    have name : ((clearedCapture env settings s.capture).backend side).name =
      (s.capture.backend side).name := congrFun kept side
    rw [slot_clearedCapture, name]
    exact ⟨rfl, wipe_honest (here.sides side)⟩
  have selected := selectBackend_sides (env.load .video) (backendConfig settings) .video
    settings.noVideo settings.videoBackend videoBackends
    (selectBackend_sides (env.load .ui) (backendConfig settings) .ui settings.noGui
      settings.uiBackend uiBackends cleared)
  refine ⟨fun _ => ?_, fun _ side => (selected side).1, fun side => (selected side).2⟩
  rw [RetryGates.serviceInit_phase]
  exact ended

theorem serviceStart_told (env : Env) {s : Service} (here : Told s.capture) :
    Told (serviceStart env s).2.capture := by
  have started := unicaptureStart_told here
  rcases serviceStart_cases env s with ⟨_, eq⟩ | ⟨_, _, _, eq⟩ | ⟨_, _, eq⟩
  · rw [eq]
    exact here
  · rw [eq]
    exact ⟨started.stopped, started.quiet, started.sides⟩
  · rw [eq]
    exact unicaptureStop_told env.reinit started

theorem serviceStop_told (env : Env) {s : Service} (here : Told s.capture) :
    Told (serviceStop env s).2.capture := by
  rcases serviceStop_cases env s with ⟨_, eq⟩ | ⟨_, _, eq⟩
  · rw [eq]
    exact here
  · have stopped := unicaptureStop_told env.reinit here
    rw [eq]
    exact ⟨stopped.stopped, stopped.quiet, stopped.sides⟩

theorem serviceRestart_told (env : Env) {s : Service} (agreement : Agreement s)
    (here : Told s.capture) : Told (serviceRestart env s).capture := by
  have destroyed : Told (serviceDestroy env s).2.capture :=
    cleanupIfInitialized_told .video (cleanupIfInitialized_told .ui (serviceStop_told env here))
  have off : (serviceDestroy env s).2.capture.state.running = false :=
    (serviceDestroy_agreement env agreement).capture.trans (serviceDestroy_running env s)
  have fresh := serviceInit_told env s.settings destroyed off
  rw [serviceRestart_eq]
  split
  · exact serviceStart_told env fresh
  · exact fresh

theorem step_told {s s' : Service} {e : Event} (h : step s e = .ok s') (agreement : Agreement s)
    (here : Told s.capture) : Told s'.capture := by
  refine (step_invariant (P := fun t => Agreement t ∧ Told t.capture) ?_ ?_ ?_ ?_ ?_ h
    ⟨agreement, here⟩).2
  · rintro s power video lumen rpc ⟨agreement, here⟩
    exact ⟨⟨agreement.loop, agreement.capture, agreement.threads, agreement.distinct⟩, here⟩
  · rintro env s ⟨agreement, here⟩
    exact ⟨serviceStart_agreement env agreement, serviceStart_told env here⟩
  · rintro env s ⟨agreement, here⟩
    exact ⟨serviceStop_agreement env agreement, serviceStop_told env here⟩
  · rintro payload _ env s settings ⟨agreement, here⟩
    have loaded : Agreement { s with settings := settings } :=
      ⟨agreement.loop, agreement.capture, agreement.threads, agreement.distinct⟩
    exact ⟨serviceRestart_agreement env loaded, serviceRestart_told env loaded here⟩
  · rintro it _ ⟨agreement, here⟩
    exact ⟨agreement_of_undisturbed agreement (captureStep_undisturbed e.env.reinit it s.capture),
      captureStep_told e.env.reinit it here⟩

theorem boot_told (env : Env) (handle handleLegacy : Option Nat) (settings : Settings) :
    Told (boot env handle handleLegacy settings).capture := by
  refine serviceInit_told env settings ⟨fun _ => rfl, fun _ _ => rfl, fun _ => ?_⟩ rfl
  refine ⟨fun on => ?_, rfl, fun on => ?_⟩
  · cases on
  · cases on

/-! ### The vsync handler -/

/-- Where `unicapture_vsync_handler` stands: before its test, in `wait`, or between the
terminate and the write of the flag. Its thread exists as long as the capture thread loops. -/
inductive Handler where
  | test
  | waiting
  | stopped
deriving DecidableEq, Repr

structure Serving where
  service : Service
  handler : Handler

/-- A callback, bus method or iteration of the capture thread, or a step of the handler; the
backend has a `wait` or not, and `ret` is what one under way returns. -/
inductive Move where
  | service (e : Event)
  | handler (hasWait : Bool) (ret : Int)

def clearFlag (s : Service) : Service :=
  { s with capture := s.capture.setCaptureRunning .video false }

def handlerStep (hasWait : Bool) (ret : Int) (s : Serving) : Serving :=
  match s.service.capture.phase with
  | .looping _ =>
    match s.handler with
    | .test =>
      if s.service.capture.state.vsync && s.service.capture.state.captureRunning .video &&
          hasWait then { s with handler := .waiting }
      else s
    | .waiting =>
      if ret = -99 then
        ⟨{ s.service with capture := s.service.capture.call .video .terminate }, .stopped⟩
      else { s with handler := .test }
    | .stopped => ⟨clearFlag s.service, .test⟩
  | _ => s

def Serving.finished (s : Serving) : Service :=
  match s.handler with
  | .stopped => clearFlag s.service
  | _ => s.service

/-- A step after which the thread does not loop has joined the handler, if there was one. -/
def moveStep (s : Serving) : Move → Except MemoryFault Serving
  | .service e => do
    let t ← step s.service e
    match t.capture.phase with
    | .looping _ => .ok ⟨t, s.handler⟩
    | _ => do
      let t ← step s.finished e
      .ok ⟨t, .test⟩
  | .handler hasWait ret => .ok (handlerStep hasWait ret s)

/-- What the reply says of a side: whether a backend was ever opened for it, and that a side
that captures is one the settings allow, on a backend they allow. -/
structure Truthful (reply : JVal) (settings : Settings) (side : Side) (calls : List BackendCall) :
    Prop where
  backend : jobjectGet reply (backendKey side) = .null ↔ .init 0 ∉ calls
  allowed : jobjectGet reply (runningKey side) = .boolean true →
    jobjectGet reply "isRunning" = .boolean true ∧ sideDisabled settings side = false ∧
    ∃ name ∈ eligible settings side, jobjectGet reply (backendKey side) = jstringCreate name

structure Booked (s : Service) : Prop where
  agreement : Agreement s
  follows : Follows s.settings (setup s.capture)
  told : Told s.capture

section Moves

variable {s t : Service} {p q : Serving}

theorem step_booked {e : Event} (taken : step s e = .ok t) (here : Booked s) : Booked t :=
  ⟨step_agreement taken here.agreement, step_follows taken here.follows,
    step_told taken here.agreement here.told⟩

theorem Booked.video {c : Capture} (here : Booked s) (undisturbed : Undisturbed s.capture c)
    (copied : setup c = setup s.capture) (phase : c.phase = s.capture.phase)
    (ui : slot .ui c = slot .ui s.capture)
    (running : (slot .video c).running = true → (slot .video s.capture).running = true)
    (honest : ∀ name, Honest name (slot .video s.capture) → Honest name (slot .video c)) :
    Booked { s with capture := c } := by
  have name (side : Side) : (c.backend side).name = (s.capture.backend side).name :=
    congrFun (congrArg Setup.name copied) side
  refine ⟨agreement_of_undisturbed here.agreement undisturbed, copied ▸ here.follows,
    fun off => ?_, fun ended side => ?_, fun side => ?_⟩
  · rw [phase]
    exact here.told.stopped (undisturbed.running.symm.trans off)
  · have idle := here.told.quiet (phase.symm.trans ended)
    cases side with
    | ui =>
      rw [ui]
      exact idle .ui
    | video =>
      refine Bool.eq_false_iff.mpr fun on => ?_
      exact Bool.false_ne_true ((idle .video).symm.trans (running on))
  · change Honest (c.backend side).name (slot side c)
    rw [name]
    cases side with
    | ui =>
      rw [ui]
      exact here.told.sides .ui
    | video => exact honest _ (here.told.sides .video)

theorem clearFlag_booked (here : Booked s) : Booked (clearFlag s) := by
  refine here.video ⟨rfl, rfl, rfl, rfl⟩ rfl rfl (slot_setCaptureRunning_other ui_ne_video false)
    (fun on => ?_) fun name honest => ?_
  · rw [slot_setCaptureRunning_self] at on
    cases on
  · rw [slot_setCaptureRunning_self]
    exact ⟨fun on => absurd on Bool.false_ne_true, honest.named, honest.selected⟩

theorem callTerminate_booked (here : Booked s) :
    Booked { s with capture := s.capture.call .video .terminate } := by
  refine here.video ⟨rfl, rfl, rfl, rfl⟩ rfl rfl (slot_call_other ui_ne_video .terminate) id
    fun name honest => ?_
  rw [slot_call_self]
  exact call_honest (slot .video s.capture).running (by simp) honest.pointer honest

theorem finished_booked (here : Booked p.service) : Booked p.finished := by
  unfold Serving.finished
  cases p.handler with
  | test => exact here
  | waiting => exact here
  | stopped => exact clearFlag_booked here

theorem handlerStep_booked (hasWait : Bool) (ret : Int) (here : Booked p.service) :
    Booked (handlerStep hasWait ret p).service := by
  unfold handlerStep
  cases p.service.capture.phase with
  | absent => exact here
  | created => exact here
  | looping lastStart =>
    cases p.handler with
    | test =>
      dsimp only
      split
      · exact here
      · exact here
    | waiting =>
      dsimp only
      split
      · exact callTerminate_booked here
      · exact here
    | stopped => exact clearFlag_booked here

theorem moveStep_booked {m : Move} (taken : moveStep p m = .ok q) (here : Booked p.service) :
    Booked q.service := by
  cases m with
  | service e =>
    obtain ⟨t, moved, rest⟩ := bind_eq_ok.mp taken
    split at rest
    · cases rest
      exact step_booked moved here
    · obtain ⟨t', joined, done⟩ := bind_eq_ok.mp rest
      cases done
      exact step_booked joined (finished_booked here)
  | handler hasWait ret =>
    cases taken
    exact handlerStep_booked hasWait ret here

theorem boot_booked (env : Env) (handle handleLegacy : Option Nat) (settings : Settings) :
    Booked (boot env handle handleLegacy settings) :=
  ⟨boot_agreement env handle handleLegacy settings, serviceInit_follows env settings _,
    boot_told env handle handleLegacy settings⟩

end Moves

theorem Booked.truthful {s : Service} (booked : Booked s) (beside : Beside) (side : Side) :
    Truthful (serviceMethodStatus beside s) s.settings side (slot side s.capture).calls := by
  have honest := booked.told.sides side
  refine ⟨?_, fun on => ?_⟩
  · have named := honest.named
    rw [status_backend]
    cases name : (s.capture.backend side).name with
    | none =>
      rw [name] at named
      simpa [backendValue, opened] using named.symm
    | some name' =>
      rw [name] at named
      simpa [backendValue, opened, jstringCreate] using named.symm
  · rw [status_running, JVal.boolean.injEq] at on
    have running : s.running = true := by
      cases off : s.running with
      | true => rfl
      | false =>
        have idle := booked.told.quiet
          (booked.told.stopped (booked.agreement.capture.trans off)) side
        rw [on] at idle
        cases idle
    obtain ⟨enabled, _, name, member, named⟩ := booked.follows.selected side (honest.pointer on)
    have shown : (s.capture.backend side).name = some name := named
    refine ⟨?_, enabled, name, member, ?_⟩
    · rw [status_isRunning, running]
    · rw [status_backend, shown]
      rfl

/-- In every reachable state `status` says that the service runs exactly when both threads
were created and not joined since, and speaks the truth about either side. -/
theorem status_truthful (env : Env) (handle handleLegacy : Option Nat) (settings : Settings)
    (ms : List Move) (p : Serving)
    (ran : run moveStep ⟨boot env handle handleLegacy settings, .test⟩ ms = .ok p)
    (beside : Beside) :
    (jobjectGet (serviceMethodStatus beside p.service) "isRunning" = .boolean true ↔
      ∃ capture connection, bookkeeper.after p.service.capture.threads =
        some ⟨some capture, some connection⟩) ∧
    ∀ side, Truthful (serviceMethodStatus beside p.service) p.service.settings side
      (slot side p.service.capture).calls := by
  have booked : Booked p.service :=
    run_invariant (I := fun q => Booked q.service) (fun _ _ _ here taken =>
      moveStep_booked taken here) (boot_booked env handle handleLegacy settings) ran
  refine ⟨?_, booked.truthful beside⟩
  rw [status_isRunning, booked.agreement.threads, expected]
  cases p.service.running <;> simp

/-- The handler has terminated the video capture and not cleared the flag yet. -/
def watching : List Move :=
  [.service ⟨.start, loading⟩,
    .service ⟨.captureThread ⟨0, fun _ => 0, fun _ => 0, fun _ => .argb⟩, loading⟩,
    .service ⟨.captureThread ⟨2000000, fun _ => 0, fun _ => 0, fun _ => .argb⟩, loading⟩,
    .handler true 0, .handler true (-99)]

def connected : Beside := ⟨true, "1.0.0", true, 0⟩

theorem status_truthful_watching : ∃ p,
    run moveStep ⟨boot loading none none settingsInit, .test⟩ watching = .ok p ∧
    p.handler = .stopped ∧
    jobjectGet (serviceMethodStatus connected p.service) (runningKey .video) = .boolean true ∧
    (jobjectGet (serviceMethodStatus connected p.service) "isRunning" = .boolean true ↔
      ∃ capture connection, bookkeeper.after p.service.capture.threads =
        some ⟨some capture, some connection⟩) ∧
    ∀ side, Truthful (serviceMethodStatus connected p.service) p.service.settings side
      (slot side p.service.capture).calls := by
  refine ⟨_, rfl, rfl, ?_, status_truthful loading none none settingsInit watching _ rfl connected⟩
  rw [status_running]
  rfl

end HyperionWebos.StatusReply
