import HyperionWebos.CaptureThread
import HyperionWebos.ServiceSteps
import HyperionWebos.TraceMonitor

/-! The two threads of the service and the flags that speak of them. `bookkeeper` reads the
creations and joins in order, and is stuck at a second thread of a kind, at the join of
anything but a thread that waits for it, and at a `memset` over a live thread. -/

namespace HyperionWebos.ThreadBookkeeping
open Runs TraceMonitor Pbnjson SettingsLoad Unicapture CaptureThread ServiceLoop ServiceSteps

structure Unjoined where
  capture : Option Nat
  connection : Option Nat
deriving DecidableEq

def bookkeeper : Monitor ThreadAction Unjoined where
  start := ⟨none, none⟩
  next u
    | .create .capture id => if u.capture = none then some { u with capture := some id } else none
    | .create .connection id =>
      if u.connection = none then some { u with connection := some id } else none
    | .join id =>
      if u.capture = some id then some { u with capture := none }
      else if u.connection = some id then some { u with connection := none }
      else none
    | .memset => if u = ⟨none, none⟩ then some u else none

/-- What the handles name when the service runs, and nothing when it does not. -/
def expected (s : Service) : Unjoined :=
  if s.running then ⟨some s.capture.state.mainThread, some s.connectionThread⟩ else ⟨none, none⟩

structure Agreement (s : Service) : Prop where
  loop : s.connectionLoopRunning = s.running
  capture : s.capture.state.running = s.running
  threads : bookkeeper.after s.capture.threads = some (expected s)
  distinct : s.running = true → s.capture.state.mainThread < s.connectionThread

theorem after_thread {c : Capture} {u u' : Unjoined} {a : ThreadAction}
    (h : bookkeeper.after c.threads = some u) (step : bookkeeper.next u a = some u') :
    bookkeeper.after (c.thread a).threads = some u' := by
  rw [Capture.thread, bookkeeper.after_append h, Monitor.readFrom, step]
  rfl

theorem unicaptureStart_threads {s : Service} (here : Agreement s) (off : s.running = false) :
    (unicaptureStart s.capture).2.state.running = true ∧
      (unicaptureStart s.capture).2.state.mainThread <
        (unicaptureStart s.capture).2.threads.length ∧
      bookkeeper.after (unicaptureStart s.capture).2.threads =
        some ⟨some (unicaptureStart s.capture).2.state.mainThread, none⟩ := by
  have idle : s.capture.state.running = false := here.capture.trans off
  have before : bookkeeper.after s.capture.threads = some ⟨none, none⟩ := by
    rw [here.threads, expected, off]
    rfl
  have started : unicaptureStart s.capture = (0, { s.capture.thread
      (.create .capture s.capture.threads.length) with
        state := { s.capture.state with running := true, mainThread := s.capture.threads.length }
        phase := .created }) := by
    rw [unicaptureStart, idle]
    rfl
  rw [started]
  refine ⟨rfl, ?_, after_thread before rfl⟩
  simp [Capture.thread]

theorem unicaptureStop_threads (ret : Side → Int) {c : Capture} {connection : Option Nat}
    (on : c.state.running = true)
    (h : bookkeeper.after c.threads = some ⟨some c.state.mainThread, connection⟩) :
    (unicaptureStop ret c).2.state.running = false ∧
      (unicaptureStop ret c).2.state.mainThread = c.state.mainThread ∧
      bookkeeper.after (unicaptureStop ret c).2.threads = some ⟨none, connection⟩ := by
  have ended := runToEnd_undisturbed ret { c with state := { c.state with running := false } }
  have stopped : (unicaptureStop ret c).2 = (runToEnd ret
      { c with state := { c.state with running := false } }).thread (.join c.state.mainThread) := by
    rw [unicaptureStop, on]
    rfl
  rw [stopped]
  refine ⟨ended.running, ended.mainThread, after_thread (ended.threads ▸ h) ?_⟩
  simp [bookkeeper]

theorem serviceStart_agreement (env : Env) {s : Service} (here : Agreement s) :
    Agreement (serviceStart env s).2 := by
  rcases serviceStart_cases env s with ⟨_, eq⟩ | ⟨off, _, toasts, eq⟩ | ⟨off, _, eq⟩
  · rw [eq]
    exact here
  · obtain ⟨on, fresh, waits⟩ := unicaptureStart_threads here off
    rw [eq]
    exact ⟨rfl, on, after_thread waits rfl, fun _ => fresh⟩
  · obtain ⟨on, _, waits⟩ := unicaptureStart_threads here off
    obtain ⟨stopped, _, joined⟩ := unicaptureStop_threads env.reinit on waits
    rw [eq]
    exact ⟨rfl, stopped, joined, nofun⟩

theorem serviceStop_agreement (env : Env) {s : Service} (here : Agreement s) :
    Agreement (serviceStop env s).2 := by
  rcases serviceStop_cases env s with ⟨_, eq⟩ | ⟨on, toasts, eq⟩
  · rw [eq]
    exact here
  · have waits : bookkeeper.after s.capture.threads =
        some ⟨some s.capture.state.mainThread, some s.connectionThread⟩ := by
      rw [here.threads, expected, on]
      rfl
    obtain ⟨stopped, _, joined⟩ := unicaptureStop_threads env.reinit (here.capture.trans on) waits
    rw [eq]
    refine ⟨rfl, stopped, after_thread joined ?_, nofun⟩
    simp [bookkeeper, expected]

theorem agreement_of_undisturbed {s : Service} {c : Capture} (here : Agreement s)
    (same : Undisturbed s.capture c) : Agreement { s with capture := c } where
  loop := here.loop
  capture := same.running.trans here.capture
  threads := by
    rw [same.threads, here.threads, expected, expected, same.mainThread]
  distinct on := same.mainThread ▸ here.distinct on

theorem serviceDestroy_agreement (env : Env) {s : Service} (here : Agreement s) :
    Agreement (serviceDestroy env s).2 := by
  have stopped := serviceStop_agreement env here
  exact agreement_of_undisturbed stopped ((cleanupIfInitialized_undisturbed .ui _).trans
    (cleanupIfInitialized_undisturbed .video _))

@[simp] theorem serviceDestroy_running (env : Env) (s : Service) :
    (serviceDestroy env s).2.running = false := serviceStop_running env s

theorem selectBackend_threads (load : String → LoadResult) (config : CapBackendConfig)
    (side : Side) (disabled : Bool) (backend : Option String) (candidates : List String)
    (c : Capture) :
    (selectBackend load config side disabled backend candidates c).threads = c.threads ∧
      (selectBackend load config side disabled backend candidates c).state.running =
        c.state.running := by
  rw [selectBackend]
  dsimp only
  split
  · exact ⟨rfl, rfl⟩
  · split
    · have tried := unicaptureTryBackends_undisturbed load config side candidates
        (c.setCapture side false)
      split <;> exact ⟨tried.threads, tried.running⟩
    · have tried := unicaptureInitBackend_undisturbed load config side
        (backendName (backend.getD "")) (c.setCapture side false)
      split <;> exact ⟨tried.threads, tried.running⟩

theorem serviceInit_threads (env : Env) (settings : Settings) (s : Service) :
    (serviceInit env settings s).capture.threads = s.capture.threads ++ [.memset] ∧
      (serviceInit env settings s).capture.state.running = false := by
  have cleared : (clearedCapture env settings s.capture).threads = s.capture.threads ++ [.memset] ∧
      (clearedCapture env settings s.capture).state.running = false :=
    ⟨(unicaptureLoadLutTable_undisturbed _ _).threads,
      (unicaptureLoadLutTable_undisturbed _ _).running⟩
  rw [serviceInit_capture, (selectBackend_threads ..).1, (selectBackend_threads ..).1,
    (selectBackend_threads ..).2, (selectBackend_threads ..).2]
  exact cleared

theorem serviceInit_agreement (env : Env) (settings : Settings) {s : Service}
    (here : Agreement s) (off : s.running = false) : Agreement (serviceInit env settings s) := by
  obtain ⟨threads, idle⟩ := serviceInit_threads env settings s
  have before : bookkeeper.after s.capture.threads = some ⟨none, none⟩ := by
    rw [here.threads, expected, off]
    rfl
  have running : (serviceInit env settings s).running = false := off
  refine ⟨here.loop, idle.trans off.symm, ?_, fun on => ?_⟩
  · rw [threads, bookkeeper.after_append before, expected, running]
    rfl
  · rw [running] at on
    cases on

theorem serviceRestart_agreement (env : Env) {s : Service} (here : Agreement s) :
    Agreement (serviceRestart env s) := by
  have fresh (settings : Settings) :=
    serviceInit_agreement env settings (serviceDestroy_agreement env here)
      (serviceDestroy_running env s)
  rw [serviceRestart_eq]
  split
  · exact serviceStart_agreement env (fresh _)
  · exact fresh _

theorem step_agreement {s s' : Service} {e : Event} (h : step s e = .ok s')
    (here : Agreement s) : Agreement s' := by
  refine step_invariant ?_ ?_ ?_ ?_ ?_ h here
  · intro s power video lumen rpc here
    exact ⟨here.loop, here.capture, here.threads, here.distinct⟩
  · intro env s here
    exact serviceStart_agreement env here
  · intro env s here
    exact serviceStop_agreement env here
  · intro payload _ env s settings here
    exact serviceRestart_agreement env ⟨here.loop, here.capture, here.threads, here.distinct⟩
  · intro it _ here
    exact agreement_of_undisturbed here (captureStep_undisturbed e.env.reinit it s.capture)

theorem boot_agreement (env : Env) (handle handleLegacy : Option Nat) (settings : Settings) :
    Agreement (boot env handle handleLegacy settings) :=
  serviceInit_agreement env settings ⟨rfl, rfl, rfl, nofun⟩ rfl

/-- After any handlers, and after `service_destroy` on top of them, flags and threads agree. -/
theorem thread_bookkeeping (env : Env) (handle handleLegacy : Option Nat) (settings : Settings)
    (es : List Event) (s : Service)
    (h : run step (boot env handle handleLegacy settings) es = .ok s) (last : Env) :
    Agreement s ∧ Agreement (serviceDestroy last s).2 ∧
      (serviceDestroy last s).2.running = false := by
  have here : Agreement s := run_invariant (fun _ _ _ here first => step_agreement first here)
    (boot_agreement env handle handleLegacy settings) h
  exact ⟨here, serviceDestroy_agreement last here, serviceDestroy_running last s⟩

theorem thread_bookkeeping_restarted :
    ∃ s, run step (boot calm none none settingsInit)
        [⟨.start, calm⟩, ⟨.setSettings (.object []), calm⟩] = .ok s ∧
      Agreement s ∧ Agreement (serviceDestroy calm s).2 ∧
      (serviceDestroy calm s).2.running = false :=
  ⟨_, rfl, thread_bookkeeping calm none none settingsInit
    [⟨.start, calm⟩, ⟨.setSettings (.object []), calm⟩] _ rfl calm⟩

end HyperionWebos.ThreadBookkeeping
