import HyperionWebos.CaptureThread
import HyperionWebos.ServiceSteps

/-! Starting the service when threads may not be had: `service_start`, `service_stop` and
what they call, with the outcome of every `pthread_create`. The handles, the flags and the
threads that wait to be joined are the state; joining anything else does not return.
`ServiceLoop` is this with every thread of the capture created. -/

namespace HyperionWebos.ThreadStarts
open Runs Unicapture CaptureThread ServiceLoop ServiceSteps

inductive ThreadFault where
  | joinsNoThread
deriving DecidableEq, Repr

structure State where
  running : Bool
  connectionLoopRunning : Bool
  captureRunning : Bool
  vsyncThreadRunning : Bool
  mainThread : Nat
  connectionThread : Nat
  vsyncThread : Nat
  begun : Bool
  unjoined : List Nat
  next : Nat
deriving DecidableEq, Repr

/-- Which threads can be had. -/
structure Creations where
  capture : Bool
  vsync : Bool
  connection : Bool
deriving DecidableEq, Repr

/-- A created thread gets a fresh id; a handle that could not be filled keeps its value. -/
def pthreadCreate (created : Bool) (handle : Nat) (s : State) : Nat × State :=
  if created then (s.next, { s with unjoined := s.next :: s.unjoined, next := s.next + 1 })
  else (handle, s)

def pthreadJoin (handle : Nat) (s : State) : Except ThreadFault State :=
  if handle ∈ s.unjoined then .ok { s with unjoined := s.unjoined.erase handle }
  else .error .joinsNoThread

/-- `unicapture_run` up to its loop. -/
def runHead (o : Creations) (s : State) : State :=
  let s := { s with begun := true, vsyncThreadRunning := true }
  let (vsyncThread, s) := pthreadCreate o.vsync s.vsyncThread s
  { s with vsyncThread := vsyncThread }

/-- `unicapture_run` after its loop. -/
def runShutdown (s : State) : Except ThreadFault State :=
  if s.vsyncThreadRunning then pthreadJoin s.vsyncThread { s with vsyncThreadRunning := false }
  else .ok s

/-- The capture thread, which may not have begun yet, runs to its end. -/
def runToEnd (o : Creations) (s : State) : Except ThreadFault State :=
  runShutdown (if s.begun then s else runHead o s)

def unicaptureStart (o : Creations) (s : State) : Int × State :=
  if s.captureRunning then (1, s)
  else
    let s := { s with captureRunning := true, begun := false }
    let (mainThread, s) := pthreadCreate o.capture s.mainThread s
    (0, { s with mainThread := mainThread })

/-- The join waits for the thread to end, if there is one to wait for. -/
def unicaptureStop (o : Creations) (s : State) : Except ThreadFault (Int × State) := do
  if !s.captureRunning then return (1, s)
  let s := { s with captureRunning := false }
  let s ← if s.mainThread ∈ s.unjoined then runToEnd o s else pure s
  let s ← pthreadJoin s.mainThread s
  return (0, s)

def serviceStart (o : Creations) (s : State) : Except ThreadFault (Int × State) := do
  if s.running then return (1, s)
  let s := { s with running := true }
  let s := (unicaptureStart o s).2
  let s := { s with connectionLoopRunning := true }
  let (connectionThread, s) := pthreadCreate o.connection s.connectionThread s
  let s := { s with connectionThread := connectionThread }
  if !o.connection then
    let (_, s) ← unicaptureStop o s
    return (-1, { s with connectionLoopRunning := false, running := false })
  return (0, s)

def serviceStop (o : Creations) (s : State) : Except ThreadFault (Int × State) := do
  if !s.running then return (1, s)
  let s := { s with connectionLoopRunning := false }
  let (_, s) ← unicaptureStop o s
  let s ← pthreadJoin s.connectionThread s
  return (0, { s with running := false })

/-- Stopped: no flag is set, every thread there was has been joined and the handles are
those of earlier threads. -/
structure Stopped (s : State) : Prop where
  running : s.running = false
  connectionLoopRunning : s.connectionLoopRunning = false
  captureRunning : s.captureRunning = false
  vsyncThreadRunning : s.vsyncThreadRunning = false
  unjoined : s.unjoined = []
  vsyncThread : s.vsyncThread < s.next

structure BothRunning (s : State) : Prop where
  capture : s.mainThread ∈ s.unjoined
  connection : s.connectionThread ∈ s.unjoined
  distinct : s.mainThread ≠ s.connectionThread
  running : s.running = true
  captureRunning : s.captureRunning = true
  connectionLoopRunning : s.connectionLoopRunning = true

structure NothingLeft (s s' : State) : Prop where
  running : s'.running = s.running
  connectionLoopRunning : s'.connectionLoopRunning = s.connectionLoopRunning
  captureRunning : s'.captureRunning = s.captureRunning
  vsyncThreadRunning : s'.vsyncThreadRunning = s.vsyncThreadRunning
  unjoined : s'.unjoined = s.unjoined

/-- A stop joins only threads there are, whether or not the capture thread has begun. -/
def Stoppable (o : Creations) (s : State) : Prop :=
  (∃ r, serviceStop o s = .ok r) ∧
    (s.mainThread ∈ s.unjoined → ∃ r, serviceStop o (runHead o s) = .ok r)

/-- A start leaves both threads or nothing, and a stop after it finds what it joins. -/
def AllOrNothing (o : Creations) (s : State) : Prop :=
  ∃ ret s', serviceStart o s = .ok (ret, s') ∧ (ret = 0 → BothRunning s') ∧
    (ret ≠ 0 → NothingLeft s s') ∧ Stoppable o s'

variable {o : Creations} {s : State}

theorem stop_stopped (off : s.running = false) : serviceStop o s = .ok (1, s) := by
  simp [serviceStop, off, pure, Except.pure]

theorem start_without_capture (stopped : Stopped s) (without : o.capture = false) :
    ¬ AllOrNothing o s := by
  obtain ⟨running, loop, capture, vsync, unjoined, old⟩ := stopped
  rintro ⟨ret, s', start, both, _, _⟩
  cases connected : o.connection with
  | true =>
    simp [serviceStart, unicaptureStart, pthreadCreate, running, capture, without, connected,
      unjoined, pure, Except.pure] at start
    obtain ⟨rfl, rfl⟩ := start
    have there := (both rfl).capture
    have apart := (both rfl).distinct
    simp at there apart
    exact apart there
  | false =>
    simp [serviceStart, unicaptureStart, unicaptureStop, pthreadCreate, pthreadJoin, running,
      capture, without, connected, unjoined, pure, Except.pure, bind, Except.bind] at start

def captureStarted (s : State) : State := { s with
  running := true
  connectionLoopRunning := true
  captureRunning := true
  begun := false
  mainThread := s.next
  unjoined := [s.next]
  next := s.next + 1 }

def started (s : State) : State := { captureStarted s with
  connectionThread := s.next + 1
  unjoined := [s.next + 1, s.next]
  next := s.next + 2 }

theorem serviceStart_captured (stopped : Stopped s) (captured : o.capture = true) :
    serviceStart o s = if o.connection then .ok (0, started s) else do
      let (_, s') ← unicaptureStop o (captureStarted s)
      return (-1, { s' with connectionLoopRunning := false, running := false }) := by
  obtain ⟨running, loop, capture, vsync, unjoined, old⟩ := stopped
  cases connected : o.connection with
  | true =>
    simp [serviceStart, unicaptureStart, pthreadCreate, running, capture, captured, connected,
      unjoined, started, captureStarted, pure, Except.pure]
  | false =>
    simp [serviceStart, unicaptureStart, pthreadCreate, running, capture, captured, connected,
      unjoined, captureStarted, pure, Except.pure]

theorem unicaptureStop_present {t : State} (on : t.captureRunning = true)
    (there : t.mainThread ∈ t.unjoined) (young : t.begun = false)
    (stray : t.vsyncThread ∉ t.unjoined) :
    unicaptureStop o t = if o.vsync then .ok (0, { t with
        captureRunning := false
        vsyncThreadRunning := false
        begun := true
        vsyncThread := t.next
        next := t.next + 1
        unjoined := t.unjoined.erase t.mainThread })
      else .error .joinsNoThread := by
  cases created : o.vsync with
  | true =>
    simp [unicaptureStop, runToEnd, runHead, runShutdown, pthreadCreate, pthreadJoin, on, there,
      young, created, bind, Except.bind, pure, Except.pure]
  | false =>
    simp [unicaptureStop, runToEnd, runHead, runShutdown, pthreadCreate, pthreadJoin, on, there,
      young, created, stray, bind, Except.bind]

theorem unicaptureStop_begun {t : State} (on : t.captureRunning = true)
    (there : t.mainThread ∈ t.unjoined) (young : t.begun = false) :
    unicaptureStop o (runHead o t) = unicaptureStop o t := by
  cases created : o.vsync <;>
    simp [unicaptureStop, runToEnd, runHead, pthreadCreate, on, there, young, created]

theorem serviceStop_running {t : State} (running : t.running = true) :
    serviceStop o t = (do
      let (_, s) ← unicaptureStop o { t with connectionLoopRunning := false }
      let s ← pthreadJoin s.connectionThread s
      return (0, { s with running := false })) := by
  rw [serviceStop, running]
  rfl

theorem serviceStop_begun {t : State} (running : t.running = true) (on : t.captureRunning = true)
    (there : t.mainThread ∈ t.unjoined) (young : t.begun = false) :
    serviceStop o (runHead o t) = serviceStop o t := by
  have commutes : { runHead o t with connectionLoopRunning := false } =
      runHead o { t with connectionLoopRunning := false } := by
    cases created : o.vsync <;> simp [runHead, pthreadCreate, created]
  have still : (runHead o t).running = true := by
    cases created : o.vsync <;> simp [runHead, pthreadCreate, created, running]
  rw [serviceStop_running still, serviceStop_running running, commutes, unicaptureStop_begun]
  · exact on
  · exact there
  · exact young

theorem serviceStop_started (stopped : Stopped s) :
    (∃ r, serviceStop o (started s) = .ok r) ↔ o.vsync = true := by
  have old := stopped.vsyncThread
  rw [serviceStop_running rfl, unicaptureStop_present]
  · cases o.vsync with
    | true => simp [started, captureStarted, pthreadJoin, bind, Except.bind, pure, Except.pure]
    | false => simp [bind, Except.bind]
  · rfl
  · simp [started, captureStarted]
  · rfl
  · simp [started, captureStarted]
    omega

theorem start_with_capture (stopped : Stopped s) (captured : o.capture = true) :
    AllOrNothing o s ↔ o.vsync = true := by
  have old := stopped.vsyncThread
  have start := serviceStart_captured stopped captured
  cases connected : o.connection with
  | true =>
    rw [connected, if_pos rfl] at start
    constructor
    · rintro ⟨ret, s', outcome, _, _, stoppable⟩
      rw [start] at outcome
      cases outcome
      exact (serviceStop_started stopped).mp stoppable.1
    · intro created
      have stops := (serviceStop_started (o := o) stopped).mpr created
      refine ⟨0, started s, start, fun _ => ?_, fun bad => absurd rfl bad, stops, fun there => ?_⟩
      · exact ⟨by simp [started, captureStarted], by simp [started], by simp [started,
          captureStarted], rfl, rfl, rfl⟩
      · rwa [serviceStop_begun rfl rfl there rfl]
  | false =>
    have undone := unicaptureStop_present (o := o) (t := captureStarted s) rfl
      (by simp [captureStarted]) rfl (by simp [captureStarted]; omega)
    rw [connected, if_neg Bool.false_ne_true, undone] at start
    cases created : o.vsync with
    | true =>
      rw [created, if_pos rfl, ok_bind] at start
      simp only [iff_true]
      refine ⟨_, _, start, fun zero => absurd zero (by decide), fun _ => ?_, ⟨_, stop_stopped rfl⟩,
        fun there => ?_⟩
      · exact ⟨stopped.running.symm, stopped.connectionLoopRunning.symm,
          stopped.captureRunning.symm, stopped.vsyncThreadRunning.symm, by
            simp [captureStarted, stopped.unjoined]⟩
      · simp [captureStarted] at there
    | false =>
      rw [created, if_neg Bool.false_ne_true, error_bind] at start
      simp only [Bool.false_eq_true, iff_false]
      rintro ⟨ret, s', outcome, _⟩
      rw [start] at outcome
      cases outcome

/-- From every stopped state: a start that returns 0 leaves both threads running, another
leaves nothing, and the stop after it joins only what there is, exactly where the capture
thread and the vsync thread it creates can be had. -/
theorem all_or_nothing_iff (o : Creations) (s : State) (stopped : Stopped s) :
    AllOrNothing o s ↔ o.capture = true ∧ o.vsync = true := by
  cases captured : o.capture with
  | true => simp [start_with_capture stopped captured]
  | false => simp [start_without_capture stopped captured]

theorem unicaptureStop_off (ret : Side → Int) {c : Capture} (on : c.state.running = true) :
    (Unicapture.unicaptureStop ret c).2.state.running = false := by
  have ended := runToEnd_undisturbed ret { c with state := { c.state with running := false } }
  rw [Unicapture.unicaptureStop, on]
  exact ended.running

structure Matches (s : State) (sv : Service) : Prop where
  running : s.running = sv.running
  connectionLoopRunning : s.connectionLoopRunning = sv.connectionLoopRunning
  captureRunning : s.captureRunning = sv.capture.state.running

/-- With the capture and its vsync thread to be had, this start is the service's. -/
theorem serviceStart_matches {env : Env} {sv : Service} (stopped : Stopped s)
    (here : Matches s sv) (captured : o.capture = true) (vsync : o.vsync = true)
    (same : o.connection = env.connectionCreated) :
    ∃ s', serviceStart o s = .ok ((ServiceLoop.serviceStart env sv).1, s') ∧
      Matches s' (ServiceLoop.serviceStart env sv).2 := by
  have off : sv.running = false := here.running.symm.trans stopped.running
  have idle : sv.capture.state.running = false :=
    here.captureRunning.symm.trans stopped.captureRunning
  have on : (Unicapture.unicaptureStart sv.capture).2.state.running = true := by
    simp [Unicapture.unicaptureStart, idle, Capture.thread]
  have start := serviceStart_captured stopped captured
  rcases serviceStart_cases env sv with ⟨run, _⟩ | ⟨_, created, _, eq⟩ | ⟨_, failed, eq⟩
  · rw [off] at run
    cases run
  · rw [same, created, if_pos rfl] at start
    rw [eq]
    exact ⟨started s, start, rfl, rfl, on.symm⟩
  · have old := stopped.vsyncThread
    have undone := unicaptureStop_present (o := o) (t := captureStarted s) rfl
      (by simp [captureStarted]) rfl (by simp [captureStarted]; omega)
    rw [vsync, if_pos rfl] at undone
    rw [same, failed, if_neg Bool.false_ne_true, undone, ok_bind] at start
    rw [eq]
    exact ⟨_, start, rfl, rfl, (unicaptureStop_off env.reinit on).symm⟩

def neverRun : State := ⟨false, false, false, false, 0, 0, 0, false, [], 1⟩

theorem stopped_neverRun : Stopped neverRun := ⟨rfl, rfl, rfl, rfl, rfl, by decide⟩

theorem all_or_nothing_neverRun :
    AllOrNothing ⟨true, true, false⟩ neverRun ↔ true = true ∧ true = true :=
  all_or_nothing_iff ⟨true, true, false⟩ neverRun stopped_neverRun

/-- No capture thread can be had: the start returns 0 with its flag set, and the stop
after it joins a thread that is not there. -/
theorem start_not_captured :
    ∃ s', serviceStart ⟨false, true, true⟩ neverRun = .ok (0, s') ∧ s'.captureRunning = true ∧
      s'.mainThread ∉ s'.unjoined ∧ serviceStop ⟨false, true, true⟩ s' = .error .joinsNoThread ∧
      ¬ AllOrNothing ⟨false, true, true⟩ neverRun :=
  ⟨_, rfl, rfl, by decide, rfl, start_without_capture stopped_neverRun rfl⟩

end HyperionWebos.ThreadStarts
