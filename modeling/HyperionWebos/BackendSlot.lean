import HyperionWebos.CaptureThread
import HyperionWebos.ServiceSteps

/-! One capture backend on its own: its pointer, its two flags and the calls it has seen.
The operations of a `Slot` are those of `unicapture.c` restricted to one side, and every
function of the capture thread and of the service acts on each slot as one of them. -/

namespace HyperionWebos.BackendSlot
open Runs Pbnjson SettingsLoad Unicapture CaptureThread ServiceLoop ServiceSteps

structure Slot where
  pointer : Bool
  initialized : Bool
  running : Bool
  calls : List BackendCall

namespace Slot

def call (b : BackendCall) (v : Slot) : Slot := { v with calls := v.calls ++ [b] }

def init (result : LoadResult) (v : Slot) : Int × Slot :=
  match result with
  | .dlopenFailed => (-1, v)
  | .dlsymFailed => (-2, v)
  | .loaded ret => (ret, { v.call (.init ret) with initialized := v.initialized || ret = 0 })

def tryInit : List LoadResult → Slot → Int × Slot
  | [], v => (-1, v)
  | result :: rest, v =>
    if (v.init result).1 = 0 then v.init result else tryInit rest (v.init result).2

/-- The `memset` of `unicapture_init`. -/
def wipe (v : Slot) : Slot := { v with pointer := false, running := false }

def select (disabled auto : Bool) (result : LoadResult) (results : List LoadResult) (v : Slot) :
    Slot :=
  if disabled then { v with pointer := false }
  else
    let tried := if auto then tryInit results { v with pointer := false }
      else init result { v with pointer := false }
    { tried.2 with pointer := decide (tried.1 = 0) }

def reinit (ret : Int) (v : Slot) : Slot :=
  if v.pointer && !v.initialized then
    { v.call (.init ret) with initialized := decide (ret = 0) }
  else v

def attempt (late : Bool) (ret : Int) (v : Slot) : Slot :=
  if late && v.pointer && !v.running then
    { v.call (.start ret) with running := decide (ret = 0) }
  else v

def acquire (ret : Int) (stops : Bool) (v : Slot) : Slot :=
  if v.running then
    if stops && ret = -99 then
      { (v.call (.acquireFrame ret)).call .terminate with running := false }
    else v.call (.acquireFrame ret)
  else v

def release (held : Bool) (v : Slot) : Slot := if held then v.call .releaseFrame else v

/-- One iteration: an attempt to start, a frame acquired, and released if it is valid. -/
def iterate (late : Bool) (start acquire : Int) (stops valid : Bool) (v : Slot) : Slot :=
  let v := v.attempt late start
  (v.acquire acquire stops).release (v.running && acquire = 0 && valid)

def terminate (v : Slot) : Slot :=
  if v.running then { v.call .terminate with running := false } else v

def cleanup (v : Slot) : Slot :=
  if v.pointer && v.initialized then { v.call .cleanup with initialized := false } else v

end Slot

def slot (side : Side) (c : Capture) : Slot where
  pointer := c.state.capture side
  initialized := (c.backend side).initialized
  running := c.state.captureRunning side
  calls := c.calls.filterMap fun call => if call.1 = side then some call.2 else none

theorem ui_ne_video : Side.ui ≠ Side.video := nofun

variable {side side' : Side} {c : Capture}

@[simp] theorem slot_call_self (b : BackendCall) :
    slot side (c.call side b) = (slot side c).call b := by
  simp [slot, Slot.call, Capture.call, List.filterMap_append]

theorem slot_call_other (other : side ≠ side') (b : BackendCall) :
    slot side (c.call side' b) = slot side c := by
  simp [slot, Capture.call, List.filterMap_append, other.symm]

@[simp] theorem slot_setInitialized_self (b : Bool) :
    slot side (c.setInitialized side b) = { slot side c with initialized := b } := by
  simp [slot, Capture.setInitialized]

theorem slot_setInitialized_other (other : side ≠ side') (b : Bool) :
    slot side (c.setInitialized side' b) = slot side c := by
  simp [slot, Capture.setInitialized, other]

@[simp] theorem slot_setCapture_self (b : Bool) :
    slot side (c.setCapture side b) = { slot side c with pointer := b } := by
  simp [slot, Capture.setCapture]

theorem slot_setCapture_other (other : side ≠ side') (b : Bool) :
    slot side (c.setCapture side' b) = slot side c := by
  simp [slot, Capture.setCapture, other]

@[simp] theorem slot_setCaptureRunning_self (b : Bool) :
    slot side (c.setCaptureRunning side b) = { slot side c with running := b } := by
  simp [slot, Capture.setCaptureRunning]

theorem slot_setCaptureRunning_other (other : side ≠ side') (b : Bool) :
    slot side (c.setCaptureRunning side' b) = slot side c := by
  simp [slot, Capture.setCaptureRunning, other]

theorem slot_reinit_self (ret : Side → Int) :
    slot side (reinit ret side c) = (slot side c).reinit (ret side) := by
  rw [reinit, Slot.reinit]
  cases pointer : c.state.capture side <;> cases live : (c.backend side).initialized <;>
    by_cases ok : ret side = 0 <;> simp [slot, Slot.call, Capture.call, Capture.setInitialized,
      List.filterMap_append, pointer, live, ok]

theorem slot_reinit_other (other : side ≠ side') (ret : Side → Int) :
    slot side (reinit ret side' c) = slot side c := by
  rw [reinit]
  split
  · dsimp only
    split
    · rw [slot_setInitialized_other other, slot_call_other other]
    · rw [slot_call_other other]
  · rfl

theorem slot_attemptStart_self (it : Iteration) (lastStart : Side → UInt64) :
    slot side (attemptStart it side lastStart c).2 =
      (slot side c).attempt (decide (it.now - lastStart side > 1000000)) (it.start side) := by
  rw [attemptStart, Slot.attempt]
  cases late : decide (it.now - lastStart side > 1000000) <;>
    cases pointer : c.state.capture side <;> cases run : c.state.captureRunning side <;>
      by_cases ok : it.start side = 0 <;> simp [gateOpen, slot, Slot.call, Capture.call,
        Capture.setCaptureRunning, List.filterMap_append, late, pointer, run, ok]

theorem slot_attemptStart_other (other : side ≠ side') (it : Iteration)
    (lastStart : Side → UInt64) :
    slot side (attemptStart it side' lastStart c).2 = slot side c := by
  rw [attemptStart]
  split
  · dsimp only
    split
    · rw [slot_setCaptureRunning_other other, slot_call_other other]
    · rw [slot_call_other other]
  · rfl

theorem attemptStart_lastStart_other (other : side ≠ side') (it : Iteration)
    (lastStart : Side → UInt64) :
    (attemptStart it side' lastStart c).1 side = lastStart side := by
  rw [attemptStart]
  split
  · exact Function.update_of_ne other _ _
  · rfl

theorem slot_acquireUi (it : Iteration) (c : Capture) :
    slot .ui (acquireUi it c).2 = (slot .ui c).acquire (it.acquire .ui) false := by
  rw [acquireUi, Slot.acquire]
  cases run : c.state.captureRunning .ui with
  | true =>
    have on : (slot .ui c).running = true := run
    rw [on]
    by_cases ok : it.acquire .ui = 0 <;> simp [ok]
  | false =>
    have off : (slot .ui c).running = false := run
    rw [off]
    rfl

theorem slot_acquireUi_video (it : Iteration) (c : Capture) :
    slot .video (acquireUi it c).2 = slot .video c := by
  rw [acquireUi]
  split
  · dsimp only
    split <;> exact slot_call_other ui_ne_video.symm _
  · rfl

theorem slot_acquireVideo (it : Iteration) (c : Capture) :
    slot .video (acquireVideo it c).2 = (slot .video c).acquire (it.acquire .video) true := by
  rw [acquireVideo, Slot.acquire]
  cases run : c.state.captureRunning .video with
  | true =>
    have on : (slot .video c).running = true := run
    rw [on]
    by_cases stop : it.acquire .video = -99 <;> by_cases ok : it.acquire .video = 0 <;>
      simp [stop, ok]
  | false =>
    have off : (slot .video c).running = false := run
    rw [off]
    rfl

theorem slot_acquireVideo_ui (it : Iteration) (c : Capture) :
    slot .ui (acquireVideo it c).2 = slot .ui c := by
  rw [acquireVideo]
  split
  · dsimp only
    split
    · split
      · rw [slot_setCaptureRunning_other ui_ne_video, slot_call_other ui_ne_video,
          slot_call_other ui_ne_video]
      · rw [slot_call_other ui_ne_video]
    · rw [slot_call_other ui_ne_video]
  · rfl

theorem acquireUi_format (it : Iteration) (c : Capture) :
    decide ((acquireUi it c).1 ≠ .invalid) = ((slot .ui c).running &&
      decide (it.acquire .ui = 0) && decide (it.format .ui ≠ .invalid)) := by
  rw [acquireUi, slot]
  cases c.state.captureRunning .ui <;> by_cases ok : it.acquire .ui = 0 <;> simp [ok]

theorem acquireVideo_format (it : Iteration) (c : Capture) :
    decide ((acquireVideo it c).1 ≠ .invalid) = ((slot .video c).running &&
      decide (it.acquire .video = 0) && decide (it.format .video ≠ .invalid)) := by
  rw [acquireVideo, slot]
  cases c.state.captureRunning .video <;> by_cases ok : it.acquire .video = 0 <;>
    by_cases stop : it.acquire .video = -99 <;> simp [ok, stop]

theorem slot_release_self (format : PixelFormat) :
    slot side (release side format c) =
      (slot side c).release (decide (format ≠ .invalid)) := by
  by_cases invalid : format = .invalid <;> simp [release, Slot.release, invalid]

theorem slot_release_other (other : side ≠ side') (format : PixelFormat) :
    slot side (release side' format c) = slot side c := by
  rw [release]
  split
  · exact slot_call_other other _
  · rfl

def stopsOn99 (side : Side) : Bool := decide (side = .video)

theorem slot_runIteration (it : Iteration) (lastStart : Side → UInt64) (c : Capture) :
    slot side (runIteration it lastStart c) =
      (slot side c).iterate (decide (it.now - lastStart side > 1000000)) (it.start side)
        (it.acquire side) (stopsOn99 side) (decide (it.format side ≠ .invalid)) := by
  have stages (c₂ : Capture)
      (attempts : (attemptStart it .video (attemptStart it .ui lastStart c).1
        (attemptStart it .ui lastStart c).2).2 = c₂) :
      slot side (runIteration it lastStart c) =
        slot side (release .video (acquireVideo it (acquireUi it c₂).2).1
          (release .ui (acquireUi it c₂).1 (acquireVideo it (acquireUi it c₂).2).2)) := by
    rw [← attempts]
    rfl
  rw [stages _ rfl]
  cases side with
  | ui =>
    rw [slot_release_other ui_ne_video, slot_release_self, acquireUi_format, slot_acquireVideo_ui,
      slot_acquireUi, slot_attemptStart_other ui_ne_video, slot_attemptStart_self]
    rfl
  | video =>
    rw [slot_release_self, slot_release_other ui_ne_video.symm, acquireVideo_format,
      slot_acquireVideo, slot_acquireUi_video, slot_attemptStart_self,
      attemptStart_lastStart_other ui_ne_video.symm, slot_attemptStart_other ui_ne_video.symm]
    rfl

theorem slot_terminateIfRunning_self :
    slot side (terminateIfRunning side c) = (slot side c).terminate := by
  rw [terminateIfRunning, Slot.terminate]
  cases run : c.state.captureRunning side with
  | true => simp [show (slot side c).running = true from run]
  | false => simp [show (slot side c).running = false from run]

theorem slot_terminateIfRunning_other (other : side ≠ side') :
    slot side (terminateIfRunning side' c) = slot side c := by
  rw [terminateIfRunning]
  split
  · rw [slot_setCaptureRunning_other other, slot_call_other other]
  · rfl

theorem slot_cleanupIfInitialized_self :
    slot side (cleanupIfInitialized side c) = (slot side c).cleanup := by
  rw [cleanupIfInitialized, Slot.cleanup]
  cases live : c.state.capture side && (c.backend side).initialized with
  | true =>
    simp [show ((slot side c).pointer && (slot side c).initialized) = true from live]
  | false =>
    simp [show ((slot side c).pointer && (slot side c).initialized) = false from live]

theorem slot_cleanupIfInitialized_other (other : side ≠ side') :
    slot side (cleanupIfInitialized side' c) = slot side c := by
  rw [cleanupIfInitialized]
  split
  · rw [slot_setInitialized_other other, slot_call_other other]
  · rfl

theorem slot_runHead (ret : Side → Int) (c : Capture) :
    slot side (runHead ret c) = (slot side c).reinit (ret side) := by
  have inits : slot side (runHead ret c) = slot side (reinit ret .video (reinit ret .ui c)) := rfl
  rw [inits]
  cases side with
  | ui => rw [slot_reinit_other ui_ne_video, slot_reinit_self]
  | video => rw [slot_reinit_self, slot_reinit_other ui_ne_video.symm]

theorem slot_runShutdown (c : Capture) :
    slot side (runShutdown c) = (slot side c).terminate.cleanup := by
  have stages : slot side (runShutdown c) = slot side (cleanupIfInitialized .video
      (cleanupIfInitialized .ui (terminateIfRunning .video (terminateIfRunning .ui
        (setVsyncThreadRunning false c))))) := rfl
  have vsync : slot side (setVsyncThreadRunning false c) = slot side c := rfl
  rw [stages, ← vsync]
  cases side with
  | ui =>
    rw [slot_cleanupIfInitialized_other ui_ne_video, slot_cleanupIfInitialized_self,
      slot_terminateIfRunning_other ui_ne_video, slot_terminateIfRunning_self]
  | video =>
    rw [slot_cleanupIfInitialized_self, slot_cleanupIfInitialized_other ui_ne_video.symm,
      slot_terminateIfRunning_self, slot_terminateIfRunning_other ui_ne_video.symm]

theorem slot_unicaptureStart (c : Capture) :
    slot side (unicaptureStart c).2 = slot side c := by
  rw [unicaptureStart]
  split <;> rfl

theorem slot_unicaptureLoadLutTable (file : LutFile) (c : Capture) :
    slot side (unicaptureLoadLutTable file c).2 = slot side c := by
  rw [unicaptureLoadLutTable]
  cases c.state.lutTable with
  | none =>
    dsimp only
    repeat' split
    all_goals rfl
  | some id =>
    dsimp only
    repeat' split
    all_goals rfl

theorem slot_unicaptureInitBackend_self (load : String → LoadResult) (config : CapBackendConfig)
    (name : String) (c : Capture) :
    (unicaptureInitBackend load config side name c).1 = ((slot side c).init (load name)).1 ∧
      slot side (unicaptureInitBackend load config side name c).2 =
        ((slot side c).init (load name)).2 := by
  simp only [unicaptureInitBackend, Slot.init]
  cases load name with
  | dlopenFailed => exact ⟨rfl, rfl⟩
  | dlsymFailed => exact ⟨rfl, rfl⟩
  | loaded ret =>
    by_cases ok : ret = 0 <;>
      simp [slot, Slot.call, Capture.call, List.filterMap_append, ok]

theorem slot_unicaptureInitBackend_other (other : side ≠ side') (load : String → LoadResult)
    (config : CapBackendConfig) (name : String) (c : Capture) :
    slot side (unicaptureInitBackend load config side' name c).2 = slot side c := by
  rw [unicaptureInitBackend]
  cases load name with
  | dlopenFailed => rfl
  | dlsymFailed => rfl
  | loaded ret =>
    by_cases ok : ret = 0 <;>
      simp [slot, Capture.call, List.filterMap_append, ok, other, other.symm]

theorem slot_unicaptureTryBackends_self (load : String → LoadResult) (config : CapBackendConfig)
    (names : List String) (c : Capture) :
    (unicaptureTryBackends load config side names c).1 =
        ((slot side c).tryInit (names.map load)).1 ∧
      slot side (unicaptureTryBackends load config side names c).2 =
        ((slot side c).tryInit (names.map load)).2 := by
  induction names generalizing c with
  | nil => exact ⟨rfl, rfl⟩
  | cons name rest ih =>
    obtain ⟨ret, after⟩ := @slot_unicaptureInitBackend_self side load config name c
    rw [unicaptureTryBackends, List.map_cons, Slot.tryInit]
    dsimp only
    by_cases ok : (unicaptureInitBackend load config side name c).1 = 0
    · rw [if_pos ok, if_pos (ret ▸ ok)]
      exact ⟨ok.symm.trans ret, after⟩
    · rw [if_neg ok, if_neg (ret ▸ ok), ← after]
      exact ih _

theorem slot_unicaptureTryBackends_other (other : side ≠ side') (load : String → LoadResult)
    (config : CapBackendConfig) (names : List String) (c : Capture) :
    slot side (unicaptureTryBackends load config side' names c).2 = slot side c := by
  induction names generalizing c with
  | nil => rfl
  | cons name rest ih =>
    have init := slot_unicaptureInitBackend_other other load config name c
    rw [unicaptureTryBackends]
    dsimp only
    split
    · exact init
    · rw [ih, init]

theorem slot_pointer_cleared {c' : Capture} (same : Undisturbed (c.setCapture side false) c') :
    slot side c' = { slot side c' with pointer := false } := by
  have cleared : (slot side c').pointer = false := by
    have kept : c'.state.capture side = Function.update c.state.capture side false side :=
      congrFun same.capture side
    exact kept.trans (Function.update_self ..)
  rw [← cleared]

theorem slot_selectBackend_self (load : String → LoadResult) (config : CapBackendConfig)
    (disabled : Bool) (backend : Option String) (candidates : List String) (c : Capture) :
    slot side (selectBackend load config side disabled backend candidates c) =
      (slot side c).select disabled (isAuto backend) (load (backendName (backend.getD "")))
        (candidates.map load) := by
  have cleared : slot side (c.setCapture side false) = { slot side c with pointer := false } :=
    slot_setCapture_self false
  rw [selectBackend, Slot.select]
  dsimp only
  split
  · exact cleared
  · split
    · obtain ⟨ret, after⟩ := @slot_unicaptureTryBackends_self side load config candidates
        (c.setCapture side false)
      rw [cleared] at ret after
      by_cases ok : (unicaptureTryBackends load config side candidates
          (c.setCapture side false)).1 = 0
      · simp [ok, ← ret, ← after]
      · simp only [ok, if_false, ← ret, ← after, decide_false]
        exact slot_pointer_cleared (unicaptureTryBackends_undisturbed load config side _ _)
    · obtain ⟨ret, after⟩ := @slot_unicaptureInitBackend_self side load config
        (backendName (backend.getD "")) (c.setCapture side false)
      rw [cleared] at ret after
      by_cases ok : (unicaptureInitBackend load config side (backendName (backend.getD ""))
          (c.setCapture side false)).1 = 0
      · simp [ok, ← ret, ← after]
      · simp only [ok, if_false, ← ret, ← after, decide_false]
        exact slot_pointer_cleared (unicaptureInitBackend_undisturbed load config side _ _)

theorem slot_selectBackend_other (other : side ≠ side') (load : String → LoadResult)
    (config : CapBackendConfig) (disabled : Bool) (backend : Option String)
    (candidates : List String) (c : Capture) :
    slot side (selectBackend load config side' disabled backend candidates c) = slot side c := by
  rw [selectBackend]
  dsimp only
  split
  · exact slot_setCapture_other other false
  · split
    · have tried := slot_unicaptureTryBackends_other other load config candidates
        (c.setCapture side' false)
      split <;> simp [slot_setCapture_other other, tried]
    · have tried := slot_unicaptureInitBackend_other other load config
        (backendName (backend.getD "")) (c.setCapture side' false)
      split <;> simp [slot_setCapture_other other, tried]

/-- What the main loop and the two ends of the capture thread do to every slot. -/
structure Keeps (Q : Slot → Prop) : Prop where
  reinit : ∀ ret v, Q v → Q (v.reinit ret)
  finish : ∀ v : Slot, Q v → Q v.terminate.cleanup
  fresh : ∀ (v : Slot) disabled auto result results, Q v →
    Q (v.cleanup.wipe.select disabled auto result results)

variable {Q : Slot → Prop}

theorem runToEnd_slots (keeps : Keeps Q) (ret : Side → Int) {c : Capture}
    (here : Q (slot side c)) : Q (slot side (runToEnd ret c)) := by
  rw [runToEnd]
  split
  · exact here
  · rw [slot_runShutdown, slot_runHead]
    exact keeps.finish _ (keeps.reinit _ _ here)
  · rw [slot_runShutdown]
    exact keeps.finish _ here

theorem unicaptureStop_slots (keeps : Keeps Q) (ret : Side → Int) {c : Capture}
    (here : Q (slot side c)) : Q (slot side (unicaptureStop ret c).2) := by
  rw [unicaptureStop]
  split
  · exact here
  · have idle : slot side { c with state := { c.state with running := false } } = slot side c := rfl
    exact runToEnd_slots keeps ret (idle ▸ here)

theorem serviceStart_slots (keeps : Keeps Q) (env : Env) {s : Service}
    (here : Q (slot side s.capture)) : Q (slot side (serviceStart env s).2.capture) := by
  rcases serviceStart_cases env s with ⟨_, eq⟩ | ⟨_, _, _, eq⟩ | ⟨_, _, eq⟩
  · rw [eq]
    exact here
  · rw [eq]
    exact (slot_unicaptureStart s.capture).symm ▸ here
  · rw [eq]
    exact unicaptureStop_slots keeps env.reinit ((slot_unicaptureStart s.capture).symm ▸ here)

theorem serviceStop_slots (keeps : Keeps Q) (env : Env) {s : Service}
    (here : Q (slot side s.capture)) : Q (slot side (serviceStop env s).2.capture) := by
  rcases serviceStop_cases env s with ⟨_, eq⟩ | ⟨_, _, eq⟩
  · rw [eq]
    exact here
  · rw [eq]
    exact unicaptureStop_slots keeps env.reinit here

theorem slot_serviceDestroy (env : Env) (s : Service) :
    slot side (serviceDestroy env s).2.capture =
      (slot side (serviceStop env s).2.capture).cleanup := by
  have stages : (serviceDestroy env s).2.capture =
    cleanupIfInitialized .video (cleanupIfInitialized .ui (serviceStop env s).2.capture) := rfl
  rw [stages]
  cases side with
  | ui => rw [slot_cleanupIfInitialized_other ui_ne_video, slot_cleanupIfInitialized_self]
  | video =>
    rw [slot_cleanupIfInitialized_self, slot_cleanupIfInitialized_other ui_ne_video.symm]

theorem slot_clearedCapture (env : Env) (settings : Settings) (c : Capture) :
    slot side (clearedCapture env settings c) = (slot side c).wipe :=
  slot_unicaptureLoadLutTable _ _

theorem slot_serviceInit (env : Env) (settings : Settings) (s : Service) (side : Side) :
    ∃ disabled auto result results, slot side (serviceInit env settings s).capture =
      (slot side s.capture).wipe.select disabled auto result results := by
  rw [serviceInit_capture, ← slot_clearedCapture env settings]
  cases side with
  | ui =>
    rw [slot_selectBackend_other ui_ne_video, slot_selectBackend_self]
    exact ⟨_, _, _, _, rfl⟩
  | video =>
    rw [slot_selectBackend_self, slot_selectBackend_other ui_ne_video.symm]
    exact ⟨_, _, _, _, rfl⟩

/-- A restart may end what held of a slot and begin something else. -/
theorem serviceRestart_renews {Q' : Slot → Prop} (stops : Keeps Q) (starts : Keeps Q')
    (fresh : ∀ (v : Slot) disabled auto result results, Q v →
      Q' (v.cleanup.wipe.select disabled auto result results))
    (env : Env) {s : Service} (here : Q (slot side s.capture)) :
    Q' (slot side (serviceRestart env s).capture) := by
  have renewed (settings : Settings) :
      Q' (slot side (serviceInit env settings (serviceDestroy env s).2).capture) := by
    obtain ⟨disabled, auto, result, results, eq⟩ :=
      slot_serviceInit env settings (serviceDestroy env s).2 side
    rw [eq, slot_serviceDestroy]
    exact fresh _ _ _ _ _ (serviceStop_slots stops env here)
  rw [serviceRestart_eq]
  split
  · exact serviceStart_slots starts env (renewed _)
  · exact renewed _

theorem serviceRestart_slots (keeps : Keeps Q) (env : Env) {s : Service}
    (here : Q (slot side s.capture)) : Q (slot side (serviceRestart env s).capture) :=
  serviceRestart_renews keeps keeps keeps.fresh env here

def Iterates (s : Service) (e : Event) (it : Iteration) (lastStart : Side → UInt64) : Prop :=
  e.action = .captureThread it ∧ s.capture.phase = .looping lastStart ∧
    s.capture.state.running = true

def iterated (side : Side) (it : Iteration) (lastStart : Side → UInt64) (c : Capture) : Slot :=
  (slot side c).iterate (decide (it.now - lastStart side > 1000000)) (it.start side)
    (it.acquire side) (stopsOn99 side) (decide (it.format side ≠ .invalid))

theorem step_slots (keeps : Keeps Q) {s s' : Service} {e : Event} (h : step s e = .ok s')
    (iterate : ∀ it lastStart, Iterates s e it lastStart → Q (slot side s.capture) →
      Q (iterated side it lastStart s.capture))
    (here : Q (slot side s.capture)) : Q (slot side s'.capture) := by
  refine @step_invariant s s' (fun t => Q (slot side t.capture)) e (fun _ _ _ _ _ here => here)
    (fun env _ here => serviceStart_slots keeps env here)
    (fun env _ here => serviceStop_slots keeps env here)
    (fun _ _ env _ _ here => serviceRestart_slots keeps env here) ?_ h here
  intro it action here
  dsimp only [captureStep]
  split
  · exact here
  · rw [slot_runHead]
    exact keeps.reinit _ _ here
  · next lastStart phase =>
    split
    · next on =>
      rw [slot_runIteration]
      exact iterate it lastStart ⟨action, phase, on⟩ here
    · rw [slot_runShutdown]
      exact keeps.finish _ here

end HyperionWebos.BackendSlot
