import HyperionWebos.BackendSlot
import HyperionWebos.Spacing

/-! When the capture thread tries to start a backend. In each capture session a backend that
could be started is started at the readings of the clock that are more than a second past
the last attempt, and at no others, whatever the handlers do and the calls return. -/

namespace HyperionWebos.RetryGates
open Runs Pbnjson SettingsLoad Unicapture CaptureThread ServiceLoop ServiceSteps BackendSlot Spacing

/-- The gate of `unicapture_run`, wrapping as the clock does. -/
def overASecond (last now : UInt64) : Bool := decide (now - last > 1000000)

/-- Readings of the clock in a capture session: those of the iterations that find a backend
that is not running, and one for each call of its `capture_start`. -/
structure Readings where
  startable : List UInt64
  attempts : List UInt64

def startable (v : Slot) : Bool := v.pointer && !v.running

def isStart : BackendCall → Bool
  | .start _ => true
  | _ => false

def starts (v : Slot) : Nat := v.calls.countP isStart

def record (side : Side) (r : Readings) (s : Service) (e : Event) (s' : Service) : Readings :=
  match e.action, s.capture.phase with
  | .captureThread it, .looping _ =>
    { startable := r.startable ++ if startable (slot side s.capture) then [it.now] else []
      attempts := r.attempts ++
        List.replicate (starts (slot side s'.capture) - starts (slot side s.capture)) it.now }
  | .captureThread _, _ => ⟨[], []⟩
  | _, _ => r

/-! ### One iteration -/

theorem starts_call (b : BackendCall) (v : Slot) :
    starts (v.call b) = starts v + if isStart b then 1 else 0 := by
  rw [starts, Slot.call, List.countP_append, List.countP_singleton]
  rfl

theorem starts_attempt (late : Bool) (ret : Int) (v : Slot) :
    starts (v.attempt late ret) = starts v + if late && startable v then 1 else 0 := by
  rw [Slot.attempt, startable, ← Bool.and_assoc]
  split
  · exact starts_call (.start ret) v
  · rfl

theorem starts_acquire (ret : Int) (stops : Bool) (v : Slot) :
    starts (v.acquire ret stops) = starts v := by
  rw [Slot.acquire]
  split
  · split
    · exact (starts_call .terminate _).trans (starts_call (.acquireFrame ret) v)
    · exact starts_call (.acquireFrame ret) v
  · rfl

theorem starts_release (held : Bool) (v : Slot) : starts (v.release held) = starts v := by
  rw [Slot.release]
  split
  · exact starts_call .releaseFrame v
  · rfl

theorem starts_iterate (late : Bool) (start acquire : Int) (stops valid : Bool) (v : Slot) :
    starts (v.iterate late start acquire stops valid) =
      starts v + if late && startable v then 1 else 0 := by
  rw [Slot.iterate, starts_release, starts_acquire, starts_attempt]

theorem attemptStart_lastStart (it : Iteration) (side : Side) (lastStart : Side → UInt64)
    (c : Capture) : (attemptStart it side lastStart c).1 side =
      if overASecond (lastStart side) it.now && startable (slot side c) then it.now
      else lastStart side := by
  have gate : gateOpen side it.now lastStart c =
      (overASecond (lastStart side) it.now && startable (slot side c)) := Bool.and_assoc ..
  rw [attemptStart, ← gate]
  split
  · exact Function.update_self side it.now lastStart
  · rfl

theorem runIteration_lastStart (it : Iteration) (side : Side) (lastStart : Side → UInt64)
    (c : Capture) : ∃ last, (runIteration it lastStart c).phase = .looping last ∧
      last side = if overASecond (lastStart side) it.now && startable (slot side c) then it.now
        else lastStart side := by
  refine ⟨(attemptStart it .video (attemptStart it .ui lastStart c).1
    (attemptStart it .ui lastStart c).2).1, rfl, ?_⟩
  cases side with
  | ui => rw [attemptStart_lastStart_other ui_ne_video, attemptStart_lastStart]
  | video =>
    have own := attemptStart_lastStart it .video (attemptStart it .ui lastStart c).1
      (attemptStart it .ui lastStart c).2
    rw [attemptStart_lastStart_other ui_ne_video.symm,
      slot_attemptStart_other ui_ne_video.symm] at own
    exact own

/-! ### Handlers -/

def SameLoop (c c' : Capture) : Prop :=
  ∀ lastStart, c'.phase = .looping lastStart → c.phase = .looping lastStart

theorem cleanupIfInitialized_phase (side : Side) (c : Capture) :
    (cleanupIfInitialized side c).phase = c.phase := by
  rw [cleanupIfInitialized]
  split
  · rfl
  · rfl

theorem unicaptureInitBackend_phase (load : String → LoadResult) (config : CapBackendConfig)
    (side : Side) (name : String) (c : Capture) :
    (unicaptureInitBackend load config side name c).2.phase = c.phase := by
  rw [unicaptureInitBackend]
  split
  · rfl
  · rfl
  · dsimp only
    split
    · rfl
    · rfl

theorem unicaptureTryBackends_phase (load : String → LoadResult) (config : CapBackendConfig)
    (side : Side) (names : List String) (c : Capture) :
    (unicaptureTryBackends load config side names c).2.phase = c.phase := by
  induction names generalizing c with
  | nil => rfl
  | cons name rest ih =>
    have tried := unicaptureInitBackend_phase load config side name c
    rw [unicaptureTryBackends]
    dsimp only
    split
    · exact tried
    · exact (ih _).trans tried

theorem selectBackend_phase (load : String → LoadResult) (config : CapBackendConfig) (side : Side)
    (disabled : Bool) (backend : Option String) (candidates : List String) (c : Capture) :
    (selectBackend load config side disabled backend candidates c).phase = c.phase := by
  rw [selectBackend]
  dsimp only
  split
  · rfl
  · split
    · have tried := unicaptureTryBackends_phase load config side candidates
        (c.setCapture side false)
      split
      · exact tried
      · exact tried
    · have tried := unicaptureInitBackend_phase load config side (backendName (backend.getD ""))
        (c.setCapture side false)
      split
      · exact tried
      · exact tried

theorem unicaptureLoadLutTable_phase (file : LutFile) (c : Capture) :
    (unicaptureLoadLutTable file c).2.phase = c.phase := by
  rw [unicaptureLoadLutTable]
  cases c.state.lutTable with
  | none =>
    dsimp only
    repeat' split
    all_goals rfl
  | some id =>
    dsimp only
    repeat' split
    all_goals rfl

theorem serviceInit_phase (env : Env) (settings : Settings) (s : Service) :
    (serviceInit env settings s).capture.phase = s.capture.phase := by
  rw [serviceInit_capture, selectBackend_phase, selectBackend_phase]
  exact unicaptureLoadLutTable_phase _ _

theorem unicaptureStop_sameLoop (ret : Side → Int) (c : Capture) :
    SameLoop c (unicaptureStop ret c).2 := by
  rw [unicaptureStop]
  split
  · exact fun _ same => same
  · intro lastStart looping
    dsimp only [Capture.thread] at looping
    unfold runToEnd at looping
    split at looping
    · exact looping
    · cases looping
    · cases looping

theorem serviceStart_sameLoop (env : Env) (s : Service) :
    SameLoop s.capture (serviceStart env s).2.capture := by
  have started : SameLoop s.capture (unicaptureStart s.capture).2 := by
    rw [unicaptureStart]
    split
    · exact fun _ same => same
    · intro lastStart looping
      cases looping
  rcases serviceStart_cases env s with ⟨_, eq⟩ | ⟨_, _, _, eq⟩ | ⟨_, _, eq⟩
  · rw [eq]
    exact fun _ same => same
  · rw [eq]
    exact started
  · rw [eq]
    exact fun lastStart looping => started _ (unicaptureStop_sameLoop env.reinit _ _ looping)

theorem serviceStop_sameLoop (env : Env) (s : Service) :
    SameLoop s.capture (serviceStop env s).2.capture := by
  rcases serviceStop_cases env s with ⟨_, eq⟩ | ⟨_, _, eq⟩
  · rw [eq]
    exact fun _ same => same
  · rw [eq]
    exact unicaptureStop_sameLoop env.reinit s.capture

theorem serviceRestart_sameLoop (env : Env) (s : Service) :
    SameLoop s.capture (serviceRestart env s).capture := by
  have fresh (settings : Settings) :
      SameLoop s.capture (serviceInit env settings (serviceDestroy env s).2).capture := by
    intro lastStart looping
    rw [serviceInit_phase, serviceDestroy, cleanupIfInitialized_phase, cleanupIfInitialized_phase]
      at looping
    exact serviceStop_sameLoop env s lastStart looping
  rw [serviceRestart_eq]
  split
  · exact fun lastStart looping => fresh _ lastStart (serviceStart_sameLoop env _ _ looping)
  · exact fresh _

theorem step_sameLoop {s s' : Service} {e : Event} (taken : step s e = .ok s')
    (handler : ∀ it, e.action ≠ .captureThread it) : SameLoop s.capture s'.capture := by
  have through {a b c : Capture} (first : SameLoop a b) (second : SameLoop b c) : SameLoop a c :=
    fun lastStart looping => first lastStart (second lastStart looping)
  exact @step_invariant s s' (fun t => SameLoop s.capture t.capture) e
    (fun _ _ _ _ _ same => same)
    (fun env t same => through same (serviceStart_sameLoop env t))
    (fun env t same => through same (serviceStop_sameLoop env t))
    (fun _ _ env t settings same =>
      through same (serviceRestart_sameLoop env { t with settings := settings }))
    (fun it thread _ => absurd thread (handler it)) taken (fun _ same => same)

/-! ### A session -/

def Gated (side : Side) (s : Service) (r : Readings) : Prop :=
  ∀ lastStart, s.capture.phase = .looping lastStart →
    r.attempts = spaced overASecond 0 r.startable ∧
      lastStart side = latest overASecond 0 r.startable

theorem iteration_gated {side : Side} {s s' : Service} {r : Readings} {it : Iteration}
    {lastStart : Side → UInt64} (phase : s.capture.phase = .looping lastStart)
    (attempts : r.attempts = spaced overASecond 0 r.startable)
    (last : lastStart side = latest overASecond 0 r.startable)
    (after : s'.capture = runIteration it lastStart s.capture) (env : Env) :
    Gated side s' (record side r s ⟨.captureThread it, env⟩ s') := by
  have counted : starts (slot side s'.capture) - starts (slot side s.capture) =
      if overASecond (lastStart side) it.now && startable (slot side s.capture) then 1 else 0 := by
    rw [after, slot_runIteration, starts_iterate, Nat.add_sub_cancel_left]
    rfl
  intro lastStart' phase'
  obtain ⟨next, looping, latest'⟩ := runIteration_lastStart it side lastStart s.capture
  rw [after, looping] at phase'
  cases phase'
  simp only [record, phase, counted, latest', attempts]
  cases ready : startable (slot side s.capture) with
  | false => simp [last]
  | true =>
    rw [if_pos rfl, latest_snoc, spaced_append, ← last, spaced, Bool.and_true]
    cases overASecond (lastStart side) it.now with
    | false => simp [spaced]
    | true => simp [spaced]

theorem step_gated {side : Side} {s s' : Service} {r : Readings} {e : Event}
    (gated : Gated side s r) (taken : step s e = .ok s') :
    Gated side s' (record side r s e s') := by
  obtain ⟨action, env⟩ := e
  by_cases thread : ∃ it, action = .captureThread it
  · obtain ⟨it, rfl⟩ := thread
    cases taken
    cases phase : s.capture.phase with
    | absent =>
      intro lastStart looping
      simp [captureStep, phase] at looping
    | created =>
      intro lastStart looping
      simp only [captureStep, phase] at looping
      cases looping
      simp [record, phase, spaced, latest]
    | looping lastStart =>
      obtain ⟨attempts, last⟩ := gated lastStart phase
      by_cases on : s.capture.state.running = true
      · refine iteration_gated phase attempts last ?_ env
        simp [captureStep, phase, on]
      · intro lastStart' looping
        simp only [captureStep, phase, if_neg on] at looping
        cases looping
  · have handler : ∀ it, action ≠ .captureThread it := fun it is => thread ⟨it, is⟩
    have unrecorded : record side r s ⟨action, env⟩ s' = r := by
      cases action with
      | captureThread it => exact absurd rfl (handler it)
      | _ => rfl
    rw [unrecorded]
    exact fun lastStart looping => gated lastStart (step_sameLoop taken handler lastStart looping)

theorem overASecond_iff {last now : UInt64} (order : last ≤ now) :
    overASecond last now = true ↔ last.toNat + 1000000 < now.toNat := by
  have apart : (now - last).toNat = now.toNat - last.toNat := UInt64.toNat_sub_of_le now last order
  have value : (1000000 : UInt64).toNat = 1000000 := rfl
  have ordered : last.toNat ≤ now.toNat := UInt64.le_iff_toNat_le.mp order
  rw [overASecond, decide_eq_true_eq, gt_iff_lt, UInt64.lt_iff_toNat_lt, apart, value]
  omega

theorem attempts_apart {last : UInt64} {readings : List UInt64}
    (ordered : (last :: readings).Pairwise (· ≤ ·)) :
    List.IsChain (fun s t => s.toNat + 1000000 < t.toNat)
      (last :: spaced overASecond last readings) :=
  (spaced_chain ordered).imp fun _ _ here => (overASecond_iff here.2).mp here.1

/-- In every run and for either backend: in a capture session `capture_start` is called once
at each reading more than a second past that of the last call, of those that find the
backend not running, and at no others. On a clock that never goes back, `n` further calls
take more than `n` seconds. -/
theorem attempts_spaced (env : Env) (handle handleLegacy : Option Nat) (settings : Settings)
    (es : List Event) (s : Service) (r : Readings) (side : Side) (lastStart : Side → UInt64)
    (ran : run (watched step (record side)) (boot env handle handleLegacy settings, ⟨[], []⟩) es =
      .ok (s, r))
    (looping : s.capture.phase = .looping lastStart) :
    r.attempts = spaced overASecond 0 r.startable ∧
      (r.startable.Pairwise (· ≤ ·) → ∀ t rest u, r.attempts = t :: rest →
        r.attempts.getLast? = some u →
          1000000 < t.toNat ∧ t.toNat + rest.length * 1000001 ≤ u.toNat) := by
  have start : Gated side (boot env handle handleLegacy settings) ⟨[], []⟩ := by
    intro lastStart looping
    rw [boot, serviceInit_phase] at looping
    cases looping
  have keeps : ∀ p e q, Gated side p.1 p.2 → watched step (record side) p e = .ok q →
      Gated side q.1 q.2 := by
    intro p e q gated taken
    obtain ⟨stepped, seen⟩ := watched_ok.mp taken
    rw [seen]
    exact step_gated gated stepped
  have gated : Gated side (s, r).1 (s, r).2 := run_invariant keeps start ran
  obtain ⟨attempts, _⟩ := gated lastStart looping
  refine ⟨attempts, fun ordered t rest u first last => ?_⟩
  have above : ((0 : UInt64) :: r.startable).Pairwise (· ≤ ·) :=
    List.pairwise_cons.mpr ⟨fun t _ => UInt64.le_iff_toNat_le.mpr (Nat.zero_le _), ordered⟩
  have apart := attempts_apart above
  rw [← attempts, first] at apart
  rw [first] at last
  obtain ⟨here, later⟩ := List.isChain_cons_cons.mp apart
  have zero : (0 : UInt64).toNat = 0 := rfl
  rw [zero, Nat.zero_add] at here
  exact ⟨here, chain_span later last⟩

def stubborn (now : UInt64) : Event :=
  ⟨.captureThread ⟨now, fun _ => -1, fun _ => 0, fun _ => .argb⟩, calm⟩

def stubbornRun : List Event :=
  ⟨.start, calm⟩ :: [0, 900000, 2000000, 2700000, 3000001].map stubborn

theorem attempts_spaced_stubborn :
    ∃ s r, run (watched step (record .video))
        (boot { calm with load := fun _ _ => .loaded 0 } none none settingsInit, ⟨[], []⟩)
        stubbornRun = .ok (s, r) ∧
      r.startable = [900000, 2000000, 2700000, 3000001] ∧
      r.attempts = spaced overASecond 0 r.startable ∧
        (r.startable.Pairwise (· ≤ ·) → ∀ t rest u, r.attempts = t :: rest →
          r.attempts.getLast? = some u →
            1000000 < t.toNat ∧ t.toNat + rest.length * 1000001 ≤ u.toNat) :=
  ⟨_, _, rfl, rfl, attempts_spaced { calm with load := fun _ _ => .loaded 0 } none none settingsInit
    stubbornRun _ _ .video _ rfl rfl⟩

end HyperionWebos.RetryGates
