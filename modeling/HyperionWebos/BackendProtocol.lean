import HyperionWebos.BackendSlot
import HyperionWebos.TraceMonitor

/-! The order in which a backend may be called. `protocol` reads the calls of one slot and is
stuck at a call on a backend that is not there, at a frame or terminate without a started
capture, and at a start after a failed one that no init made good. The loop of
`unicapture_run` has no other way to break it than its own retry. -/

namespace HyperionWebos.BackendProtocol
open Runs TraceMonitor Pbnjson SettingsLoad Unicapture ServiceLoop ServiceSteps BackendSlot

inductive Stage where
  | dead
  | ready
  | failed
  | started
deriving DecidableEq, Repr

def protocol : Monitor BackendCall Stage where
  start := .dead
  next
    | _, .init ret => some (if ret = 0 then .ready else .dead)
    | .dead, _ => none
    | _, .cleanup => some .dead
    | .failed, .start _ => none
    | _, .start ret => some (if ret = 0 then .started else .failed)
    | .started, .acquireFrame _ => some .started
    | _, .acquireFrame _ => none
    | .started, .terminate => some .ready
    | _, .terminate => none
    | stage, .releaseFrame => some stage

/-- Whether the last start failed, an init having made good for earlier ones. -/
def startFailed (calls : List BackendCall) : Bool :=
  calls.foldl (fun failed b => match b with
    | .init _ => false
    | .start ret => decide (ret ≠ 0)
    | _ => failed) false

/-- The flags of a slot against the stage of its backend. -/
structure InStage (v : Slot) (stage : Stage) : Prop where
  calls : protocol.after v.calls = some stage
  initialized : v.initialized = decide (stage ≠ .dead)
  running : v.running = decide (stage = .started)
  pointer : v.initialized = true → v.pointer = true
  failed : stage ≠ .dead → startFailed v.calls = decide (stage = .failed)

def Staged (v : Slot) : Prop := ∃ stage, InStage v stage

def BadAttempt (s : Service) (e : Event) : Prop :=
  ∃ it lastStart side, Iterates s e it lastStart ∧
    gateOpen side it.now lastStart s.capture = true ∧
    ((s.capture.backend side).initialized = false ∨
      startFailed (slot side s.capture).calls = true)

/-- What the backends of both sides have seen is in order, now and after `service_destroy`. -/
def CallsInOrder (s : Service) : Prop :=
  ∀ side, protocol.Accepts (slot side s.capture).calls ∧
    ∀ last, protocol.Accepts (slot side (serviceDestroy last s).2.capture).calls

theorem after_call {v : Slot} {stage stage' : Stage} {b : BackendCall}
    (h : protocol.after v.calls = some stage) (step : protocol.next stage b = some stage') :
    protocol.after (v.call b).calls = some stage' := by
  rw [Slot.call, protocol.after_append h, Monitor.readFrom, step]
  rfl

theorem startFailed_call (v : Slot) (b : BackendCall) :
    startFailed (v.call b).calls = match b with
      | .init _ => false
      | .start ret => decide (ret ≠ 0)
      | _ => startFailed v.calls := by
  rw [Slot.call, startFailed, List.foldl_append]
  rfl

theorem init_staged (ret : Int) {v : Slot} {stage : Stage} (here : InStage v stage)
    (idle : v.running = false) (pointer : v.pointer = true) :
    InStage { v.call (.init ret) with initialized := decide (ret = 0) }
      (if ret = 0 then .ready else .dead) where
  calls := after_call here.calls (by cases stage <;> rfl)
  initialized := by split <;> simp_all
  running := by
    have off : v.running = false := idle
    split <;> exact off
  pointer _ := pointer
  failed _ := by
    rw [startFailed_call]
    dsimp only
    split <;> rfl

theorem reinit_staged (ret : Int) {v : Slot} (here : Staged v) : Staged (v.reinit ret) := by
  obtain ⟨stage, here⟩ := here
  rw [Slot.reinit]
  split
  · next idle =>
    rw [Bool.and_eq_true, Bool.not_eq_true'] at idle
    have dead : stage = .dead := by
      have flag := here.initialized
      rw [idle.2] at flag
      simpa using flag.symm
    refine ⟨_, init_staged ret here ?_ idle.1⟩
    rw [here.running, dead]
    rfl
  · exact ⟨stage, here⟩

theorem terminate_staged {v : Slot} (here : Staged v) : Staged v.terminate := by
  obtain ⟨stage, here⟩ := here
  rw [Slot.terminate]
  split
  · next on =>
    have started : stage = .started := by simpa [on] using here.running
    subst started
    exact ⟨.ready, after_call here.calls rfl, here.initialized, rfl, here.pointer,
      fun _ => (startFailed_call v _).trans (here.failed (by decide))⟩
  · exact ⟨stage, here⟩

theorem cleanup_dead {v : Slot} (here : Staged v) :
    protocol.after v.cleanup.calls = some .dead ∧ v.cleanup.initialized = false := by
  obtain ⟨stage, here⟩ := here
  rw [Slot.cleanup]
  split
  · next live =>
    rw [Bool.and_eq_true] at live
    have alive : stage ≠ .dead := by simpa [live.2] using here.initialized
    refine ⟨after_call here.calls ?_, rfl⟩
    cases stage <;> first | rfl | exact absurd rfl alive
  · next away =>
    cases init : v.initialized with
    | true => exact absurd (by rw [here.pointer init, init]; rfl) away
    | false =>
      have dead : stage = .dead := by simpa [init] using here.initialized
      exact ⟨dead ▸ here.calls, rfl⟩

theorem terminate_running (v : Slot) : v.terminate.running = false := by
  rw [Slot.terminate]
  split
  · rfl
  · next off => exact Bool.not_eq_true _ ▸ off

theorem cleanup_running (v : Slot) : v.cleanup.running = v.running := by
  rw [Slot.cleanup]
  split <;> rfl

theorem finish_staged {v : Slot} (here : Staged v) : Staged v.terminate.cleanup := by
  obtain ⟨calls, idle⟩ := cleanup_dead (terminate_staged here)
  have off : v.terminate.cleanup.running = false :=
    (cleanup_running _).trans (terminate_running v)
  exact ⟨.dead, calls, idle, off, fun init => absurd (idle ▸ init) Bool.false_ne_true,
    fun alive => absurd rfl alive⟩

structure Tried (tried : Int × Slot) : Prop where
  calls : protocol.after tried.2.calls = some (if tried.1 = 0 then .ready else .dead)
  initialized : tried.2.initialized = decide (tried.1 = 0)
  running : tried.2.running = false
  failed : tried.1 = 0 → startFailed tried.2.calls = false

theorem init_tried (result : LoadResult) {v : Slot} (calls : protocol.after v.calls = some .dead)
    (idle : v.initialized = false) (off : v.running = false) : Tried (v.init result) := by
  cases result with
  | dlopenFailed => exact ⟨calls, idle, off, nofun⟩
  | dlsymFailed => exact ⟨calls, idle, off, nofun⟩
  | loaded ret =>
    refine ⟨after_call calls rfl, ?_, off, fun _ => startFailed_call v _⟩
    simp [Slot.init, Slot.call, idle]

theorem tryInit_tried (results : List LoadResult) {v : Slot}
    (calls : protocol.after v.calls = some .dead) (idle : v.initialized = false)
    (off : v.running = false) : Tried (v.tryInit results) := by
  induction results generalizing v with
  | nil => exact ⟨calls, idle, off, nofun⟩
  | cons result rest ih =>
    have first := init_tried result calls idle off
    rw [Slot.tryInit]
    split
    · exact first
    · next failed =>
      exact ih (by rw [first.calls, if_neg failed])
        (first.initialized.trans (decide_eq_false failed)) first.running

theorem select_staged (disabled auto : Bool) (result : LoadResult) (results : List LoadResult)
    {v : Slot} (calls : protocol.after v.calls = some .dead) (idle : v.initialized = false)
    (off : v.running = false) : Staged (v.select disabled auto result results) := by
  have staged {tried : Int × Slot} (h : Tried tried) :
      Staged { tried.2 with pointer := decide (tried.1 = 0) } := by
    by_cases ok : tried.1 = 0
    · exact ⟨.ready, by rw [h.calls, if_pos ok], h.initialized.trans (decide_eq_true ok),
        h.running, fun _ => decide_eq_true ok, fun _ => h.failed ok⟩
    · exact ⟨.dead, by rw [h.calls, if_neg ok], h.initialized.trans (decide_eq_false ok),
        h.running, fun init => h.initialized ▸ init, fun alive => absurd rfl alive⟩
  rw [Slot.select]
  split
  · exact ⟨.dead, calls, idle, off, fun init => absurd (idle ▸ init) Bool.false_ne_true,
      fun alive => absurd rfl alive⟩
  · dsimp only
    split
    · exact staged (@tryInit_tried results { v with pointer := false } calls idle off)
    · exact staged (@init_tried result { v with pointer := false } calls idle off)

theorem keeps_staged : Keeps Staged where
  reinit ret _ here := reinit_staged ret here
  finish _ here := finish_staged here
  fresh v disabled auto result results here := by
    obtain ⟨calls, idle⟩ := cleanup_dead here
    exact select_staged disabled auto result results calls idle rfl

theorem rejects_call {v : Slot} {stage : Stage} {b : BackendCall}
    (h : protocol.after v.calls = some stage) (stuck : protocol.next stage b = none) :
    ¬ protocol.Accepts (v.call b).calls := by
  rw [Monitor.Accepts, Slot.call, protocol.after_append h, Monitor.readFrom, stuck]
  exact Bool.false_ne_true

theorem start_staged (ret : Int) {v : Slot} (here : InStage v .ready) :
    Staged { v.call (.start ret) with running := decide (ret = 0) } := by
  have calls := after_call here.calls (b := .start ret) rfl
  have failed := startFailed_call v (.start ret)
  by_cases ok : ret = 0
  · rw [if_pos ok] at calls
    exact ⟨.started, calls, here.initialized, decide_eq_true ok, here.pointer,
      fun _ => failed.trans (by simp [ok])⟩
  · rw [if_neg ok] at calls
    exact ⟨.failed, calls, here.initialized, decide_eq_false ok, here.pointer,
      fun _ => failed.trans (by simp [ok])⟩

theorem attempt_staged_iff (late : Bool) (ret : Int) {v : Slot} (here : Staged v) :
    (protocol.Accepts (v.attempt late ret).calls ↔
      ¬ ((late && v.pointer && !v.running) = true ∧
        (v.initialized = false ∨ startFailed v.calls = true))) ∧
      (protocol.Accepts (v.attempt late ret).calls → Staged (v.attempt late ret)) := by
  obtain ⟨stage, here⟩ := here
  rw [Slot.attempt]
  split
  · next acts =>
    have off : v.running = false := by
      rw [Bool.and_eq_true, Bool.not_eq_true'] at acts
      exact acts.2
    cases stage with
    | dead =>
      have stuck := rejects_call here.calls (b := .start ret) rfl
      exact ⟨⟨fun ok => absurd ok stuck, fun fine => absurd ⟨acts, Or.inl here.initialized⟩ fine⟩,
        fun ok => absurd ok stuck⟩
    | ready =>
      have next := start_staged ret here
      obtain ⟨stage, staged⟩ := id next
      refine ⟨⟨fun _ bad => ?_, fun _ => protocol.accepts_of_after staged.calls⟩, fun _ => next⟩
      rcases bad.2 with idle | failed
      · rw [here.initialized] at idle
        cases idle
      · rw [here.failed (by decide)] at failed
        cases failed
    | failed =>
      have stuck := rejects_call here.calls (b := .start ret) rfl
      exact ⟨⟨fun ok => absurd ok stuck,
        fun fine => absurd ⟨acts, Or.inr (here.failed (by decide))⟩ fine⟩,
        fun ok => absurd ok stuck⟩
    | started =>
      rw [here.running] at off
      cases off
  · next waits =>
    exact ⟨⟨fun _ bad => waits bad.1, fun _ => protocol.accepts_of_after here.calls⟩,
      fun _ => ⟨stage, here⟩⟩

theorem acquire_staged (ret : Int) (stops : Bool) {v : Slot} (here : Staged v) :
    Staged (v.acquire ret stops) := by
  obtain ⟨stage, here⟩ := here
  rw [Slot.acquire]
  split
  · next on =>
    have started : stage = .started := by simpa [on] using here.running
    subst started
    have acquired : InStage (v.call (.acquireFrame ret)) .started :=
      ⟨after_call here.calls rfl, here.initialized, here.running, here.pointer,
        fun alive => (startFailed_call v _).trans (here.failed alive)⟩
    split
    · exact ⟨.ready, after_call acquired.calls rfl, acquired.initialized, rfl, acquired.pointer,
        fun _ => (startFailed_call _ _).trans (acquired.failed (by decide))⟩
    · exact ⟨.started, acquired⟩
  · exact ⟨stage, here⟩

theorem release_staged {held : Bool} {v : Slot} (here : Staged v)
    (alive : held = true → v.initialized = true) : Staged (v.release held) := by
  obtain ⟨stage, here⟩ := here
  rw [Slot.release]
  split
  · next holds =>
    have open_stage : stage ≠ .dead := by simpa [alive holds] using here.initialized
    refine ⟨stage, after_call here.calls ?_, here.initialized, here.running, here.pointer,
      fun alive => (startFailed_call v _).trans (here.failed alive)⟩
    cases stage <;> first | rfl | exact absurd rfl open_stage
  · exact ⟨stage, here⟩

theorem running_initialized {v : Slot} (here : Staged v) (on : v.running = true) :
    v.initialized = true := by
  obtain ⟨stage, here⟩ := here
  have started : stage = .started := by simpa [on] using here.running
  rw [here.initialized, started]
  rfl

theorem acquire_initialized (ret : Int) (stops : Bool) (v : Slot) :
    (v.acquire ret stops).initialized = v.initialized := by
  rw [Slot.acquire]
  split
  · split <;> rfl
  · rfl

theorem iterate_calls (late : Bool) (start acquire : Int) (stops valid : Bool) (v : Slot) :
    ∃ more, (v.iterate late start acquire stops valid).calls =
      (v.attempt late start).calls ++ more := by
  have acquired (u : Slot) : ∃ more, (u.acquire acquire stops).calls = u.calls ++ more := by
    rw [Slot.acquire]
    split
    · split
      · exact ⟨_, List.append_assoc ..⟩
      · exact ⟨_, rfl⟩
    · exact ⟨[], (List.append_nil _).symm⟩
  have released (held : Bool) (u : Slot) : ∃ more, (u.release held).calls = u.calls ++ more := by
    rw [Slot.release]
    split
    · exact ⟨_, rfl⟩
    · exact ⟨[], (List.append_nil _).symm⟩
  obtain ⟨first, eq⟩ := acquired (v.attempt late start)
  obtain ⟨second, eq'⟩ := released ((v.attempt late start).running && acquire = 0 && valid)
    ((v.attempt late start).acquire acquire stops)
  exact ⟨first ++ second, by rw [Slot.iterate, eq', eq, List.append_assoc]⟩

theorem iterate_staged_iff (late : Bool) (start acquire : Int) (stops valid : Bool) {v : Slot}
    (here : Staged v) :
    (protocol.Accepts (v.iterate late start acquire stops valid).calls ↔
      ¬ ((late && v.pointer && !v.running) = true ∧
        (v.initialized = false ∨ startFailed v.calls = true))) ∧
      (protocol.Accepts (v.iterate late start acquire stops valid).calls →
        Staged (v.iterate late start acquire stops valid)) := by
  obtain ⟨exact_start, staged_start⟩ := attempt_staged_iff late start here
  have rest (ok : Staged (v.attempt late start)) :
      Staged (v.iterate late start acquire stops valid) := by
    refine release_staged (acquire_staged acquire stops ok) fun holds => ?_
    rw [Bool.and_eq_true, Bool.and_eq_true] at holds
    rw [acquire_initialized]
    exact running_initialized ok holds.1.1
  have before (ok : protocol.Accepts (v.iterate late start acquire stops valid).calls) :
      protocol.Accepts (v.attempt late start).calls := by
    obtain ⟨more, eq⟩ := iterate_calls late start acquire stops valid v
    rw [eq] at ok
    exact ok.of_append
  refine ⟨⟨fun ok => exact_start.mp (before ok), fun fine => ?_⟩,
    fun ok => rest (staged_start (before ok))⟩
  obtain ⟨stage, staged⟩ := rest (staged_start (exact_start.mpr fine))
  exact protocol.accepts_of_after staged.calls

theorem callsInOrder_of_staged {s : Service} (here : ∀ side, Staged (slot side s.capture)) :
    CallsInOrder s := by
  intro side
  obtain ⟨stage, staged⟩ := here side
  refine ⟨protocol.accepts_of_after staged.calls, fun last => ?_⟩
  rw [slot_serviceDestroy]
  exact protocol.accepts_of_after (cleanup_dead (serviceStop_slots keeps_staged last (here side))).1

theorem step_staged {s s' : Service} {e : Event} (h : step s e = .ok s')
    (here : ∀ side, Staged (slot side s.capture)) (fine : ¬ BadAttempt s e) (side : Side) :
    Staged (slot side s'.capture) := by
  refine step_slots keeps_staged h (fun it lastStart iterates staged => ?_) (here side)
  obtain ⟨in_order, staged'⟩ := iterate_staged_iff (decide (it.now - lastStart side > 1000000))
    (it.start side) (it.acquire side) (stopsOn99 side) (decide (it.format side ≠ .invalid)) staged
  refine staged' (in_order.mpr fun bad => fine ?_)
  exact ⟨it, lastStart, side, iterates, bad.1, bad.2⟩

theorem slot_iterates {s s' : Service} {e : Event} {it : Iteration} {lastStart : Side → UInt64}
    (h : step s e = .ok s') (iterates : Iterates s e it lastStart) (side : Side) :
    slot side s'.capture = iterated side it lastStart s.capture := by
  obtain ⟨action, phase, on⟩ := iterates
  rw [step, action] at h
  cases h
  have looped : captureStep e.env.reinit it s.capture = runIteration it lastStart s.capture := by
    rw [captureStep, phase]
    exact if_pos on
  rw [iterated, ← slot_runIteration, ← looped]

theorem callsInOrder_iff {s s' : Service} {e : Event} (h : step s e = .ok s')
    (here : ∀ side, Staged (slot side s.capture)) : CallsInOrder s' ↔ ¬ BadAttempt s e := by
  refine ⟨?_, fun fine => callsInOrder_of_staged (step_staged h here fine)⟩
  rintro law ⟨it, lastStart, side, iterates, gate, bad⟩
  have accepted := (law side).1
  rw [slot_iterates h iterates] at accepted
  exact (iterate_staged_iff _ _ _ _ _ (here side)).1.mp accepted ⟨gate, bad⟩

theorem boot_staged (env : Env) (handle handleLegacy : Option Nat) (settings : Settings)
    (side : Side) : Staged (slot side (boot env handle handleLegacy settings).capture) := by
  obtain ⟨disabled, auto, result, results, eq⟩ :=
    slot_serviceInit env settings (zeroed handle handleLegacy settings) side
  rw [boot, eq]
  exact select_staged disabled auto result results rfl rfl rfl

/-- Along a run the backends are called in order exactly when the retry of the capture thread
never starts a backend whose init or last start failed. -/
theorem backend_protocol_iff (env : Env) (handle handleLegacy : Option Nat)
    (settings : Settings) (es : List Event) :
    Throughout step (fun _ _ s' => CallsInOrder s')
        (boot env handle handleLegacy settings) es ↔
      Throughout step (fun s e _ => ¬ BadAttempt s e)
        (boot env handle handleLegacy settings) es := by
  have decided (s : Service) (e : Event) (s' : Service)
      (here : ∀ side, Staged (slot side s.capture)) (h : step s e = .ok s') :
      CallsInOrder s' ↔ ¬ BadAttempt s e := callsInOrder_iff h here
  have keeps (s : Service) (e : Event) (s' : Service)
      (here : ∀ side, Staged (slot side s.capture)) (h : step s e = .ok s')
      (law : CallsInOrder s') : ∀ side, Staged (slot side s'.capture) :=
    step_staged h here ((decided s e s' here h).mp law)
  exact throughout_congr decided keeps (boot_staged env handle handleLegacy settings)

def failingStarts (now : UInt64) : Iteration := ⟨now, fun _ => -1, fun _ => 0, fun _ => .argb⟩

/-- After a failed start the next second brings a start without an init, and after a failed
re-init the backend that is not there is started. -/
theorem backend_protocol_bad_start :
    ¬ Throughout step (fun _ _ s' => CallsInOrder s')
        (boot { calm with load := fun _ _ => .loaded 0 } none none settingsInit)
        [⟨.start, calm⟩, ⟨.captureThread (failingStarts 0), calm⟩,
          ⟨.captureThread (failingStarts 2000000), calm⟩,
          ⟨.captureThread (failingStarts 4000000), calm⟩] ∧
      ¬ Throughout step (fun _ _ s' => CallsInOrder s')
        (boot { calm with load := fun _ _ => .loaded 0 } none none settingsInit)
        [⟨.start, calm⟩, ⟨.stop, calm⟩, ⟨.start, calm⟩,
          ⟨.captureThread (failingStarts 0), { calm with reinit := fun _ => -1 }⟩,
          ⟨.captureThread (failingStarts 2000000), calm⟩] := by
  constructor
  · intro law
    have last := (((law _ rfl).2 _ rfl).2 _ rfl).2 _ rfl
    exact Bool.false_ne_true (last.1 .ui).1
  · intro law
    have last := ((((law _ rfl).2 _ rfl).2 _ rfl).2 _ rfl).2 _ rfl
    exact Bool.false_ne_true (last.1 .ui).1

end HyperionWebos.BackendProtocol
