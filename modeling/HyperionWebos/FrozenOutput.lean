import HyperionWebos.BackendFrames
import HyperionWebos.CaptureBackends
import HyperionWebos.SettingsInForce

/-! The output device of `libdile_vt` over a run of the service. `capture_acquire_frame`
freezes it and `capture_release_frame` lets it go on; what the service calls in between and
what it leaves out decides when the device stands still. Every `capture_init` reads the
quirks it is given then and the format of the buffers there are then. -/

namespace HyperionWebos.FrozenOutput
open Runs TraceMonitor Pbnjson SettingsLoad Unicapture CaptureThread CaptureBackends ServiceLoop
open ServiceSteps BackendSlot BackendPairing SettingsInForce BackendFrames BackendFrames.LibDileVt

/-- A state as `capture_init` leaves it. -/
def output (p : Vfbprop) (noFreeze : Bool) : State Unit :=
  ⟨p, [[(), ()]], false, noFreeze, false⟩

def blankFrame : FrameInfo Unit := ⟨.invalid, 0, 0, ⟨(), 0⟩, ⟨(), 0⟩⟩

/-- Reads the calls of a slot whose backend is `libdile_vt`; what it knows is the backend's
state, if there is one. It is stuck at a call into a state that is not there, at an
acquisition that answers otherwise than the backend, and at a frame that is released from a
device which did not stand still. A start without a state answers as it likes. -/
def device (p : Vfbprop) (noFreeze : Bool) : Monitor BackendCall (Option (State Unit)) where
  start := none
  next
    | _, .init ret => some (if ret = 0 then some (output p noFreeze) else none)
    | this, .start _ => some this
    | some this, .acquireFrame ret => match captureAcquireFrame true 0 blankFrame this with
      | .ok (answer, _, this) => if answer = ret then some (some this) else none
      | .error _ => none
    | some this, .releaseFrame =>
      if this.deviceFreezed || this.noFreezeToAcquireFrame then
        some (some (captureReleaseFrame true this).2)
      else none
    | some this, .terminate => some (some this)
    | some _, .cleanup => some none
    | none, _ => none

/-- An event, and the buffers that a `capture_init` finds while it is handled. -/
structure Driven where
  event : Event
  vfbprop : Vfbprop

def drivenStep (s : Service) (e : Driven) : Except OwnedArray.MemoryFault Service := step s e.event

/-- What `capture_init` makes of the quirks that the side was last configured with. -/
def noFreeze (side : Side) (c : Capture) : Bool := hasQuirk (c.backend side).config.quirks 0x2

/-- The calls of a step are read on. A backend that `setSettings` opens and closes again
before it configures the side anew hands out no frame. -/
def observe (side : Side) (read : Option (Option (State Unit))) (s : Service) (e : Driven)
    (s' : Service) : Option (Option (State Unit)) :=
  read.bind fun this => (device e.vfbprop (noFreeze side s'.capture)).readFrom this
    ((slot side s'.capture).calls.drop (slot side s.capture).calls.length)

def unhandled (p : Vfbprop) : Bool :=
  match p.pixelFormat with
  | .other _ => true
  | _ => false

def acquired (calls : List BackendCall) : Bool :=
  calls.foldl (fun before b => match b with
    | .init ret => if ret = 0 then false else before
    | .acquireFrame _ => true
    | _ => before) false

/-- The backend hands out what its `capture_acquire_frame` does, and is started only where its
`capture_init` has succeeded. -/
def Answers (side : Side) (p : Service × Option (Option (State Unit))) (e : Driven) : Prop :=
  ∀ it, e.event.action = .captureThread it →
    ((p.1.capture.backend side).initialized = false → it.start side ≠ 0) ∧
    ∀ this answer frame this', p.2 = some (some this) →
      captureAcquireFrame true 0 blankFrame this = .ok (answer, frame, this') →
      it.acquire side = answer ∧ it.format side = frame.pixelFormat

def frozen (b : Bool) (p : Vfbprop) (noFreeze : Bool) : State Unit :=
  { output p noFreeze with freezed := b, deviceFreezed := b }

/-- There is a state where the slot is initialized, and its device stands still where frames
are asked for that are never handed out. -/
structure Tracks (quirk : Bool → Prop) (v : Slot) (this : Option (State Unit)) : Prop where
  opened : v.running = true → v.initialized = true
  closed : v.initialized = false → this = none
  standing : v.initialized = true → ∃ p noFreeze, quirk noFreeze ∧
    this = some (frozen (!noFreeze && unhandled p && acquired v.calls) p noFreeze)

theorem acquired_concat (calls : List BackendCall) (b : BackendCall) :
    acquired (calls ++ [b]) = match b with
      | .init ret => if ret = 0 then false else acquired calls
      | .acquireFrame _ => true
      | _ => acquired calls := by
  unfold acquired
  rw [List.foldl_append]
  rfl

theorem acquire_answers (p : Vfbprop) (noFreeze b : Bool) :
    ∃ frame, captureAcquireFrame true 0 blankFrame (frozen b p noFreeze) =
      .ok (if unhandled p then -1 else 0, frame, frozen (b || !noFreeze) p noFreeze) ∧
      (unhandled p = false → frame.pixelFormat ≠ .invalid) := by
  obtain ⟨format, width, height, stride⟩ := p
  cases noFreeze with
  | true => cases b <;> cases format <;> exact ⟨_, rfl, by simp [unhandled]⟩
  | false => cases b <;> cases format <;> exact ⟨_, rfl, by simp [unhandled]⟩

theorem release_frozen (p : Vfbprop) (noFreeze b : Bool) :
    (captureReleaseFrame true (frozen b p noFreeze)).2 = frozen (b && noFreeze) p noFreeze := by
  cases noFreeze <;> cases b <;> rfl

/-! ### One slot -/

section Slots

variable {quirk : Bool → Prop} {p : Vfbprop} {quiet : Bool} {before : List BackendCall}
  {first this : Option (State Unit)} {v : Slot}

def Reads (quirk : Bool → Prop) (p : Vfbprop) (quiet : Bool) (before : List BackendCall)
    (first : Option (State Unit)) (v : Slot) : Prop :=
  ∃ this, (device p quiet).Between before v.calls first this ∧ Tracks quirk v this

theorem init_tracks (allowed : quirk quiet) (ret : Int) (off : v.running = false) :
    Tracks quirk { v.call (.init ret) with initialized := decide (ret = 0) }
      (if ret = 0 then some (output p quiet) else none) where
  opened on := absurd (off.symm.trans on) Bool.false_ne_true
  closed failed := if_neg (of_decide_eq_false failed)
  standing ok := by
    obtain rfl : ret = 0 := of_decide_eq_true ok
    have none : acquired (v.calls ++ [.init 0]) = false := by
      rw [acquired_concat]
      rfl
    refine ⟨p, quiet, allowed, ?_⟩
    change some (output p quiet) =
      some (frozen (!quiet && unhandled p && acquired (v.calls ++ [.init 0])) p quiet)
    rw [none, Bool.and_false]
    rfl

theorem reinit_reads (allowed : quirk quiet) (ret : Int)
    (here : Reads quirk p quiet before first v) :
    Reads quirk p quiet before first (v.reinit ret) := by
  obtain ⟨this, read, tracks⟩ := here
  rw [Slot.reinit]
  split
  · next idle =>
    rw [Bool.and_eq_true, Bool.not_eq_true'] at idle
    have off : v.running = false := by
      by_contra on
      exact Bool.false_ne_true (idle.2.symm.trans (tracks.opened (eq_true_of_ne_false on)))
    exact ⟨_, read.concat _ rfl, init_tracks allowed ret off⟩
  · exact ⟨this, read, tracks⟩

theorem terminate_reads (here : Reads quirk p quiet before first v) :
    Reads quirk p quiet before first v.terminate ∧ v.terminate.running = false := by
  obtain ⟨this, read, tracks⟩ := here
  rw [Slot.terminate]
  split
  · next on =>
    have calls : (v.call .terminate).calls = v.calls ++ [.terminate] := rfl
    obtain ⟨p', noFreeze, good, state⟩ := tracks.standing (tracks.opened on)
    refine ⟨⟨this, read.concat _ ?_, fun off => absurd off Bool.false_ne_true, tracks.closed,
      fun opened => ⟨p', noFreeze, good, ?_⟩⟩, rfl⟩
    · rw [state]
      rfl
    · rw [calls, acquired_concat]
      exact state
  · next off => exact ⟨⟨this, read, tracks⟩, eq_false_of_ne_true off⟩

theorem cleanup_reads (paired : Paired v) (here : Reads quirk p quiet before first v) :
    (device p quiet).Between before v.cleanup.calls first none ∧
      v.cleanup.initialized = false ∧ v.cleanup.running = v.running := by
  obtain ⟨this, read, tracks⟩ := here
  obtain ⟨_, idle⟩ := cleanup_paired paired
  refine ⟨?_, idle, ?_⟩
  · rw [Slot.cleanup] at idle ⊢
    split
    · next live =>
      rw [Bool.and_eq_true] at live
      obtain ⟨p', noFreeze, _, state⟩ := tracks.standing live.2
      refine read.concat _ ?_
      rw [state]
      rfl
    · next away =>
      rw [if_neg away] at idle
      rwa [tracks.closed idle] at read
  · rw [Slot.cleanup]
    split <;> rfl

theorem closed_tracks (idle : v.initialized = false) (off : v.running = false) :
    Tracks quirk v none where
  opened on := absurd (off.symm.trans on) Bool.false_ne_true
  closed _ := rfl
  standing opened := absurd (idle.symm.trans opened) Bool.false_ne_true

theorem finish_reads (paired : Paired v) (here : Reads quirk p quiet before first v) :
    Reads quirk p quiet before first v.terminate.cleanup := by
  obtain ⟨stopped, off⟩ := terminate_reads here
  obtain ⟨read, idle, same⟩ := cleanup_reads (terminate_paired paired) stopped
  exact ⟨none, read, closed_tracks idle (same.trans off)⟩

theorem init_reads (allowed : quirk quiet) (result : LoadResult) (idle : v.initialized = false)
    (off : v.running = false) (read : (device p quiet).Between before v.calls first none) :
    Reads quirk p quiet before first (v.init result).2 ∧ (v.init result).2.running = false ∧
      (v.init result).2.initialized = decide ((v.init result).1 = 0) := by
  cases result with
  | dlopenFailed => exact ⟨⟨none, read, closed_tracks idle off⟩, off, idle⟩
  | dlsymFailed => exact ⟨⟨none, read, closed_tracks idle off⟩, off, idle⟩
  | loaded ret =>
    have opened : (v.init (.loaded ret)).2 =
        { v.call (.init ret) with initialized := decide (ret = 0) } := by
      simp [Slot.init, idle]
    rw [opened]
    exact ⟨⟨_, read.concat _ rfl, init_tracks allowed ret off⟩, off, rfl⟩

theorem tryInit_reads (allowed : quirk quiet) (results : List LoadResult)
    (idle : v.initialized = false) (off : v.running = false)
    (read : (device p quiet).Between before v.calls first none) :
    Reads quirk p quiet before first (v.tryInit results).2 := by
  induction results generalizing v with
  | nil => exact ⟨none, read, closed_tracks idle off⟩
  | cons result rest ih =>
    obtain ⟨here, still, opened⟩ := init_reads allowed result idle off read
    rw [Slot.tryInit]
    split
    · exact here
    · next failed =>
      rw [decide_eq_false failed] at opened
      obtain ⟨this, read, tracks⟩ := here
      rw [tracks.closed opened] at read
      exact ih opened still read

theorem select_reads (allowed : quirk quiet) (disabled auto : Bool) (result : LoadResult)
    (results : List LoadResult) (idle : v.initialized = false) (off : v.running = false)
    (read : (device p quiet).Between before v.calls first none) :
    Reads quirk p quiet before first (v.select disabled auto result results) := by
  have pointed {u : Slot} (b : Bool) (here : Reads quirk p quiet before first u) :
      Reads quirk p quiet before first { u with pointer := b } := by
    obtain ⟨this, read, tracks⟩ := here
    exact ⟨this, read, tracks.opened, tracks.closed, tracks.standing⟩
  rw [Slot.select]
  split
  · exact ⟨none, read, closed_tracks idle off⟩
  · dsimp only
    split
    · exact pointed _ (@tryInit_reads _ p _ _ _ { v with pointer := false } allowed results idle
        off read)
    · exact pointed _ (@init_reads _ p _ _ _ { v with pointer := false } allowed result idle off
        read).1

theorem fresh_reads {quirk' : Bool → Prop} (allowed : quirk' quiet) (disabled auto : Bool)
    (result : LoadResult) (results : List LoadResult) (paired : Paired v)
    (here : Reads quirk p quiet before first v) :
    Reads quirk' p quiet before first (v.cleanup.wipe.select disabled auto result results) := by
  obtain ⟨read, idle, _⟩ := cleanup_reads paired here
  exact select_reads allowed disabled auto result results idle rfl read

theorem keeps_reads (allowed : quirk quiet) :
    Keeps fun v => Paired v ∧ Reads quirk p quiet before first v where
  reinit ret v here := ⟨keeps_paired.reinit ret v here.1, reinit_reads allowed ret here.2⟩
  finish v here := ⟨keeps_paired.finish v here.1, finish_reads here.1 here.2⟩
  fresh v disabled auto result results here :=
    ⟨keeps_paired.fresh v disabled auto result results here.1,
      fresh_reads allowed disabled auto result results here.1 here.2⟩

theorem attempt_reads (late : Bool) {ret : Int} (fails : v.initialized = false → ret ≠ 0)
    {this : Option (State Unit)} (read : (device p quiet).Between before v.calls first this)
    (tracks : Tracks quirk v this) :
    (device p quiet).Between before (v.attempt late ret).calls first this ∧
      Tracks quirk (v.attempt late ret) this := by
  rw [Slot.attempt]
  split
  · have calls : (v.call (.start ret)).calls = v.calls ++ [.start ret] := rfl
    refine ⟨read.concat _ ?_, fun on => ?_, tracks.closed, fun opened => ?_⟩
    · cases this <;> rfl
    · by_contra closed
      exact fails (eq_false_of_ne_true closed) (of_decide_eq_true on)
    · obtain ⟨p', noFreeze, good, state⟩ := tracks.standing opened
      refine ⟨p', noFreeze, good, ?_⟩
      rw [calls, acquired_concat]
      exact state
  · exact ⟨read, tracks⟩

theorem iterate_reads (late : Bool) (start : Int) {acquire : Int} (stops : Bool) {valid : Bool}
    (fails : v.initialized = false → start ≠ 0)
    (answers : ∀ b p noFreeze, this = some (frozen b p noFreeze) →
      acquire = (if unhandled p then -1 else 0) ∧ (unhandled p = false → valid = true))
    (tracks : Tracks quirk v this) :
    Reads quirk p quiet v.calls this (v.iterate late start acquire stops valid) := by
  have none_read : (device p quiet).Between v.calls v.calls this this :=
    Monitor.between_refl _ _ _
  obtain ⟨read, tried⟩ := attempt_reads late fails none_read tracks
  unfold Slot.iterate
  generalize v.attempt late start = u at read tried ⊢
  dsimp only
  unfold Slot.acquire Slot.release
  cases on : u.running with
  | false => exact ⟨this, read, tried⟩
  | true =>
    obtain ⟨p', noFreeze, good, state⟩ := tried.standing (tried.opened on)
    obtain ⟨ret, handed⟩ := answers _ p' noFreeze state
    obtain ⟨frame, answer, _⟩ := acquire_answers p' noFreeze
      (!noFreeze && unhandled p' && acquired u.calls)
    have asked : (device p quiet).Between v.calls (u.call (.acquireFrame acquire)).calls this
        (some (frozen ((!noFreeze && unhandled p' && acquired u.calls) || !noFreeze) p'
          noFreeze)) := by
      refine read.concat _ ?_
      rw [state, ret]
      simp [device, answer]
    have calls : (u.call (.acquireFrame acquire)).calls = u.calls ++ [.acquireFrame acquire] :=
      rfl
    cases odd : unhandled p' with
    | true =>
      rw [odd, if_pos rfl] at ret
      subst ret
      have still : Reads quirk p quiet v.calls this (u.call (.acquireFrame (-1))) := by
        refine ⟨_, asked, tried.opened, fun closed => ?_, fun _ => ⟨p', noFreeze, good, ?_⟩⟩
        · exact absurd (closed.symm.trans (tried.opened on)) Bool.false_ne_true
        · rw [calls, acquired_concat, odd]
          cases noFreeze <;> simp
      simpa [on] using still
    | false =>
      rw [odd, if_neg Bool.false_ne_true] at ret
      subst ret
      have released : (device p quiet).Between v.calls
          ((u.call (.acquireFrame 0)).call .releaseFrame).calls this
          (some (frozen false p' noFreeze)) := by
        refine asked.concat _ ?_
        have let_go := release_frozen p' noFreeze (!noFreeze)
        rw [odd]
        cases noFreeze <;> simpa [device, frozen, output] using let_go
      have still : Reads quirk p quiet v.calls this
          ((u.call (.acquireFrame 0)).call .releaseFrame) := by
        refine ⟨_, released, tried.opened, fun closed => ?_, fun _ => ⟨p', noFreeze, good, ?_⟩⟩
        · exact absurd (closed.symm.trans (tried.opened on)) Bool.false_ne_true
        · rw [odd, Bool.and_false, Bool.false_and]
      simpa [on, handed odd] using still

end Slots

/-! ### Runs -/

section Runs

variable {side : Side} {s s' : Service} {read : Option (Option (State Unit))}

/-- What holds between the events: the backend is opened and closed in turn and follows the
settings, and its calls have been read. -/
structure Settled (side : Side) (p : Service × Option (Option (State Unit))) : Prop where
  paired : Paired (slot side p.1.capture)
  follows : Follows p.1.settings (setup p.1.capture)
  tracks : ∃ this, p.2 = some this ∧
    Tracks (· = noFreeze side p.1.capture) (slot side p.1.capture) this

theorem setup_other {e : Event} (h : step s e = .ok s')
    (other : ∀ payload, e.action ≠ .setSettings payload) : setup s'.capture = setup s.capture := by
  have same : setup s.capture = setup s.capture := rfl
  refine step_invariant (P := fun t => setup t.capture = setup s.capture)
    (fun _ _ _ _ _ here => here) ?_ ?_ ?_ ?_ h same
  · intro env t here
    rw [setup_serviceStart, here]
  · intro env t here
    rw [setup_serviceStop, here]
  · intro payload action
    exact absurd action (other payload)
  · intro it _ here
    rw [setup_captureStep, here]

theorem noFreeze_of_setup {c c' : Capture} (same : setup c' = setup c) :
    noFreeze side c' = noFreeze side c := by
  have config : (c'.backend side).config = (c.backend side).config :=
    congrFun (congrArg Setup.config same) side
  rw [noFreeze, noFreeze, config]

theorem Tracks.mono {quirk quirk' : Bool → Prop} {v : Slot} {this : Option (State Unit)}
    (here : Tracks quirk v this) (wider : ∀ b, quirk b → quirk' b) : Tracks quirk' v this where
  opened := here.opened
  closed := here.closed
  standing opened := by
    obtain ⟨p, noFreeze, good, state⟩ := here.standing opened
    exact ⟨p, noFreeze, wider _ good, state⟩

theorem other_reads {e : Driven} {this : Option (State Unit)} (h : step s e.event = .ok s')
    (other : ∀ payload, e.event.action ≠ .setSettings payload)
    (answers : Answers side (s, some this) e) (paired : Paired (slot side s.capture))
    (tracks : Tracks (· = noFreeze side s.capture) (slot side s.capture) this) :
    Reads (· = noFreeze side s'.capture) e.vfbprop (noFreeze side s'.capture)
      (slot side s.capture).calls this (slot side s'.capture) := by
  rw [noFreeze_of_setup (setup_other h other)]
  have start : Reads (· = noFreeze side s.capture) e.vfbprop (noFreeze side s.capture)
      (slot side s.capture).calls this (slot side s.capture) :=
    ⟨this, Monitor.between_refl _ _ _, tracks⟩
  have keeps : Keeps fun v => Paired v ∧ Reads (· = noFreeze side s.capture) e.vfbprop
      (noFreeze side s.capture) (slot side s.capture).calls this v := keeps_reads rfl
  refine (step_slots keeps h (fun it lastStart iterates here => ?_) ⟨paired, start⟩).2
  obtain ⟨fails, hands⟩ := answers it iterates.1
  refine ⟨iterate_paired _ _ _ _ _ here.1, iterate_reads _ _ _ fails ?_ tracks⟩
  intro b p noFreeze state
  obtain ⟨frame, answer, format⟩ := acquire_answers p noFreeze b
  obtain ⟨ret, handed⟩ := hands _ _ _ _ (congrArg some state) answer
  exact ⟨ret, fun handled => decide_eq_true (handed ▸ format handled)⟩

/-- `setSettings` closes the backend before it configures it anew. -/
theorem restart_reads {this : Option (State Unit)} (p : Vfbprop) (env : Env) (settings : Settings)
    (paired : Paired (slot side s.capture))
    (tracks : Tracks (· = noFreeze side s.capture) (slot side s.capture) this) (quiet : Bool) :
    Reads (· = quiet) p quiet (slot side s.capture).calls this
      (slot side (serviceRestart env { s with settings := settings }).capture) := by
  have start : Paired (slot side { s with settings := settings }.capture) ∧
      Reads (fun _ => True) p quiet (slot side s.capture).calls this
        (slot side { s with settings := settings }.capture) :=
    ⟨paired, this, Monitor.between_refl _ _ _, tracks.mono fun _ _ => trivial⟩
  have stops : Keeps fun v => Paired v ∧
      Reads (fun _ => True) p quiet (slot side s.capture).calls this v := keeps_reads trivial
  have starts : Keeps fun v => Paired v ∧
      Reads (· = quiet) p quiet (slot side s.capture).calls this v := keeps_reads rfl
  refine (serviceRestart_renews stops starts ?_ env start).2
  intro v disabled auto result results here
  refine ⟨keeps_paired.fresh v disabled auto result results here.1, ?_⟩
  refine fresh_reads ?_ disabled auto result results here.1 here.2
  rfl

theorem step_reads {e : Driven} {this : Option (State Unit)} (h : step s e.event = .ok s')
    (answers : Answers side (s, some this) e) (paired : Paired (slot side s.capture))
    (tracks : Tracks (· = noFreeze side s.capture) (slot side s.capture) this) :
    Reads (· = noFreeze side s'.capture) e.vfbprop (noFreeze side s'.capture)
      (slot side s.capture).calls this (slot side s'.capture) := by
  by_cases sets : ∃ payload, e.event.action = .setSettings payload
  · obtain ⟨payload, action⟩ := sets
    have handled : serviceMethodSetSettings payload e.event.env s = .ok s' := by
      rw [← h, step, action]
    unfold serviceMethodSetSettings at handled
    split at handled
    · cases handled
      exact ⟨this, Monitor.between_refl _ _ _, tracks⟩
    · obtain ⟨settings, _, done⟩ := bind_eq_ok.mp handled
      cases done
      exact restart_reads e.vfbprop e.event.env settings paired tracks _
  · exact other_reads h (fun payload is => sets ⟨payload, is⟩) answers paired tracks

theorem step_settled {e : Driven} (h : drivenStep s e = .ok s') (answers : Answers side (s, read) e)
    (here : Settled side (s, read)) : Settled side (s', observe side read s e s') := by
  obtain ⟨this, known, tracks⟩ := here.tracks
  dsimp only at known
  subst known
  obtain ⟨this', between, tracks'⟩ := step_reads h answers here.paired tracks
  exact ⟨step_slots keeps_paired h (fun _ _ _ here => iterate_paired _ _ _ _ _ here) here.paired,
    step_follows h here.follows, this', between.drop, tracks'⟩

def opened (side : Side) (p : Vfbprop) (s : Service) : Option (Option (State Unit)) :=
  (device p (noFreeze side s.capture)).after (slot side s.capture).calls

theorem boot_settled (side : Side) (p : Vfbprop) (env : Env) (handle handleLegacy : Option Nat)
    (settings : Settings) : Settled side (boot env handle handleLegacy settings,
      opened side p (boot env handle handleLegacy settings)) := by
  refine ⟨boot_paired env handle handleLegacy settings side, serviceInit_follows env settings _, ?_⟩
  obtain ⟨disabled, auto, result, results, eq⟩ :=
    slot_serviceInit env settings (zeroed handle handleLegacy settings) side
  have same : slot side (boot env handle handleLegacy settings).capture =
      (slot side (zeroed handle handleLegacy settings).capture).wipe.select disabled auto result
        results := eq
  have selected : Reads (· = noFreeze side (boot env handle handleLegacy settings).capture) p
      (noFreeze side (boot env handle handleLegacy settings).capture) [] none
      (slot side (boot env handle handleLegacy settings).capture) := by
    rw [same]
    refine select_reads ?_ disabled auto result results ?_ ?_ (Monitor.between_refl _ _ _)
    · rfl
    · rfl
    · rfl
  obtain ⟨this, between, tracks⟩ := selected
  exact ⟨this, between.drop, tracks⟩

/-- In every run no call is made into a backend's state that is not there, and each frame that
is released was held in a device that stood still, unless the quirk in force says not to;
between the events the device of an open backend stands still exactly where frames were asked
for in a format that is not handled. -/
theorem frozen_output (side : Side) (p : Vfbprop) (env : Env) (handle handleLegacy : Option Nat)
    (settings : Settings) (es : List Driven)
    (answers : Throughout (watched drivenStep (observe side)) (fun q e _ => Answers side q e)
      (boot env handle handleLegacy settings,
        opened side p (boot env handle handleLegacy settings)) es)
    (s : Service) (read : Option (Option (State Unit)))
    (ran : run (watched drivenStep (observe side)) (boot env handle handleLegacy settings,
      opened side p (boot env handle handleLegacy settings)) es = .ok (s, read)) :
    ∃ this, read = some this ∧ this.isSome = (s.capture.backend side).initialized ∧
      ∀ state, this = some state →
        (state.deviceFreezed = true ↔ hasQuirk s.settings.quirks 0x2 = false ∧
          unhandled state.vfbprop = true ∧ acquired (slot side s.capture).calls = true) := by
  have keeps : ∀ q e q', Settled side q → Answers side q e →
      watched drivenStep (observe side) q e = .ok q' → Settled side q' := by
    rintro ⟨s, read⟩ e ⟨s', read'⟩ here answers taken
    obtain ⟨moved, seen⟩ := watched_ok.mp taken
    dsimp only at moved seen
    rw [seen]
    exact step_settled moved answers here
  have settled : Settled side (s, read) :=
    throughout_invariant keeps answers (boot_settled side p env handle handleLegacy settings) ran
  obtain ⟨this, known, tracks⟩ := settled.tracks
  refine ⟨this, known, ?_, fun state is => ?_⟩
  · cases opened : (s.capture.backend side).initialized with
    | true =>
      obtain ⟨p, noFreeze, _, rfl⟩ := tracks.standing opened
      rfl
    | false =>
      rw [tracks.closed opened]
      rfl
  · have opened : (slot side s.capture).initialized = true := by
      by_contra closed
      rw [tracks.closed (eq_false_of_ne_true closed)] at is
      cases is
    obtain ⟨p, quiet, configured, standing⟩ := tracks.standing opened
    obtain ⟨_, config, _⟩ := settled.follows.selected side (settled.paired.pointer opened)
    have quirk : hasQuirk s.settings.quirks 0x2 = quiet := by
      rw [configured, noFreeze]
      exact congrArg (fun c => hasQuirk c.quirks 0x2) config.symm
    rw [standing] at is
    cases is
    rw [quirk]
    simp [frozen, output, and_assoc]

end Runs

def unknownBuffers : Vfbprop := ⟨.other 7, 640, 360, 640⟩

def asks : Driven :=
  ⟨⟨.captureThread ⟨2000000, fun _ => 0, fun _ => -1, fun _ => .invalid⟩, calm⟩, unknownBuffers⟩

def asking : List Driven := [⟨⟨.start, loading⟩, unknownBuffers⟩, asks, asks]

def askingStart : Service × Option (Option (State Unit)) :=
  (boot loading none none settingsInit,
    opened .video unknownBuffers (boot loading none none settingsInit))

theorem asks_answers {s : Service} (opened : (s.capture.backend .video).initialized = true)
    (b : Bool) : Answers .video (s, some (some (frozen b unknownBuffers false))) asks := by
  intro it action
  cases action
  refine ⟨fun closed => absurd (closed.symm.trans opened) Bool.false_ne_true, ?_⟩
  intro this answer frame this' known acquires
  cases known
  cases acquires
  exact ⟨rfl, rfl⟩

theorem asking_answers : Throughout (watched drivenStep (observe .video))
    (fun q e _ => Answers .video q e) askingStart asking := by
  refine (throughout_cons rfl).mpr ⟨fun it action => (by cases action), ?_⟩
  refine (throughout_cons rfl).mpr ⟨asks_answers rfl false, ?_⟩
  exact (throughout_cons rfl).mpr ⟨asks_answers rfl false, trivial⟩

theorem frozen_output_unhandled : ∃ s state,
    run (watched drivenStep (observe .video)) askingStart asking = .ok (s, some (some state)) ∧
    state.deviceFreezed = true ∧
    ∃ this, some (some state) = some this ∧
      this.isSome = (s.capture.backend .video).initialized ∧ ∀ state, this = some state →
        (state.deviceFreezed = true ↔ hasQuirk s.settings.quirks 0x2 = false ∧
          unhandled state.vfbprop = true ∧ acquired (slot .video s.capture).calls = true) :=
  ⟨_, _, rfl, rfl, frozen_output .video unknownBuffers loading none none settingsInit asking
    asking_answers _ _ rfl⟩

end HyperionWebos.FrozenOutput
