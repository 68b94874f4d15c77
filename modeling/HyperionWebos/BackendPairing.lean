import HyperionWebos.BackendSlot
import HyperionWebos.TraceMonitor

/-! Every successful init of a backend slot and its cleanup, one to one. `pairing` knows
whether an init is open; the `initialized` flag says the same, and while it is set the
pointer is there, so that each of the cleanup blocks finds what it has to clean. -/

namespace HyperionWebos.BackendPairing
open Runs TraceMonitor Pbnjson SettingsLoad Unicapture ServiceLoop ServiceSteps BackendSlot

/-- Reads the inits and cleanups of a slot; its state is whether an init is open. -/
def pairing : Monitor BackendCall Bool where
  start := false
  next
    | true, .init _ => none
    | false, .init ret => some (decide (ret = 0))
    | true, .cleanup => some false
    | false, .cleanup => none
    | opened, _ => some opened

structure Paired (v : Slot) : Prop where
  calls : pairing.after v.calls = some v.initialized
  pointer : v.initialized = true → v.pointer = true

theorem after_call {v : Slot} {opened opened' : Bool} {b : BackendCall}
    (h : pairing.after v.calls = some opened) (step : pairing.next opened b = some opened') :
    pairing.after (v.call b).calls = some opened' := by
  rw [Slot.call, pairing.after_append h, Monitor.readFrom, step]
  rfl

theorem reinit_paired (ret : Int) {v : Slot} (here : Paired v) : Paired (v.reinit ret) := by
  rw [Slot.reinit]
  split
  · next idle =>
    rw [Bool.and_eq_true, Bool.not_eq_true'] at idle
    exact ⟨after_call (idle.2 ▸ here.calls) rfl, fun _ => idle.1⟩
  · exact here

def bystander : BackendCall → Bool
  | .init _ | .cleanup => false
  | _ => true

theorem next_bystander {b : BackendCall} (h : bystander b = true) (opened : Bool) :
    pairing.next opened b = some opened := by
  cases b <;> cases opened <;> first | rfl | cases h

theorem bystander_paired {v : Slot} {b : BackendCall} (h : bystander b = true) (running : Bool)
    (here : Paired v) : Paired { v.call b with running := running } :=
  ⟨after_call here.calls (next_bystander h _), here.pointer⟩

theorem terminate_paired {v : Slot} (here : Paired v) : Paired v.terminate := by
  rw [Slot.terminate]
  split
  · exact bystander_paired rfl false here
  · exact here

theorem cleanup_paired {v : Slot} (here : Paired v) :
    Paired v.cleanup ∧ v.cleanup.initialized = false := by
  rw [Slot.cleanup]
  split
  · next live =>
    rw [Bool.and_eq_true] at live
    exact ⟨⟨after_call (live.2 ▸ here.calls) rfl, fun init => absurd init Bool.false_ne_true⟩, rfl⟩
  · next away =>
    refine ⟨here, ?_⟩
    cases init : v.initialized with
    | true => exact absurd (by rw [here.pointer init, init]; rfl) away
    | false => rfl

theorem attempt_paired (late : Bool) (ret : Int) {v : Slot} (here : Paired v) :
    Paired (v.attempt late ret) := by
  rw [Slot.attempt]
  split
  · exact bystander_paired rfl _ here
  · exact here

theorem acquire_paired (ret : Int) (stops : Bool) {v : Slot} (here : Paired v) :
    Paired (v.acquire ret stops) := by
  have acquired := bystander_paired (b := .acquireFrame ret) rfl v.running here
  rw [Slot.acquire]
  split
  · split
    · exact bystander_paired rfl false acquired
    · exact acquired
  · exact here

theorem release_paired (held : Bool) {v : Slot} (here : Paired v) : Paired (v.release held) := by
  rw [Slot.release]
  split
  · exact bystander_paired rfl v.running here
  · exact here

theorem iterate_paired (late : Bool) (start acquire : Int) (stops valid : Bool) {v : Slot}
    (here : Paired v) : Paired (v.iterate late start acquire stops valid) :=
  release_paired _ (acquire_paired acquire stops (attempt_paired late start here))

theorem init_closed (result : LoadResult) {v : Slot} (idle : v.initialized = false)
    (h : pairing.after v.calls = some false) :
    (v.init result).2.initialized = decide ((v.init result).1 = 0) ∧
      pairing.after (v.init result).2.calls = some (v.init result).2.initialized := by
  cases result with
  | dlopenFailed => exact ⟨idle, h.trans (congrArg some idle.symm)⟩
  | dlsymFailed => exact ⟨idle, h.trans (congrArg some idle.symm)⟩
  | loaded ret =>
    have opened : (v.init (.loaded ret)).2.initialized = decide (ret = 0) := by
      simp [Slot.init, Slot.call, idle]
    refine ⟨opened, ?_⟩
    rw [opened]
    exact after_call h rfl

theorem tryInit_closed (results : List LoadResult) {v : Slot} (idle : v.initialized = false)
    (h : pairing.after v.calls = some false) :
    (v.tryInit results).2.initialized = decide ((v.tryInit results).1 = 0) ∧
      pairing.after (v.tryInit results).2.calls = some (v.tryInit results).2.initialized := by
  induction results generalizing v with
  | nil => exact ⟨idle, h.trans (congrArg some idle.symm)⟩
  | cons result rest ih =>
    obtain ⟨opened, calls⟩ := init_closed result idle h
    rw [Slot.tryInit]
    split
    · exact ⟨opened, calls⟩
    · next failed =>
      rw [decide_eq_false failed] at opened
      exact ih opened (opened ▸ calls)

theorem select_paired (disabled auto : Bool) (result : LoadResult) (results : List LoadResult)
    {v : Slot} (idle : v.initialized = false) (h : pairing.after v.calls = some false) :
    Paired (v.select disabled auto result results) := by
  have paired {tried : Int × Slot} (opened : tried.2.initialized = decide (tried.1 = 0))
      (calls : pairing.after tried.2.calls = some tried.2.initialized) :
      Paired { tried.2 with pointer := decide (tried.1 = 0) } :=
    ⟨calls, fun init => opened ▸ init⟩
  rw [Slot.select]
  split
  · exact ⟨h.trans (congrArg some idle.symm), fun init => absurd (idle ▸ init) Bool.false_ne_true⟩
  · dsimp only
    split
    · obtain ⟨opened, calls⟩ := @tryInit_closed results { v with pointer := false } idle h
      exact paired opened calls
    · obtain ⟨opened, calls⟩ := @init_closed result { v with pointer := false } idle h
      exact paired opened calls

theorem keeps_paired : Keeps Paired where
  reinit ret _ here := reinit_paired ret here
  finish _ here := (cleanup_paired (terminate_paired here)).1
  fresh v disabled auto result results here := by
    obtain ⟨clean, idle⟩ := cleanup_paired here
    exact select_paired disabled auto result results idle (idle ▸ clean.calls)

theorem boot_paired (env : Env) (handle handleLegacy : Option Nat) (settings : Settings)
    (side : Side) : Paired (slot side (boot env handle handleLegacy settings).capture) := by
  obtain ⟨disabled, auto, result, results, eq⟩ :=
    slot_serviceInit env settings (zeroed handle handleLegacy settings) side
  rw [boot, eq]
  exact select_paired disabled auto result results rfl rfl

/-- In every run no init is repeated and no cleanup comes without one, and `service_destroy`
leaves no init open. -/
theorem init_cleanup_paired (env : Env) (handle handleLegacy : Option Nat) (settings : Settings)
    (es : List Event) (s : Service)
    (h : run step (boot env handle handleLegacy settings) es = .ok s) (last : Env) (side : Side) :
    pairing.Accepts (slot side s.capture).calls ∧
      pairing.after (slot side (serviceDestroy last s).2.capture).calls = some false := by
  have here : Paired (slot side s.capture) := by
    refine run_invariant (I := fun s => Paired (slot side s.capture)) ?_
      (boot_paired env handle handleLegacy settings side) h
    intro s e s' here first
    exact step_slots keeps_paired first (fun _ _ _ here => iterate_paired _ _ _ _ _ here) here
  refine ⟨pairing.accepts_of_after here.calls, ?_⟩
  obtain ⟨clean, idle⟩ := cleanup_paired (serviceStop_slots keeps_paired last here)
  rw [slot_serviceDestroy, clean.calls, idle]

theorem init_cleanup_paired_reloaded :
    ∃ s, run step (boot { calm with load := fun _ _ => .loaded 0 } none none settingsInit)
        [⟨.start, calm⟩, ⟨.captureThread ⟨0, fun _ => 0, fun _ => 0, fun _ => .argb⟩, calm⟩,
          ⟨.setSettings (.object []), { calm with load := fun _ _ => .loaded 0 }⟩] = .ok s ∧
      pairing.Accepts (slot .ui s.capture).calls ∧
      pairing.after (slot .ui (serviceDestroy calm s).2.capture).calls = some false :=
  ⟨_, rfl, init_cleanup_paired _ none none settingsInit
    [⟨.start, calm⟩, ⟨.captureThread ⟨0, fun _ => 0, fun _ => 0, fun _ => .argb⟩, calm⟩,
      ⟨.setSettings (.object []), { calm with load := fun _ _ => .loaded 0 }⟩] _ rfl calm .ui⟩

end HyperionWebos.BackendPairing
