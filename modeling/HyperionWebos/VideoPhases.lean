import HyperionWebos.BackendSlot
import HyperionWebos.VsyncThread

/-! The capture thread in phases. `VsyncThread` cuts `unicapture_run` at its accesses to the
flags and the video backend; with the vsync handler left alone, a step of `captureStep` is
a run of these phases, and the video backend sees the same calls and flags. -/

namespace HyperionWebos.VideoPhases
open Runs Unicapture CaptureThread BackendSlot VsyncThread

def videoCall : BackendCall → VideoCall
  | .init ret => .init ret
  | .cleanup => .cleanup
  | .start ret => .start ret
  | .terminate => .terminate
  | .acquireFrame _ => .acquireFrame
  | .releaseFrame => .releaseFrame

/-- `v` with the video backend as the slot has it and `unicapture_run` at `run`. -/
def place (v : Video) (u : Slot) (run : VsyncThread.RunPhase) : Video :=
  { v with
    present := u.pointer
    initialized := u.initialized
    captureRunning := u.running
    calls := u.calls.map videoCall
    run := run }

abbrev Leads : Video → Video → Prop := Reaches VsyncThread.step

section Phases

variable (o : Outcome) (v : Video) (u : Slot)

@[simp] theorem place_call (b : BackendCall) (run run' : VsyncThread.RunPhase) :
    { (place v u run).call (videoCall b) with run := run' } = place v (u.call b) run' := by
  simp [place, Video.call, Slot.call]

theorem runStep_created : runStep o (place v u .created) = place v (u.reinit o.ret) .spawn := by
  change (if u.pointer && !u.initialized then _ else _) = _
  unfold Slot.reinit
  split
  · simp [place, Video.call, Slot.call, videoCall]
  · rfl

theorem runStep_gate : runStep o (place v u .gate) =
    if decide (v.now - v.lastVideoStart > 1000000) && u.pointer && !u.running then
      place { v with lastVideoStart := v.now } u .start
    else place { v with signalled := false } u .wait := rfl

theorem runStep_start : runStep o (place v u .start) =
    if o.ret = 0 then place v (u.call (.start o.ret)) .started
    else place { v with signalled := false } (u.call (.start o.ret)) .wait := by
  change (if o.ret = 0 then _ else _) = _
  split
  · exact place_call v u (.start o.ret) .start .started
  · simp [place, Video.call, Slot.call, videoCall, enterWait]

theorem runStep_wait (spurious : o.spurious = true) :
    runStep o (place v u .wait) = place v u .check := by
  change (if v.signalled || o.spurious then _ else _) = _
  rw [spurious, Bool.or_true]
  rfl

theorem runStep_acquire (ret : Int) :
    runStep o (place v u .acquire) = place v (u.call (.acquireFrame ret)) .acquiring :=
  place_call v u (.acquireFrame ret) .acquire .acquiring

theorem runStep_acquiring : runStep o (place v u .acquiring) = place v u
    (if o.ret ≠ 0 then if o.ret = -99 then .terminate else .head
      else if o.format ≠ .invalid then .frame else .head) := by
  change (if o.ret ≠ 0 then _ else _) = _
  split <;> rfl

theorem runStep_terminate :
    runStep o (place v u .terminate) = place v (u.call .terminate) .stopped :=
  place_call v u .terminate .terminate .stopped

theorem runStep_frame : runStep o (place v u .frame) = place v (u.call .releaseFrame) .head :=
  place_call v u .releaseFrame .frame .head

theorem runStep_lastTerminate :
    runStep o (place v u .lastTerminate) = place v (u.call .terminate) .lastStopped :=
  place_call v u .terminate .lastTerminate .lastStopped

theorem runStep_cleanup : runStep o (place v u .cleanup) = place v u.cleanup .absent := by
  change (if u.pointer && u.initialized then _ else _) = _
  unfold Slot.cleanup
  split
  · simp [place, Video.call, Slot.call, videoCall]
  · rfl

end Phases

variable {v v' : Video} {u : Slot}

theorem leads_run (o : Outcome) (later : Leads (runStep o v) v') : Leads v v' :=
  reaches_step (e := .run o) rfl later

abbrev outcome (now : UInt64) (ret : Int) (format : PixelFormat) : Outcome :=
  ⟨now, ret, format, true⟩

theorem attempt_phases (v : Video) (u : Slot) (ret : Int) :
    Leads (place v u .gate) (place { v with
        signalled := false
        lastVideoStart := if decide (v.now - v.lastVideoStart > 1000000) && u.pointer &&
          !u.running then v.now else v.lastVideoStart }
      (u.attempt (decide (v.now - v.lastVideoStart > 1000000)) ret) .wait) := by
  apply leads_run (outcome 0 ret .invalid)
  rw [runStep_gate, Slot.attempt]
  split
  · next open_ =>
    have idle : u.running = false := by simpa using (Bool.and_eq_true_iff.mp open_).2
    apply leads_run (outcome 0 ret .invalid)
    rw [runStep_start]
    by_cases started : ret = 0
    · rw [if_pos (show (outcome 0 ret .invalid).ret = 0 from started), decide_eq_true started]
      exact leads_run (outcome 0 ret .invalid) reaches_refl
    · rw [if_neg (show (outcome 0 ret .invalid).ret ≠ 0 from started), decide_eq_false started]
      have same : { u.call (.start ret) with running := false } = u.call (.start ret) := by
        rw [← idle]
        rfl
      rw [same]
      exact reaches_refl
  · exact reaches_refl

theorem frame_phases (v : Video) (u : Slot) (ret : Int) (format : PixelFormat) :
    Leads (place v u .wait) (place v ((u.acquire ret true).release
      (u.running && ret = 0 && format ≠ .invalid)) .head) := by
  apply leads_run (outcome 0 ret format)
  rw [runStep_wait _ _ _ rfl]
  apply leads_run (outcome 0 ret format)
  change Leads (place v u (if u.running then .acquire else .head)) _
  cases on : u.running with
  | false => simp [Slot.acquire, Slot.release, on, reaches_refl]
  | true =>
    apply leads_run (outcome 0 ret format)
    rw [if_pos rfl, runStep_acquire _ _ _ ret]
    apply leads_run (outcome 0 ret format)
    rw [runStep_acquiring]
    dsimp only [outcome]
    by_cases good : ret = 0
    · have acquired : u.acquire ret true = u.call (.acquireFrame ret) := by
        simp [Slot.acquire, on, good]
      rw [acquired, if_neg (show ¬ ret ≠ 0 from not_not.mpr good)]
      by_cases valid : format = .invalid
      · rw [if_neg (show ¬ format ≠ .invalid from not_not.mpr valid)]
        simp [Slot.release, valid, reaches_refl]
      · rw [if_pos (show format ≠ .invalid from valid)]
        apply leads_run (outcome 0 ret format)
        rw [runStep_frame]
        simp [Slot.release, good, valid, reaches_refl]
    · rw [if_pos (show ret ≠ 0 from good)]
      by_cases stops : ret = -99
      · have acquired : u.acquire ret true =
            { (u.call (.acquireFrame ret)).call .terminate with running := false } := by
          simp [Slot.acquire, on, stops]
        rw [acquired, if_pos stops]
        apply leads_run (outcome 0 ret format)
        rw [runStep_terminate]
        apply leads_run (outcome 0 ret format)
        simp [Slot.release, good]
        exact reaches_refl
      · have acquired : u.acquire ret true = u.call (.acquireFrame ret) := by
          simp [Slot.acquire, on, stops]
        rw [acquired, if_neg stops]
        simp [Slot.release, good, reaches_refl]

theorem iterate_phases (it : Iteration) (on : v.running = true) :
    Leads (place v u .head) (place { v with
        now := it.now
        signalled := false
        lastVideoStart := if decide (it.now - v.lastVideoStart > 1000000) && u.pointer &&
          !u.running then it.now else v.lastVideoStart }
      (u.iterate (decide (it.now - v.lastVideoStart > 1000000)) (it.start .video)
        (it.acquire .video) true (decide (it.format .video ≠ .invalid))) .head) := by
  apply leads_run (outcome it.now 0 .invalid)
  change Leads (if v.running then place { v with now := it.now } u .gate else _) _
  rw [if_pos on]
  apply (attempt_phases { v with now := it.now } u (it.start .video)).trans
  exact frame_phases _ _ (it.acquire .video) (it.format .video)

theorem shutdown_phases (off : v.running = false) (vsync : v.vsyncThreadRunning = true)
    (between : v.handler = .head) : Leads (place v u .head)
      (place { v with vsyncThreadRunning := false, handler := .absent } u.terminate.cleanup
        .absent) := by
  apply leads_run (outcome 0 0 .invalid)
  change Leads (if v.running then _ else place v u .shutdown) _
  rw [if_neg (by rw [off]; decide)]
  apply leads_run (outcome 0 0 .invalid)
  change Leads (if v.vsyncThreadRunning then place { v with vsyncThreadRunning := false } u .join
    else _) _
  rw [if_pos vsync]
  have leaves : handlerStep 0 (place { v with vsyncThreadRunning := false } u .join) =
      place { v with vsyncThreadRunning := false, handler := .ended } u .join := by
    simp [handlerStep, place, between]
  apply reaches_step (e := .handler 0) (congrArg Except.ok leaves)
  apply leads_run (outcome 0 0 .invalid)
  change Leads (place { v with vsyncThreadRunning := false, handler := .absent } u .lastCheck) _
  apply leads_run (outcome 0 0 .invalid)
  change Leads (place { v with vsyncThreadRunning := false, handler := .absent } u
    (if u.running then .lastTerminate else .cleanup)) _
  unfold Slot.terminate
  split
  · apply leads_run (outcome 0 0 .invalid)
    rw [runStep_lastTerminate]
    apply leads_run (outcome 0 0 .invalid)
    apply leads_run (outcome 0 0 .invalid)
    exact (runStep_cleanup _ _ _) ▸ reaches_refl
  · apply leads_run (outcome 0 0 .invalid)
    rw [runStep_cleanup]
    exact reaches_refl

/-- Where `unicapture_run` stands between two of its looks at `this->running`. -/
def Stands (v : Video) : Unicapture.RunPhase → Prop
  | .absent => v.run = .absent
  | .created => v.run = .created
  | .looping lastStart => v.run = .head ∧ v.lastVideoStart = lastStart .video ∧
      v.vsyncThreadRunning = true ∧ v.handler = .head

structure Matches (v : Video) (c : Capture) : Prop where
  backend : v = place v (slot .video c) v.run
  running : v.running = c.state.running
  phase : Stands v c.phase

theorem place_matches {c : Capture} {run : VsyncThread.RunPhase}
    (running : v.running = c.state.running) (phase : Stands (place v (slot .video c) run) c.phase) :
    Matches (place v (slot .video c) run) c := ⟨rfl, running, phase⟩

theorem head_phases (v : Video) (u : Slot) (ret : Int) :
    Leads (place v u .created) (place { v with
        lastVideoStart := 0
        vsyncThreadRunning := true
        handler := .head } (u.reinit ret) .head) := by
  apply leads_run (outcome 0 ret .invalid)
  rw [runStep_created]
  exact leads_run (outcome 0 ret .invalid) reaches_refl

theorem attemptStart_lastStart_self (it : Iteration) (side : Side) (lastStart : Side → UInt64)
    (c : Capture) : (attemptStart it side lastStart c).1 side =
      if decide (it.now - lastStart side > 1000000) && (slot side c).pointer &&
        !(slot side c).running then it.now else lastStart side := by
  change (attemptStart it side lastStart c).1 side =
    if gateOpen side it.now lastStart c then it.now else lastStart side
  rw [attemptStart]
  split
  · exact Function.update_self side it.now lastStart
  · rfl

theorem captureStep_phases {c : Capture} (ret : Side → Int) (it : Iteration)
    (agrees : Matches v c) : ∃ v', Leads v v' ∧ Matches v' (captureStep ret it c) := by
  have phase := agrees.phase
  rw [agrees.backend]
  rw [captureStep]
  cases here : c.phase with
  | absent => exact ⟨_, reaches_refl, agrees.backend ▸ agrees⟩
  | created =>
    rw [here] at phase
    rw [show v.run = .created from phase]
    refine ⟨_, head_phases v (slot .video c) (ret .video), ?_⟩
    rw [← slot_runHead]
    have running : v.running = (runHead ret c).state.running :=
      agrees.running.trans (runHead_undisturbed ret c).running.symm
    exact place_matches running ⟨rfl, rfl, rfl, rfl⟩
  | looping lastStart =>
    rw [here] at phase
    obtain ⟨head, last, vsync, between⟩ := phase
    rw [head]
    dsimp only
    by_cases on : c.state.running = true
    · rw [if_pos on]
      refine ⟨_, iterate_phases it (agrees.running.trans on), ?_⟩
      rw [last]
      have same : slot .video (runIteration it lastStart c) = (slot .video c).iterate
          (decide (it.now - lastStart .video > 1000000)) (it.start .video) (it.acquire .video)
          true (decide (it.format .video ≠ .invalid)) := slot_runIteration it lastStart c
      rw [← same]
      have running : v.running = (runIteration it lastStart c).state.running :=
        agrees.running.trans (runIteration_undisturbed it lastStart c).running.symm
      have attempted := attemptStart_lastStart_self it .video
        (attemptStart it .ui lastStart c).1 (attemptStart it .ui lastStart c).2
      rw [attemptStart_lastStart_other ui_ne_video.symm,
        slot_attemptStart_other ui_ne_video.symm] at attempted
      exact place_matches running ⟨rfl, attempted.symm, vsync, between⟩
    · have off : v.running = false := by rw [agrees.running]; simpa using on
      rw [if_neg on]
      refine ⟨_, shutdown_phases off vsync between, ?_⟩
      rw [← slot_runShutdown]
      have running : v.running = (runShutdown c).state.running :=
        agrees.running.trans (runShutdown_undisturbed c).running.symm
      exact place_matches running rfl

theorem unicaptureStart_phases {c : Capture} (agrees : Matches v c)
    (idle : c.state.running = false → c.phase = .absent) :
    ∃ v', Leads v v' ∧ Matches v' (unicaptureStart c).2 := by
  by_cases on : c.state.running = true
  · rw [unicaptureStart, if_pos on]
    exact ⟨v, reaches_refl, agrees⟩
  · have off : c.state.running = false := by simpa using on
    have phase := agrees.phase
    rw [idle off] at phase
    rw [agrees.backend, show v.run = .absent from phase]
    refine ⟨place { v with running := true } (slot .video c) .created, ?_, ?_⟩
    · refine reaches_step (e := .start) ?_ reaches_refl
      simp [VsyncThread.step, captureStart, place, agrees.running, off]
    · rw [← slot_unicaptureStart, unicaptureStart, if_neg on]
      exact place_matches rfl rfl

theorem unicaptureStop_phases {c : Capture} (ret : Side → Int) (agrees : Matches v c) :
    ∃ v', Leads v v' ∧ Matches v' (unicaptureStop ret c).2 := by
  by_cases on : c.state.running = true
  · have phase := agrees.phase
    let stopped : Capture := { c with state := { c.state with running := false } }
    rw [agrees.backend, unicaptureStop, if_neg (by simp [on])]
    change ∃ v', _ ∧ Matches v' ((runToEnd ret stopped).thread (.join c.state.mainThread))
    have stop (run : VsyncThread.RunPhase) :
        VsyncThread.step (place v (slot .video c) run) .stop =
          .ok (place { v with running := false } (slot .video c) run) := rfl
    cases here : c.phase with
    | absent =>
      rw [here] at phase
      rw [show v.run = .absent from phase]
      refine ⟨_, reaches_step (stop .absent) reaches_refl, ?_⟩
      rw [runToEnd, show stopped.phase = .absent from here]
      refine place_matches (c := stopped.thread _) rfl ?_
      change Stands _ c.phase
      rw [here]
      rfl
    | created =>
      rw [here] at phase
      rw [show v.run = .created from phase]
      refine ⟨_, reaches_step (stop .created) ((head_phases _ _ (ret .video)).trans
        (shutdown_phases rfl rfl rfl)), ?_⟩
      rw [runToEnd, show stopped.phase = .created from here]
      rw [show slot .video c = slot .video stopped from rfl, ← slot_runHead, ← slot_runShutdown]
      have off : (runShutdown (runHead ret stopped)).state.running = false :=
        (runShutdown_undisturbed _).running.trans (runHead_undisturbed ret stopped).running
      exact place_matches (c := (runShutdown (runHead ret stopped)).thread _) off.symm rfl
    | looping lastStart =>
      rw [here] at phase
      obtain ⟨head, _, vsync, between⟩ := phase
      rw [head]
      refine ⟨_, reaches_step (stop .head) (shutdown_phases rfl vsync between), ?_⟩
      rw [runToEnd, show stopped.phase = .looping lastStart from here]
      rw [show slot .video c = slot .video stopped from rfl, ← slot_runShutdown]
      have off : (runShutdown stopped).state.running = false :=
        (runShutdown_undisturbed stopped).running
      exact place_matches (c := (runShutdown stopped).thread _) off.symm rfl
  · rw [unicaptureStop, if_pos (by simpa using on)]
    exact ⟨v, reaches_refl, agrees⟩

end HyperionWebos.VideoPhases
