import HyperionWebos.TraceMonitor
import HyperionWebos.VsyncThread
import Mathlib.Data.List.Induction

/-! The sessions of the video backend, from a successful start to its terminate, under any
interleaving of `unicapture_run` and the vsync handler. Neither thread holds a lock while
it reads the flag, calls the backend, terminates and clears the flag. As long as no thread
terminates while the other is at work on the session, nor takes the flag at its word while
the other is about to clear it, each session ends once and nothing is called after its
end; any step against this can be continued to a call out of order. -/

namespace HyperionWebos.VideoSessions
open Runs TraceMonitor VsyncThread

/-- No second terminate and no wait or frame call between a terminate and the next
successful start, no cleanup and no other start between a successful start and its
terminate. -/
def Misplaced (calls : List VideoCall) : VideoCall → Prop
  | .terminate | .wait | .acquireFrame | .releaseFrame => Since .terminate (.start 0) calls
  | .cleanup => Since (.start 0) .terminate calls
  | .start ret => ret = 0 ∧ Since (.start 0) .terminate calls
  | .init _ => False

def TerminatedOnce (calls : List VideoCall) : Prop :=
  EachAllowed (fun before b => ¬ Misplaced before b) calls

inductive Life where
  | never
  | started
  | terminated
deriving DecidableEq, Repr

def Life.next (l : Life) : VideoCall → Life
  | .start ret => if ret = 0 then .started else l
  | .terminate => .terminated
  | _ => l

def life (calls : List VideoCall) : Life := calls.foldl Life.next .never

theorem life_concat (calls : List VideoCall) (b : VideoCall) :
    life (calls ++ [b]) = (life calls).next b := by
  rw [life, List.foldl_append]
  rfl

theorem life_iff (calls : List VideoCall) :
    (life calls = .terminated ↔ Since .terminate (.start 0) calls) ∧
      (life calls = .started ↔ Since (.start 0) .terminate calls) := by
  induction calls using List.reverseRecOn with
  | nil => simp [life, since_nil]
  | append_singleton calls b ih =>
    rw [since_concat (by simp), since_concat (by simp), life_concat, ← ih.1, ← ih.2]
    cases b with
    | start ret =>
      by_cases zero : ret = 0
      · simp [Life.next, zero]
      · simp [Life.next, zero]
    | terminate => simp [Life.next]
    | _ => simp [Life.next]

/-- The phases of `unicapture_run` between its read of the flag and its last call on the
session it found. -/
@[simp] def runAtWork : RunPhase → Bool
  | .acquire | .acquiring | .terminate | .frame => true
  | _ => false

@[simp] def handlerAtWork : VsyncPhase → Bool
  | .wait | .waiting | .terminate => true
  | _ => false

/-- No terminate while the other thread is at work on the session, and no thread takes the
flag for set while the other has terminated and not cleared it yet. -/
def Clear (s : Video) : Event → Prop
  | .handler _ =>
    (s.handler = .terminate → runAtWork s.run = false) ∧
      (s.handler = .test → s.vsync = true → s.hasWait = true → s.run ≠ .stopped)
  | .run _ =>
    (s.run = .terminate → handlerAtWork s.handler = false) ∧
      (s.run = .check → s.handler ≠ .stopped)
  | _ => True

def OutOfOrder : Except Empty Video → Prop
  | .ok s => ¬ TerminatedOnce s.calls
  | .error _ => False

/-- What a pair of phases says about the flag and the session. -/
inductive View where
  | impossible
  | agree
  | atWork
  | clearing
  | unset
  | unseen

/-- The view of the flag and the last of start and terminate: both agree, a session under
way that a thread works on, one terminated under a set flag, none, and one that the flag
does not show yet. -/
@[simp] def View.Holds : View → Bool → Life → Prop
  | .impossible, _, _ => False
  | .agree, flag, l => flag = decide (l = .started)
  | .atWork, flag, l => flag = true ∧ l = .started
  | .clearing, flag, l => flag = true ∧ l = .terminated
  | .unset, flag, l => flag = false ∧ l ≠ .started
  | .unseen, flag, l => flag = false ∧ l = .started

@[simp] def aloneView : RunPhase → View
  | .absent | .created | .spawn | .lastCheck => .agree
  | .lastTerminate => .atWork
  | .lastStopped => .clearing
  | .cleanup => .unset
  | _ => .impossible

@[simp] def idleView : RunPhase → View
  | .head | .gate | .wait | .check | .shutdown | .join => .agree
  | .acquire | .acquiring | .terminate | .frame => .atWork
  | .stopped => .clearing
  | .start => .unset
  | .started => .unseen
  | _ => .impossible

@[simp] def workView : RunPhase → View
  | .head | .gate | .wait | .check | .shutdown | .join => .atWork
  | .acquire | .acquiring | .terminate | .frame => .atWork
  | _ => .impossible

@[simp] def clearingView : RunPhase → View
  | .head | .gate | .wait | .check | .shutdown | .join => .clearing
  | _ => .impossible

@[simp] def view (run : RunPhase) : VsyncPhase → View
  | .absent => aloneView run
  | .wait | .waiting | .terminate => workView run
  | .stopped => clearingView run
  | _ => idleView run

/-- The handler's thread runs from its creation until the shutdown asks it to end. -/
@[simp] def looping : RunPhase → Bool
  | .absent | .created | .spawn | .join | .lastCheck | .lastTerminate | .lastStopped
  | .cleanup => false
  | _ => true

structure Orderly (s : Video) : Prop where
  proper : TerminatedOnce s.calls
  seen : (view s.run s.handler).Holds s.captureRunning (life s.calls)
  spawned : looping s.run = true → s.vsyncThreadRunning = true

theorem Orderly.move {s t : Video} (here : Orderly s) (calls : t.calls = s.calls)
    (seen : (view t.run t.handler).Holds t.captureRunning (life s.calls))
    (spawned : looping t.run = true → t.vsyncThreadRunning = true) : Orderly t :=
  ⟨by rw [calls]; exact here.proper, by rw [calls]; exact seen, spawned⟩

theorem Orderly.call {s t : Video} {b : VideoCall} (here : Orderly s)
    (calls : t.calls = s.calls ++ [b]) (placed : ¬ Misplaced s.calls b)
    (seen : (view t.run t.handler).Holds t.captureRunning ((life s.calls).next b))
    (spawned : looping t.run = true → t.vsyncThreadRunning = true) : Orderly t := by
  refine ⟨?_, ?_, spawned⟩
  · rw [calls, TerminatedOnce, eachAllowed_concat]
    exact ⟨here.proper, placed⟩
  · rw [calls, life_concat]
    exact seen

theorem misplaced_iff {calls : List VideoCall} {b : VideoCall}
    (ends : b = .terminate ∨ b = .wait ∨ b = .acquireFrame ∨ b = .releaseFrame) :
    Misplaced calls b ↔ life calls = .terminated := by
  rw [(life_iff calls).1]
  rcases ends with rfl | rfl | rfl | rfl <;> rfl

theorem Orderly.inSession {s t : Video} {b : VideoCall} (here : Orderly s)
    (belongs : b = .terminate ∨ b = .wait ∨ b = .acquireFrame ∨ b = .releaseFrame)
    (live : life s.calls = .started) (calls : t.calls = s.calls ++ [b])
    (seen : (view t.run t.handler).Holds t.captureRunning ((life s.calls).next b))
    (spawned : looping t.run = true → t.vsyncThreadRunning = true) : Orderly t := by
  refine here.call calls ?_ seen spawned
  rw [misplaced_iff belongs, live]
  decide

theorem misplaced_start {calls : List VideoCall} {ret : Int} :
    Misplaced calls (.start ret) ↔ ret = 0 ∧ life calls = .started := by
  rw [(life_iff calls).2]
  rfl

theorem misplaced_cleanup {calls : List VideoCall} :
    Misplaced calls .cleanup ↔ life calls = .started := (life_iff calls).2.symm

section Views

variable {h : VsyncPhase} {r : RunPhase} {flag : Bool} {l : Life}

def calm : RunPhase → Bool
  | .head | .gate | .wait | .check | .shutdown | .join => true
  | _ => false

theorem view_calm {r r' : RunPhase} (here : calm r = true) (there : calm r' = true)
    (seen : (view r h).Holds flag l) : (view r' h).Holds flag l := by
  cases r <;> simp [calm] at here <;> cases r' <;> simp [calm] at there <;> cases h <;> exact seen

theorem view_work {r r' : RunPhase} (here : runAtWork r = true) (there : runAtWork r' = true)
    (seen : (view r h).Holds flag l) : (view r' h).Holds flag l := by
  cases r <;> simp at here <;> cases r' <;> simp at there <;> cases h <;> exact seen

theorem view_started {r : RunPhase} (work : runAtWork r = true) (seen : (view r h).Holds flag l) :
    flag = true ∧ l = .started := by
  cases r <;> simp at work <;> cases h <;> simp_all

theorem view_leave {r r' : RunPhase} (work : runAtWork r = true) (there : calm r' = true)
    (seen : (view r h).Holds flag l) : (view r' h).Holds flag l := by
  obtain ⟨rfl, rfl⟩ := view_started work seen
  cases r <;> simp at work <;> cases r' <;> simp [calm] at there <;> cases h <;> simp_all

theorem view_created (seen : (view .created h).Holds flag l) : (view .spawn h).Holds flag l := by
  cases h <;> simp_all

theorem view_spawn (seen : (view .spawn h).Holds flag l) : (view .head .head).Holds flag l := by
  cases h <;> simp_all

theorem view_due (seen : (view .gate h).Holds false l) : (view .start h).Holds false l := by
  cases h <;> simp_all

theorem view_unset (seen : (view .start h).Holds flag l) : l ≠ .started := by
  cases h <;> simp_all

theorem view_success (seen : (view .start h).Holds flag l) :
    (view .started h).Holds flag .started := by
  cases h <;> simp_all

theorem view_failure (seen : (view .start h).Holds flag l) : (view .wait h).Holds flag l := by
  cases h <;> simp_all

theorem view_raise (seen : (view .started h).Holds flag l) : (view .wait h).Holds true l := by
  cases h <;> simp_all

theorem view_enter (free : h ≠ .stopped) (seen : (view .check h).Holds true l) :
    (view .acquire h).Holds true l := by
  cases h <;> simp_all

theorem view_end (free : handlerAtWork h = false) (seen : (view .terminate h).Holds flag l) :
    (view .stopped h).Holds flag .terminated := by
  cases h <;> simp_all

theorem view_clear (seen : (view .stopped h).Holds flag l) : (view .head h).Holds false l := by
  cases h <;> simp_all

theorem view_lastCheck (seen : (view .lastCheck h).Holds flag l) :
    (view (if flag then .lastTerminate else .cleanup) h).Holds flag l := by
  cases flag <;> cases h <;> simp_all

theorem view_lastTerminate (seen : (view .lastTerminate h).Holds flag l) :
    l = .started ∧ (view .lastStopped h).Holds flag .terminated := by
  cases h <;> simp_all

theorem view_lastStopped (seen : (view .lastStopped h).Holds flag l) :
    (view .cleanup h).Holds false l := by
  cases h <;> simp_all

theorem view_cleanup (seen : (view .cleanup h).Holds flag l) :
    l ≠ .started ∧ (view .absent h).Holds flag l := by
  cases h <;> simp_all

theorem view_waits (seen : (view r .test).Holds true l) (free : r ≠ .stopped) :
    (view r .wait).Holds true l := by
  cases r <;> simp_all

theorem view_worker_started (work : handlerAtWork h = true) (seen : (view r h).Holds flag l) :
    l = .started := by
  cases h <;> simp at work <;> cases r <;> simp_all

theorem view_returned (seen : (view r .waiting).Holds flag l) : (view r .signal).Holds flag l := by
  cases r <;> simp_all

theorem view_ended (seen : (view r .terminate).Holds flag l) (free : runAtWork r = false) :
    (view r .stopped).Holds flag .terminated := by
  cases r <;> simp_all

theorem view_cleared (seen : (view r .stopped).Holds flag l) : (view r .signal).Holds false l := by
  cases r <;> simp_all

end Views

theorem captureStart_orderly {s : Video} (here : Orderly s) : Orderly (captureStart s) := by
  unfold captureStart
  split
  · exact here
  · split
    · rename_i absent
      have seen := here.seen
      rw [absent] at seen
      refine here.move rfl ?_ (by simp)
      revert seen
      cases s.handler <;> exact id
    · exact here

theorem runStep_orderly {o : Outcome} {s : Video} (here : Orderly s) (clear : Clear s (.run o)) :
    Orderly (runStep o s) := by
  have seen := here.seen
  have spawned := here.spawned
  unfold runStep
  cases phase : s.run <;> rw [phase] at seen spawned <;> dsimp only
  case absent => exact here
  case created =>
    split
    · exact here.call (b := .init o.ret) rfl id (view_created seen) (by simp)
    · exact here.move rfl (view_created seen) (by simp)
  case spawn => exact here.move rfl (view_spawn seen) (fun _ => rfl)
  case head =>
    split
    · exact here.move rfl (view_calm rfl rfl seen) spawned
    · exact here.move rfl (view_calm rfl rfl seen) spawned
  case gate =>
    split
    · rename_i due
      have unset : s.captureRunning = false := by
        simp only [Bool.and_eq_true, Bool.not_eq_true'] at due
        exact due.2
      rw [unset] at seen
      refine here.move rfl ?_ spawned
      dsimp only
      rw [unset]
      exact view_due seen
    · exact here.move rfl (view_calm rfl rfl seen) spawned
  case start =>
    have placed : ¬ Misplaced s.calls (.start o.ret) := by
      rw [misplaced_start]
      exact fun again => view_unset seen again.2
    split
    · rename_i success
      refine here.call (b := .start o.ret) rfl placed ?_ spawned
      rw [Life.next, if_pos success]
      exact view_success seen
    · rename_i failure
      refine here.call (b := .start o.ret) rfl placed ?_ spawned
      rw [Life.next, if_neg failure]
      exact view_failure seen
  case started => exact here.move rfl (view_raise seen) spawned
  case wait =>
    split
    · exact here.move rfl (view_calm rfl rfl seen) spawned
    · exact here
  case check =>
    split
    · rename_i set
      rw [set] at seen
      refine here.move rfl ?_ spawned
      dsimp only
      rw [set]
      exact view_enter (clear.2 phase) seen
    · exact here.move rfl (view_calm rfl rfl seen) spawned
  case acquire =>
    exact here.inSession (b := .acquireFrame) (by simp) (view_started rfl seen).2 rfl
      (view_work rfl rfl seen) spawned
  case acquiring =>
    split
    · split
      · exact here.move rfl (view_work rfl rfl seen) spawned
      · exact here.move rfl (view_leave rfl rfl seen) spawned
    · split
      · exact here.move rfl (view_work rfl rfl seen) spawned
      · exact here.move rfl (view_leave rfl rfl seen) spawned
  case terminate =>
    exact here.inSession (b := .terminate) (by simp) (view_started rfl seen).2 rfl
      (view_end (clear.1 phase) seen) spawned
  case stopped => exact here.move rfl (view_clear seen) spawned
  case frame =>
    exact here.inSession (b := .releaseFrame) (by simp) (view_started rfl seen).2 rfl
      (view_leave rfl rfl seen) spawned
  case shutdown =>
    rw [if_pos (spawned rfl)]
    exact here.move rfl (view_calm rfl rfl seen) (by simp)
  case join =>
    split
    · rename_i ended
      rw [ended] at seen
      exact here.move rfl seen (by simp)
    · exact here
  case lastCheck =>
    refine here.move rfl (view_lastCheck seen) ?_
    dsimp only
    split <;> simp
  case lastTerminate =>
    obtain ⟨live, ended⟩ := view_lastTerminate seen
    exact here.inSession (b := .terminate) (by simp) live rfl ended (by simp)
  case lastStopped => exact here.move rfl (view_lastStopped seen) (by simp)
  case cleanup =>
    obtain ⟨ended, gone⟩ := view_cleanup seen
    split
    · refine here.call (b := .cleanup) rfl ?_ gone (by simp)
      rw [misplaced_cleanup]
      exact ended
    · exact here.move rfl gone (by simp)

theorem handlerStep_orderly {ret : Int} {s : Video} (here : Orderly s)
    (clear : Clear s (.handler ret)) : Orderly (handlerStep ret s) := by
  have seen := here.seen
  unfold handlerStep
  cases phase : s.handler <;> rw [phase] at seen <;> dsimp only
  case absent => exact here
  case head =>
    split
    · exact here.move rfl seen here.spawned
    · exact here.move rfl seen here.spawned
  case test =>
    split
    · rename_i waits
      simp only [Bool.and_eq_true] at waits
      obtain ⟨⟨vsync, set⟩, hasWait⟩ := waits
      rw [set] at seen
      refine here.move rfl ?_ here.spawned
      dsimp only
      rw [set]
      exact view_waits seen (clear.2 phase vsync hasWait)
    · exact here.move rfl seen here.spawned
  case wait =>
    exact here.inSession (b := .wait) (by simp) (view_worker_started rfl seen) rfl seen
      here.spawned
  case waiting =>
    split
    · exact here.move rfl seen here.spawned
    · exact here.move rfl (view_returned seen) here.spawned
  case terminate =>
    exact here.inSession (b := .terminate) (by simp) (view_worker_started rfl seen) rfl
      (view_ended seen (clear.1 phase)) here.spawned
  case stopped => exact here.move rfl (view_cleared seen) here.spawned
  case pause => exact here.move rfl seen here.spawned
  case signal => exact here.move rfl seen here.spawned
  case ended => exact here

section Traps

variable {s t : Video}

theorem doomed_call {b : VideoCall}
    (belongs : b = .terminate ∨ b = .wait ∨ b = .acquireFrame ∨ b = .releaseFrame)
    (ended : life s.calls = .terminated) (calls : t.calls = s.calls ++ [b]) :
    Doomed step Clear OutOfOrder t := by
  apply doomed_now
  change ¬ TerminatedOnce t.calls
  rw [TerminatedOnce, calls, eachAllowed_concat]
  exact fun proper => proper.2 ((misplaced_iff belongs).mpr ended)

def someOutcome : Outcome := ⟨0, 0, .rgb, false⟩

theorem clear_run {o : Outcome} (terminate : s.run ≠ .terminate) (check : s.run ≠ .check) :
    Clear s (.run o) :=
  ⟨fun here => absurd here terminate, fun here => absurd here check⟩

theorem clear_handler {ret : Int} (terminate : s.handler ≠ .terminate) (test : s.handler ≠ .test) :
    Clear s (.handler ret) :=
  ⟨fun here => absurd here terminate, fun here => absurd here test⟩

theorem doomed_run {o : Outcome} (terminate : s.run ≠ .terminate) (check : s.run ≠ .check)
    (doomed : Doomed step Clear OutOfOrder (runStep o s)) : Doomed step Clear OutOfOrder s :=
  doomed_step (clear_run terminate check) rfl doomed

theorem doomed_handler (ret : Int) (terminate : s.handler ≠ .terminate)
    (test : s.handler ≠ .test)
    (doomed : Doomed step Clear OutOfOrder (handlerStep ret s)) :
    Doomed step Clear OutOfOrder s :=
  doomed_step (clear_handler terminate test) rfl doomed

theorem doomed_acquire (ended : life s.calls = .terminated) (here : s.run = .acquire) :
    Doomed step Clear OutOfOrder s := by
  refine doomed_run (o := someOutcome) (by simp [here]) (by simp [here]) ?_
  exact doomed_call (s := s) (b := .acquireFrame) (by simp) ended (by rw [runStep, here]; rfl)

theorem doomed_frame (ended : life s.calls = .terminated) (here : s.run = .frame) :
    Doomed step Clear OutOfOrder s := by
  refine doomed_run (o := someOutcome) (by simp [here]) (by simp [here]) ?_
  exact doomed_call (s := s) (b := .releaseFrame) (by simp) ended (by rw [runStep, here]; rfl)

theorem doomed_wait (ended : life s.calls = .terminated) (here : s.handler = .wait) :
    Doomed step Clear OutOfOrder s := by
  refine doomed_handler 0 (by simp [here]) (by simp [here]) ?_
  exact doomed_call (s := s) (b := .wait) (by simp) ended (by rw [handlerStep, here]; rfl)

theorem doomed_runTerminate (ended : life s.calls = .terminated) (here : s.run = .terminate)
    (free : handlerAtWork s.handler = false) : Doomed step Clear OutOfOrder s := by
  refine doomed_step (e := .run someOutcome) ⟨fun _ => free, by simp [here]⟩ rfl ?_
  exact doomed_call (s := s) (b := .terminate) (by simp) ended (by rw [runStep, here]; rfl)

theorem doomed_handlerTerminate (ended : life s.calls = .terminated)
    (here : s.handler = .terminate) (free : runAtWork s.run = false) :
    Doomed step Clear OutOfOrder s := by
  refine doomed_step (e := .handler 0) ⟨fun _ => free, by simp [here]⟩ rfl ?_
  exact doomed_call (s := s) (b := .terminate) (by simp) ended (by rw [handlerStep, here]; rfl)

/-- The run after the handler has terminated the session it is at work on. -/
theorem doomed_runAtWork (ended : life s.calls = .terminated) (work : runAtWork s.run = true)
    (stopped : s.handler = .stopped) : Doomed step Clear OutOfOrder s := by
  cases here : s.run with
  | acquire => exact doomed_acquire ended here
  | acquiring =>
    refine doomed_run (o := someOutcome) (by simp [here]) (by simp [here]) ?_
    apply doomed_frame
    · rw [runStep, here]
      exact ended
    · rw [runStep, here]
      rfl
  | terminate =>
    refine doomed_handler 0 (by simp [stopped]) (by simp [stopped]) ?_
    apply doomed_runTerminate
    · rw [handlerStep, stopped]
      exact ended
    · rw [handlerStep, stopped]
      exact here
    · rw [handlerStep, stopped]
      rfl
  | frame => exact doomed_frame ended here
  | _ =>
    rw [here] at work
    simp at work

theorem doomed_handlerAtWork (ended : life s.calls = .terminated)
    (work : handlerAtWork s.handler = true) (stopped : s.run = .stopped) :
    Doomed step Clear OutOfOrder s := by
  have cleared : runStep someOutcome s = { s with captureRunning := false, run := .head } := by
    rw [runStep, stopped]
  cases here : s.handler with
  | wait => exact doomed_wait ended here
  | waiting =>
    refine doomed_run (o := someOutcome) (by simp [stopped]) (by simp [stopped]) ?_
    rw [cleared]
    refine doomed_handler (-99) (by simp [here]) (by simp [here]) ?_
    apply doomed_handlerTerminate
    · simp only [handlerStep, here]
      exact ended
    · simp only [handlerStep, here]
      rfl
    · simp only [handlerStep, here]
      rfl
  | terminate =>
    refine doomed_run (o := someOutcome) (by simp [stopped]) (by simp [stopped]) ?_
    rw [cleared]
    exact doomed_handlerTerminate ended here rfl
  | _ =>
    rw [here] at work
    simp at work

theorem life_terminate (calls : List VideoCall) : life (calls ++ [.terminate]) = .terminated :=
  life_concat calls _

theorem doomed_of_unclear {e : Event} (here : Orderly s) (unclear : ¬ Clear s e)
    (taken : step s e = .ok t) : Doomed step Clear OutOfOrder t := by
  cases e with
  | start => exact absurd trivial unclear
  | stop => exact absurd trivial unclear
  | handler ret =>
    unfold Clear at unclear
    rw [Classical.not_and_iff_not_or_not] at unclear
    cases taken
    rcases unclear with terminates | reads
    · rw [Classical.not_imp, Bool.not_eq_false] at terminates
      obtain ⟨phase, work⟩ := terminates
      rw [handlerStep, phase]
      exact doomed_runAtWork (life_terminate _) work rfl
    · simp only [Classical.not_imp, not_not] at reads
      obtain ⟨phase, vsync, hasWait, stopped⟩ := reads
      have seen := here.seen
      rw [phase, stopped] at seen
      obtain ⟨set, ended⟩ := seen
      simp only [handlerStep, phase, vsync, hasWait, set, Bool.and_self, if_true]
      exact doomed_wait ended rfl
  | run o =>
    unfold Clear at unclear
    rw [Classical.not_and_iff_not_or_not] at unclear
    cases taken
    rcases unclear with terminates | reads
    · rw [Classical.not_imp, Bool.not_eq_false] at terminates
      obtain ⟨phase, work⟩ := terminates
      rw [runStep, phase]
      exact doomed_handlerAtWork (life_terminate _) work rfl
    · rw [Classical.not_imp, not_not] at reads
      obtain ⟨phase, stopped⟩ := reads
      have seen := here.seen
      rw [phase, stopped] at seen
      obtain ⟨set, ended⟩ := seen
      simp only [runStep, phase, set, if_true]
      exact doomed_acquire ended rfl

end Traps

theorem step_orderly {s t : Video} {e : Event} (here : Orderly s) (clear : Clear s e)
    (taken : step s e = .ok t) : Orderly t := by
  cases e with
  | start =>
    cases taken
    exact captureStart_orderly here
  | stop =>
    cases taken
    exact here.move rfl here.seen here.spawned
  | run o =>
    cases taken
    exact runStep_orderly here clear
  | handler ret =>
    cases taken
    exact handlerStep_orderly here clear

/-- Under clear steps every call on the video backend comes in order, after any number of
starts and stops; and the steps of a run are clear exactly when no state it reaches can be
continued by clear steps to a call out of order. -/
theorem terminated_once_iff (vsync hasWait present initialized : Bool) (es : List Event) :
    (Careful step Clear (boot vsync hasWait present initialized) es →
      ¬ OutOfOrder (run step (boot vsync hasWait present initialized) es)) ∧
    (Throughout step (fun _ _ t => ¬ Doomed step Clear OutOfOrder t)
        (boot vsync hasWait present initialized) es ↔
      Careful step Clear (boot vsync hasWait present initialized) es) := by
  have keeps : ∀ s e t, Orderly s → Clear s e → step s e = .ok t → Orderly t :=
    fun s e t here clear taken => step_orderly here clear taken
  have fine : ∀ s, Orderly s → ¬ OutOfOrder (.ok s) := fun s here bad => bad here.proper
  have fails : ∀ s e f, Orderly s → step s e = .error f → ¬ OutOfOrder (.error f) :=
    fun s e f _ _ => id
  have start : Orderly (boot vsync hasWait present initialized) :=
    ⟨eachAllowed_nil _, rfl, by simp [boot]⟩
  exact ⟨careful_safe keeps fine fails start,
    undoomed_iff keeps fine fails (fun s e t here => doomed_of_unclear here) start⟩

/-- Both threads find the session broken: `wait` and `acquire_frame` return `-99`, and
each thread terminates it. -/
theorem terminated_once_twice :
    let fine : Event := .run ⟨2000000, 0, .rgb, false⟩
    let broken : Event := .run ⟨2000000, -99, .invalid, false⟩
    OutOfOrder (run step (boot true true true true)
      [.start, fine, fine, fine, fine, fine, fine, .handler 0, .handler 0, .handler 0, .handler 0,
        .handler 0, fine, fine, fine, .handler 0, .handler 0, .handler 0, .handler (-99), broken,
        fine, .handler 0]) := by
  change ¬ TerminatedOnce [.start 0, .wait, .acquireFrame, .wait, .terminate, .terminate]
  intro proper
  exact proper [.start 0, .wait, .acquireFrame, .wait, .terminate] .terminate [] rfl
    ⟨[.start 0, .wait, .acquireFrame, .wait], [], rfl, by simp⟩

end HyperionWebos.VideoSessions
