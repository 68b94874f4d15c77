import HyperionWebos.FairRuns
import HyperionWebos.VideoSessions

/-! The capture threads get on. The run waits for the handler in two places, for a signal
and in the join; everything else takes it forward whatever the calls return. So while both
threads keep moving the loop comes round again and again, and once `unicapture_stop` has
cleared `running` both threads come to their end, which is what its join waits for. -/

namespace HyperionWebos.CaptureProgress
open Runs FairRuns VsyncThread
open VideoSessions (looping)

inductive Thread where
  | run
  | handler
deriving DecidableEq

def moves : Thread → Event → Prop
  | .run, .run _ => True
  | .handler, .handler _ => True
  | _, _ => False

/-- The handler's thread exists from its creation to its join, and it can end only after
the shutdown has told it to. -/
structure Paired (s : Video) : Prop where
  loops : looping s.run = true →
    s.vsyncThreadRunning = true ∧ s.handler ≠ .absent ∧ s.handler ≠ .ended
  joins : s.run = .join → s.vsyncThreadRunning = false ∧ s.handler ≠ .absent
  alone : looping s.run = false → s.run ≠ .join → s.handler = .absent

/-- Steps of the run before its thread has ended, the waiting not counted. -/
@[simp] def runRank : RunPhase → Nat
  | .absent => 0
  | .cleanup => 1
  | .lastStopped => 2
  | .lastTerminate => 3
  | .lastCheck => 4
  | .join => 5
  | .shutdown => 6
  | .head => 7
  | .stopped | .frame | .spawn => 8
  | .terminate | .created => 9
  | .acquiring => 10
  | .acquire => 11
  | .check => 12
  | .wait => 13
  | .started => 14
  | .start => 15
  | .gate => 16

@[simp] def headRank : VsyncPhase → Nat
  | .signal => 1
  | .stopped | .pause => 2
  | .terminate => 3
  | .waiting => 4
  | .wait => 5
  | .test => 6
  | .absent | .ended => 7
  | .head => 0

@[simp] def signalRank : VsyncPhase → Nat
  | .head => 7
  | h => headRank h

@[simp] def endRank : VsyncPhase → Nat
  | .ended => 0
  | h => headRank h + 1

def awaited (s : Video) : Nat :=
  match s.run with
  | .wait => if s.signalled then 0 else signalRank s.handler
  | .join => endRank s.handler
  | _ => 0

def rank (s : Video) : Nat := 9 * runRank s.run + awaited s

def helper (s : Video) : Thread := if awaited s = 0 then .run else .handler

section Steps

variable {s t : Video}

theorem signalRank_le (h : VsyncPhase) : signalRank h ≤ 7 := by cases h <;> decide

theorem signalRank_pos (h : VsyncPhase) : 0 < signalRank h := by cases h <;> decide

theorem endRank_le (h : VsyncPhase) : endRank h ≤ 8 := by cases h <;> decide

theorem awaited_le (s : Video) : awaited s ≤ 8 := by
  unfold awaited
  split
  · split
    · exact Nat.zero_le 8
    · exact Nat.le_succ_of_le (signalRank_le s.handler)
  · exact endRank_le s.handler
  · exact Nat.zero_le 8

theorem runRank_le (r : RunPhase) : runRank r ≤ 16 := by cases r <;> decide

theorem rank_le (s : Video) : rank s ≤ 152 := by
  have run := runRank_le s.run
  have waits := awaited_le s
  unfold rank
  omega

theorem enterWait_rank (s : Video) : runRank (enterWait s).run = 13 := rfl

theorem runStep_free {o : Outcome} (free : awaited s = 0) (on : s.run ≠ .absent)
    (ends : s.run = .head → s.running = false) :
    runRank (runStep o s).run < runRank s.run := by
  unfold awaited at free
  unfold runStep
  cases phase : s.run with
  | absent => exact absurd phase on
  | created =>
    dsimp only
    split <;> simp
  | spawn => simp
  | head =>
    dsimp only
    rw [if_neg (by rw [ends phase]; exact Bool.false_ne_true)]
    simp
  | gate =>
    dsimp only
    split
    · exact Nat.lt_succ_self 15
    · rw [enterWait_rank]
      simp
  | start =>
    dsimp only
    split
    · exact Nat.lt_succ_self 14
    · rw [enterWait_rank]
      simp
  | started =>
    dsimp only
    rw [enterWait_rank]
    simp
  | wait =>
    rw [phase] at free
    dsimp only at free ⊢
    split at free
    · next signalled =>
      rw [signalled, Bool.true_or, if_pos rfl]
      simp
    · exact absurd free (Nat.ne_of_gt (signalRank_pos s.handler))
  | check =>
    dsimp only
    split <;> simp
  | acquire => simp
  | acquiring =>
    dsimp only
    split
    · split <;> simp
    · split <;> simp
  | terminate => simp
  | stopped => simp
  | frame => simp
  | shutdown =>
    dsimp only
    split <;> simp
  | join =>
    rw [phase] at free
    have ended : s.handler = .ended := by
      cases handler : s.handler with
      | ended => rfl
      | _ => rw [handler] at free; cases free
    dsimp only
    rw [if_pos ended]
    simp
  | lastCheck =>
    dsimp only
    split <;> simp
  | lastTerminate => simp
  | lastStopped => simp
  | cleanup =>
    dsimp only
    split <;> simp

theorem runStep_waits {o : Outcome} (waits : awaited s ≠ 0) :
    runStep o s = s ∨ runRank (runStep o s).run < runRank s.run := by
  unfold awaited at waits
  unfold runStep
  cases phase : s.run with
  | wait =>
    dsimp only
    split
    · exact .inr (by simp)
    · exact .inl rfl
  | join =>
    dsimp only
    split
    · exact .inr (by simp)
    · exact .inl rfl
  | _ =>
    rw [phase] at waits
    exact absurd rfl waits

theorem handlerStep_run (ret : Int) (s : Video) : (handlerStep ret s).run = s.run := by
  unfold handlerStep
  cases s.handler <;> rfl

theorem handlerStep_signal (ret : Int) (on : s.vsyncThreadRunning = true)
    (some : s.handler ≠ .absent) (live : s.handler ≠ .ended) :
    (handlerStep ret s).signalled = true ∨ (handlerStep ret s).signalled = s.signalled ∧
      signalRank (handlerStep ret s).handler < signalRank s.handler := by
  unfold handlerStep
  cases phase : s.handler with
  | absent => exact absurd phase some
  | ended => exact absurd phase live
  | head =>
    dsimp only
    rw [if_pos on]
    exact .inr ⟨rfl, by simp⟩
  | test =>
    dsimp only
    split
    · exact .inr ⟨rfl, by simp⟩
    · exact .inr ⟨rfl, by simp⟩
  | wait => exact .inr ⟨rfl, by simp⟩
  | waiting =>
    dsimp only
    split
    · exact .inr ⟨rfl, by simp⟩
    · exact .inr ⟨rfl, by simp⟩
  | terminate => exact .inr ⟨rfl, by simp⟩
  | stopped => exact .inr ⟨rfl, by simp⟩
  | pause => exact .inr ⟨rfl, by simp⟩
  | signal => exact .inl rfl

theorem handlerStep_end (ret : Int) (off : s.vsyncThreadRunning = false)
    (some : s.handler ≠ .absent) : (s.handler = .ended ∧ handlerStep ret s = s) ∨
      endRank (handlerStep ret s).handler < endRank s.handler := by
  unfold handlerStep
  cases phase : s.handler with
  | absent => exact absurd phase some
  | ended => exact .inl ⟨rfl, rfl⟩
  | head =>
    dsimp only
    rw [if_neg (by rw [off]; exact Bool.false_ne_true)]
    exact .inr (by simp)
  | test =>
    dsimp only
    split
    · exact .inr (by simp)
    · exact .inr (by simp)
  | waiting =>
    dsimp only
    split
    · exact .inr (by simp)
    · exact .inr (by simp)
  | wait => exact .inr (by simp)
  | terminate => exact .inr (by simp)
  | stopped => exact .inr (by simp)
  | pause => exact .inr (by simp)
  | signal => exact .inr (by simp)

/-- What the run waits for comes nearer with each step of the handler, and does not go
away again. -/
theorem handlerStep_awaited (ret : Int) (paired : Paired s) :
    awaited (handlerStep ret s) < awaited s ∨
      awaited (handlerStep ret s) = awaited s ∧ awaited s = 0 := by
  unfold awaited
  rw [handlerStep_run]
  cases phase : s.run with
  | wait =>
    obtain ⟨on, some, live⟩ := paired.loops (by rw [phase]; rfl)
    have waits := signalRank_pos s.handler
    dsimp only
    cases signalled : s.signalled with
    | true =>
      obtain set | ⟨same, _⟩ := handlerStep_signal ret on some live
      · exact .inr ⟨by simp [set], rfl⟩
      · exact .inr ⟨by simp [same, signalled], rfl⟩
    | false =>
      obtain set | ⟨same, nearer⟩ := handlerStep_signal ret on some live
      · exact .inl (by rw [set]; exact waits)
      · exact .inl (by rw [same, signalled]; exact nearer)
  | join =>
    obtain ⟨off, some⟩ := paired.joins phase
    dsimp only
    obtain ⟨ended, same⟩ | nearer := handlerStep_end ret off some
    · exact .inr ⟨by rw [same], by rw [ended]; rfl⟩
    · exact .inl nearer
  | _ => exact .inr ⟨rfl, rfl⟩

/-! ### The handler's thread -/

theorem Paired.apart (here : looping s.run = false) (other : s.run ≠ .join)
    (alone : s.handler = .absent) : Paired s :=
  ⟨fun there => absurd (here.symm.trans there) Bool.false_ne_true,
    fun join => absurd join other, fun _ _ => alone⟩

theorem Paired.loop (here : looping s.run = true) (on : s.vsyncThreadRunning = true)
    (some : s.handler ≠ .absent) (live : s.handler ≠ .ended) : Paired s :=
  ⟨fun _ => ⟨on, some, live⟩, fun join => (by rw [join] at here; cases here),
    fun there => absurd (there.symm.trans here) Bool.false_ne_true⟩

theorem Paired.stay (paired : Paired s) (here : looping s.run = true) (there : looping t.run = true)
    (on : t.vsyncThreadRunning = s.vsyncThreadRunning) (same : t.handler = s.handler) :
    Paired t := by
  obtain ⟨set, some, live⟩ := paired.loops here
  exact .loop there (on.trans set) (same ▸ some) (same ▸ live)

theorem Paired.away (paired : Paired s) (here : looping s.run = false) (other : s.run ≠ .join)
    (there : looping t.run = false) (more : t.run ≠ .join) (same : t.handler = s.handler) :
    Paired t :=
  .apart there more (same.trans (paired.alone here other))

theorem runStep_paired {o : Outcome} (paired : Paired s) : Paired (runStep o s) := by
  unfold runStep
  cases phase : s.run with
  | absent => exact paired
  | created =>
    dsimp only
    split
    · exact paired.away (by rw [phase]; rfl) (by simp [phase]) rfl (by simp) rfl
    · exact paired.away (by rw [phase]; rfl) (by simp [phase]) rfl (by simp) rfl
  | spawn => exact .loop rfl rfl (by simp) (by simp)
  | head =>
    dsimp only
    split
    · exact paired.stay (by rw [phase]; rfl) rfl rfl rfl
    · exact paired.stay (by rw [phase]; rfl) rfl rfl rfl
  | gate =>
    dsimp only
    split
    · exact paired.stay (by rw [phase]; rfl) rfl rfl rfl
    · exact paired.stay (by rw [phase]; rfl) rfl rfl rfl
  | start =>
    dsimp only
    split
    · exact paired.stay (by rw [phase]; rfl) rfl rfl rfl
    · exact paired.stay (by rw [phase]; rfl) rfl rfl rfl
  | started => exact paired.stay (by rw [phase]; rfl) rfl rfl rfl
  | wait =>
    dsimp only
    split
    · exact paired.stay (by rw [phase]; rfl) rfl rfl rfl
    · exact paired
  | check =>
    exact paired.stay (by rw [phase]; rfl) (by dsimp only; split <;> rfl) rfl rfl
  | acquire => exact paired.stay (by rw [phase]; rfl) rfl rfl rfl
  | acquiring =>
    dsimp only
    split
    · exact paired.stay (by rw [phase]; rfl) (by dsimp only; split <;> rfl) rfl rfl
    · exact paired.stay (by rw [phase]; rfl) (by dsimp only; split <;> rfl) rfl rfl
  | terminate => exact paired.stay (by rw [phase]; rfl) rfl rfl rfl
  | stopped => exact paired.stay (by rw [phase]; rfl) rfl rfl rfl
  | frame => exact paired.stay (by rw [phase]; rfl) rfl rfl rfl
  | shutdown =>
    obtain ⟨on, some, _⟩ := paired.loops (by rw [phase]; rfl)
    dsimp only
    rw [if_pos on]
    exact ⟨fun there => (by cases there), fun _ => ⟨rfl, some⟩, fun _ other => absurd rfl other⟩
  | join =>
    dsimp only
    split
    · exact .apart rfl (by simp) rfl
    · exact paired
  | lastCheck =>
    exact paired.away (by rw [phase]; rfl) (by simp [phase]) (by dsimp only; split <;> rfl)
      (by dsimp only; split <;> simp) rfl
  | lastTerminate =>
    exact paired.away (by rw [phase]; rfl) (by simp [phase]) rfl (by simp) rfl
  | lastStopped => exact paired.away (by rw [phase]; rfl) (by simp [phase]) rfl (by simp) rfl
  | cleanup =>
    dsimp only
    split
    · exact paired.away (by rw [phase]; rfl) (by simp [phase]) rfl (by simp) rfl
    · exact paired.away (by rw [phase]; rfl) (by simp [phase]) rfl (by simp) rfl

theorem handlerStep_flag (ret : Int) (s : Video) :
    (handlerStep ret s).vsyncThreadRunning = s.vsyncThreadRunning := by
  unfold handlerStep
  cases s.handler <;> rfl

theorem handlerStep_absent (ret : Int) (s : Video) :
    (handlerStep ret s).handler = .absent ↔ s.handler = .absent := by
  unfold handlerStep
  cases phase : s.handler with
  | absent => simp [phase]
  | ended => simp [phase]
  | head =>
    dsimp only
    split <;> simp
  | test =>
    dsimp only
    split <;> simp
  | waiting =>
    dsimp only
    split <;> simp
  | _ => simp

theorem handlerStep_live {ret : Int} (on : s.vsyncThreadRunning = true)
    (live : s.handler ≠ .ended) : (handlerStep ret s).handler ≠ .ended := by
  unfold handlerStep
  cases phase : s.handler with
  | ended => exact absurd phase live
  | absent => simp [phase]
  | head =>
    dsimp only
    rw [if_pos on]
    simp
  | test =>
    dsimp only
    split <;> simp
  | waiting =>
    dsimp only
    split <;> simp
  | _ => simp

theorem handlerStep_paired {ret : Int} (paired : Paired s) : Paired (handlerStep ret s) := by
  refine ⟨fun here => ?_, fun join => ?_, fun away other => ?_⟩
  · rw [handlerStep_run] at here
    obtain ⟨on, some, live⟩ := paired.loops here
    exact ⟨(handlerStep_flag ret s).trans on, fun none => some ((handlerStep_absent ret s).mp none),
      handlerStep_live on live⟩
  · rw [handlerStep_run] at join
    obtain ⟨off, some⟩ := paired.joins join
    exact ⟨(handlerStep_flag ret s).trans off,
      fun none => some ((handlerStep_absent ret s).mp none)⟩
  · rw [handlerStep_run] at away other
    exact (handlerStep_absent ret s).mpr (paired.alone away other)

theorem step_paired {e : Event} (paired : Paired s) (taken : step s e = .ok t) : Paired t := by
  cases e with
  | start =>
    cases taken
    unfold captureStart
    split
    · exact paired
    · split
      · next absent =>
        exact paired.away (by rw [absent]; rfl) (by simp [absent]) rfl (by simp) rfl
      · exact paired
  | stop =>
    cases taken
    exact ⟨paired.loops, paired.joins, paired.alone⟩
  | run o =>
    cases taken
    exact runStep_paired paired
  | handler ret =>
    cases taken
    exact handlerStep_paired paired

/-! ### Progress -/

theorem rank_eq (s : Video) : rank s = 9 * runRank s.run + awaited s := rfl

theorem rank_lt (nearer : runRank t.run < runRank s.run) : rank t < rank s := by
  have waits := awaited_le t
  rw [rank_eq, rank_eq]
  omega

theorem helper_eq (same : awaited t = awaited s) : helper t = helper s := by
  unfold helper
  rw [same]

theorem not_moves_start (i : Thread) : ¬ moves i .start := by cases i <;> exact id

theorem not_moves_stop (i : Thread) : ¬ moves i .stop := by cases i <;> exact id

theorem step_lowers {e : Event} (paired : Paired s) (on : s.run ≠ .absent)
    (ends : s.run = .head → s.running = false) (taken : step s e = .ok t) :
    rank t < rank s ∨ (rank t = rank s ∧ helper t = helper s ∧ ¬ moves (helper s) e) := by
  cases e with
  | start =>
    cases taken
    have same : captureStart s = s := by
      unfold captureStart
      rw [if_neg on]
      exact ite_self s
    exact .inr ⟨congrArg rank same, congrArg helper same, not_moves_start _⟩
  | stop =>
    cases taken
    exact .inr ⟨rfl, rfl, not_moves_stop _⟩
  | run o =>
    cases taken
    by_cases free : awaited s = 0
    · exact .inl (rank_lt (runStep_free free on ends))
    · obtain same | nearer := @runStep_waits s o free
      · refine .inr ⟨congrArg rank same, congrArg helper same, ?_⟩
        unfold helper
        rw [if_neg free]
        exact id
      · exact .inl (rank_lt nearer)
  | handler ret =>
    cases taken
    have still := congrArg runRank (handlerStep_run ret s)
    obtain nearer | ⟨same, free⟩ := handlerStep_awaited ret paired
    · left
      rw [rank_eq, rank_eq, still]
      omega
    · refine .inr ⟨?_, helper_eq same, ?_⟩
      · rw [rank_eq, rank_eq, still, same]
      · unfold helper
        rw [if_pos free]
        exact id

theorem runStep_running (o : Outcome) (s : Video) : (runStep o s).running = s.running := by
  unfold runStep
  cases s.run <;> dsimp only <;> (repeat' split) <;> rfl

theorem running_kept {e : Event} (on : s.run ≠ .absent) (off : s.running = false)
    (taken : step s e = .ok t) : t.running = false := by
  cases e with
  | start =>
    cases taken
    unfold captureStart
    rw [if_neg on, ite_self]
    exact off
  | stop =>
    cases taken
    rfl
  | run o =>
    cases taken
    exact (runStep_running o s).trans off
  | handler ret =>
    cases taken
    unfold handlerStep
    cases s.handler <;> exact off

end Steps

theorem progress_loop : Progress step moves Paired (fun s => s.run = .head ∨ s.run = .absent)
    rank helper where
  keeps _ _ _ paired _ taken := step_paired paired taken
  lowers _ _ _ paired short taken :=
    step_lowers paired (fun absent => short (.inr absent)) (fun head => absurd (.inl head) short)
      taken

theorem progress_stop : Progress step moves (fun s => Paired s ∧ s.running = false)
    (fun s => s.run = .absent) rank helper where
  keeps _ _ _ here short taken := ⟨step_paired here.1 taken, running_kept short here.2 taken⟩
  lowers _ _ _ here short taken := step_lowers here.1 short (fun _ => here.2) taken

theorem boot_paired (vsync hasWait present initialized : Bool) :
    Paired (boot vsync hasWait present initialized) := .apart rfl (by simp [boot]) rfl

def Passes (s : Video) (es : List Event) (goal : Video → Prop) : Prop :=
  ∃ before t, before <+: es ∧ run step s before = .ok t ∧ goal t

theorem passes_of_meets {s : Video} {es : List Event} {goal : Video → Prop}
    (meets : Meets step goal s es) : Passes s es goal := by
  obtain ⟨f, _⟩ | passes := meets_iff.mp meets
  · exact f.elim
  · exact passes

/-- From every reachable state with a capture thread: within 153 rounds in which both
threads move, the thread gets to the head of its loop or ends; and if `running` has been
cleared it and the handler end, whatever the clock, the backend and the signals do. -/
theorem capture_goes_on (vsync hasWait present initialized : Bool) (earlier : List Event)
    (s : Video) (ran : run step (boot vsync hasWait present initialized) earlier = .ok s)
    (es : List Event) (rounds : Rounds moves 153 es) :
    Passes s es (fun t => t.run = .head ∨ t.run = .absent) ∧
      (s.running = false → Passes s es fun t => t.run = .absent ∧ t.handler = .absent) := by
  have keeps : ∀ s e t, Paired s → step s e = .ok t → Paired t :=
    fun s e t paired taken => step_paired paired taken
  have paired : Paired s := run_invariant keeps (boot_paired ..) ran
  have enough : rank s < 153 := Nat.lt_succ_of_le (rank_le s)
  refine ⟨passes_of_meets (progress_loop.meets paired rounds enough), fun off => ?_⟩
  obtain ⟨before, t, early, ran, absent⟩ :=
    passes_of_meets (progress_stop.meets ⟨paired, off⟩ rounds enough)
  have paired : Paired t := run_invariant keeps paired ran
  exact ⟨before, t, early, ran, absent, paired.alone (by rw [absent]; rfl) (by simp [absent])⟩

def turns : List Event :=
  (List.replicate 153 [.run ⟨0, 0, .argb, false⟩, .handler 0]).flatten

theorem turns_rounds : Rounds moves 153 turns := by
  have rounds : Rounds moves
      (List.replicate 153 [Event.run ⟨0, 0, .argb, false⟩, .handler 0]).length turns :=
    rounds_flatten ?_
  · rw [List.length_replicate] at rounds
    exact rounds
  · intro r member i
    rw [List.eq_of_mem_replicate member]
    cases i with
    | run => exact ⟨_, List.mem_cons_self, trivial⟩
    | handler => exact ⟨_, List.mem_cons_of_mem _ List.mem_cons_self, trivial⟩

def stopping : List Event :=
  [.start, .run ⟨0, 0, .argb, false⟩, .run ⟨0, 0, .argb, false⟩, .run ⟨5, 0, .argb, false⟩, .stop]

theorem capture_goes_on_stopping : ∃ s, run step (boot true true true true) stopping = .ok s ∧
    s.run = .gate ∧ Passes s turns fun t => t.run = .absent ∧ t.handler = .absent :=
  ⟨_, rfl, rfl, (capture_goes_on true true true true stopping _ rfl turns turns_rounds).2 rfl⟩

end HyperionWebos.CaptureProgress
