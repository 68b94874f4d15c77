import HyperionWebos.AddressLifetime
import HyperionWebos.FairRuns

/-! The handlers of the main loop come back. A stop waits for `connection_loop` to end, in
whatever call of `hyperion_client` or `hyperion_read` it is; with its flag cleared the loop
takes no further turn. So every request that starts, stops or sets settings is done within a
bounded number of rounds in which both threads move, unless memory is used wrongly before. -/

namespace HyperionWebos.HandlersReturn
open Runs FairRuns ConnectionThread
open AddressLifetime (useHost_ok)

inductive Thread where
  | main
  | connection
deriving DecidableEq

def moves : Thread → Event → Prop
  | .main, .main _ => True
  | .connection, .thread _ => True
  | _, _ => False

/-- A running service has its thread, and the join comes after the flag is cleared. -/
structure Joinable (s : Link) : Prop where
  running : s.running = true → s.thread ≠ .absent
  joining : ∀ destroy, s.main = .join destroy →
    s.running = true ∧ s.connectionLoopRunning = false

@[simp] def mainRank : MainPhase → Nat
  | .idle => 0
  | .start => 1
  | .init _ => 2
  | .join _ => 3
  | .stop _ => 4
  | .save => 5
  | .loadRest _ => 6
  | .dupAddress _ => 7
  | .loadAddress _ => 8

@[simp] def threadRank : ThreadPhase → Nat
  | .ended => 0
  | .head => 1
  | .destroy => 2
  | .read | .warn _ => 3
  | .connect _ => 4
  | .parse _ | .copy _ => 5
  | .socket .. => 6
  | .evaluate => 7
  | .poll | .absent => 8

def awaited (s : Link) : Nat :=
  match s.main with
  | .join _ => threadRank s.thread
  | _ => 0

def rank (s : Link) : Nat := 9 * mainRank s.main + awaited s

def helper (s : Link) : Thread := if awaited s = 0 then .main else .connection

section Steps

variable {s t : Link}

theorem threadRank_le (p : ThreadPhase) : threadRank p ≤ 8 := by cases p <;> simp

theorem mainRank_le (p : MainPhase) : mainRank p ≤ 8 := by cases p <;> simp

theorem awaited_le (s : Link) : awaited s ≤ 8 := by
  unfold awaited
  split
  · exact threadRank_le s.thread
  · exact Nat.zero_le 8

theorem rank_le (s : Link) : rank s ≤ 80 := by
  have main := mainRank_le s.main
  have waits := awaited_le s
  unfold rank
  omega

theorem mainStep_free {created : Bool} (free : awaited s = 0) (busy : s.main ≠ .idle)
    (taken : mainStep created s = .ok t) : mainRank t.main < mainRank s.main := by
  unfold awaited at free
  unfold mainStep at taken
  cases phase : s.main with
  | idle => exact absurd phase busy
  | loadAddress payload =>
    rw [phase] at taken
    dsimp only at taken
    split at taken <;> cases taken <;> simp
  | dupAddress payload =>
    rw [phase] at taken
    cases taken
    simp
  | loadRest payload =>
    rw [phase] at taken
    dsimp only at taken
    split at taken <;> cases taken
    simp
  | save =>
    rw [phase] at taken
    cases taken
    simp
  | stop destroy =>
    rw [phase] at taken
    dsimp only at taken
    split at taken <;> cases taken
    · simp
    · dsimp only
      split <;> simp
  | join destroy =>
    rw [phase] at taken free
    have ended : s.thread = .ended := by
      cases thread : s.thread with
      | ended => rfl
      | _ =>
        rw [thread] at free
        cases free
    dsimp only at taken
    rw [if_pos ended] at taken
    cases taken
    dsimp only
    split <;> simp
  | init start =>
    rw [phase] at taken
    cases taken
    dsimp only
    split <;> simp
  | start =>
    rw [phase] at taken
    dsimp only at taken
    split at taken
    · cases taken
      simp
    · split at taken <;> cases taken <;> simp

theorem mainStep_waits {created : Bool} (waits : awaited s ≠ 0)
    (taken : mainStep created s = .ok t) : t = s := by
  unfold awaited at waits
  unfold mainStep at taken
  cases phase : s.main with
  | join destroy =>
    rw [phase] at taken waits
    have goes : s.thread ≠ .ended := by
      intro ended
      rw [ended] at waits
      exact waits rfl
    dsimp only at taken
    rw [if_neg goes] at taken
    cases taken
    rfl
  | _ =>
    rw [phase] at waits
    exact absurd rfl waits

theorem threadStep_ends {answer : Bool} (off : s.connectionLoopRunning = false)
    (some : s.thread ≠ .absent) (taken : threadStep answer s = .ok t) :
    (s.thread = .ended ∧ t = s) ∨ threadRank t.thread < threadRank s.thread := by
  unfold threadStep at taken
  cases phase : s.thread with
  | absent => exact absurd phase some
  | ended =>
    rw [phase] at taken
    cases taken
    exact .inl ⟨rfl, rfl⟩
  | head =>
    rw [phase] at taken
    cases taken
    refine .inr ?_
    dsimp only
    rw [if_neg (by rw [off]; exact Bool.false_ne_true)]
    simp
  | poll =>
    rw [phase] at taken
    cases taken
    refine .inr ?_
    dsimp only
    split <;> simp
  | evaluate =>
    rw [phase] at taken
    cases taken
    exact .inr (by simp)
  | socket host unixSocket =>
    rw [phase] at taken
    cases taken
    refine .inr ?_
    dsimp only
    split
    · split <;> simp
    · simp
  | parse host =>
    rw [phase] at taken
    rw [useHost_ok taken]
    refine .inr ?_
    dsimp only
    split <;> simp
  | copy host =>
    rw [phase] at taken
    rw [useHost_ok taken]
    exact .inr (by simp)
  | connect host =>
    rw [phase] at taken
    cases taken
    refine .inr ?_
    dsimp only
    split <;> simp
  | warn host =>
    rw [phase] at taken
    rw [useHost_ok taken]
    exact .inr (by simp)
  | read =>
    rw [phase] at taken
    cases taken
    refine .inr ?_
    dsimp only
    rw [off, Bool.false_and, if_neg Bool.false_ne_true]
    simp
  | destroy =>
    rw [phase] at taken
    cases taken
    exact .inr (by simp)

theorem threadStep_stays {answer : Bool} (taken : threadStep answer s = .ok t) :
    ∃ next, t = { s with thread := next } ∧ (s.thread ≠ .absent → next ≠ .absent) := by
  unfold threadStep at taken
  cases phase : s.thread with
  | absent =>
    rw [phase] at taken
    cases taken
    exact ⟨s.thread, rfl, fun some => absurd rfl some⟩
  | ended =>
    rw [phase] at taken
    cases taken
    exact ⟨s.thread, rfl, fun _ => by simp [phase]⟩
  | parse host =>
    rw [phase] at taken
    exact ⟨_, useHost_ok taken, fun _ => by split <;> simp⟩
  | copy host =>
    rw [phase] at taken
    exact ⟨_, useHost_ok taken, fun _ => by simp⟩
  | warn host =>
    rw [phase] at taken
    exact ⟨_, useHost_ok taken, fun _ => by simp⟩
  | socket host unixSocket =>
    rw [phase] at taken
    cases taken
    exact ⟨_, rfl, fun _ => by split <;> (try split) <;> simp⟩
  | evaluate =>
    rw [phase] at taken
    cases taken
    exact ⟨_, rfl, fun _ => by simp⟩
  | destroy =>
    rw [phase] at taken
    cases taken
    exact ⟨_, rfl, fun _ => by simp⟩
  | _ =>
    rw [phase] at taken
    cases taken
    exact ⟨_, rfl, fun _ => by split <;> simp⟩

theorem mainStep_joinable {created : Bool} (here : Joinable s)
    (taken : mainStep created s = .ok t) : Joinable t := by
  unfold mainStep at taken
  cases phase : s.main with
  | idle =>
    rw [phase] at taken
    cases taken
    exact here
  | loadAddress payload =>
    rw [phase] at taken
    dsimp only at taken
    split at taken <;> cases taken
    · exact ⟨here.running, fun _ other => by cases other⟩
    · exact ⟨here.running, fun _ other => by cases other⟩
  | dupAddress payload =>
    rw [phase] at taken
    cases taken
    exact ⟨here.running, fun _ other => by cases other⟩
  | loadRest payload =>
    rw [phase] at taken
    dsimp only at taken
    split at taken <;> cases taken
    exact ⟨here.running, fun _ other => by cases other⟩
  | save =>
    rw [phase] at taken
    cases taken
    exact ⟨here.running, fun _ other => by cases other⟩
  | stop destroy =>
    rw [phase] at taken
    dsimp only at taken
    split at taken <;> cases taken
    · next on => exact ⟨here.running, fun _ _ => ⟨on, rfl⟩⟩
    · exact ⟨here.running, fun _ other => by dsimp only at other; split at other <;> cases other⟩
  | join destroy =>
    rw [phase] at taken
    dsimp only at taken
    split at taken <;> cases taken
    · exact ⟨fun on => (by cases on), fun _ other => by
        dsimp only at other
        split at other <;> cases other⟩
    · exact here
  | init start =>
    rw [phase] at taken
    cases taken
    exact ⟨here.running, fun _ other => by dsimp only at other; split at other <;> cases other⟩
  | start =>
    rw [phase] at taken
    dsimp only at taken
    split at taken
    · cases taken
      exact ⟨here.running, fun _ other => by cases other⟩
    · split at taken <;> cases taken
      · exact ⟨fun _ => by simp, fun _ other => by cases other⟩
      · exact ⟨here.running, fun _ other => by cases other⟩

theorem takeRequest_busy (r : Request) (busy : s.main ≠ .idle) : takeRequest r s = s := by
  unfold takeRequest
  cases phase : s.main with
  | idle => exact absurd phase busy
  | _ => rfl

theorem takeRequest_joinable (r : Request) (here : Joinable s) : Joinable (takeRequest r s) := by
  unfold takeRequest
  cases phase : s.main with
  | idle =>
    cases r with
    | start => exact ⟨here.running, fun _ other => by cases other⟩
    | stop => exact ⟨here.running, fun _ other => by cases other⟩
    | setSettings payload =>
      dsimp only
      split
      · exact here
      · exact ⟨here.running, fun _ other => by cases other⟩
  | _ => exact here

theorem step_joinable {e : Event} (here : Joinable s) (taken : step s e = .ok t) : Joinable t := by
  cases e with
  | request r =>
    cases taken
    exact takeRequest_joinable r here
  | main created => exact mainStep_joinable here taken
  | thread answer =>
    obtain ⟨next, rfl, stays⟩ := threadStep_stays taken
    exact ⟨fun on => stays (here.running on), here.joining⟩

theorem threadStep_awaited {answer : Bool} (here : Joinable s)
    (taken : threadStep answer s = .ok t) :
    awaited t < awaited s ∨ (awaited t = awaited s ∧ awaited s = 0) := by
  obtain ⟨next, same, _⟩ := threadStep_stays taken
  have still : t.main = s.main := by rw [same]
  unfold awaited
  rw [still]
  cases phase : s.main with
  | join destroy =>
    obtain ⟨on, off⟩ := here.joining destroy phase
    obtain ⟨ended, rfl⟩ | nearer := threadStep_ends off (here.running on) taken
    · exact .inr ⟨rfl, by rw [ended]; rfl⟩
    · exact .inl nearer
  | _ => exact .inr ⟨rfl, rfl⟩

theorem rank_eq (s : Link) : rank s = 9 * mainRank s.main + awaited s := rfl

theorem helper_eq (same : awaited t = awaited s) : helper t = helper s := by
  unfold helper
  rw [same]

theorem step_lowers {e : Event} (here : Joinable s) (busy : s.main ≠ .idle)
    (taken : step s e = .ok t) :
    rank t < rank s ∨ (rank t = rank s ∧ helper t = helper s ∧ ¬ moves (helper s) e) := by
  cases e with
  | request r =>
    cases taken
    have same := takeRequest_busy r busy
    refine .inr ⟨congrArg rank same, congrArg helper same, ?_⟩
    cases helper s <;> exact id
  | main created =>
    by_cases free : awaited s = 0
    · have nearer := mainStep_free free busy taken
      have waits := awaited_le t
      left
      rw [rank_eq, rank_eq]
      omega
    · have same := mainStep_waits free taken
      refine .inr ⟨congrArg rank same, congrArg helper same, ?_⟩
      unfold helper
      rw [if_neg free]
      exact id
  | thread answer =>
    obtain ⟨next, same, _⟩ := threadStep_stays taken
    have still : mainRank t.main = mainRank s.main := by rw [same]
    obtain nearer | ⟨kept, free⟩ := threadStep_awaited here taken
    · left
      rw [rank_eq, rank_eq, still]
      omega
    · refine .inr ⟨by rw [rank_eq, rank_eq, still, kept], helper_eq kept, ?_⟩
      unfold helper
      rw [if_pos free]
      exact id

end Steps

theorem progress : Progress step moves Joinable (fun s => s.main = .idle) rank helper where
  keeps _ _ _ here _ taken := step_joinable here taken
  lowers _ _ _ here busy taken := step_lowers here busy taken

/-- From every reachable state the handler at work is done within 81 rounds in which the
main loop and the connection thread both move, whatever the calls of either answer and
wherever the thread is when its flag is cleared; or memory is misused on the way. -/
theorem handlers_return (settings : SettingsLoad.Settings) (earlier : List Event) (s : Link)
    (ran : run step (boot settings) earlier = .ok s) (es : List Event)
    (rounds : Rounds moves 81 es) :
    (∃ before t, before <+: es ∧ run step s before = .ok t ∧ t.main = .idle) ∨
      ∃ f, run step s es = .error f := by
  have keeps : ∀ s e t, Joinable s → step s e = .ok t → Joinable t :=
    fun s e t here taken => step_joinable here taken
  have start : Joinable (boot settings) := ⟨fun on => (by cases on), fun _ other => by cases other⟩
  have here : Joinable s := run_invariant keeps start ran
  exact (meets_iff.mp (progress.meets here rounds (Nat.lt_succ_of_le (rank_le s)))).symm

def turns : List Event := (List.replicate 81 [.main true, .thread false]).flatten

theorem turns_rounds : Rounds moves 81 turns := by
  have rounds : Rounds moves (List.replicate 81 [Event.main true, .thread false]).length turns :=
    rounds_flatten ?_
  · rw [List.length_replicate] at rounds
    exact rounds
  · intro r member i
    rw [List.eq_of_mem_replicate member]
    cases i with
    | main => exact ⟨_, List.mem_cons_self, trivial⟩
    | connection => exact ⟨_, List.mem_cons_of_mem _ List.mem_cons_self, trivial⟩

def stopping : List Event :=
  [.request .start, .main true, .thread true, .thread true, .thread true, .thread true,
    .thread true, .request .stop]

theorem handlers_return_stopping : ∃ s, run step (boot SettingsLoad.settingsInit) stopping =
      .ok s ∧ s.thread = .connect 0 ∧
    ((∃ before t, before <+: turns ∧ run step s before = .ok t ∧ t.main = .idle) ∨
      ∃ f, run step s turns = .error f) :=
  ⟨_, rfl, rfl, handlers_return SettingsLoad.settingsInit stopping _ rfl turns turns_rounds⟩

end HyperionWebos.HandlersReturn
