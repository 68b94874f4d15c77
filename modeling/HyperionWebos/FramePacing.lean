import HyperionWebos.FairRuns
import HyperionWebos.VsyncThread

/-! How fast frames are taken. The run takes a frame for each time it is woken, and the handler
wakes it once for each rest. So over any stretch of time there are no more frames than rests
fit into it, two more and one for each wakeup without a signal. -/

namespace HyperionWebos.FramePacing
open Runs FairRuns Unicapture VsyncThread

structure Timed where
  time : Nat
  event : Event

def timedStep (s : Video) (e : Timed) : Except Empty Video := step s e.event

/-- What the handler sleeps for without a vsync to wait for. -/
def pauseMicros (fps : UInt32) : Nat := (1000000 / if fps = 0 then 30 else fps).toNat

/-- What is counted of a stretch; `rested` is when the rest under way began, if it did so in
the stretch. -/
structure Pace where
  clock : Nat
  rested : Option Nat
  signals : Nat
  frames : Nat
  spurious : Nat

def Pace.since (time : Nat) : Pace := ⟨time, none, 0, 0, 0⟩

def frameOf (s : Video) : Event → Nat
  | .run _ => if s.run = .acquire then 1 else 0
  | _ => 0

def spuriousOf (s : Video) : Event → Nat
  | .run o => if s.run = .wait ∧ s.signalled = false ∧ o.spurious = true then 1 else 0
  | _ => 0

def signalOf (s : Video) : Event → Nat
  | .handler _ => if s.handler = .signal then 1 else 0
  | _ => 0

def restsAt (s : Video) (time : Nat) (rested : Option Nat) : Event → Option Nat
  | .handler _ => if s.handler = .test ∨ s.handler = .wait then some time else rested
  | _ => rested

def count (g : Pace) (s : Video) (e : Timed) (_ : Video) : Pace where
  clock := e.time
  rested := restsAt s e.time g.rested e.event
  signals := g.signals + signalOf s e.event
  frames := g.frames + frameOf s e.event
  spurious := g.spurious + spuriousOf s e.event

def Lasts (rested : Option Nat) (least now : Nat) : Prop := ∀ since ∈ rested, since + least ≤ now

def handles : Event → Bool
  | .handler _ => true
  | _ => false

/-- Time goes on, `usleep` sleeps at least as long as it is told to, and a `wait` of the
backend takes at least `refresh`. -/
def Timely (fps : UInt32) (refresh : Nat) (p : Video × Pace) (e : Timed) : Prop :=
  p.2.clock ≤ e.time ∧ (handles e.event = true →
    (p.1.handler = .pause → Lasts p.2.rested (pauseMicros fps) e.time) ∧
    (p.1.handler = .waiting → Lasts p.2.rested refresh e.time))

instance (rested : Option Nat) (least now : Nat) : Decidable (Lasts rested least now) :=
  inferInstanceAs (Decidable (∀ since ∈ rested, since + least ≤ now))

instance (fps : UInt32) (refresh : Nat) (p : Video × Pace) (e : Timed) :
    Decidable (Timely fps refresh p e) :=
  inferInstanceAs (Decidable (_ ∧ (_ → (_ → _) ∧ (_ → _))))

def owed (s : Video) : Nat :=
  match s.run with
  | .check | .acquire => 1
  | .wait => if s.signalled then 1 else 0
  | _ => 0

def afterRest : VsyncPhase → Bool
  | .signal | .terminate | .stopped => true
  | _ => false

def atRest : VsyncPhase → Bool
  | .pause | .waiting => true
  | _ => false

/-- The signals so far have taken their rests, up to one that may have begun before. -/
structure Paced (gap start : Nat) (p : Video × Pace) : Prop where
  started : start ≤ p.2.clock
  paid : start + p.2.signals * gap ≤ p.2.clock + gap
  after : afterRest p.1.handler = true → start + p.2.signals * gap ≤ p.2.clock
  rest : atRest p.1.handler = true → (p.2.rested = none ∧ p.2.signals = 0) ∨
    ∃ since ∈ p.2.rested, start + p.2.signals * gap ≤ since + gap
  woken : p.2.frames + owed p.1 ≤ p.2.signals + p.2.spurious + 1

section Steps

variable {s t : Video} {o : Outcome} {ret : Int}

theorem owed_le (s : Video) : owed s ≤ 1 := by
  unfold owed
  split
  · exact Nat.le_refl 1
  · exact Nat.le_refl 1
  · split <;> omega
  · exact Nat.zero_le 1

theorem runStep_owed (o : Outcome) (s : Video) :
    owed (runStep o s) + frameOf s (.run o) ≤ owed s + spuriousOf s (.run o) := by
  unfold runStep frameOf spuriousOf
  cases phase : s.run with
  | wait =>
    have here : owed s = if s.signalled then 1 else 0 := by
      unfold owed
      rw [phase]
    rw [here]
    cases signalled : s.signalled with
    | true => simp [owed]
    | false =>
      cases spurious : o.spurious with
      | true => simp [owed, spurious]
      | false => simp [owed, phase, signalled, spurious]
  | check =>
    have here : owed s = 1 := by
      unfold owed
      rw [phase]
    rw [here]
    have later := owed_le { s with run := if s.captureRunning then .acquire else .head }
    simpa using later
  | acquire =>
    have here : owed s = 1 := by
      unfold owed
      rw [phase]
    rw [here]
    simp [owed]
  | _ =>
    dsimp only
    repeat' split
    all_goals simp_all [owed, enterWait, Video.call]

theorem handlerStep_owed (ret : Int) (s : Video) :
    owed (handlerStep ret s) ≤ owed s + signalOf s (.handler ret) := by
  unfold handlerStep signalOf
  cases phase : s.handler with
  | signal =>
    have later := owed_le { s with signalled := true, handler := .head }
    simp
    omega
  | _ => exact Nat.le_add_right (owed s) _

theorem owed_captureStart (s : Video) : owed (captureStart s) ≤ owed s := by
  unfold captureStart
  split
  · exact Nat.le_refl _
  · split
    · exact Nat.zero_le _
    · exact Nat.le_refl _

theorem step_owed {e : Event} (taken : step s e = .ok t) :
    owed t + frameOf s e ≤ owed s + spuriousOf s e + signalOf s e := by
  cases e with
  | start =>
    cases taken
    exact owed_captureStart s
  | stop =>
    cases taken
    exact Nat.le_refl _
  | run o =>
    cases taken
    exact runStep_owed o s
  | handler ret =>
    cases taken
    exact handlerStep_owed ret s

theorem runStep_handler (o : Outcome) (s : Video) : (runStep o s).handler = s.handler ∨
    afterRest (runStep o s).handler = false ∧ atRest (runStep o s).handler = false := by
  unfold runStep
  cases s.run with
  | spawn => exact .inr ⟨rfl, rfl⟩
  | join =>
    dsimp only
    split
    · exact .inr ⟨rfl, rfl⟩
    · exact .inl rfl
  | _ =>
    left
    dsimp only
    repeat' split
    all_goals rfl

end Steps

section Paces

variable {s t : Video} {g g' : Pace} {gap start time : Nat} {fps : UInt32} {refresh : Nat}

theorem Paced.goes_on (here : Paced gap start (s, g)) (later : g.clock ≤ g'.clock)
    (rested : g'.rested = g.rested) (signals : g'.signals = g.signals)
    (handler : t.handler = s.handler ∨ afterRest t.handler = false ∧ atRest t.handler = false)
    (woken : g'.frames + owed t ≤ g'.signals + g'.spurious + 1) : Paced gap start (t, g') := by
  obtain ⟨started, paid, signals_paid, rests, -⟩ := here
  refine ⟨Nat.le_trans started later, ?_, fun on => ?_, fun on => ?_, woken⟩
  · dsimp only at paid ⊢
    rw [signals]
    omega
  · dsimp only at signals_paid on ⊢
    obtain same | ⟨off, -⟩ := handler
    · rw [signals]
      exact Nat.le_trans (signals_paid (same ▸ on)) later
    · cases off.symm.trans on
  · dsimp only at rests on ⊢
    obtain same | ⟨-, off⟩ := handler
    · rw [signals, rested]
      exact rests (same ▸ on)
    · cases off.symm.trans on

theorem Paced.lasted (here : Paced gap start (s, g)) (rests : atRest s.handler = true)
    (later : g.clock ≤ time) {least : Nat} (enough : gap ≤ least)
    (lasts : Lasts g.rested least time) : start + g.signals * gap ≤ time := by
  obtain ⟨-, none⟩ | ⟨since, member, paid⟩ := here.rest rests
  · have started := here.started
    dsimp only at started none
    rw [none]
    omega
  · have spent := lasts since member
    dsimp only at paid
    omega

theorem Paced.begins (here : Paced gap start (s, g)) (later : g.clock ≤ g'.clock)
    (rested : g'.rested = some g'.clock) (signals : g'.signals = g.signals)
    (handler : afterRest t.handler = false)
    (woken : g'.frames + owed t ≤ g'.signals + g'.spurious + 1) : Paced gap start (t, g') := by
  have started := here.started
  have paid := here.paid
  dsimp only at started paid
  rw [← signals] at paid
  refine ⟨?_, ?_, fun on => ?_, fun _ => .inr ⟨g'.clock, rested, ?_⟩, woken⟩
  · dsimp only
    omega
  · dsimp only
    omega
  · cases handler.symm.trans on
  · dsimp only
    omega

theorem Paced.ends (here : Paced gap start (s, g)) (later : g.clock ≤ g'.clock)
    (spent : start + g.signals * gap ≤ g'.clock) (signals : g'.signals = g.signals)
    (handler : atRest t.handler = false)
    (woken : g'.frames + owed t ≤ g'.signals + g'.spurious + 1) : Paced gap start (t, g') := by
  have started := here.started
  dsimp only at started
  rw [← signals] at spent
  refine ⟨?_, ?_, fun _ => spent, fun on => ?_, woken⟩
  · dsimp only
    omega
  · dsimp only
    omega
  · cases handler.symm.trans on

theorem handler_paced {ret : Int} (shortPause : gap ≤ pauseMicros fps) (shortWait : gap ≤ refresh)
    (here : Paced gap start (s, g)) (timely : Timely fps refresh (s, g) ⟨time, .handler ret⟩)
    (clock : g'.clock = time)
    (rested : g'.rested = if s.handler = .test ∨ s.handler = .wait then some time else g.rested)
    (signals : g'.signals = g.signals + if s.handler = .signal then 1 else 0)
    (woken : g'.frames + owed (handlerStep ret s) ≤ g'.signals + g'.spurious + 1) :
    Paced gap start (handlerStep ret s, g') := by
  obtain ⟨later, rests⟩ := timely
  obtain ⟨pauses, waits⟩ := rests rfl
  dsimp only at later pauses waits
  subst clock
  unfold handlerStep at woken ⊢
  cases phase : s.handler with
  | absent =>
    rw [phase] at rested signals woken
    exact here.goes_on later rested signals (.inl rfl) woken
  | ended =>
    rw [phase] at rested signals woken
    exact here.goes_on later rested signals (.inl rfl) woken
  | head =>
    rw [phase] at rested signals woken
    refine here.goes_on later rested signals (.inr ?_) woken
    dsimp only
    split <;> exact ⟨rfl, rfl⟩
  | test =>
    rw [phase] at rested signals woken
    refine here.begins later rested signals ?_ woken
    dsimp only
    split <;> rfl
  | wait =>
    rw [phase] at rested signals woken
    exact here.begins later rested signals rfl woken
  | waiting =>
    rw [phase] at rested signals woken
    have spent := here.lasted (by rw [phase]; rfl) later shortWait (waits phase)
    refine here.ends later spent signals ?_ woken
    dsimp only
    split <;> rfl
  | pause =>
    rw [phase] at rested signals woken
    have spent := here.lasted (by rw [phase]; rfl) later shortPause (pauses phase)
    exact here.ends later spent signals rfl woken
  | terminate =>
    rw [phase] at rested signals woken
    have spent := here.after (by rw [phase]; rfl)
    exact here.ends later (Nat.le_trans spent later) signals rfl woken
  | stopped =>
    rw [phase] at rested signals woken
    have spent := here.after (by rw [phase]; rfl)
    exact here.ends later (Nat.le_trans spent later) signals rfl woken
  | signal =>
    rw [phase] at rested signals woken
    have one : g'.signals = g.signals + 1 := signals
    have spent := here.after (by rw [phase]; rfl)
    have started := here.started
    dsimp only at spent started
    refine ⟨Nat.le_trans started later, ?_, fun on => ?_, fun on => ?_, woken⟩
    · dsimp only
      rw [one, Nat.add_mul, Nat.one_mul]
      omega
    · cases on
    · cases on

theorem step_paced {p q : Video × Pace} {e : Timed} (shortPause : gap ≤ pauseMicros fps)
    (shortWait : gap ≤ refresh) (here : Paced gap start p) (timely : Timely fps refresh p e)
    (taken : watched timedStep count p e = .ok q) : Paced gap start q := by
  obtain ⟨moved, counted⟩ := watched_ok.mp taken
  obtain ⟨s, g⟩ := p
  obtain ⟨t, g'⟩ := q
  obtain ⟨time, event⟩ := e
  have woken : g'.frames + owed t ≤ g'.signals + g'.spurious + 1 := by
    have before := here.woken
    have owes := step_owed moved
    dsimp only at counted before owes
    rw [counted, count]
    dsimp only
    omega
  cases event with
  | start =>
    cases moved
    have same : (captureStart s).handler = s.handler := by
      unfold captureStart
      repeat' split
      all_goals rfl
    cases counted
    exact here.goes_on timely.1 rfl rfl (.inl same) woken
  | stop =>
    cases moved
    cases counted
    exact here.goes_on timely.1 rfl rfl (.inl rfl) woken
  | run o =>
    cases moved
    cases counted
    exact here.goes_on timely.1 rfl rfl (runStep_handler o s) woken
  | handler ret =>
    cases moved
    cases counted
    exact handler_paced shortPause shortWait here timely rfl rfl rfl woken

end Paces

theorem since_paced (gap start : Nat) (s : Video) : Paced gap start (s, .since start) := by
  have paid : start + 0 * gap ≤ start := by omega
  refine ⟨Nat.le_refl start, Nat.le_trans paid (Nat.le_add_right start gap), fun _ => paid,
    fun _ => .inl ⟨rfl, rfl⟩, ?_⟩
  have last := owed_le s
  change 0 + owed s ≤ 1
  omega

/-- In every stretch of every run, in any order of the threads' steps: of the frames taken all
but two, the wakeups without a signal aside, have each had a whole rest of the handler. -/
theorem frames_paced (fps : UInt32) (refresh start : Nat) (s t : Video) (g : Pace)
    (es : List Timed)
    (timely : Careful (watched timedStep count) (Timely fps refresh) (s, .since start) es)
    (ran : run (watched timedStep count) (s, .since start) es = .ok (t, g)) :
    g.frames * min (pauseMicros fps) refresh ≤
      (g.clock - start) + (g.spurious + 2) * min (pauseMicros fps) refresh := by
  have shortPause := Nat.min_le_left (pauseMicros fps) refresh
  have shortWait := Nat.min_le_right (pauseMicros fps) refresh
  generalize min (pauseMicros fps) refresh = gap at shortPause shortWait ⊢
  have keeps : ∀ p e q, Paced gap start p → Timely fps refresh p e →
      watched timedStep count p e = .ok q → Paced gap start q :=
    fun p e q here timely taken => step_paced shortPause shortWait here timely taken
  have last : Paced gap start (t, g) :=
    throughout_invariant keeps timely (since_paced gap start s) ran
  have started := last.started
  have paid := last.paid
  have woken := last.woken
  dsimp only at started paid woken
  have taken : g.frames * gap ≤ (g.signals + g.spurious + 1) * gap :=
    Nat.mul_le_mul_right gap (by omega)
  have parts : (g.signals + g.spurious + 1) * gap = g.signals * gap + (g.spurious + 1) * gap := by
    rw [Nat.add_assoc, Nat.add_mul]
  have more : (g.spurious + 2) * gap = (g.spurious + 1) * gap + gap :=
    Nat.succ_mul (g.spurious + 1) gap
  omega

def awake : Video :=
  { boot false false true true with
    running := true
    captureRunning := true
    vsyncThreadRunning := true
    signalled := true
    run := .wait
    handler := .pause }

def hurry : List Timed :=
  let o : Event := .run ⟨0, 0, .argb, false⟩
  [⟨1, o⟩, ⟨2, o⟩, ⟨3, o⟩, ⟨4, o⟩, ⟨5, o⟩, ⟨6, o⟩, ⟨7, o⟩, ⟨8, .handler 0⟩, ⟨9, .handler 0⟩,
    ⟨10, .handler 0⟩, ⟨11, .handler 0⟩, ⟨12, o⟩, ⟨13, o⟩, ⟨14, o⟩, ⟨15, o⟩, ⟨16, o⟩, ⟨17, o⟩,
    ⟨18, o⟩, ⟨33344, .handler 0⟩, ⟨33345, .handler 0⟩, ⟨33346, o⟩, ⟨33347, o⟩, ⟨33348, o⟩]

theorem frames_paced_hurry : ∃ t g,
    run (watched timedStep count) (awake, .since 0) hurry = .ok (t, g) ∧ g.frames = 3 ∧
    g.frames * min (pauseMicros 30) 33333 ≤
      (g.clock - 0) + (g.spurious + 2) * min (pauseMicros 30) 33333 := by
  obtain ⟨⟨t, g⟩, kept, three⟩ : ∃ q, run (lawful (watched timedStep count)
      fun p e _ => Timely 30 33333 p e) (awake, .since 0) hurry = .ok q ∧ q.2.frames = 3 :=
    ⟨_, rfl, rfl⟩
  obtain ⟨ran, timely⟩ := run_lawful_ok.mp kept
  exact ⟨t, g, ran, three, frames_paced 30 33333 0 awake t g hurry timely ran⟩

end HyperionWebos.FramePacing
