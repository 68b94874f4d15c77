import HyperionWebos.Standby

/-! What may start the capture again by itself. The power and the sensor callback each
pause the capture and take back their own pause; a request of the user in between makes
that pause a thing of the past. The callbacks do not know: their flags outlive the
request, and `auto_resume_iff` says that only such aged pauses are resumed wrongly. -/

namespace HyperionWebos.AutoResume
open Runs OwnedArray Pbnjson SettingsLoad Unicapture ServiceLoop ServiceSteps ServiceSwitches
  Standby

/-- The two callbacks that pause and resume on their own. -/
inductive Handler where
  | power
  | sensor
deriving DecidableEq

def handler (e : Event) : Option Handler :=
  match e.action with
  | .power _ => some .power
  | .sensor _ => some .sensor
  | _ => none

def flag (s : Service) : Handler → Bool
  | .power => s.powerPaused
  | .sensor => s.lumenPaused

/-- What an onlooker keeps of a run: whether the user's last word was a stop, whether a
callback's last act was a pause that no user request followed, and whether a user request
came after a pause flag was set. -/
structure Record where
  stopped : Bool
  made : Handler → Bool
  aged : Handler → Bool

def blank : Record := ⟨false, fun _ => false, fun _ => false⟩

def requested (stopped : Bool) : Record := ⟨stopped, fun _ => false, fun _ => true⟩

def handled (k : Handler) (r : Record) (s s' : Service) : Record where
  stopped := r.stopped
  made := Function.update r.made k (if s.running = s'.running then r.made k else s.running)
  aged := Function.update r.aged k (if !flag s k && flag s' k then false else r.aged k)

def observe (r : Record) (s : Service) (e : Event) (s' : Service) : Record :=
  match e.action with
  | .start => requested false
  | .stop => requested true
  | .startorstop => requested s.running
  | .setSettings _ | .videooutput _ => { r with stopped := false }
  | .power _ => handled .power r s s'
  | .sensor _ => handled .sensor r s s'
  | .picture _ | .captureThread _ => r

/-- A callback starts the capture only to undo its own pause, which no user request may
have followed, and not while the user's stop stands. -/
def Sticky (p : Service × Record) (e : Event) (q : Service × Record) : Prop :=
  ∀ k, handler e = some k → p.1.running = false → q.1.running = true →
    p.2.stopped = false ∧ p.2.made k = true

def Resumes (s : Service) (e : Event) : Prop :=
  s.running = false ∧ e.env.connectionCreated = true ∧ match e.action with
    | .power payload => powerMessage payload = some (true, false) ∧ s.powerPaused = true ∧
      (s.videoConnected = true ∨ s.capture.state.capture .ui = true)
    | .sensor payload => s.powerPaused = false ∧ s.lumenPaused = true ∧
      s.settings.lumenThreshold ≠ 0 ∧
      ∃ v, luminance payload e.env = some v ∧ v ≤ s.settings.lumenThreshold
    | _ => False

/-- Such a message after a user request that the callback's flag outlived. -/
def StaleResume (p : Service × Record) (e : Event) : Prop :=
  Resumes p.1 e ∧ ∃ k, handler e = some k ∧ p.2.aged k = true

theorem resumes_iff {s s' : Service} {e : Event} {k : Handler} (h : step s e = .ok s')
    (callback : handler e = some k) (off : s.running = false) :
    s'.running = true ↔ Resumes s e := by
  have running : s'.running = starts (switches s) (request s e) := by
    rw [← next_running off]
    exact congrArg Switches.running (step_switches h)
  rw [running]
  obtain ⟨action, env⟩ := e
  cases action with
  | power payload =>
    simp only [Resumes, request]
    rcases powerMessage payload with _ | ⟨_ | _, _ | _⟩ <;>
      simp [starts, switches, off]
    tauto
  | sensor payload =>
    rw [request_sensor]
    simp only [Resumes]
    cases luminance payload env with
    | none => simp [starts]
    | some v =>
      by_cases on : s.settings.lumenThreshold = 0 <;>
        simp [lightRequest, starts, switches, on, off]
      tauto
  | _ => cases callback

/-- The step leaves the switch and the flag, pauses the capture, or takes a pause back. -/
def Moves (running running' flag flag' : Bool) : Prop :=
  (running' = running ∧ flag' = flag) ∨
  (running = true ∧ running' = false ∧ flag = false ∧ flag' = true) ∨
  (running = false ∧ flag = true ∧ flag' = false)

instance (running running' flag flag' : Bool) : Decidable (Moves running running' flag flag') :=
  inferInstanceAs (Decidable (_ ∨ _))

theorem power_next (w : Switches) (active ui created : Bool) :
    (w.next (.power active ui created)).lumenPaused = w.lumenPaused ∧
      Moves w.running (w.next (.power active ui created)).running w.powerPaused
        (w.next (.power active ui created)).powerPaused := by
  obtain ⟨running, powerPaused, videoConnected, lumenPaused⟩ := w
  decide +revert

theorem light_next (w : Switches) (bright created : Bool) :
    (w.next (.light bright created)).powerPaused = w.powerPaused ∧
      Moves w.running (w.next (.light bright created)).running w.lumenPaused
        (w.next (.light bright created)).lumenPaused := by
  obtain ⟨running, powerPaused, videoConnected, lumenPaused⟩ := w
  decide +revert

theorem moves_refl (running flag : Bool) : Moves running running flag flag := Or.inl ⟨rfl, rfl⟩

theorem handler_moves {s s' : Service} {e : Event} {k : Handler} (h : step s e = .ok s')
    (callback : handler e = some k) :
    (∀ other, other ≠ k → flag s' other = flag s other) ∧
      Moves s.running s'.running (flag s k) (flag s' k) := by
  have moved := step_switches h
  have running : s'.running = ((switches s).next (request s e)).running :=
    congrArg Switches.running moved
  have power : s'.powerPaused = ((switches s).next (request s e)).powerPaused :=
    congrArg Switches.powerPaused moved
  have lumen : s'.lumenPaused = ((switches s).next (request s e)).lumenPaused :=
    congrArg Switches.lumenPaused moved
  obtain ⟨action, env⟩ := e
  cases action with
  | power payload =>
    cases callback
    have spec : ((switches s).next (request s ⟨.power payload, env⟩)).lumenPaused =
          s.lumenPaused ∧
        Moves s.running ((switches s).next (request s ⟨.power payload, env⟩)).running
          s.powerPaused ((switches s).next (request s ⟨.power payload, env⟩)).powerPaused := by
      simp only [request]
      split
      · exact power_next (switches s) _ _ _
      · exact ⟨rfl, moves_refl _ _⟩
    rw [← running, ← power, ← lumen] at spec
    refine ⟨fun other away => ?_, spec.2⟩
    cases other with
    | power => exact absurd rfl away
    | sensor => exact spec.1
  | sensor payload =>
    cases callback
    have spec : ((switches s).next (request s ⟨.sensor payload, env⟩)).powerPaused =
          s.powerPaused ∧
        Moves s.running ((switches s).next (request s ⟨.sensor payload, env⟩)).running
          s.lumenPaused ((switches s).next (request s ⟨.sensor payload, env⟩)).lumenPaused := by
      rw [request_sensor]
      split
      · unfold lightRequest
        split
        · exact ⟨rfl, moves_refl _ _⟩
        · exact light_next (switches s) _ _
      · exact ⟨rfl, moves_refl _ _⟩
    rw [← running, ← power, ← lumen] at spec
    refine ⟨fun other away => ?_, spec.2⟩
    cases other with
    | power => exact spec.1
    | sensor => exact absurd rfl away
  | _ => cases callback

/-- The records of a state reached lawfully: a set flag stands for a pause that its own
callback made unless it has aged, and a stop of the user keeps the capture off and has
aged every flag. -/
structure Recorded (p : Service × Record) : Prop where
  made : ∀ k, flag p.1 k = true → p.2.made k = !p.2.aged k
  off : p.2.stopped = true → p.1.running = false
  old : p.2.stopped = true → ∀ k, flag p.1 k = true → p.2.aged k = true

theorem recorded_requested {s : Service} {stopped : Bool}
    (off : stopped = true → s.running = false) : Recorded (s, requested stopped) where
  made _ _ := rfl
  off := off
  old _ _ _ := rfl

theorem recorded_boot (env : Env) (handle handleLegacy : Option Nat) (settings : Settings) :
    Recorded (boot env handle handleLegacy settings, blank) where
  made k set := by cases k <;> cases set
  off stopped := by cases stopped
  old stopped := by cases stopped

theorem resumes_flag {s : Service} {e : Event} {k : Handler} (callback : handler e = some k)
    (resumes : Resumes s e) : flag s k = true := by
  obtain ⟨action, env⟩ := e
  obtain ⟨_, _, message⟩ := resumes
  cases action with
  | power payload =>
    cases callback
    exact message.2.1
  | sensor payload =>
    cases callback
    exact message.2.1
  | _ => cases callback

theorem sticky_iff {p q : Service × Record} {e : Event} (here : Recorded p)
    (h : watched step observe p e = .ok q) : Sticky p e q ↔ ¬ StaleResume p e := by
  obtain ⟨moved, _⟩ := watched_ok.mp h
  constructor
  · rintro law ⟨resumes, k, callback, aged⟩
    have on := (resumes_iff moved callback resumes.1).mpr resumes
    have made := (law k callback resumes.1 on).2
    rw [here.made k (resumes_flag callback resumes), aged] at made
    exact Bool.false_ne_true made
  · intro fresh k callback off on
    have resumes := (resumes_iff moved callback off).mp on
    have set := resumes_flag callback resumes
    have young : p.2.aged k = false := by
      apply eq_false_of_ne_true
      intro aged
      exact fresh ⟨resumes, k, callback, aged⟩
    refine ⟨?_, by rw [here.made k set, young, Bool.not_false]⟩
    apply eq_false_of_ne_true
    intro stopped
    exact Bool.false_ne_true (young.symm.trans (here.old stopped k set))

theorem handled_made {k : Handler} {r : Record} {s s' : Service}
    (moves : Moves s.running s'.running (flag s k) (flag s' k))
    (here : flag s k = true → r.made k = !r.aged k) (set : flag s' k = true) :
    (handled k r s s').made k = !(handled k r s s').aged k := by
  simp only [handled, Function.update_self]
  rcases moves with ⟨same, kept⟩ | ⟨on, off, clear, _⟩ | ⟨_, _, cleared⟩
  · rw [same, if_pos rfl, kept, Bool.not_and_self]
    exact here (kept.symm.trans set)
  · simp [on, off, clear, set]
  · rw [cleared] at set
    cases set

theorem handled_recorded {s s' : Service} {r : Record} {e : Event} {k : Handler}
    (here : Recorded (s, r)) (h : step s e = .ok s') (callback : handler e = some k)
    (law : s.running = false → s'.running = true → r.stopped = false) :
    Recorded (s', handled k r s s') := by
  obtain ⟨others, moves⟩ := handler_moves h callback
  have off (stopped : r.stopped = true) : s.running = false := here.off stopped
  refine ⟨fun other set => ?_, fun stopped => ?_, fun stopped other set => ?_⟩
  · by_cases own : other = k
    · subst own
      exact handled_made moves (here.made other) set
    · have kept := others other own
      simp only [handled, Function.update_of_ne own]
      exact here.made other (kept.symm.trans set)
  · apply eq_false_of_ne_true
    intro on
    exact Bool.false_ne_true ((law (off stopped) on).symm.trans stopped)
  · by_cases own : other = k
    · subst own
      have before : flag s other = true := by
        rcases moves with ⟨_, kept⟩ | ⟨on, _⟩ | ⟨_, set', _⟩
        · exact kept.symm.trans set
        · exact absurd (on.symm.trans (off stopped)) (by decide)
        · exact set'
      simp only [handled, Function.update_self, before, Bool.not_true, Bool.false_and,
        Bool.false_eq_true, if_false]
      exact here.old stopped other before
    · simp only [handled, Function.update_of_ne own]
      exact here.old stopped other ((others other own).symm.trans set)

theorem step_flag {s s' : Service} {e : Event} (h : step s e = .ok s')
    (other : handler e = none) : flag s' = flag s := by
  have moved := step_switches h
  have power : s'.powerPaused = ((switches s).next (request s e)).powerPaused :=
    congrArg Switches.powerPaused moved
  have lumen : s'.lumenPaused = ((switches s).next (request s e)).lumenPaused :=
    congrArg Switches.lumenPaused moved
  have kept : s'.powerPaused = s.powerPaused ∧ s'.lumenPaused = s.lumenPaused := by
    rw [power, lumen]
    obtain ⟨action, env⟩ := e
    cases action with
    | power payload => cases other
    | sensor payload => cases other
    | setSettings payload =>
      simp only [request]
      split <;> exact ⟨rfl, rfl⟩
    | videooutput payload =>
      simp only [request]
      split <;> exact ⟨rfl, rfl⟩
    | _ => exact ⟨rfl, rfl⟩
  funext k
  cases k with
  | power => exact kept.1
  | sensor => exact kept.2

theorem observe_recorded {p q : Service × Record} {e : Event} (here : Recorded p)
    (h : watched step observe p e = .ok q) (law : Sticky p e q) : Recorded q := by
  obtain ⟨moved, seen⟩ := watched_ok.mp h
  obtain ⟨s, r⟩ := p
  obtain ⟨s', r'⟩ := q
  obtain rfl : r' = observe r s e s' := seen
  obtain ⟨action, env⟩ := e
  cases action with
  | start => exact recorded_requested Bool.noConfusion
  | stop =>
    cases moved
    exact recorded_requested fun _ => serviceStop_running env s
  | startorstop =>
    refine recorded_requested fun on => ?_
    have running : s'.running = (!s.running && env.connectionCreated) :=
      congrArg Switches.running (step_switches moved)
    rw [running, on]
    rfl
  | setSettings payload =>
    have kept := step_flag moved rfl
    exact ⟨fun k set => here.made k (kept ▸ set), Bool.noConfusion, Bool.noConfusion⟩
  | videooutput payload =>
    have kept := step_flag moved rfl
    exact ⟨fun k set => here.made k (kept ▸ set), Bool.noConfusion, Bool.noConfusion⟩
  | power payload => exact handled_recorded here moved rfl fun off on => (law _ rfl off on).1
  | sensor payload => exact handled_recorded here moved rfl fun off on => (law _ rfl off on).1
  | picture payload =>
    obtain ⟨rpc, rfl⟩ := pictureCallback_ok moved
    exact ⟨here.made, here.off, here.old⟩
  | captureThread it =>
    cases moved
    exact ⟨here.made, here.off, here.old⟩

theorem throughout_sticky {p : Service × Record} (here : Recorded p) (es : List Event) :
    Throughout (watched step observe) Sticky p es ↔
      Throughout (watched step observe) (fun p e _ => ¬ StaleResume p e) p es := by
  have decided (p : Service × Record) (e : Event) (q : Service × Record) (here : Recorded p)
      (h : watched step observe p e = .ok q) : Sticky p e q ↔ ¬ StaleResume p e :=
    sticky_iff here h
  have keeps (p : Service × Record) (e : Event) (q : Service × Record) (here : Recorded p)
      (h : watched step observe p e = .ok q) (law : Sticky p e q) : Recorded q :=
    observe_recorded here h law
  exact throughout_congr decided keeps here

/-- Every automatic start of a run undoes its callback's own, unaged pause exactly when no
message of the run resumes an aged one. -/
theorem auto_resume_iff (env : Env) (handle handleLegacy : Option Nat) (settings : Settings)
    (es : List Event) :
    Throughout (watched step observe) Sticky (boot env handle handleLegacy settings, blank) es ↔
      Throughout (watched step observe) (fun p e _ => ¬ StaleResume p e)
        (boot env handle handleLegacy settings, blank) es :=
  throughout_sticky (recorded_boot env handle handleLegacy settings) es

/-- Stopped by the user in standby, the capture starts again with the next active state. -/
theorem auto_resume_after_stop :
    ¬ Throughout (watched step observe) Sticky (boot calm none none settingsInit, blank)
      [⟨.videooutput (.object [("video", .array [.object [("connected", .boolean true)]])]), calm⟩,
        ⟨.power (.object [("state", .string "Standby")]), calm⟩, ⟨.stop, calm⟩,
        ⟨.power (.object [("state", .string "Active")]), calm⟩] := by
  intro law
  have last := (((law _ rfl).2 _ rfl).2 _ rfl).2 _ rfl
  have undone := last.1 .power rfl rfl rfl
  exact Bool.false_ne_true undone.1.symm

end HyperionWebos.AutoResume
