import HyperionWebos.ServiceSwitches

/-! What a set pause flag promises: the capture was stopped for that reason and is not
running. Start requests that leave an earlier pause in place break the promise, and
`pause_flags_iff` says that nothing else does. -/

namespace HyperionWebos.PauseFlags
open Runs Pbnjson SettingsLoad Unicapture ServiceLoop ServiceSteps ServiceSwitches

def PauseFlagsMean (s : Service) : Prop :=
  (s.powerPaused = true → s.running = false) ∧ (s.lumenPaused = true → s.running = false)

def Standby (e : Event) : Prop :=
  ∃ payload, e.action = .power payload ∧ powerMessage payload = some (false, false)

def TooBright (s : Service) (e : Event) : Prop :=
  ∃ payload v, e.action = .sensor payload ∧ sensorMessage payload = some v ∧
    s.settings.lumenThreshold ≠ 0 ∧ v > s.settings.lumenThreshold ∧ s.powerPaused = false

def FlagsLaw (s : Service) (e : Event) (s' : Service) : Prop :=
  PauseFlagsMean s' ∧ (Standby e → s'.running = false) ∧ (TooBright s e → s'.running = false)

/-- A capture is started while a pause that nobody takes back is on record: by a request
of the user, by a permitted video, or by the end of a standby during a bright spell. -/
def StaleStart (s : Service) (e : Event) : Prop :=
  s.running = false ∧ e.env.connectionCreated = true ∧ match e.action with
    | .start | .startorstop => s.powerPaused = true ∨ s.lumenPaused = true
    | .videooutput payload =>
      (∃ connected appid, videoMessage payload = some (connected, appid) ∧
        Permits connected appid s) ∧ (s.powerPaused = true ∨ s.lumenPaused = true)
    | .power payload => powerMessage payload = some (true, false) ∧ s.powerPaused = true ∧
      (s.videoConnected = true ∨ s.capture.state.capture .ui = true) ∧ s.lumenPaused = true
    | _ => False

def mean (w : Switches) : Bool := !(w.running && (w.powerPaused || w.lumenPaused))

def staleStart (w : Switches) : Request → Bool
  | .start created | .toggle created =>
    !w.running && created && (w.powerPaused || w.lumenPaused)
  | .video _ permitted created =>
    !w.running && created && (permitted && (w.powerPaused || w.lumenPaused))
  | .power active ui created =>
    !w.running && created && (active && w.powerPaused && (w.videoConnected || ui) && w.lumenPaused)
  | _ => false

theorem mean_iff (s : Service) : PauseFlagsMean s ↔ mean (switches s) = true := by
  cases run : s.running <;> cases power : s.powerPaused <;> cases lumen : s.lumenPaused <;>
    simp [PauseFlagsMean, mean, switches, run, power, lumen]

/-- From a state whose flags mean something, only a stale start leads away. -/
theorem mean_next {w : Switches} (here : mean w = true) (r : Request) :
    mean (w.next r) = !staleStart w r := by
  obtain ⟨running, powerPaused, videoConnected, lumenPaused⟩ := w
  cases r <;> (revert here; decide +revert)

theorem standby_stops {w : Switches} (here : mean w = true) (ui created : Bool) :
    (w.next (.power false ui created)).running = false := by
  obtain ⟨running, powerPaused, videoConnected, lumenPaused⟩ := w
  revert here
  decide +revert

theorem light_stops {w : Switches} (here : mean w = true) (awake : w.powerPaused = false)
    (created : Bool) : (w.next (.light true created)).running = false := by
  obtain ⟨running, powerPaused, videoConnected, lumenPaused⟩ := w
  revert here awake
  decide +revert

theorem staleStart_iff (s : Service) (e : Event) :
    StaleStart s e ↔ staleStart (switches s) (request s e) = true := by
  obtain ⟨action, env⟩ := e
  cases action with
  | setSettings payload =>
    simp only [StaleStart, request, and_false, false_iff]
    split <;> exact Bool.false_ne_true
  | power payload =>
    simp only [StaleStart, request]
    rcases powerMessage payload with _ | ⟨_ | _, _ | _⟩ <;>
      simp [staleStart, switches, and_assoc]
  | videooutput payload =>
    simp only [StaleStart, request]
    rcases videoMessage payload with _ | ⟨connected, appid⟩ <;>
      simp [staleStart, switches, and_assoc]
  | sensor payload =>
    simp only [StaleStart, request, lightRequest, and_false, false_iff]
    cases sensorMessage payload with
    | none =>
      dsimp only
      split
      · split <;> exact Bool.false_ne_true
      · exact Bool.false_ne_true
    | some v =>
      dsimp only
      split <;> exact Bool.false_ne_true
  | _ => simp [StaleStart, request, staleStart, switches, and_assoc]

theorem request_standby {e : Event} (standby : Standby e) (s : Service) :
    request s e = .power false (s.capture.state.capture .ui) e.env.connectionCreated := by
  obtain ⟨payload, action, message⟩ := standby
  simp only [request, action, message]

theorem request_tooBright {s : Service} {e : Event} (bright : TooBright s e) :
    request s e = .light true e.env.connectionCreated := by
  obtain ⟨payload, v, action, message, on, above, _⟩ := bright
  simp only [request, action, message, lightRequest, if_neg on, decide_eq_true above]

theorem flagsLaw_iff {s : Service} {e : Event} {s' : Service} (here : PauseFlagsMean s)
    (h : step s e = .ok s') : FlagsLaw s e s' ↔ ¬ StaleStart s e := by
  have moved := step_switches h
  have meaning := (mean_iff s).mp here
  have kept : PauseFlagsMean s' ↔ ¬ StaleStart s e := by
    rw [mean_iff, staleStart_iff, moved, mean_next meaning, Bool.not_eq_true', Bool.not_eq_true]
  have running : s'.running = ((switches s).next (request s e)).running :=
    congrArg Switches.running moved
  refine ⟨fun law => kept.mp law.1, fun fresh => ⟨kept.mpr fresh, fun standby => ?_, ?_⟩⟩
  · rw [running, request_standby standby]
    exact standby_stops meaning _ _
  · intro bright
    obtain ⟨_, _, _, _, _, _, awake⟩ := id bright
    rw [running, request_tooBright bright]
    exact light_stops meaning awake _

theorem boot_mean (env : Env) (handle handleLegacy : Option Nat) (settings : Settings) :
    PauseFlagsMean (boot env handle handleLegacy settings) :=
  (mean_iff _).mpr rfl

theorem throughout_flagsLaw {s : Service} (here : PauseFlagsMean s) (es : List Event) :
    Throughout step FlagsLaw s es ↔ Throughout step (fun s e _ => ¬ StaleStart s e) s es := by
  have decided (s : Service) (e : Event) (s' : Service) (here : PauseFlagsMean s)
      (h : step s e = .ok s') : FlagsLaw s e s' ↔ ¬ StaleStart s e := flagsLaw_iff here h
  have keeps (s : Service) (e : Event) (s' : Service) (_ : PauseFlagsMean s)
      (_ : step s e = .ok s') (law : FlagsLaw s e s') : PauseFlagsMean s' := law.1
  exact throughout_congr decided keeps here

theorem flags_mean_of_fresh {env : Env} {handle handleLegacy : Option Nat} {settings : Settings}
    {es : List Event} {s : Service}
    (fresh : Throughout step (fun s e _ => ¬ StaleStart s e)
      (boot env handle handleLegacy settings) es)
    (h : run step (boot env handle handleLegacy settings) es = .ok s) : PauseFlagsMean s := by
  have start := boot_mean env handle handleLegacy settings
  exact throughout_end (fun _ _ _ law => law.1) ((throughout_flagsLaw start es).mpr fresh) start h

/-- The pause flags keep their meaning along a run exactly when no start in it is stale. -/
theorem pause_flags_iff (env : Env) (handle handleLegacy : Option Nat) (settings : Settings)
    (es : List Event) :
    Throughout step FlagsLaw (boot env handle handleLegacy settings) es ↔
      Throughout step (fun s e _ => ¬ StaleStart s e)
        (boot env handle handleLegacy settings) es :=
  throughout_flagsLaw (boot_mean env handle handleLegacy settings) es

/-- Started in standby, the capture runs with `power_paused` set and the next standby
message does not stop it. -/
theorem pause_flags_stale_start :
    ∃ s t, run step (boot calm none none settingsInit)
        [⟨.start, calm⟩, ⟨.power (.object [("state", .string "Standby")]), calm⟩,
          ⟨.start, calm⟩] = .ok s ∧
      ¬ PauseFlagsMean s ∧
      step s ⟨.power (.object [("state", .string "Standby")]), calm⟩ = .ok t ∧
      t.running = true := by
  refine ⟨_, _, rfl, ?_, rfl, rfl⟩
  rintro ⟨power, _⟩
  exact nomatch power rfl

end HyperionWebos.PauseFlags
