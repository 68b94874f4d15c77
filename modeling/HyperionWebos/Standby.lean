import HyperionWebos.PauseFlags

/-! The capture in standby. Between a standby message and the next thing that ends the
standby, starting is nobody's business; `inStandby` follows that from the messages alone.
Two paths start it nevertheless: `videooutput_callback` does not look at `power_paused`,
and a standby that met a stopped service was never noted down. -/

namespace HyperionWebos.Standby
open Runs Pbnjson SettingsLoad Unicapture ServiceLoop ServiceSteps ServiceSwitches

def inStandby (standby : Bool) (e : Event) : Bool :=
  match e.action with
  | .start | .startorstop | .setSettings _ => false
  | .power payload => match powerMessage payload with
    | some (false, false) => true
    | some (true, false) => false
    | _ => standby
  | _ => standby

def StaysOff (p : Service × Bool) (_ : Event) (q : Service × Bool) : Prop :=
  p.2 = true → q.2 = true → p.1.running = false → q.1.running = false

def luminance (payload : JVal) (env : Env) : Option Int :=
  match sensorMessage payload with
  | some v => some v
  | none => if jisValid (jobjectGet payload "sensorData") then some env.stackWord else none

/-- A stopped capture meets a video that may be captured, or, in a standby that was not
noted down, the end of a bright spell. -/
def StandbyStart (p : Service × Bool) (e : Event) : Prop :=
  p.2 = true ∧ p.1.running = false ∧ e.env.connectionCreated = true ∧ match e.action with
    | .videooutput payload => ∃ connected appid,
      videoMessage payload = some (connected, appid) ∧ Permits connected appid p.1
    | .sensor payload => p.1.powerPaused = false ∧ p.1.lumenPaused = true ∧
      p.1.settings.lumenThreshold ≠ 0 ∧
      ∃ v, luminance payload e.env = some v ∧ v ≤ p.1.settings.lumenThreshold
    | _ => False

def starts (w : Switches) : Request → Bool
  | .start created | .toggle created => created
  | .power active ui created => active && w.powerPaused && (w.videoConnected || ui) && created
  | .video _ permitted created => permitted && created
  | .light bright created => !w.powerPaused && !bright && w.lumenPaused && created
  | _ => false

theorem next_running {w : Switches} (off : w.running = false) (r : Request) :
    (w.next r).running = starts w r := by
  obtain ⟨running, powerPaused, videoConnected, lumenPaused⟩ := w
  cases r <;> (revert off; decide +revert)

theorem request_sensor (payload : JVal) (env : Env) (s : Service) :
    request s ⟨.sensor payload, env⟩ = match luminance payload env with
      | some v => lightRequest v env.connectionCreated s
      | none => .idle := by
  simp only [request, luminance]
  cases sensorMessage payload with
  | some v => rfl
  | none =>
    dsimp only
    split <;> rfl

theorem standbyStart_iff {s : Service} {e : Event} (off : s.running = false)
    (goes_on : inStandby true e = true) :
    StandbyStart (s, true) e ↔ starts (switches s) (request s e) = true := by
  obtain ⟨action, env⟩ := e
  cases action with
  | start => cases goes_on
  | startorstop => cases goes_on
  | setSettings payload => cases goes_on
  | power payload =>
    simp only [StandbyStart, request, and_false, false_iff]
    simp only [inStandby] at goes_on
    rcases message : powerMessage payload with _ | ⟨_ | _, _ | _⟩
    · exact Bool.false_ne_true
    · simp [starts]
    · exact Bool.false_ne_true
    · rw [message] at goes_on
      cases goes_on
    · exact Bool.false_ne_true
  | videooutput payload =>
    simp only [StandbyStart, request]
    rcases videoMessage payload with _ | ⟨connected, appid⟩ <;>
      simp [starts, off, and_comm]
  | sensor payload =>
    rw [request_sensor]
    simp only [StandbyStart]
    cases luminance payload env with
    | none => simp [starts]
    | some v =>
      by_cases on : s.settings.lumenThreshold = 0 <;>
        simp [lightRequest, starts, switches, on, off]
      tauto
  | _ => simp [StandbyStart, request, starts]

theorem staysOff_iff {p q : Service × Bool} {e : Event}
    (h : tracked step inStandby p e = .ok q) : StaysOff p e q ↔ ¬ StandbyStart p e := by
  obtain ⟨moved, observed⟩ := tracked_ok.mp h
  obtain ⟨s, standby⟩ := p
  have running : q.1.running = ((switches s).next (request s e)).running :=
    congrArg Switches.running (step_switches moved)
  constructor
  · rintro law ⟨rfl, off, created, match_⟩
    have goes_on : inStandby true e = true := by
      obtain ⟨action, env⟩ := e
      cases action <;> first | rfl | cases match_
    have on := (standbyStart_iff off goes_on).mp ⟨rfl, off, created, match_⟩
    have still := law rfl (observed.trans goes_on) off
    rw [running, next_running off, on] at still
    cases still
  · rintro quiet rfl goes_on off
    rw [observed] at goes_on
    rw [running, next_running off, ← Bool.not_eq_true, ← standbyStart_iff off goes_on]
    exact quiet

theorem throughout_staysOff (p : Service × Bool) (es : List Event) :
    Throughout (tracked step inStandby) StaysOff p es ↔
      Throughout (tracked step inStandby) (fun p e _ => ¬ StandbyStart p e) p es := by
  have decided (p : Service × Bool) (e : Event) (q : Service × Bool) (_ : True)
      (h : tracked step inStandby p e = .ok q) : StaysOff p e q ↔ ¬ StandbyStart p e :=
    staysOff_iff h
  exact throughout_congr decided (fun _ _ _ _ _ _ => trivial) trivial

theorem off_of_quiet {s t u : Service} {pre post : List Event} {e : Event}
    (quiet : Throughout (tracked step inStandby) (fun p e _ => ¬ StandbyStart p e) (s, false)
      (pre ++ e :: post))
    (reach : run step s pre = .ok t) (first : step t e = .ok u)
    (standby : pre.foldl inStandby false = true) (goes_on : inStandby true e = true)
    (off : t.running = false) : u.running = false := by
  have reached : run (tracked step inStandby) (s, false) pre = .ok (t, true) :=
    run_tracked.mpr ⟨reach, standby.symm⟩
  have moved : tracked step inStandby (t, true) e = .ok (u, true) :=
    tracked_ok.mpr ⟨first, goes_on.symm⟩
  have law := throughout_iff.mp ((throughout_staysOff _ _).mpr quiet)
  exact law pre e post _ _ rfl reached moved rfl rfl off

/-- Standby keeps the capture stopped exactly when no video that may be captured and no
end of a forgotten bright spell is handled in it. -/
theorem standby_stays_off_iff (env : Env) (handle handleLegacy : Option Nat)
    (settings : Settings) (es : List Event) :
    Throughout (tracked step inStandby) StaysOff
        (boot env handle handleLegacy settings, false) es ↔
      Throughout (tracked step inStandby) (fun p e _ => ¬ StandbyStart p e)
        (boot env handle handleLegacy settings, false) es :=
  throughout_staysOff (boot env handle handleLegacy settings, false) es

/-- A video plugged in during standby starts the capture, and so does a dim reading when
the standby came while a bright one had stopped it. -/
theorem standby_video_starts :
    ¬ Throughout (tracked step inStandby) StaysOff (boot calm none none settingsInit, false)
        [⟨.start, calm⟩, ⟨.power (.object [("state", .string "Standby")]), calm⟩,
          ⟨.videooutput (.object [("video", .array [.object [("connected", .boolean true)]])]),
            calm⟩] ∧
      ¬ Throughout (tracked step inStandby) StaysOff (boot calm none none settingsInit, false)
        [⟨.start, calm⟩,
          ⟨.sensor (.object [("sensorData",
            .object [("visibleLuminance", .number ⟨600, 0x4082C00000000000⟩)])]), calm⟩,
          ⟨.power (.object [("state", .string "Standby")]), calm⟩,
          ⟨.sensor (.object [("sensorData",
            .object [("visibleLuminance", .number ⟨100, 0x4059000000000000⟩)])]), calm⟩] := by
  constructor
  · intro law
    have last := ((law _ rfl).2 _ rfl).2 _ rfl
    exact nomatch last.1 rfl rfl rfl
  · intro law
    have last := (((law _ rfl).2 _ rfl).2 _ rfl).2 _ rfl
    exact nomatch last.1 rfl rfl rfl

end HyperionWebos.Standby
