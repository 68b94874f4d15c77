import HyperionWebos.CaptureThread
import HyperionWebos.Standby

/-! The app filter and the automatic starts. `lastVideo` remembers the last videooutput
message that no user request has overruled; only the resumes of `power_callback` and
`sensor_callback` can run a capture that this message does not permit. -/

namespace HyperionWebos.AppFilter
open Runs Pbnjson SettingsLoad Unicapture CaptureThread ServiceLoop ServiceSteps
open ServiceSwitches Standby

/-- The last boolean `connected`, with its app, since the last request of the user. -/
def lastVideo (last : Option (Bool × Option String)) (e : Event) :
    Option (Bool × Option String) :=
  match e.action with
  | .start | .startorstop | .setSettings _ => none
  | .videooutput payload => match videoMessage payload with
    | some message => some message
    | none => last
  | _ => last

def Filtered (p : Service × Option (Bool × Option String)) : Prop :=
  p.1.running = true → ∀ connected id, p.2 = some (connected, some id) →
    Permits connected (some id) p.1

def ForbiddenResume (p : Service × Option (Bool × Option String)) (e : Event) : Prop :=
  p.1.running = false ∧ e.env.connectionCreated = true ∧
    (∃ connected id, p.2 = some (connected, some id) ∧ ¬ Permits connected (some id) p.1) ∧
    match e.action with
    | .power payload => powerMessage payload = some (true, false) ∧ p.1.powerPaused = true ∧
      (p.1.videoConnected = true ∨ p.1.capture.state.capture .ui = true)
    | .sensor payload => p.1.powerPaused = false ∧ p.1.lumenPaused = true ∧
      p.1.settings.lumenThreshold ≠ 0 ∧
      ∃ v, luminance payload e.env = some v ∧ v ≤ p.1.settings.lumenThreshold
    | _ => False

/-- What the filter is about: the settings and whether there is a UI backend. -/
def SameFilter (s s' : Service) : Prop :=
  s'.settings = s.settings ∧ s'.capture.state.capture = s.capture.state.capture

theorem permits_congr {s s' : Service} (same : SameFilter s s') (connected : Bool)
    (appid : Option String) : Permits connected appid s' ↔ Permits connected appid s := by
  rw [Permits, Permits, same.1, same.2]

theorem serviceStart_sameFilter (env : Env) (s : Service) :
    SameFilter s (serviceStart env s).2 := by
  refine ⟨serviceStart_settings env s, ?_⟩
  rcases serviceStart_cases env s with ⟨_, eq⟩ | ⟨_, _, _, eq⟩ | ⟨_, _, eq⟩
  · rw [eq]
  · rw [eq]
    exact unicaptureStart_capture s.capture
  · rw [eq]
    exact (unicaptureStop_capture env.reinit _).trans (unicaptureStart_capture s.capture)

theorem serviceStop_sameFilter (env : Env) (s : Service) :
    SameFilter s (serviceStop env s).2 := by
  refine ⟨serviceStop_settings env s, ?_⟩
  rcases serviceStop_cases env s with ⟨_, eq⟩ | ⟨_, _, eq⟩
  · rw [eq]
  · rw [eq]
    exact unicaptureStop_capture env.reinit s.capture

theorem step_sameFilter {s s' : Service} {e : Event} (h : step s e = .ok s')
    (other : ∀ payload, e.action ≠ .setSettings payload) : SameFilter s s' := by
  refine step_invariant (fun t power video lumen rpc same => same) ?_ ?_
    (fun payload action => absurd action (other payload)) ?_ h ⟨rfl, rfl⟩
  · intro env t same
    have started := serviceStart_sameFilter env t
    exact ⟨started.1.trans same.1, started.2.trans same.2⟩
  · intro env t same
    have stopped := serviceStop_sameFilter env t
    exact ⟨stopped.1.trans same.1, stopped.2.trans same.2⟩
  · intro it _ same
    exact ⟨same.1, (captureStep_undisturbed e.env.reinit it s.capture).capture.trans same.2⟩

theorem lastVideo_cases {last : Option (Bool × Option String)} {e : Event}
    {m : Bool × Option String} (h : lastVideo last e = some m) :
    (∃ payload, e.action = .videooutput payload ∧ videoMessage payload = some m) ∨
      (last = some m ∧
        (∀ payload, e.action = .videooutput payload → videoMessage payload = none) ∧
        ∀ payload, e.action ≠ .setSettings payload) := by
  obtain ⟨action, env⟩ := e
  cases action with
  | start => cases h
  | startorstop => cases h
  | setSettings payload => cases h
  | videooutput payload =>
    simp only [lastVideo] at h
    cases message : videoMessage payload with
    | some carried =>
      rw [message] at h
      exact Or.inl ⟨payload, rfl, message.trans h⟩
    | none =>
      rw [message] at h
      refine Or.inr ⟨h, ?_, nofun⟩
      rintro _ ⟨⟩
      exact message
  | _ => exact Or.inr ⟨h, nofun, nofun⟩

theorem forbiddenResume_iff {s : Service} {e : Event} {connected : Bool} {id : String}
    (kept : lastVideo (some (connected, some id)) e = some (connected, some id))
    (silent : ∀ payload, e.action = .videooutput payload → videoMessage payload = none)
    (off : s.running = false) (forbidden : ¬ Permits connected (some id) s) :
    ForbiddenResume (s, some (connected, some id)) e ↔
      starts (switches s) (request s e) = true := by
  obtain ⟨action, env⟩ := e
  have named : (∃ connected' id', some (connected, some id) = some (connected', some id') ∧
      ¬ Permits connected' (some id') s) = True :=
    eq_true ⟨connected, id, rfl, forbidden⟩
  cases action with
  | start => cases kept
  | startorstop => cases kept
  | setSettings payload => cases kept
  | power payload =>
    simp only [ForbiddenResume, off, named, request, true_and]
    rcases powerMessage payload with _ | ⟨_ | _, _ | _⟩ <;>
      simp [starts, switches, and_comm]
  | videooutput payload =>
    simp only [ForbiddenResume, request, silent payload rfl, and_false, false_iff]
    exact Bool.false_ne_true
  | sensor payload =>
    rw [request_sensor]
    simp only [ForbiddenResume, off, named, true_and]
    cases luminance payload env with
    | none => simp [starts]
    | some v =>
      by_cases on : s.settings.lumenThreshold = 0 <;>
        simp [lightRequest, starts, switches, on]
      tauto
  | _ => simp [ForbiddenResume, request, starts]

theorem step_videooutput_filtered {payload : JVal} {env : Env} {connected : Bool}
    {appid : Option String} {s s' : Service}
    (message : videoMessage payload = some (connected, appid))
    (h : step s ⟨.videooutput payload, env⟩ = .ok s') (on : s'.running = true) :
    Permits connected appid s' := by
  have same := step_sameFilter h nofun
  have moved : s'.running = (decide (Permits connected appid s) &&
      (s.running || env.connectionCreated)) := by
    have moved := congrArg Switches.running (step_switches h)
    simp only [request, message] at moved
    exact moved
  rw [on] at moved
  have permitted := (Bool.and_eq_true _ _ ▸ moved.symm).1
  exact (permits_congr same connected appid).mpr (of_decide_eq_true permitted)

theorem filtered_iff {p q : Service × Option (Bool × Option String)} {e : Event}
    (here : Filtered p) (h : tracked step lastVideo p e = .ok q) :
    Filtered q ↔ ¬ ForbiddenResume p e := by
  obtain ⟨moved, observed⟩ := tracked_ok.mp h
  obtain ⟨s, last⟩ := p
  obtain ⟨s', last'⟩ := q
  dsimp only at moved observed
  subst observed
  have running : s'.running = ((switches s).next (request s e)).running :=
    congrArg Switches.running (step_switches moved)
  constructor
  · rintro law ⟨off, created, ⟨connected, id, rfl, forbidden⟩, resumes⟩
    have resume : lastVideo (some (connected, some id)) e = some (connected, some id) ∧
        (∀ payload, e.action = .videooutput payload → videoMessage payload = none) ∧
        ∀ payload, e.action ≠ .setSettings payload := by
      obtain ⟨action, env⟩ := e
      cases action <;> first | exact ⟨rfl, nofun, nofun⟩ | cases resumes
    obtain ⟨kept, silent, other⟩ := resume
    have on := (forbiddenResume_iff kept silent off forbidden).mp
      ⟨off, created, ⟨connected, id, rfl, forbidden⟩, resumes⟩
    rw [← next_running off, ← running] at on
    have permits := law on connected id kept
    exact forbidden ((permits_congr (step_sameFilter moved other) connected _).mp permits)
  · intro fresh on connected id named
    rcases lastVideo_cases named with ⟨payload, action, message⟩ | ⟨rfl, silent, other⟩
    · obtain ⟨_, env⟩ := e
      cases action
      exact step_videooutput_filtered message moved on
    · rw [permits_congr (step_sameFilter moved other)]
      by_contra forbidden
      cases off : s.running with
      | true => exact forbidden (here off connected id rfl)
      | false =>
        refine fresh ((forbiddenResume_iff named silent off forbidden).mpr ?_)
        rw [← next_running off, ← running]
        exact on

theorem throughout_filtered {p : Service × Option (Bool × Option String)} (here : Filtered p)
    (es : List Event) :
    Throughout (tracked step lastVideo) (fun _ _ q => Filtered q) p es ↔
      Throughout (tracked step lastVideo) (fun p e _ => ¬ ForbiddenResume p e) p es := by
  have decided (p : Service × Option (Bool × Option String)) (e : Event)
      (q : Service × Option (Bool × Option String)) (here : Filtered p)
      (h : tracked step lastVideo p e = .ok q) : Filtered q ↔ ¬ ForbiddenResume p e :=
    filtered_iff here h
  exact throughout_congr decided (fun _ _ _ _ _ law => law) here

theorem boot_filtered (env : Env) (handle handleLegacy : Option Nat) (settings : Settings) :
    Filtered (boot env handle handleLegacy settings, none) := by
  intro run
  cases run

theorem permits_of_fresh {env : Env} {handle handleLegacy : Option Nat} {settings : Settings}
    {es : List Event} {s : Service} {connected : Bool} {id : String}
    (fresh : Throughout (tracked step lastVideo) (fun p e _ => ¬ ForbiddenResume p e)
      (boot env handle handleLegacy settings, none) es)
    (h : run step (boot env handle handleLegacy settings) es = .ok s)
    (last : es.foldl lastVideo none = some (connected, some id)) (on : s.running = true) :
    Permits connected (some id) s := by
  have start := boot_filtered env handle handleLegacy settings
  have ended : run (tracked step lastVideo) (boot env handle handleLegacy settings, none) es =
      .ok (s, some (connected, some id)) := run_tracked.mpr ⟨h, last.symm⟩
  have filtered := throughout_end (I := Filtered) (fun _ _ _ law => law)
    ((throughout_filtered start es).mpr fresh) start ended
  exact filtered on connected id rfl

/-- The filter holds in every state of a run exactly when no pause is taken back while the
last videooutput message forbids the capture. -/
theorem app_filter_iff (env : Env) (handle handleLegacy : Option Nat) (settings : Settings)
    (es : List Event) :
    Throughout (tracked step lastVideo) (fun _ _ q => Filtered q)
        (boot env handle handleLegacy settings, none) es ↔
      Throughout (tracked step lastVideo) (fun p e _ => ¬ ForbiddenResume p e)
        (boot env handle handleLegacy settings, none) es :=
  throughout_filtered (boot_filtered env handle handleLegacy settings) es

def excludingSettings : Action :=
  .setSettings (.object [("excluded_apps", .array [.string "youtube"])])

/-- Standby over, the capture is resumed in front of an excluded app. -/
theorem app_filter_resume :
    ¬ Throughout (tracked step lastVideo) (fun _ _ q => Filtered q)
      (boot calm none none settingsInit, none)
      [⟨excludingSettings, calm⟩,
        ⟨.videooutput (.object [("video", .array [.object
          [("connected", .boolean true), ("appId", .string "netflix")]])]), calm⟩,
        ⟨.power (.object [("state", .string "Standby")]), calm⟩,
        ⟨.videooutput (.object [("video", .array [.object
          [("connected", .boolean true), ("appId", .string "youtube")]])]), calm⟩,
        ⟨.power (.object [("state", .string "Active")]), calm⟩] := by
  intro law
  have last := ((((law _ rfl).2 _ rfl).2 _ rfl).2 _ rfl).2 _ rfl
  have permits := last.1 rfl true "youtube" rfl
  exact absurd permits (by decide)

end HyperionWebos.AppFilter
