import HyperionWebos.ServiceSteps

/-! The four switches of the service and the requests that move them. Whatever a handler
decodes, it asks for one of eight things, and `running` and the pause flags move as
`Switches.next` says. `step_switches` is the simulation of the service by this machine. -/

namespace HyperionWebos.ServiceSwitches
open Runs OwnedArray Pbnjson SettingsLoad Unicapture JsonRpcClient ServiceLoop ServiceSteps

structure Switches where
  running : Bool
  powerPaused : Bool
  videoConnected : Bool
  lumenPaused : Bool
deriving DecidableEq, Repr

inductive Request where
  | start (created : Bool)
  | stop
  | toggle (created : Bool)
  | restart (created : Bool)
  | power (active ui created : Bool)
  | video (connected permitted created : Bool)
  | light (bright created : Bool)
  | idle
deriving DecidableEq, Repr

def Switches.next (w : Switches) : Request → Switches
  | .start created => { w with running := w.running || created }
  | .stop => { w with running := false }
  | .toggle created => { w with running := !w.running && created }
  | .restart created => { w with running := w.running && created }
  | .power active ui created =>
    if active then
      if !w.running && w.powerPaused then
        { w with powerPaused := false, running := (w.videoConnected || ui) && created }
      else w
    else if w.running && !w.powerPaused then { w with powerPaused := true, running := false }
    else w
  | .video connected permitted created =>
    { w with videoConnected := connected, running := permitted && (w.running || created) }
  | .light bright created =>
    if w.powerPaused then w
    else if bright then
      if w.running && !w.lumenPaused then { w with lumenPaused := true, running := false } else w
    else if !w.running && w.lumenPaused then { w with lumenPaused := false, running := created }
    else w
  | .idle => w

def switches (s : Service) : Switches :=
  ⟨s.running, s.powerPaused, s.videoConnected, s.lumenPaused⟩

instance (appid : Option String) (settings : Settings) :
    Decidable (AppPermitted appid settings) :=
  match appid with
  | none => decidable_of_iff (¬ settings.includedApps.count > 0) (by simp [AppPermitted])
  | some id => decidable_of_iff
      (if settings.includedApps.count > 0 then
        id ∈ settings.includedApps.apps.contents settings.includedApps.count
      else id ∉ settings.excludedApps.apps.contents settings.excludedApps.count)
      (by simp [AppPermitted])

instance (connected : Bool) (appid : Option String) (s : Service) :
    Decidable (Permits connected appid s) :=
  inferInstanceAs (Decidable (_ ∧ _))

def lightRequest (visibleLuminance : Int) (created : Bool) (s : Service) : Request :=
  if s.settings.lumenThreshold = 0 then .idle
  else .light (decide (visibleLuminance > s.settings.lumenThreshold)) created

def request (s : Service) (e : Event) : Request :=
  match e.action with
  | .start => .start e.env.connectionCreated
  | .stop => .stop
  | .startorstop => .toggle e.env.connectionCreated
  | .setSettings payload => if jisNull payload then .idle else .restart e.env.connectionCreated
  | .power payload => match powerMessage payload with
    | some (active, false) => .power active (s.capture.state.capture .ui) e.env.connectionCreated
    | _ => .idle
  | .videooutput payload => match videoMessage payload with
    | some (connected, appid) =>
      .video connected (decide (Permits connected appid s)) e.env.connectionCreated
    | none => .idle
  | .sensor payload => match sensorMessage payload with
    | some visibleLuminance => lightRequest visibleLuminance e.env.connectionCreated s
    | none => if jisValid (jobjectGet payload "sensorData") then
        lightRequest e.env.stackWord e.env.connectionCreated s
      else .idle
  | .picture _ | .captureThread _ => .idle

variable {env : Env} {s s' : Service}

theorem switches_serviceStart (env : Env) (s : Service) :
    switches (serviceStart env s).2 = (switches s).next (.start env.connectionCreated) := by
  simp [switches, Switches.next]

theorem switches_serviceStop (env : Env) (s : Service) :
    switches (serviceStop env s).2 = (switches s).next .stop := by
  simp [switches, Switches.next]

theorem switches_startorstop (env : Env) (s : Service) :
    switches (serviceMethodStartorstop env s) =
      (switches s).next (.toggle env.connectionCreated) := by
  cases run : s.running <;> simp [serviceMethodStartorstop, switches, Switches.next, run]

theorem switches_setSettings {payload : JVal}
    (h : serviceMethodSetSettings payload env s = .ok s') :
    switches s' = (switches s).next (request s ⟨.setSettings payload, env⟩) := by
  simp only [serviceMethodSetSettings] at h
  simp only [request]
  split at h
  · next null =>
    cases h
    rw [if_pos null]
    rfl
  · next null =>
    obtain ⟨settings, _, h⟩ := bind_eq_ok.mp h
    cases h
    rw [if_neg null]
    simp [switches, Switches.next, serviceRestart_videoConnected]

theorem switches_powerAct (active : Bool) (env : Env) (s : Service) :
    switches (powerAct active false env s) = (switches s).next
      (.power active (s.capture.state.capture .ui) env.connectionCreated) := by
  rcases powerAct_cases active false env s with
    ⟨_, rfl, run, paused, eq⟩ | ⟨_, rfl, run, paused, eq⟩ | ⟨resume, pause, eq⟩
  · rw [eq]
    cases source : s.videoConnected || s.capture.state.capture .ui <;>
      simp [switches, Switches.next, run, paused, source]
  · rw [eq]
    simp [switches, Switches.next, run, paused]
  · rw [eq]
    cases active with
    | true =>
      have kept : (!s.running && s.powerPaused) = false := by
        cases run : s.running with
        | true => rfl
        | false => simp [resume rfl rfl run]
      simp [switches, Switches.next, kept]
    | false =>
      have kept : (s.running && !s.powerPaused) = false := by
        cases run : s.running with
        | true => simp [pause rfl rfl run]
        | false => rfl
      simp [switches, Switches.next, kept]

theorem powerAct_processing (active : Bool) (env : Env) (s : Service) :
    powerAct active true env s = s := by
  simp [powerAct]

theorem switches_sensorAct (v : Int) (env : Env) (s : Service) :
    switches (sensorAct v env s) =
      (switches s).next (lightRequest v env.connectionCreated s) := by
  rw [lightRequest]
  split
  · next off =>
    rw [sensorAct, if_pos off]
    rfl
  · next on =>
    rw [sensorAct, if_neg on]
    cases paused : s.powerPaused with
    | true => simp [switches, Switches.next, paused]
    | false =>
      by_cases bright : v > s.settings.lumenThreshold <;> cases run : s.running <;>
        cases lumen : s.lumenPaused <;> simp [switches, Switches.next, paused, bright, run, lumen]

theorem step_switches {e : Event} (h : step s e = .ok s') :
    switches s' = (switches s).next (request s e) := by
  obtain ⟨action, env⟩ := e
  cases action with
  | start =>
    cases h
    exact switches_serviceStart env s
  | stop =>
    cases h
    exact switches_serviceStop env s
  | startorstop =>
    cases h
    exact switches_startorstop env s
  | setSettings payload => exact switches_setSettings h
  | power payload =>
    rw [powerCallback_ok h]
    simp only [request]
    cases powerMessage payload with
    | none => rfl
    | some message =>
      obtain ⟨active, processing⟩ := message
      cases processing with
      | true =>
        dsimp only
        rw [powerAct_processing]
        rfl
      | false => exact switches_powerAct active env s
  | videooutput payload =>
    obtain ⟨t, rpc, rfl, decoded⟩ := videooutputCallback_ok h
    simp only [request]
    cases message : videoMessage payload with
    | none =>
      rw [message] at decoded
      rw [decoded]
      rfl
    | some carried =>
      obtain ⟨connected, appid⟩ := carried
      rw [message] at decoded
      rcases videoConnectedAct_ok decoded with ⟨permits, rfl⟩ | ⟨permits, rfl⟩ <;>
        simp [switches, Switches.next, permits]
  | picture payload =>
    obtain ⟨rpc, rfl⟩ := pictureCallback_ok h
    rfl
  | sensor payload =>
    cases h
    rw [sensorCallback_eq]
    simp only [request]
    cases sensorMessage payload with
    | some visibleLuminance => exact switches_sensorAct visibleLuminance env s
    | none =>
      dsimp only
      split
      · exact switches_sensorAct env.stackWord env s
      · rfl
  | captureThread it =>
    cases h
    rfl

@[simp] theorem switches_boot (env : Env) (handle handleLegacy : Option Nat)
    (settings : Settings) :
    switches (boot env handle handleLegacy settings) = ⟨false, false, false, false⟩ := rfl

end HyperionWebos.ServiceSwitches
