import HyperionWebos.CaptureThread
import HyperionWebos.PayloadSafety

/-! Notifications that come more than once. `service_register` subscribes the same callbacks
on every handle that it gets, so a notification may be handled once for each of them. As
long as the connection threads can be had, handling it again while no other message has
been handled in between changes nothing but what is sent to the lighting daemon. -/

namespace HyperionWebos.Redelivery
open Runs OwnedArray Pbnjson SettingsLoad SettingsOwnership Unicapture CaptureThread JsonRpcClient
open ServiceLoop ServiceSteps PayloadSafety

/-- `e'` brings the message of `e` again. A sensor message that has no luminance is handled
with whatever its local holds. -/
structure Repeats (e e' : Event) : Prop where
  action : e'.action = e.action
  luminance : ∀ payload, e.action = .sensor payload →
    sensorMessage payload ≠ none ∨ e'.env.stackWord = e.env.stackWord

def lastNotice (last : Option Event) (e : Event) : Option Event :=
  match e.action with
  | .captureThread _ => last
  | .power _ | .videooutput _ | .picture _ | .sensor _ => some e
  | .start | .stop | .startorstop | .setSettings _ => none

/-- `es'` is `es` with notifications handled again, after `last`. -/
inductive Redelivered : Option Event → List Event → List Event → Prop
  | done (last : Option Event) : Redelivered last [] []
  | once {last : Option Event} {e : Event} {es es' : List Event} :
    Redelivered (lastNotice last e) es es' → Redelivered last (e :: es) (e :: es')
  | again {e e' : Event} {es es' : List Event} :
    Repeats e e' → Redelivered (some e) es es' → Redelivered (some e) es (e' :: es')

def withRpc (rpc : Rpc) (s : Service) : Service := { s with rpc := rpc }

/-! ### What is sent decides nothing -/

section Rpc

variable {s s' : Service} {rpc : Rpc}

theorem serviceStart_withRpc (env : Env) (rpc : Rpc) (s : Service) :
    serviceStart env (withRpc rpc s) =
      ((serviceStart env s).1, withRpc rpc (serviceStart env s).2) := by
  rw [serviceStart, serviceStart, withRpc]
  dsimp only
  split
  · rfl
  · split
    · rw [toastIfWanted, toastIfWanted, createToast, createToast]
      dsimp only
      split
      · split
        · rfl
        · rfl
      · rfl
    · rfl

theorem serviceStop_withRpc (env : Env) (rpc : Rpc) (s : Service) :
    serviceStop env (withRpc rpc s) =
      ((serviceStop env s).1, withRpc rpc (serviceStop env s).2) := by
  rw [serviceStop, serviceStop, withRpc]
  dsimp only
  split
  · rfl
  · rw [toastIfWanted, toastIfWanted, createToast, createToast]
    dsimp only
    split
    · split
      · rfl
      · rfl
    · rfl

theorem serviceRestart_withRpc (env : Env) (rpc : Rpc) (s : Service) :
    serviceRestart env (withRpc rpc s) = withRpc rpc (serviceRestart env s) := by
  have destroyed : (serviceDestroy env (withRpc rpc s)).2 =
      withRpc rpc (serviceDestroy env s).2 := by
    rw [serviceDestroy, serviceDestroy, serviceStop_withRpc]
    rfl
  have inited (settings : Settings) (t : Service) :
      serviceInit env settings (withRpc rpc t) = withRpc rpc (serviceInit env settings t) := rfl
  rw [serviceRestart_eq, serviceRestart_eq, destroyed, inited, serviceStart_withRpc]
  change (if s.running = true then _ else _) = _
  split
  · rfl
  · rfl

theorem powerAct_withRpc (targetState processing : Bool) (env : Env) (rpc : Rpc) (s : Service) :
    powerAct targetState processing env (withRpc rpc s) =
      withRpc rpc (powerAct targetState processing env s) := by
  have start : (serviceStart env { withRpc rpc s with powerPaused := false }).2 =
      withRpc rpc (serviceStart env { s with powerPaused := false }).2 :=
    congrArg Prod.snd (serviceStart_withRpc env rpc { s with powerPaused := false })
  have stop : (serviceStop env { withRpc rpc s with powerPaused := true }).2 =
      withRpc rpc (serviceStop env { s with powerPaused := true }).2 :=
    congrArg Prod.snd (serviceStop_withRpc env rpc { s with powerPaused := true })
  rcases powerAct_cases targetState processing env s with
    ⟨settled, active, off, paused, eq⟩ | ⟨settled, active, on, awake, eq⟩ | ⟨noResume, noPause, eq⟩
  · rcases powerAct_cases targetState processing env (withRpc rpc s) with
      ⟨_, _, _, _, eq'⟩ | ⟨_, other, _, _, _⟩ | ⟨resumes, _, _⟩
    · rw [eq, eq', start, apply_ite (withRpc rpc)]
      rfl
    · exact absurd (other.symm.trans active) Bool.false_ne_true
    · exact absurd ((resumes settled active off).symm.trans paused) Bool.false_ne_true
  · rcases powerAct_cases targetState processing env (withRpc rpc s) with
      ⟨_, other, _, _, _⟩ | ⟨_, _, _, _, eq'⟩ | ⟨_, pauses, _⟩
    · exact absurd (active.symm.trans other) Bool.false_ne_true
    · rw [eq, eq', stop]
    · exact absurd (awake.symm.trans (pauses settled active on)) Bool.false_ne_true
  · rcases powerAct_cases targetState processing env (withRpc rpc s) with
      ⟨settled, active, off, paused, _⟩ | ⟨settled, active, on, awake, _⟩ | ⟨_, _, eq'⟩
    · exact absurd ((noResume settled active off).symm.trans paused) Bool.false_ne_true
    · exact absurd (awake.symm.trans (noPause settled active on)) Bool.false_ne_true
    · rw [eq, eq']

theorem sensorAct_withRpc (v : Int) (env : Env) (rpc : Rpc) (s : Service) :
    sensorAct v env (withRpc rpc s) = withRpc rpc (sensorAct v env s) := by
  have stop : (serviceStop env { withRpc rpc s with lumenPaused := true }).2 =
      withRpc rpc (serviceStop env { s with lumenPaused := true }).2 :=
    congrArg Prod.snd (serviceStop_withRpc env rpc { s with lumenPaused := true })
  have start : (serviceStart env { withRpc rpc s with lumenPaused := false }).2 =
      withRpc rpc (serviceStart env { s with lumenPaused := false }).2 :=
    congrArg Prod.snd (serviceStart_withRpc env rpc { s with lumenPaused := false })
  rw [sensorAct, sensorAct, stop, start]
  simp only [apply_ite (withRpc rpc)]
  rfl

theorem videoConnectedAct_withRpc (connected : Bool) (appid : Option String) (env : Env)
    (rpc : Rpc) (s : Service) :
    videoConnectedAct connected appid env (withRpc rpc s) =
      (videoConnectedAct connected appid env s).map (withRpc rpc) := by
  have start : (serviceStart env { withRpc rpc s with videoConnected := connected }).2 =
      withRpc rpc (serviceStart env { s with videoConnected := connected }).2 :=
    congrArg Prod.snd (serviceStart_withRpc env rpc { s with videoConnected := connected })
  have stop : (serviceStop env { withRpc rpc s with videoConnected := connected }).2 =
      withRpc rpc (serviceStop env { s with videoConnected := connected }).2 :=
    congrArg Prod.snd (serviceStop_withRpc env rpc { s with videoConnected := connected })
  rw [videoConnectedAct, videoConnectedAct]
  dsimp only
  rw [start, stop]
  change (if (!connected && !s.capture.state.capture .ui) = true then _ else _) = _
  split
  · rfl
  · change (shouldStart appid s.settings >>= _) = _
    cases shouldStart appid s.settings with
    | error f => rfl
    | ok b =>
      cases b with
      | true => rfl
      | false => rfl

def videoAct (message : Option (Bool × Option String)) (env : Env) (s : Service) :
    Except MemoryFault Service :=
  match message with
  | some (connected, appid) => videoConnectedAct connected appid env s
  | none => .ok s

theorem videooutputCallback_acts (payload : JVal) (env : Env) (s : Service) :
    videooutputCallback payload env s = videoAct (videoMessage payload) env s >>=
      hdrAct (videoHdrType payload) (fun hdrType => decide (hdrType ≠ "none")) env :=
  videooutputCallback_eq payload env s

theorem videoAct_withRpc {message : Option (Bool × Option String)} {env : Env} {s t : Service}
    (acts : videoAct message env s = .ok t) (rpc : Rpc) :
    videoAct message env (withRpc rpc s) = .ok (withRpc rpc t) := by
  cases message with
  | none =>
    cases acts
    rfl
  | some message =>
    have acted : videoConnectedAct message.1 message.2 env s = .ok t := acts
    exact (videoConnectedAct_withRpc _ _ env rpc s).trans (by rw [acted]; rfl)

theorem videoAct_settings {message : Option (Bool × Option String)} {env : Env} {s t : Service}
    (acts : videoAct message env s = .ok t) : t.settings = s.settings := by
  cases message with
  | none =>
    cases acts
    rfl
  | some message =>
    rcases videoConnectedAct_ok acts with ⟨_, rfl⟩ | ⟨_, rfl⟩
    · exact serviceStart_settings _ _
    · exact serviceStop_settings _ _

theorem hdrAct_withRpc {hdrType : Option String} {enabled : String → Bool} {env : Env}
    {s s' : Service} (represented : Represented s.settings)
    (ran : hdrAct hdrType enabled env s = .ok s') (rpc : Rpc) :
    ∃ rpc', hdrAct hdrType enabled env (withRpc rpc s) = .ok (withRpc rpc' s') := by
  have kept : Represented (withRpc rpc s).settings := represented
  obtain ⟨t, again⟩ := hdrAct_total hdrType enabled env kept
  obtain ⟨sent, rfl⟩ := hdrAct_rpc ran
  obtain ⟨sent', rfl⟩ := hdrAct_rpc again
  exact ⟨sent', again⟩

theorem powerCallback_defined {payload : JVal} {env : Env} {s s' : Service}
    (ran : powerCallback payload env s = .ok s') (env' : Env) (t : Service) :
    ∃ t', powerCallback payload env' t = .ok t' := by
  simp only [powerCallback] at ran ⊢
  split at ran
  · next null => exact ⟨t, if_pos null⟩
  · next null =>
    rw [if_neg null]
    split at ran
    · next invalid => exact ⟨t, if_pos invalid⟩
    · next valid =>
      obtain ⟨state, buffer, _⟩ := bind_eq_ok.mp ran
      rw [if_neg valid, buffer]
      exact ⟨_, rfl⟩

theorem settingsLoad_step {s : Service} {payload : JVal} {env : Env} {s' : Service}
    (ran : serviceMethodSetSettings payload env s = .ok s') (rpc : Rpc) :
    serviceMethodSetSettings payload env (withRpc rpc s) = .ok (withRpc rpc s') := by
  simp only [serviceMethodSetSettings] at ran ⊢
  split at ran
  · next null =>
    cases ran
    exact if_pos null
  · next null =>
    obtain ⟨settings, load, ran⟩ := bind_eq_ok.mp ran
    cases ran
    rw [if_neg null]
    refine bind_eq_ok.mpr ⟨settings, load, ?_⟩
    exact congrArg Except.ok (serviceRestart_withRpc env rpc { s with settings := settings })

theorem step_withRpc {s s' : Service} {e : Event} (represented : Represented s.settings)
    (ran : step s e = .ok s') (rpc : Rpc) :
    ∃ rpc', step (withRpc rpc s) e = .ok (withRpc rpc' s') := by
  obtain ⟨action, env⟩ := e
  cases action with
  | start =>
    cases ran
    exact ⟨rpc, by rw [step, serviceStart_withRpc]⟩
  | stop =>
    cases ran
    exact ⟨rpc, by rw [step, serviceStop_withRpc]⟩
  | startorstop =>
    cases ran
    refine ⟨rpc, ?_⟩
    rw [step, serviceMethodStartorstop, serviceStart_withRpc, serviceStop_withRpc,
      serviceMethodStartorstop, apply_ite (withRpc rpc)]
    rfl
  | setSettings payload => exact ⟨rpc, settingsLoad_step ran rpc⟩
  | power payload =>
    obtain ⟨t, again⟩ := powerCallback_defined ran env (withRpc rpc s)
    refine ⟨rpc, again.trans (congrArg Except.ok ?_)⟩
    rw [powerCallback_ok ran, powerCallback_ok again]
    split
    · exact powerAct_withRpc _ _ env rpc s
    · rfl
  | videooutput payload =>
    simp only [step, videooutputCallback_acts] at ran ⊢
    obtain ⟨t, acts, tail⟩ := bind_eq_ok.mp ran
    rw [videoAct_withRpc acts, ok_bind]
    exact hdrAct_withRpc ((videoAct_settings acts).symm ▸ represented) tail rpc
  | picture payload =>
    simp only [step, pictureCallback_eq] at ran ⊢
    exact hdrAct_withRpc represented ran rpc
  | sensor payload =>
    cases ran
    refine ⟨rpc, congrArg Except.ok ?_⟩
    rw [sensorCallback_eq, sensorCallback_eq, sensorAct_withRpc]
    split
    · exact sensorAct_withRpc _ env rpc s
    · exact (apply_ite (withRpc rpc) _ _ _).symm
  | captureThread it =>
    cases ran
    exact ⟨rpc, rfl⟩

end Rpc

/-! ### A message that has been handled -/

section Settled

variable {env : Env} {s t : Service}

def PowerSettled (targetState processing : Bool) (s : Service) : Prop :=
  (processing = false → targetState = true → s.running = false → s.powerPaused = false) ∧
    (processing = false → targetState = false → s.running = true → s.powerPaused = true)

/-- The video is known, and the capture runs if it may. -/
structure VideoSettled (connected : Bool) (appid : Option String) (s : Service) : Prop where
  known : s.videoConnected = connected
  running : s.running = true ↔ Permits connected appid s
  named : (connected = true ∨ s.capture.state.capture .ui = true) → appid = none →
    s.settings.includedApps.count = 0 ∧ s.settings.excludedApps.count = 0

def LightSettled (v : Int) (s : Service) : Prop :=
  ¬ (s.settings.lumenThreshold ≠ 0 ∧ s.powerPaused = false ∧ v > s.settings.lumenThreshold ∧
      s.running = true ∧ s.lumenPaused = false) ∧
    ¬ (s.settings.lumenThreshold ≠ 0 ∧ s.powerPaused = false ∧
      ¬ v > s.settings.lumenThreshold ∧ s.running = false ∧ s.lumenPaused = true)

theorem powerAct_settles (targetState processing : Bool) (env : Env) (s : Service) :
    PowerSettled targetState processing (powerAct targetState processing env s) := by
  rcases powerAct_cases targetState processing env s with
    ⟨_, active, _, _, eq⟩ | ⟨_, standby, _, _, eq⟩ | ⟨noResume, noPause, eq⟩
  · rw [eq]
    refine ⟨fun _ _ _ => ?_, fun _ other => absurd (active.symm.trans other) Bool.noConfusion⟩
    split
    · exact serviceStart_powerPaused _ _
    · rfl
  · rw [eq]
    refine ⟨fun _ other => absurd (standby.symm.trans other) Bool.noConfusion, fun _ _ on => ?_⟩
    exact absurd ((serviceStop_running _ _).symm.trans on) Bool.false_ne_true
  · rw [eq]
    exact ⟨noResume, noPause⟩

theorem powerAct_of_settled {targetState processing : Bool}
    (settled : PowerSettled targetState processing s) (env : Env) :
    powerAct targetState processing env s = s := by
  obtain ⟨noResume, noPause⟩ := settled
  rcases powerAct_cases targetState processing env s with
    ⟨quiet, active, off, paused, _⟩ | ⟨quiet, standby, on, awake, _⟩ | ⟨_, _, eq⟩
  · exact absurd ((noResume quiet active off).symm.trans paused) Bool.false_ne_true
  · exact absurd (awake.symm.trans (noPause quiet standby on)) Bool.false_ne_true
  · exact eq

theorem sensorAct_settles (v : Int) (s : Service) (created : env.connectionCreated = true) :
    LightSettled v (sensorAct v env s) := by
  rcases sensorAct_cases v env s with
    ⟨_, _, bright, _, _, eq⟩ | ⟨_, _, dark, _, _, eq⟩ | ⟨noStop, noStart, eq⟩
  · rw [eq]
    simp [LightSettled, bright]
  · rw [eq]
    constructor
    · rintro ⟨_, _, bright, _⟩
      rw [serviceStart_settings] at bright
      exact dark bright
    · rintro ⟨_, _, _, off, _⟩
      rw [serviceStart_running, created, Bool.or_true] at off
      cases off
  · rw [eq]
    exact ⟨noStop, noStart⟩

theorem sensorAct_of_settled {v : Int} (settled : LightSettled v s) (env : Env) :
    sensorAct v env s = s := by
  obtain ⟨noStop, noStart⟩ := settled
  rcases sensorAct_cases v env s with
    ⟨on, awake, bright, running, unpaused, _⟩ | ⟨on, awake, dark, off, paused, _⟩ | ⟨_, _, eq⟩
  · exact absurd ⟨on, awake, bright, running, unpaused⟩ noStop
  · exact absurd ⟨on, awake, dark, off, paused⟩ noStart
  · exact eq

theorem serviceStart_capturePointers (env : Env) (s : Service) :
    (serviceStart env s).2.capture.state.capture = s.capture.state.capture := by
  rcases serviceStart_cases env s with ⟨_, eq⟩ | ⟨_, _, _, eq⟩ | ⟨_, _, eq⟩
  · rw [eq]
  · rw [eq]
    exact unicaptureStart_capture _
  · rw [eq]
    exact (unicaptureStop_capture _ _).trans (unicaptureStart_capture _)

theorem serviceStop_capturePointers (env : Env) (s : Service) :
    (serviceStop env s).2.capture.state.capture = s.capture.state.capture := by
  rcases serviceStop_cases env s with ⟨_, eq⟩ | ⟨_, _, eq⟩
  · rw [eq]
  · rw [eq]
    exact unicaptureStop_capture _ _

theorem videoConnectedAct_settles {connected : Bool} {appid : Option String}
    (represented : Represented s.settings) (created : env.connectionCreated = true)
    (acts : videoConnectedAct connected appid env s = .ok t) : VideoSettled connected appid t := by
  have named : (connected = true ∨ s.capture.state.capture .ui = true) → appid = none →
      s.settings.includedApps.count = 0 ∧ s.settings.excludedApps.count = 0 := by
    intro source nameless
    rcases videoConnectedAct_total connected appid env represented with ⟨fault, _⟩ | ⟨_, fine⟩
    · rw [fault] at acts
      cases acts
    · constructor
      · by_contra some
        exact fine ⟨source, nameless, Or.inl (Nat.pos_of_ne_zero some)⟩
      · by_contra some
        exact fine ⟨source, nameless, Or.inr (Nat.pos_of_ne_zero some)⟩
  rcases videoConnectedAct_ok acts with ⟨permits, rfl⟩ | ⟨forbids, rfl⟩
  · have same := serviceStart_capturePointers env { s with videoConnected := connected }
    have settings := serviceStart_settings env { s with videoConnected := connected }
    refine ⟨serviceStart_videoConnected _ _, ?_, ?_⟩
    · simp only [Permits, same, settings, serviceStart_running, created, Bool.or_true, true_iff]
      exact permits
    · rw [same, settings]
      exact named
  · have same := serviceStop_capturePointers env { s with videoConnected := connected }
    have settings := serviceStop_settings env { s with videoConnected := connected }
    refine ⟨serviceStop_videoConnected _ _, ?_, ?_⟩
    · simp only [Permits, same, settings, serviceStop_running, Bool.false_eq_true, false_iff]
      exact forbids
    · rw [same, settings]
      exact named

theorem videoConnectedAct_of_settled {connected : Bool} {appid : Option String}
    (represented : Represented s.settings) (settled : VideoSettled connected appid s) (env : Env) :
    videoConnectedAct connected appid env s = .ok s := by
  have kept : { s with videoConnected := connected } = s := by rw [← settled.known]
  rcases videoConnectedAct_total connected appid env represented with
    ⟨_, source, nameless, lists⟩ | ⟨⟨t, acts, _⟩, _⟩
  · obtain ⟨included, excluded⟩ := settled.named source nameless
    omega
  · rw [acts]
    rcases videoConnectedAct_ok acts with ⟨permits, rfl⟩ | ⟨forbids, rfl⟩
    · rw [kept]
      rcases serviceStart_cases env s with ⟨_, eq⟩ | ⟨off, _⟩ | ⟨off, _⟩
      · rw [eq]
      · exact absurd ((settled.running.mpr permits).symm.trans off) Bool.noConfusion
      · exact absurd ((settled.running.mpr permits).symm.trans off) Bool.noConfusion
    · rw [kept]
      rcases serviceStop_cases env s with ⟨_, eq⟩ | ⟨on, _⟩
      · rw [eq]
      · exact absurd (settled.running.mp on) forbids

def Settled (e : Event) (s : Service) : Prop :=
  match e.action with
  | .power payload => (∃ t, powerCallback payload e.env s = .ok t) ∧
    ∀ targetState processing, powerMessage payload = some (targetState, processing) →
      PowerSettled targetState processing s
  | .videooutput payload => ∀ connected appid, videoMessage payload = some (connected, appid) →
    VideoSettled connected appid s
  | .picture _ => True
  | .sensor payload => ∀ v, (sensorMessage payload = some v ∨
      sensorMessage payload = none ∧ jisValid (jobjectGet payload "sensorData") = true ∧
        v = e.env.stackWord) → LightSettled v s
  | _ => False

theorem settled_thread {e : Event} (settled : Settled e s) (env : Env) (it : Iteration) :
    Settled e { s with capture := captureStep env.reinit it s.capture } := by
  have same := (captureStep_undisturbed env.reinit it s.capture).capture
  unfold Settled at settled ⊢
  cases action : e.action with
  | power payload =>
    rw [action] at settled
    obtain ⟨⟨t, ran⟩, done⟩ := settled
    exact ⟨powerCallback_defined ran _ _, done⟩
  | videooutput payload =>
    rw [action] at settled
    intro connected appid message
    obtain ⟨known, running, named⟩ := settled connected appid message
    refine ⟨known, ?_, ?_⟩
    · dsimp only [Permits]
      rw [same]
      exact running
    · dsimp only
      rw [same]
      exact named
  | picture payload => trivial
  | sensor payload =>
    rw [action] at settled
    exact settled
  | _ =>
    rw [action] at settled
    exact settled

theorem settled_withRpc {e : Event} (settled : Settled e s) (rpc : Rpc) :
    Settled e (withRpc rpc s) := by
  obtain ⟨action, env⟩ := e
  cases action with
  | power payload =>
    obtain ⟨⟨t, ran⟩, done⟩ := settled
    exact ⟨powerCallback_defined ran _ _, done⟩
  | videooutput payload =>
    intro connected appid message
    obtain ⟨known, running, named⟩ := settled connected appid message
    exact ⟨known, running, named⟩
  | _ => exact settled

theorem step_settles {e : Event} (represented : Represented s.settings)
    (created : e.env.connectionCreated = true) (notice : lastNotice none e = some e)
    (ran : step s e = .ok t) : Settled e t := by
  obtain ⟨action, env⟩ := e
  unfold Settled
  cases action with
  | power payload =>
    refine ⟨powerCallback_defined ran _ _, fun targetState processing message => ?_⟩
    rw [powerCallback_ok ran, message]
    exact powerAct_settles targetState processing env s
  | videooutput payload =>
    intro connected appid message
    simp only [step, videooutputCallback_acts] at ran
    obtain ⟨u, acts, tail⟩ := bind_eq_ok.mp ran
    rw [message] at acts
    obtain ⟨rpc, rfl⟩ := hdrAct_rpc tail
    obtain ⟨known, running, named⟩ := videoConnectedAct_settles represented created acts
    exact ⟨known, running, named⟩
  | picture payload => trivial
  | sensor payload =>
    cases ran
    intro v light
    rw [sensorCallback_eq]
    rcases light with number | ⟨none, valid, rfl⟩
    · rw [number]
      exact sensorAct_settles v s created
    · rw [none, valid]
      exact sensorAct_settles env.stackWord s created
  | start => cases notice
  | stop => cases notice
  | startorstop => cases notice
  | setSettings payload => cases notice
  | captureThread it => cases notice

theorem hdrAct_again (hdrType : Option String) (enabled : String → Bool) (env : Env)
    (represented : Represented s.settings) :
    ∃ rpc, hdrAct hdrType enabled env s = .ok (withRpc rpc s) := by
  obtain ⟨t, sent⟩ := hdrAct_total hdrType enabled env represented
  obtain ⟨rpc, rfl⟩ := hdrAct_rpc sent
  exact ⟨rpc, sent⟩

/-- A settled message that comes again is only sent again. -/
theorem settled_again {e e' : Event} (represented : Represented s.settings)
    (settled : Settled e s) (repeats : Repeats e e') :
    ∃ rpc, step s e' = .ok (withRpc rpc s) := by
  obtain ⟨action, env⟩ := e
  obtain ⟨action', env'⟩ := e'
  obtain ⟨rfl, luminance⟩ := repeats
  cases action' with
  | power payload =>
    obtain ⟨⟨t, ran⟩, done⟩ := settled
    obtain ⟨u, again⟩ := powerCallback_defined ran env' s
    refine ⟨s.rpc, again.trans (congrArg Except.ok ?_)⟩
    rw [powerCallback_ok again]
    split
    · next targetState processing message =>
      exact powerAct_of_settled (done targetState processing message) env'
    · rfl
  | videooutput payload =>
    have acts : videoAct (videoMessage payload) env' s = .ok s := by
      cases message : videoMessage payload with
      | none => rfl
      | some video =>
        exact videoConnectedAct_of_settled represented (settled video.1 video.2 message) env'
    simp only [step, videooutputCallback_acts]
    rw [acts, ok_bind]
    exact hdrAct_again _ _ env' represented
  | picture payload =>
    simp only [step, pictureCallback_eq]
    exact hdrAct_again _ _ env' represented
  | sensor payload =>
    refine ⟨s.rpc, congrArg Except.ok ?_⟩
    rw [sensorCallback_eq]
    cases light : sensorMessage payload with
    | some v => exact sensorAct_of_settled (settled v (Or.inl light)) env'
    | none =>
      dsimp only
      split
      · next valid =>
        have word : env'.stackWord = env.stackWord :=
          (luminance payload rfl).resolve_left (absurd light)
        rw [word]
        exact sensorAct_of_settled (settled _ (Or.inr ⟨light, valid, rfl⟩)) env'
      · rfl
  | start => exact settled.elim
  | stop => exact settled.elim
  | startorstop => exact settled.elim
  | setSettings payload => exact settled.elim
  | captureThread it => exact settled.elim

end Settled

/-! ### Runs -/

theorem step_loaded {s t : Service} {e : Event} (loaded : Loaded s.settings)
    (ran : step s e = .ok t) : Loaded t.settings := by
  rcases step_settings ran with same | ⟨payload, _, load⟩
  · rw [same]
    exact loaded
  · exact settingsLoadJson_loaded loaded load

theorem lastNotice_settled {last : Option Event} {e : Event} {s t : Service}
    (loaded : Loaded s.settings) (settled : ∀ n, last = some n → Settled n s)
    (created : lastNotice none e = some e → e.env.connectionCreated = true)
    (ran : step s e = .ok t) : ∀ n, lastNotice last e = some n → Settled n t := by
  intro n noted
  have settles (notice : lastNotice none e = some e) : Settled e t :=
    step_settles loaded.represented (created notice) notice ran
  obtain ⟨action, env⟩ := e
  cases action with
  | captureThread it =>
    cases ran
    exact settled_thread (settled n noted) env it
  | power payload =>
    cases noted
    exact settles rfl
  | videooutput payload =>
    cases noted
    exact settles rfl
  | picture payload =>
    cases noted
    exact settles rfl
  | sensor payload =>
    cases noted
    exact settles rfl
  | start => cases noted
  | stop => cases noted
  | startorstop => cases noted
  | setSettings payload => cases noted

theorem redelivered_run {last : Option Event} {es es' : List Event}
    (again : Redelivered last es es') {s t : Service} (loaded : Loaded s.settings)
    (settled : ∀ n, last = some n → Settled n s)
    (created : ∀ e ∈ es, lastNotice none e = some e → e.env.connectionCreated = true)
    (ran : run step s es = .ok t) (rpc : Rpc) :
    ∃ rpc', run step (withRpc rpc s) es' = .ok (withRpc rpc' t) := by
  induction again generalizing s rpc with
  | done last =>
    cases ran
    exact ⟨rpc, rfl⟩
  | @once last e es es' later ih =>
    obtain ⟨here, rest⟩ := List.forall_mem_cons.mp created
    obtain ⟨u, first, ran⟩ := run_cons_ok.mp ran
    obtain ⟨rpc', first'⟩ := step_withRpc loaded.represented first rpc
    obtain ⟨rpc'', ends⟩ := ih (step_loaded loaded first)
      (lastNotice_settled loaded settled here first) rest ran rpc'
    exact ⟨rpc'', run_cons_ok.mpr ⟨_, first', ends⟩⟩
  | @again e e' es es' repeats later ih =>
    have done : Settled e (withRpc rpc s) := settled_withRpc (settled e rfl) rpc
    have kept : Represented (withRpc rpc s).settings := loaded.represented
    obtain ⟨rpc', first⟩ := settled_again kept done repeats
    obtain ⟨rpc'', ends⟩ := ih loaded settled created ran rpc'
    exact ⟨rpc'', run_cons_ok.mpr ⟨_, first, ends⟩⟩

/-- However often notifications are handled again before the next message, from any
reachable state and whatever the capture thread does in between, the service ends as it
would have: running or not, paused or not, with the same settings, calls and toasts. -/
theorem redelivery_unnoticed (s : Service) (reach : Reachable s) (es es' : List Event)
    (again : Redelivered none es es')
    (created : ∀ e ∈ es, lastNotice none e = some e → e.env.connectionCreated = true)
    (t : Service) (ran : run step s es = .ok t) :
    ∃ rpc, run step s es' = .ok { t with rpc := rpc } :=
  redelivered_run again (reachable_loaded reach) (fun _ absent => by cases absent) created ran
    s.rpc

def noticed (connected : Bool) : Event :=
  ⟨.videooutput (.object [("video", .array [.object [("appId", .string "tv"),
    ("connected", .boolean connected), ("videoInfo", .object [("hdrType", .string "none")])]])]),
    calm⟩

theorem redelivery_unnoticed_video :
    ∃ t, run step (boot calm (some 1) (some 2) settingsInit) [noticed true, noticed false] =
        .ok t ∧
      ∃ rpc, run step (boot calm (some 1) (some 2) settingsInit)
        [noticed true, noticed true, noticed false, noticed false] = .ok { t with rpc := rpc } :=
  ⟨_, rfl, redelivery_unnoticed _ ⟨[], settingsInit, calm, some 1, some 2, [], rfl, rfl⟩
    [noticed true, noticed false] _
    (.once (.again ⟨rfl, fun _ other => by cases other⟩
      (.once (.again ⟨rfl, fun _ other => by cases other⟩ (.done _)))))
    (by simp [noticed, calm]) _ rfl⟩

end HyperionWebos.Redelivery
