import HyperionWebos.Runs
import HyperionWebos.ServiceLoop

/-! What each handler can do to the service, said once. Starting and stopping are
inverted by their outcome, every callback is reduced to the message it decodes, and an
invariant of start, stop, restart and the capture thread is an invariant of every step. -/

namespace HyperionWebos.ServiceSteps
open Runs OwnedArray Pbnjson SettingsLoad Unicapture JsonRpcClient ServiceLoop

variable {env : Env} {s s' : Service}

def calm : Env := ⟨true, fun _ => 0, fun _ _ => .dlopenFailed, ⟨false, 0, 0⟩,
  fun _ => .httpFailed, 0, []⟩

theorem toastIfWanted_eq (toast : String) (s : Service) :
    ∃ toasts, toastIfWanted toast s = { s with toasts := toasts } := by
  rw [toastIfWanted]
  split
  · rw [createToast]
    split
    · exact ⟨s.toasts, rfl⟩
    · exact ⟨_, rfl⟩
  · exact ⟨s.toasts, rfl⟩

theorem serviceStart_cases (env : Env) (s : Service) :
    (s.running = true ∧ serviceStart env s = (1, s)) ∨
    (s.running = false ∧ env.connectionCreated = true ∧ ∃ toasts, serviceStart env s =
      (0, { s with
        running := true
        connectionLoopRunning := true
        capture := (unicaptureStart s.capture).2.thread
          (.create .connection (unicaptureStart s.capture).2.threads.length)
        connectionThread := (unicaptureStart s.capture).2.threads.length
        toasts := toasts })) ∨
    (s.running = false ∧ env.connectionCreated = false ∧ serviceStart env s =
      (-1, { s with
        running := false
        connectionLoopRunning := false
        capture := (unicaptureStop env.reinit (unicaptureStart s.capture).2).2 })) := by
  cases run : s.running with
  | true => exact Or.inl ⟨rfl, by rw [serviceStart, run]; rfl⟩
  | false =>
    right
    cases created : env.connectionCreated with
    | true =>
      obtain ⟨toasts, eq⟩ := toastIfWanted_eq "Capture started"
        { s with
          running := true
          connectionLoopRunning := true
          capture := (unicaptureStart s.capture).2.thread
            (.create .connection (unicaptureStart s.capture).2.threads.length)
          connectionThread := (unicaptureStart s.capture).2.threads.length }
      refine Or.inl ⟨rfl, rfl, toasts, ?_⟩
      simp only [serviceStart, run, created, Bool.false_eq_true, if_false, if_true, eq]
    | false =>
      refine Or.inr ⟨rfl, rfl, ?_⟩
      simp only [serviceStart, run, created, Bool.false_eq_true, if_false]

theorem serviceStop_cases (env : Env) (s : Service) :
    (s.running = false ∧ serviceStop env s = (1, s)) ∨
    (s.running = true ∧ ∃ toasts, serviceStop env s =
      (0, { s with
        running := false
        connectionLoopRunning := false
        capture := (unicaptureStop env.reinit s.capture).2.thread (.join s.connectionThread)
        toasts := toasts })) := by
  cases run : s.running with
  | false => exact Or.inl ⟨rfl, by rw [serviceStop, run]; rfl⟩
  | true =>
    obtain ⟨toasts, eq⟩ := toastIfWanted_eq "Capture stopped"
      { s with
        running := false
        connectionLoopRunning := false
        capture := (unicaptureStop env.reinit s.capture).2.thread (.join s.connectionThread) }
    refine Or.inr ⟨rfl, toasts, ?_⟩
    simp only [serviceStop, run, Bool.not_true, Bool.false_eq_true, if_false, eq]

theorem hdrCallback_rpc {hdrType : String} {hdrEnabled : Bool}
    (h : hdrCallback hdrType hdrEnabled env s = .ok s') : ∃ rpc, s' = { s with rpc := rpc } := by
  simp only [hdrCallback] at h
  split at h
  · obtain ⟨picked, _, h⟩ := bind_eq_ok.mp h
    split at h
    · obtain ⟨r, _, h⟩ := bind_eq_ok.mp h
      exact ⟨_, (Except.ok.inj h).symm⟩
    · exact ⟨_, (Except.ok.inj h).symm⟩
  · exact ⟨_, (Except.ok.inj h).symm⟩

/-- The `state` and `processing` that `power_callback` acts on. -/
def powerMessage (payload : JVal) : Option (Bool × Bool) :=
  if jisNull payload then none
  else (jstringGet (jobjectGet payload "state")).map fun state =>
    (decide (state = "Active"), jobjectContainskey payload "processing")

def videoMessage (payload : JVal) : Option (Bool × Option String) :=
  if jisNull payload then none
  else
    let video0 := jarrayGet (jobjectGet payload "video") 0
    match jobjectGet video0 "connected" with
    | .boolean connected => some (connected, jstringGet (jobjectGet video0 "appId"))
    | _ => none

def sensorMessage (payload : JVal) : Option Int :=
  match jobjectGet (jobjectGet payload "sensorData") "visibleLuminance" with
  | .number n => some n.i32
  | _ => none

theorem powerCallback_ok {payload : JVal} (h : powerCallback payload env s = .ok s') :
    s' = match powerMessage payload with
      | some (targetState, processing) => powerAct targetState processing env s
      | none => s := by
  simp only [powerCallback] at h
  rw [powerMessage]
  split at h
  · next null =>
    rw [if_pos null]
    exact (Except.ok.inj h).symm
  · next null =>
    rw [if_neg null]
    split at h
    · next invalid =>
      generalize jobjectGet payload "state" = state at h invalid ⊢
      cases state with
      | invalid => exact (Except.ok.inj h).symm
      | _ => cases invalid
    · obtain ⟨state, buffer, h⟩ := bind_eq_ok.mp h
      cases read : jstringGet (jobjectGet payload "state") with
      | none =>
        rw [read] at buffer
        cases buffer
      | some str =>
        rw [read] at buffer
        cases buffer
        exact (Except.ok.inj h).symm

def videoHdrType (payload : JVal) : Option String :=
  jstringGet (jobjectGet (jobjectGet (jarrayGet (jobjectGet payload "video") 0) "videoInfo")
    "hdrType")

def pictureMessage (payload : JVal) : Option String :=
  jstringGet (jobjectGet (jobjectGet payload "dimension") "dynamicRange")

def hdrAct (hdrType : Option String) (enabled : String → Bool) (env : Env) (s : Service) :
    Except MemoryFault Service :=
  match hdrType with
  | none => .ok s
  | some hdrType => hdrCallback hdrType (enabled hdrType) env s

theorem videooutputCallback_eq (payload : JVal) (env : Env) (s : Service) :
    videooutputCallback payload env s = (match videoMessage payload with
        | some (connected, appid) => videoConnectedAct connected appid env s
        | none => .ok s) >>=
      hdrAct (videoHdrType payload) (fun hdrType => decide (hdrType ≠ "none")) env := by
  unfold videooutputCallback videoMessage videoHdrType
  cases null : jisNull payload with
  | true =>
    cases payload with
    | invalid => rfl
    | null => rfl
    | _ => cases null
  | false =>
    rw [if_neg Bool.false_ne_true, if_neg Bool.false_ne_true]
    generalize jobjectGet payload "video" = video
    cases missing : jisNull video with
    | true =>
      cases video with
      | invalid => rfl
      | null => rfl
      | _ => cases missing
    | false =>
      dsimp only
      rw [missing, if_neg Bool.false_ne_true]
      generalize jarrayGet video 0 = video0
      cases absent : jisNull video0 with
      | true =>
        cases video0 with
        | invalid => rfl
        | null => rfl
        | _ => cases absent
      | false =>
        rw [if_neg Bool.false_ne_true]
        generalize jobjectGet video0 "connected" = connected
        cases connected <;> rfl

theorem pictureCallback_eq (payload : JVal) (env : Env) (s : Service) :
    pictureCallback payload env s =
      hdrAct (pictureMessage payload) (fun dynamicRange => decide (dynamicRange ≠ "sdr")) env
        s := by
  unfold pictureCallback pictureMessage
  cases payload <;> rfl

theorem hdrAct_rpc {hdrType : Option String} {enabled : String → Bool}
    (h : hdrAct hdrType enabled env s = .ok s') : ∃ rpc, s' = { s with rpc := rpc } := by
  unfold hdrAct at h
  split at h
  · exact ⟨s.rpc, (Except.ok.inj h).symm⟩
  · exact hdrCallback_rpc h

theorem videooutputCallback_ok {payload : JVal} (h : videooutputCallback payload env s = .ok s') :
    ∃ t rpc, s' = { t with rpc := rpc } ∧ match videoMessage payload with
      | some (connected, appid) => videoConnectedAct connected appid env s = .ok t
      | none => t = s := by
  rw [videooutputCallback_eq] at h
  obtain ⟨t, act, tail⟩ := bind_eq_ok.mp h
  obtain ⟨rpc, eq⟩ := hdrAct_rpc tail
  refine ⟨t, rpc, eq, ?_⟩
  split at act
  · exact act
  · exact (Except.ok.inj act).symm

theorem pictureCallback_ok {payload : JVal} (h : pictureCallback payload env s = .ok s') :
    ∃ rpc, s' = { s with rpc := rpc } := by
  rw [pictureCallback_eq] at h
  exact hdrAct_rpc h

/-- A sensor message acts on its luminance, or on a stray word when it carries none. -/
theorem sensorCallback_eq (payload : JVal) (env : Env) (s : Service) :
    sensorCallback payload env s = match sensorMessage payload with
      | some visibleLuminance => sensorAct visibleLuminance env s
      | none => if jisValid (jobjectGet payload "sensorData") then sensorAct env.stackWord env s
        else s := by
  rw [sensorCallback, sensorMessage]
  split
  · next null =>
    cases payload with
    | invalid => rfl
    | null => rfl
    | _ => cases null
  · generalize jobjectGet payload "sensorData" = data
    cases valid : jisValid data with
    | false =>
      cases data with
      | invalid => rfl
      | _ => cases valid
    | true =>
      dsimp only
      rw [valid]
      generalize jobjectGet data "visibleLuminance" = value
      cases value <;> rfl

@[simp] theorem serviceStart_running (env : Env) (s : Service) :
    (serviceStart env s).2.running = (s.running || env.connectionCreated) := by
  rcases serviceStart_cases env s with ⟨run, eq⟩ | ⟨run, created, _, eq⟩ | ⟨run, created, eq⟩
  · rw [eq, run, Bool.true_or]
  · rw [eq, run, created, Bool.false_or]
  · rw [eq, run, created, Bool.false_or]

@[simp] theorem serviceStart_powerPaused (env : Env) (s : Service) :
    (serviceStart env s).2.powerPaused = s.powerPaused := by
  rcases serviceStart_cases env s with ⟨_, eq⟩ | ⟨_, _, _, eq⟩ | ⟨_, _, eq⟩ <;> rw [eq]

@[simp] theorem serviceStart_lumenPaused (env : Env) (s : Service) :
    (serviceStart env s).2.lumenPaused = s.lumenPaused := by
  rcases serviceStart_cases env s with ⟨_, eq⟩ | ⟨_, _, _, eq⟩ | ⟨_, _, eq⟩ <;> rw [eq]

@[simp] theorem serviceStart_videoConnected (env : Env) (s : Service) :
    (serviceStart env s).2.videoConnected = s.videoConnected := by
  rcases serviceStart_cases env s with ⟨_, eq⟩ | ⟨_, _, _, eq⟩ | ⟨_, _, eq⟩ <;> rw [eq]

@[simp] theorem serviceStart_settings (env : Env) (s : Service) :
    (serviceStart env s).2.settings = s.settings := by
  rcases serviceStart_cases env s with ⟨_, eq⟩ | ⟨_, _, _, eq⟩ | ⟨_, _, eq⟩ <;> rw [eq]

@[simp] theorem serviceStop_running (env : Env) (s : Service) :
    (serviceStop env s).2.running = false := by
  rcases serviceStop_cases env s with ⟨run, eq⟩ | ⟨_, _, eq⟩
  · rw [eq, run]
  · rw [eq]

@[simp] theorem serviceStop_powerPaused (env : Env) (s : Service) :
    (serviceStop env s).2.powerPaused = s.powerPaused := by
  rcases serviceStop_cases env s with ⟨_, eq⟩ | ⟨_, _, eq⟩ <;> rw [eq]

@[simp] theorem serviceStop_lumenPaused (env : Env) (s : Service) :
    (serviceStop env s).2.lumenPaused = s.lumenPaused := by
  rcases serviceStop_cases env s with ⟨_, eq⟩ | ⟨_, _, eq⟩ <;> rw [eq]

@[simp] theorem serviceStop_videoConnected (env : Env) (s : Service) :
    (serviceStop env s).2.videoConnected = s.videoConnected := by
  rcases serviceStop_cases env s with ⟨_, eq⟩ | ⟨_, _, eq⟩ <;> rw [eq]

@[simp] theorem serviceStop_settings (env : Env) (s : Service) :
    (serviceStop env s).2.settings = s.settings := by
  rcases serviceStop_cases env s with ⟨_, eq⟩ | ⟨_, _, eq⟩ <;> rw [eq]

theorem serviceStop_ret (env : Env) (s : Service) :
    (serviceStop env s).1 = if s.running then 0 else 1 := by
  rcases serviceStop_cases env s with ⟨run, eq⟩ | ⟨run, _, eq⟩ <;> rw [eq, run] <;> rfl

theorem serviceRestart_eq (env : Env) (s : Service) :
    serviceRestart env s =
      if s.running then (serviceStart env (serviceInit env s.settings (serviceDestroy env s).2)).2
      else serviceInit env s.settings (serviceDestroy env s).2 := by
  have ret : (serviceDestroy env s).1 = if s.running then 0 else 1 := serviceStop_ret env s
  have kept : (serviceDestroy env s).2.settings = s.settings := by simp [serviceDestroy]
  rw [serviceRestart]
  dsimp only
  rw [ret, kept]
  cases s.running <;> rfl

def backendConfig (settings : Settings) : CapBackendConfig :=
  ⟨settings.width, settings.height, settings.fps, settings.quirks⟩

/-- What `service_init` selects backends on: the capture cleared, with its LUT loaded. -/
def clearedCapture (env : Env) (settings : Settings) (c : Capture) : Capture :=
  (unicaptureLoadLutTable env.lut { unicaptureInit c with state := { (unicaptureInit c).state with
    vsync := settings.vsync
    fps := UInt32.ofInt settings.fps
    dumpFrames := settings.dumpFrames
    lutTableFile := settings.lutTable } }).2

theorem serviceInit_capture (env : Env) (settings : Settings) (s : Service) :
    (serviceInit env settings s).capture =
      selectBackend (env.load .video) (backendConfig settings) .video settings.noVideo
        settings.videoBackend videoBackends
        (selectBackend (env.load .ui) (backendConfig settings) .ui settings.noGui
          settings.uiBackend uiBackends (clearedCapture env settings s.capture)) := rfl

@[simp] theorem serviceRestart_running (env : Env) (s : Service) :
    (serviceRestart env s).running = (s.running && env.connectionCreated) := by
  rw [serviceRestart_eq]
  cases s.running <;> simp [serviceInit, serviceDestroy]

@[simp] theorem serviceRestart_powerPaused (env : Env) (s : Service) :
    (serviceRestart env s).powerPaused = s.powerPaused := by
  rw [serviceRestart_eq]
  split <;> simp [serviceInit, serviceDestroy]

@[simp] theorem serviceRestart_lumenPaused (env : Env) (s : Service) :
    (serviceRestart env s).lumenPaused = s.lumenPaused := by
  rw [serviceRestart_eq]
  split <;> simp [serviceInit, serviceDestroy]

@[simp] theorem serviceRestart_settings (env : Env) (s : Service) :
    (serviceRestart env s).settings = s.settings := by
  rw [serviceRestart_eq]
  split <;> simp [serviceInit, serviceDestroy]

@[simp] theorem serviceRestart_videoConnected (env : Env) (s : Service) :
    (serviceRestart env s).videoConnected = s.videoConnected := by
  rw [serviceRestart_eq]
  split <;> simp [serviceInit, serviceDestroy]

/-- The app lists let this app run; a message without an app passes only empty lists. -/
def AppPermitted (appid : Option String) (settings : Settings) : Prop :=
  if settings.includedApps.count > 0 then
    ∃ id, appid = some id ∧ id ∈ settings.includedApps.apps.contents settings.includedApps.count
  else
    ∀ id, appid = some id → id ∉ settings.excludedApps.apps.contents settings.excludedApps.count

theorem appIncluded_ok {id : String} {apps : Owned String} {i n : Nat} {b r : Bool}
    (h : appIncluded (some id) apps i n b = .ok r) :
    r = true ↔ b = true ∨ ∃ k, i ≤ k ∧ k < i + n ∧ apps.read k = .ok id := by
  induction n generalizing i b with
  | zero =>
    cases h
    refine ⟨Or.inl, ?_⟩
    rintro (same | ⟨k, low, high, _⟩)
    · exact same
    · omega
  | succ n ih =>
    simp only [appIncluded, deref, ok_bind] at h
    obtain ⟨app, read, h⟩ := bind_eq_ok.mp h
    rw [ih h, Bool.or_eq_true, decide_eq_true_eq, or_assoc]
    refine or_congr_right ?_
    constructor
    · rintro (rfl | ⟨k, low, high, found⟩)
      · exact ⟨i, Nat.le_refl i, by omega, read⟩
      · exact ⟨k, by omega, by omega, found⟩
    · rintro ⟨k, low, high, found⟩
      rcases Nat.eq_or_lt_of_le low with rfl | above
      · rw [read] at found
        exact Or.inl (Except.ok.inj found).symm
      · exact Or.inr ⟨k, above, by omega, found⟩

theorem appNotExcluded_ok {id : String} {apps : Owned String} {i n : Nat} {r : Bool}
    (h : appNotExcluded (some id) apps i n = .ok r) :
    r = true ↔ ¬ ∃ k, i ≤ k ∧ k < i + n ∧ apps.read k = .ok id := by
  induction n generalizing i with
  | zero =>
    cases h
    refine ⟨?_, fun _ => rfl⟩
    rintro _ ⟨k, low, high, _⟩
    omega
  | succ n ih =>
    simp only [appNotExcluded, deref, ok_bind] at h
    obtain ⟨app, read, h⟩ := bind_eq_ok.mp h
    by_cases same : id = app
    · rw [if_pos same] at h
      cases h
      subst same
      exact ⟨nofun, fun none => absurd ⟨i, Nat.le_refl i, by omega, read⟩ none⟩
    · rw [if_neg same] at h
      rw [ih h, not_iff_not]
      constructor
      · rintro ⟨k, low, high, found⟩
        exact ⟨k, by omega, by omega, found⟩
      · rintro ⟨k, low, high, found⟩
        rcases Nat.eq_or_lt_of_le low with rfl | above
        · rw [read] at found
          exact absurd (Except.ok.inj found).symm same
        · exact ⟨k, above, by omega, found⟩

theorem contents_iff {apps : Owned String} {count : Nat} {id : String} :
    id ∈ apps.contents count ↔ ∃ k, 0 ≤ k ∧ k < 0 + count ∧ apps.read k = .ok id := by
  rw [Owned.mem_contents, Nat.zero_add]
  exact exists_congr fun k => ⟨fun h => ⟨Nat.zero_le k, h.1, h.2⟩, fun h => ⟨h.2.1, h.2.2⟩⟩

theorem shouldStart_ok {appid : Option String} {settings : Settings} {r : Bool}
    (h : shouldStart appid settings = .ok r) : r = true ↔ AppPermitted appid settings := by
  rw [shouldStart] at h
  rw [AppPermitted]
  by_cases included : settings.includedApps.count > 0
  · rw [if_pos included] at h ⊢
    cases appid with
    | none =>
      obtain ⟨n, more⟩ := Nat.exists_eq_succ_of_ne_zero (Nat.ne_of_gt included)
      rw [more] at h
      cases h
    | some id =>
      rw [appIncluded_ok h]
      refine ⟨?_, ?_⟩
      · rintro (_ | found)
        · contradiction
        · exact ⟨id, rfl, contents_iff.mpr found⟩
      · rintro ⟨id', same, found⟩
        cases same
        exact Or.inr (contents_iff.mp found)
  · rw [if_neg included] at h ⊢
    by_cases excluded : settings.excludedApps.count > 0
    · rw [if_pos excluded] at h
      cases appid with
      | none =>
        obtain ⟨n, more⟩ := Nat.exists_eq_succ_of_ne_zero (Nat.ne_of_gt excluded)
        rw [more] at h
        cases h
      | some id =>
        rw [appNotExcluded_ok h, ← contents_iff]
        refine ⟨?_, fun all => all id rfl⟩
        rintro absent id' same
        cases same
        exact absent
    · rw [if_neg excluded] at h
      cases h
      refine ⟨fun _ id _ member => ?_, fun _ => rfl⟩
      obtain ⟨k, low, _⟩ := Owned.mem_contents.mp member
      omega

def Permits (connected : Bool) (appid : Option String) (s : Service) : Prop :=
  (connected = true ∨ s.capture.state.capture .ui = true) ∧ AppPermitted appid s.settings

theorem videoConnectedAct_ok {connected : Bool} {appid : Option String}
    (h : videoConnectedAct connected appid env s = .ok s') :
    (Permits connected appid s ∧
        s' = (serviceStart env { s with videoConnected := connected }).2) ∨
      (¬ Permits connected appid s ∧
        s' = (serviceStop env { s with videoConnected := connected }).2) := by
  rw [videoConnectedAct] at h
  cases source : !connected && !s.capture.state.capture .ui with
  | true =>
    rw [if_pos source] at h
    refine Or.inr ⟨?_, (Except.ok.inj h).symm⟩
    rintro ⟨some_source, _⟩
    rcases some_source with on | ui
    · rw [on] at source
      cases source
    · rw [ui, Bool.not_true, Bool.and_false] at source
      cases source
  | false =>
    rw [if_neg (by rw [source]; exact Bool.false_ne_true)] at h
    have some_source : connected = true ∨ s.capture.state.capture .ui = true := by
      cases connected with
      | true => exact Or.inl rfl
      | false => exact Or.inr (by simpa using source)
    obtain ⟨r, decision, h⟩ := bind_eq_ok.mp h
    have decided := shouldStart_ok decision
    cases r with
    | true => exact Or.inl ⟨⟨some_source, decided.mp rfl⟩, (Except.ok.inj h).symm⟩
    | false =>
      refine Or.inr ⟨fun permits => ?_, (Except.ok.inj h).symm⟩
      exact Bool.false_ne_true (decided.mpr permits.2)

theorem powerAct_cases (targetState processing : Bool) (env : Env) (s : Service) :
    (processing = false ∧ targetState = true ∧ s.running = false ∧ s.powerPaused = true ∧
      powerAct targetState processing env s =
        if s.videoConnected || s.capture.state.capture .ui then
          (serviceStart env { s with powerPaused := false }).2
        else { s with powerPaused := false }) ∨
    (processing = false ∧ targetState = false ∧ s.running = true ∧ s.powerPaused = false ∧
      powerAct targetState processing env s =
        (serviceStop env { s with powerPaused := true }).2) ∨
    ((processing = false → targetState = true → s.running = false → s.powerPaused = false) ∧
      (processing = false → targetState = false → s.running = true → s.powerPaused = true) ∧
      powerAct targetState processing env s = s) := by
  cases processing with
  | true => exact Or.inr (Or.inr ⟨nofun, nofun, by simp [powerAct]⟩)
  | false =>
    cases run : s.running <;> cases paused : s.powerPaused <;> cases targetState <;>
      simp [powerAct, run, paused]

theorem sensorAct_cases (v : Int) (env : Env) (s : Service) :
    (s.settings.lumenThreshold ≠ 0 ∧ s.powerPaused = false ∧ v > s.settings.lumenThreshold ∧
      s.running = true ∧ s.lumenPaused = false ∧
      sensorAct v env s = (serviceStop env { s with lumenPaused := true }).2) ∨
    (s.settings.lumenThreshold ≠ 0 ∧ s.powerPaused = false ∧ ¬ v > s.settings.lumenThreshold ∧
      s.running = false ∧ s.lumenPaused = true ∧
      sensorAct v env s = (serviceStart env { s with lumenPaused := false }).2) ∨
    (¬ (s.settings.lumenThreshold ≠ 0 ∧ s.powerPaused = false ∧ v > s.settings.lumenThreshold ∧
        s.running = true ∧ s.lumenPaused = false) ∧
      ¬ (s.settings.lumenThreshold ≠ 0 ∧ s.powerPaused = false ∧
        ¬ v > s.settings.lumenThreshold ∧ s.running = false ∧ s.lumenPaused = true) ∧
      sensorAct v env s = s) := by
  by_cases off : s.settings.lumenThreshold = 0
  · exact Or.inr (Or.inr ⟨fun h => h.1 off, fun h => h.1 off, by rw [sensorAct, if_pos off]⟩)
  · cases paused : s.powerPaused <;> cases run : s.running <;> cases lumen : s.lumenPaused <;>
      by_cases bright : v > s.settings.lumenThreshold <;>
      simp [sensorAct, off, paused, run, lumen, bright]

/-- An invariant of the start, the stop, the restart and the capture thread that does not
look at the flags of the callbacks is an invariant of every handler. -/
theorem step_invariant {P : Service → Prop} {e : Event}
    (flags : ∀ s power video lumen rpc, P s → P { s with
      powerPaused := power, videoConnected := video, lumenPaused := lumen, rpc := rpc })
    (start : ∀ env s, P s → P (serviceStart env s).2)
    (stop : ∀ env s, P s → P (serviceStop env s).2)
    (restart : ∀ payload, e.action = .setSettings payload → ∀ env s settings, P s →
      P (serviceRestart env { s with settings := settings }))
    (thread : ∀ it, e.action = .captureThread it → P s →
      P { s with capture := captureStep e.env.reinit it s.capture })
    (h : step s e = .ok s') (here : P s) : P s' := by
  have power (b : Bool) (s : Service) (here : P s) : P { s with powerPaused := b } :=
    flags s b s.videoConnected s.lumenPaused s.rpc here
  have video (b : Bool) (s : Service) (here : P s) : P { s with videoConnected := b } :=
    flags s s.powerPaused b s.lumenPaused s.rpc here
  have lumen (b : Bool) (s : Service) (here : P s) : P { s with lumenPaused := b } :=
    flags s s.powerPaused s.videoConnected b s.rpc here
  have rpc (r : Rpc) (s : Service) (here : P s) : P { s with rpc := r } :=
    flags s s.powerPaused s.videoConnected s.lumenPaused r here
  have sensor (v : Int) : P (sensorAct v e.env s) := by
    rcases sensorAct_cases v e.env s with ⟨_, _, _, _, _, eq⟩ | ⟨_, _, _, _, _, eq⟩ | ⟨_, _, eq⟩
    · rw [eq]
      exact stop _ _ (lumen _ _ here)
    · rw [eq]
      exact start _ _ (lumen _ _ here)
    · rw [eq]
      exact here
  obtain ⟨action, env⟩ := e
  cases action with
  | start =>
    cases h
    exact start _ _ here
  | stop =>
    cases h
    exact stop _ _ here
  | startorstop =>
    cases h
    rw [serviceMethodStartorstop]
    split
    · exact stop _ _ here
    · exact start _ _ here
  | setSettings payload =>
    simp only [step, serviceMethodSetSettings] at h
    split at h
    · cases h
      exact here
    · obtain ⟨settings, _, h⟩ := bind_eq_ok.mp h
      cases h
      exact restart payload rfl _ _ _ here
  | power payload =>
    rw [powerCallback_ok h]
    split
    · next targetState processing _ =>
      rcases powerAct_cases targetState processing env s with
        ⟨_, _, _, _, eq⟩ | ⟨_, _, _, _, eq⟩ | ⟨_, _, eq⟩
      · rw [eq]
        split
        · exact start _ _ (power _ _ here)
        · exact power _ _ here
      · rw [eq]
        exact stop _ _ (power _ _ here)
      · rw [eq]
        exact here
    · exact here
  | videooutput payload =>
    obtain ⟨t, r, rfl, decoded⟩ := videooutputCallback_ok h
    refine rpc _ _ ?_
    split at decoded
    · rcases videoConnectedAct_ok decoded with ⟨_, rfl⟩ | ⟨_, rfl⟩
      · exact start _ _ (video _ _ here)
      · exact stop _ _ (video _ _ here)
    · rw [decoded]
      exact here
  | picture payload =>
    obtain ⟨r, rfl⟩ := pictureCallback_ok h
    exact rpc _ _ here
  | sensor payload =>
    cases h
    rw [sensorCallback_eq]
    split
    · exact sensor _
    · split
      · exact sensor _
      · exact here
  | captureThread it =>
    cases h
    exact thread it rfl here

end HyperionWebos.ServiceSteps
