import HyperionWebos.PayloadSafety
import HyperionWebos.ThreadBookkeeping

/-! The effect of a videooutput message. From any state whose lists can be read, a boolean
`connected` with a string `appId` decides alone whether capture runs afterwards; it does
not matter whether it ran before. -/

namespace HyperionWebos.VideoMessages
open Runs OwnedArray Pbnjson SettingsLoad SettingsOwnership Unicapture ServiceLoop ServiceSteps
  PayloadSafety ThreadBookkeeping

def firstVideo (payload : JVal) : JVal := jarrayGet (jobjectGet payload "video") 0

structure Carries (payload : JVal) (connected : Bool) (appId : String) : Prop where
  connected : jobjectGet (firstVideo payload) "connected" = .boolean connected
  appId : jobjectGet (firstVideo payload) "appId" = .string appId

def includedApps (s : Service) : List String :=
  s.settings.includedApps.apps.contents s.settings.includedApps.count

def excludedApps (s : Service) : List String :=
  s.settings.excludedApps.apps.contents s.settings.excludedApps.count

def Wanted (connected : Bool) (appId : String) (s : Service) : Prop :=
  (connected = true ∨ s.capture.state.capture .ui = true) ∧
    (includedApps s ≠ [] → appId ∈ includedApps s) ∧
    (includedApps s = [] → excludedApps s ≠ [] → appId ∉ excludedApps s)

/-- What a videooutput message leaves alone. -/
structure SamePauses (s s' : Service) : Prop where
  powerPaused : s'.powerPaused = s.powerPaused
  lumenPaused : s'.lumenPaused = s.lumenPaused
  settings : s'.settings = s.settings

variable {payload : JVal} {connected : Bool} {appId : String} {env : Env} {s s' : Service}

theorem firstVideo_null (null : jisNull payload = true) : firstVideo payload = .invalid := by
  cases payload with
  | invalid => rfl
  | null => rfl
  | _ => cases null

theorem videoMessage_carries (carries : Carries payload connected appId) :
    videoMessage payload = some (connected, some (cstr appId)) := by
  have some_video : ¬ jisNull payload = true := by
    intro null
    have there := carries.connected
    rw [firstVideo_null null] at there
    cases there
  have there := carries.connected
  have app := carries.appId
  unfold firstVideo at there app
  simp [videoMessage, some_video, there, app, jstringGet]

theorem videoMessage_none
    (odd : ∀ b, jobjectGet (firstVideo payload) "connected" ≠ .boolean b) :
    videoMessage payload = none := by
  unfold firstVideo at odd
  unfold videoMessage
  split
  · rfl
  · dsimp only
    split
    · next b there => exact absurd there (odd b)
    · rfl

theorem appPermitted_iff (represented : Represented s.settings) (appId : String) :
    AppPermitted (some appId) s.settings ↔
      (includedApps s ≠ [] → appId ∈ includedApps s) ∧
        (includedApps s = [] → excludedApps s ≠ [] → appId ∉ excludedApps s) := by
  have none_included : includedApps s = [] ↔ s.settings.includedApps.count = 0 :=
    Owned.contents_nil_iff represented.included
  change (if s.settings.includedApps.count > 0 then ∃ id, some appId = some id ∧ id ∈ includedApps s
    else ∀ id, some appId = some id → id ∉ excludedApps s) ↔ _
  by_cases included : s.settings.includedApps.count > 0
  · have listed : includedApps s ≠ [] := by
      rw [Ne, none_included]
      omega
    simp [included, listed]
  · have empty : includedApps s = [] := none_included.mpr (by omega)
    by_cases excluded : excludedApps s = []
    · simp [included, empty, excluded]
    · simp [included, empty, excluded]

theorem videooutput_wanted (represented : Represented s.settings)
    (created : env.connectionCreated = true) (carries : Carries payload connected appId) :
    ∃ s', videooutputCallback payload env s = .ok s' ∧
      (s'.running = true ↔ Wanted connected (cstr appId) s) ∧ SamePauses s s' := by
  have message := videoMessage_carries carries
  have permits : Permits connected (some (cstr appId)) s ↔ Wanted connected (cstr appId) s :=
    and_congr_right fun _ => appPermitted_iff represented _
  rw [videooutputCallback_eq, message]
  dsimp only
  rcases videoConnectedAct_total connected (some (cstr appId)) env represented with
    ⟨_, _, lost, _⟩ | ⟨⟨t, act, same⟩, _⟩
  · exact absurd lost (Option.some_ne_none _)
  obtain ⟨t', tail⟩ := hdrAct_total (videoHdrType payload)
    (fun hdrType => decide (hdrType ≠ "none")) env (same.symm ▸ represented)
  obtain ⟨rpc, rfl⟩ := hdrAct_rpc tail
  rw [act, ok_bind, tail]
  refine ⟨_, rfl, ?_⟩
  rw [← permits]
  rcases videoConnectedAct_ok act with ⟨wanted, rfl⟩ | ⟨unwanted, rfl⟩
  · exact ⟨by simp [wanted, created], by simp, by simp, by simp⟩
  · exact ⟨by simp [unwanted], by simp, by simp, by simp⟩

theorem videooutput_odd (represented : Represented s.settings)
    (odd : ∀ b, jobjectGet (firstVideo payload) "connected" ≠ .boolean b) :
    ∃ s', videooutputCallback payload env s = .ok s' ∧ s'.running = s.running ∧
      SamePauses s s' := by
  obtain ⟨t, tail⟩ := hdrAct_total (videoHdrType payload)
    (fun hdrType => decide (hdrType ≠ "none")) env represented
  obtain ⟨rpc, rfl⟩ := hdrAct_rpc tail
  rw [videooutputCallback_eq, videoMessage_none odd, ok_bind, tail]
  exact ⟨_, rfl, rfl, rfl, rfl, rfl⟩

theorem videooutput_agreement (h : videooutputCallback payload env s = .ok s')
    (here : Agreement s) : s'.capture.state.running = s'.running := by
  have moved : step s ⟨.videooutput payload, env⟩ = .ok s' := h
  exact (step_agreement moved here).capture

/-- A videooutput message with `connected` and an app runs the capture exactly if it is
wanted; one without `connected` leaves it as it is. Neither touches pauses or settings. -/
theorem video_message_effect (payload : JVal) (env : Env) (s : Service)
    (represented : Represented s.settings) (created : env.connectionCreated = true) :
    (∀ connected appId, Carries payload connected appId →
      ∃ s', videooutputCallback payload env s = .ok s' ∧
        (s'.running = true ↔ Wanted connected (cstr appId) s) ∧ SamePauses s s' ∧
        (Agreement s → s'.capture.state.running = s'.running)) ∧
    ((∀ b, jobjectGet (firstVideo payload) "connected" ≠ .boolean b) →
      ∃ s', videooutputCallback payload env s = .ok s' ∧ s'.running = s.running ∧
        SamePauses s s' ∧ (Agreement s → s'.capture.state.running = s'.running)) := by
  constructor
  · intro connected appId carries
    obtain ⟨s', done, running, same⟩ := videooutput_wanted represented created carries
    exact ⟨s', done, running, same, videooutput_agreement done⟩
  · intro odd
    obtain ⟨s', done, running, same⟩ := videooutput_odd represented odd
    exact ⟨s', done, running, same, videooutput_agreement done⟩

def excludedService : Service :=
  (serviceStart calm (zeroed none none
    { settingsInit with excludedApps := ⟨1, .partly ["netflix"] 0⟩ })).2

def connectedMessage : JVal := .object [("video", .array [.object
  [("connected", .boolean true), ("appId", .string "netflix")]])]

theorem video_message_excluded :
    (∀ connected appId, Carries connectedMessage connected appId →
      ∃ s', videooutputCallback connectedMessage calm excludedService = .ok s' ∧
        (s'.running = true ↔ Wanted connected (cstr appId) excludedService) ∧
        SamePauses excludedService s' ∧
        (Agreement excludedService → s'.capture.state.running = s'.running)) ∧
    ((∀ b, jobjectGet (firstVideo connectedMessage) "connected" ≠ .boolean b) →
      ∃ s', videooutputCallback connectedMessage calm excludedService = .ok s' ∧
        s'.running = excludedService.running ∧ SamePauses excludedService s' ∧
        (Agreement excludedService → s'.capture.state.running = s'.running)) := by
  have represented : Represented excludedService.settings :=
    ⟨Or.inl rfl, Or.inl rfl, Or.inl rfl,
      Or.inr ⟨["netflix"], rfl, Owned.partly_holds _ _, fun _ _ => trivial⟩⟩
  exact video_message_effect connectedMessage calm excludedService represented rfl

end HyperionWebos.VideoMessages
