import HyperionWebos.ServiceSteps
import HyperionWebos.SettingsUpdates

/-! What a bus payload can do to its handler. Every payload is parsed JSON of any shape;
`Misread` lists the shapes, together with the settings and flags they have to meet, for
which a handler passes a null string on or acts on a word it has never assigned. On all
others, in every reachable state, the handlers are defined. -/

namespace HyperionWebos.PayloadSafety
open Runs OwnedArray Pbnjson SettingsLoad SettingsOwnership SettingsUpdates Unicapture
  JsonRpcClient ServiceLoop ServiceSteps

def IsInt (w : Int) : Prop := -2147483648 ≤ w ∧ w ≤ 2147483647

/-- What the locals of a handler hold that it never assigns: an `int` and a JSON iterator. -/
def withLocals (w : Int) (unset : List (String × JVal)) (e : Event) : Event :=
  { e with env := { e.env with stackWord := w, unset := unset } }

/-- No string function meets a null string, and whatever locals hold that are not assigned, the
handler does the same. -/
def Defined (s : Service) (e : Event) : Prop :=
  step s e ≠ .error .nullDereference ∧
    ∀ w w' unset unset', IsInt w → IsInt w' →
      step s (withLocals w unset e) = step s (withLocals w' unset' e)

/-- A `state` that is no string; a video that would be looked up in an app list without an
app to look up; a `hyperion` object whose adjustments are none, once the loader goes through
them, or an app list with an item that is no string, once it gets to it; and sensor data
without a number while a number would decide. -/
def Misread (s : Service) (e : Event) : Prop :=
  match e.action with
  | .power payload => jisValid (jobjectGet payload "state") = true ∧
    jisString (jobjectGet payload "state") = false
  | .videooutput payload => (∃ connected, videoMessage payload = some (connected, none) ∧
      (connected = true ∨ s.capture.state.capture .ui = true)) ∧
    (s.settings.includedApps.count > 0 ∨ s.settings.excludedApps.count > 0)
  | .sensor payload => sensorMessage payload = none ∧
    jisValid (jobjectGet payload "sensorData") = true ∧ s.settings.lumenThreshold ≠ 0 ∧
    s.powerPaused = false ∧ s.running ≠ s.lumenPaused ∧
    -2147483648 ≤ s.settings.lumenThreshold ∧ s.settings.lumenThreshold < 2147483647
  | .setSettings payload =>
    (LeavesUnset payload ∧ s.settings.hyperion.adjustments ≠ .released) ∨
    (Tidy s.settings ∧ NumericGains payload ∧
      (hasHyperion payload = false → s.settings.hyperion.adjustmentsCount = 0) ∧
      ¬ AppsAreStrings payload)
  | _ => False

def Reachable (s : Service) : Prop :=
  ∃ docs settings env handle handleLegacy es,
    run settingsLoadJson settingsInit docs = .ok settings ∧
    run step (boot env handle handleLegacy settings) es = .ok s

def Loaded (s : Settings) : Prop := (∃ p, After p s) ∨ Dangling s

theorem Loaded.represented {s : Settings} (h : Loaded s) : Represented s := by
  rcases h with ⟨_, after⟩ | dangling
  · exact after.toTidy.represented
  · exact dangling.represented

theorem tidy_not_dangling {s : Settings} (tidy : Tidy s) : ¬ Dangling s := by
  intro dangling
  rcases dangling.some_dangles with adjustments | included | excluded
  · exact tidy.adjustments.not_released adjustments
  · exact tidy.included.not_released (by rw [included])
  · exact tidy.excluded.not_released (by rw [excluded])

theorem settingsLoadJson_loaded {s s' : Settings} {j : JVal} (here : Loaded s)
    (h : settingsLoadJson s j = .ok s') : Loaded s' := by
  rcases here with ⟨p, after⟩ | dangling
  · rcases settingsLoadJson_cases j after.toTidy with
      ⟨f, fault, _⟩ | ⟨_, _, ⟨_, fault⟩ | ⟨s'', _, loaded, next⟩⟩
    · rw [fault] at h
      cases h
    · rw [fault] at h
      cases h
    · obtain rfl := Except.ok.inj (loaded.symm.trans h)
      by_cases kept : Kept p j
      · exact Or.inl ⟨j, after_of_kept after next kept⟩
      · exact Or.inr (dangling_of_dropped after next kept)
  · obtain ⟨f, fault, _⟩ := settingsLoadJson_dangling j dangling
    rw [fault] at h
    cases h

theorem settingsInit_loaded : Loaded settingsInit := Or.inl ⟨_, after_settingsInit⟩

theorem step_settings {s s' : Service} {e : Event} (h : step s e = .ok s') :
    s'.settings = s.settings ∨ ∃ payload, e.action = .setSettings payload ∧
      settingsLoadJson s.settings payload = .ok s'.settings := by
  by_cases sets : ∃ payload, e.action = .setSettings payload
  · obtain ⟨payload, action⟩ := sets
    have loads : serviceMethodSetSettings payload e.env s = .ok s' := by
      rw [← h, step, action]
    unfold serviceMethodSetSettings at loads
    split at loads
    · cases loads
      exact Or.inl rfl
    · obtain ⟨settings, loaded, done⟩ := bind_eq_ok.mp loads
      cases done
      refine Or.inr ⟨payload, action, ?_⟩
      rw [serviceRestart_settings]
      exact settingsLoadJsonWith_ok loaded
  · left
    have same : s.settings = s.settings := rfl
    refine step_invariant (P := fun t => t.settings = s.settings) (fun _ _ _ _ _ here => here)
      ?_ ?_ ?_ ?_ h same
    · intro env t here
      rw [serviceStart_settings, here]
    · intro env t here
      rw [serviceStop_settings, here]
    · intro payload action
      exact absurd ⟨payload, action⟩ sets
    · intro it _ here
      exact here

theorem reachable_loaded {s : Service} (reach : Reachable s) : Loaded s.settings := by
  obtain ⟨docs, settings, env, handle, handleLegacy, es, loads, reached⟩ := reach
  have start : Loaded settings := run_invariant (fun _ _ _ here load =>
    settingsLoadJson_loaded here load) settingsInit_loaded loads
  refine run_invariant (I := fun s => Loaded s.settings) ?_ start reached
  intro t e t' here moved
  rcases step_settings moved with same | ⟨payload, _, loaded⟩
  · rw [same]
    exact here
  · exact settingsLoadJson_loaded here loaded

theorem pickAdjustment_total {P : HyperionAdjustments → Prop} (hdrType sHdrType : String)
    (hdrEnabled : Bool) {adjustments : Owned HyperionAdjustments} {count : Nat}
    (filled : adjustments.Filled P count) (n i : Nat) (inside : i + n ≤ count)
    (defAdj : Option HyperionAdjustments) (known : ∀ a, defAdj = some a → P a) :
    ∃ r, pickAdjustment hdrType sHdrType hdrEnabled adjustments i n defAdj = .ok r ∧
      ∀ a, r = some a → P a := by
  induction n generalizing i defAdj with
  | zero => exact ⟨defAdj, rfl, known⟩
  | succ n ih =>
    obtain ⟨a, read, good⟩ := Owned.read_filled filled (i := i) (by omega)
    unfold pickAdjustment
    rw [read, ok_bind]
    refine ih (i + 1) (by omega) _ ?_
    intro b picked
    split at picked
    · cases picked
      exact good
    · split at picked
      · cases picked
        exact good
      · exact known b picked

theorem adjustmentMembers_total {P : HyperionAdjustment → Prop}
    {adjustments : Owned HyperionAdjustment} {count : Nat} (filled : adjustments.Filled P count)
    (n i : Nat) (inside : i + n ≤ count) (members : List (String × JVal)) :
    ∃ r, adjustmentMembers adjustments i n members = .ok r := by
  induction n generalizing i members with
  | zero => exact ⟨members, rfl⟩
  | succ n ih =>
    obtain ⟨a, read, _⟩ := Owned.read_filled filled (i := i) (by omega)
    unfold adjustmentMembers
    rw [read, ok_bind]
    exact ih (i + 1) (by omega) _

theorem postToInstances_total {P : Int → Prop} (replies : Nat → Reply) (host : String)
    (port : Nat) (body : JVal) {instances : Owned Int} {count : Nat}
    (filled : instances.Filled P count) (n i : Nat) (inside : i + n ≤ count) (p : Int × Rpc) :
    ∃ q, postToInstances replies host port body instances i n p = .ok q := by
  induction n generalizing i p with
  | zero => exact ⟨p, rfl⟩
  | succ n ih =>
    obtain ⟨a, read, _⟩ := Owned.read_filled filled (i := i) (by omega)
    unfold postToInstances
    rw [read, ok_bind]
    exact ih (i + 1) (by omega) _

theorem hyperionSetAdjustments_total {P : Int → Prop} (replies : Nat → Reply) (host : String)
    (port : Nat) {a : HyperionAdjustments} (gains : GainsFilled a) {instances : Owned Int}
    {count : Nat} (filled : instances.Filled P count) (r : Rpc) :
    ∃ q, hyperionSetAdjustments replies host port a instances count r = .ok q := by
  unfold hyperionSetAdjustments
  dsimp only
  split
  · exact ⟨_, rfl⟩
  split
  · exact ⟨_, rfl⟩
  obtain ⟨members, made⟩ := adjustmentMembers_total gains a.adjustmentsCount 0 (by omega) []
  rw [made, ok_bind]
  exact postToInstances_total replies host port _ filled count 0 (by omega) _

theorem hdrCallback_total (hdrType : String) (hdrEnabled : Bool) (env : Env) {s : Service}
    (represented : Represented s.settings) :
    ∃ s', hdrCallback hdrType hdrEnabled env s = .ok s' := by
  unfold hdrCallback
  dsimp only
  split
  · obtain ⟨picked, found, good⟩ := pickAdjustment_total hdrType
      (if hdrEnabled then "hdr" else "sdr") hdrEnabled represented.adjustments
      s.settings.hyperion.adjustmentsCount 0 (by omega) none (by simp)
    rw [found, ok_bind]
    cases picked with
    | none => exact ⟨_, rfl⟩
    | some a =>
      obtain ⟨q, posted⟩ := hyperionSetAdjustments_total env.replies
        (if s.settings.unixSocket then "127.0.0.1" else s.settings.address) rpcPort (good a rfl)
        represented.instances (setHdrState env.replies
          (if s.settings.unixSocket then "127.0.0.1" else s.settings.address) rpcPort hdrEnabled
          s.rpc).2
      dsimp only
      rw [posted]
      exact ⟨_, rfl⟩
  · exact ⟨_, rfl⟩

theorem appIncluded_total {P : String → Prop} (id : String) {apps : Owned String} {count : Nat}
    (filled : apps.Filled P count) (n i : Nat) (inside : i + n ≤ count) (b : Bool) :
    ∃ r, appIncluded (some id) apps i n b = .ok r := by
  induction n generalizing i b with
  | zero => exact ⟨b, rfl⟩
  | succ n ih =>
    obtain ⟨app, read, _⟩ := Owned.read_filled filled (i := i) (by omega)
    simp only [appIncluded, deref, ok_bind, read]
    exact ih (i + 1) (by omega) _

theorem appNotExcluded_total {P : String → Prop} (id : String) {apps : Owned String} {count : Nat}
    (filled : apps.Filled P count) (n i : Nat) (inside : i + n ≤ count) :
    ∃ r, appNotExcluded (some id) apps i n = .ok r := by
  induction n generalizing i with
  | zero => exact ⟨true, rfl⟩
  | succ n ih =>
    obtain ⟨app, read, _⟩ := Owned.read_filled filled (i := i) (by omega)
    simp only [appNotExcluded, deref, ok_bind, read]
    split
    · exact ⟨false, rfl⟩
    · exact ih (i + 1) (by omega)

theorem shouldStart_total (id : String) {settings : Settings} (represented : Represented settings) :
    ∃ r, shouldStart (some id) settings = .ok r := by
  unfold shouldStart
  split
  · exact appIncluded_total id represented.included _ 0 (by omega) false
  split
  · exact appNotExcluded_total id represented.excluded _ 0 (by omega)
  · exact ⟨true, rfl⟩

theorem shouldStart_none (settings : Settings) : shouldStart none settings =
    if settings.includedApps.count > 0 ∨ settings.excludedApps.count > 0 then
      .error .nullDereference
    else .ok true := by
  unfold shouldStart
  cases settings.includedApps.count with
  | succ n =>
    rw [if_pos (Nat.succ_pos n), if_pos (Or.inl (Nat.succ_pos n))]
    rfl
  | zero =>
    cases settings.excludedApps.count with
    | succ n =>
      rw [if_neg (Nat.lt_irrefl 0), if_pos (Nat.succ_pos n), if_pos (Or.inr (Nat.succ_pos n))]
      rfl
    | zero => rfl

theorem videoConnectedAct_total (connected : Bool) (appid : Option String) (env : Env) {s : Service}
    (represented : Represented s.settings) :
    (videoConnectedAct connected appid env s = .error .nullDereference ∧
      (connected = true ∨ s.capture.state.capture .ui = true) ∧ appid = none ∧
      (s.settings.includedApps.count > 0 ∨ s.settings.excludedApps.count > 0)) ∨
    (∃ t, videoConnectedAct connected appid env s = .ok t ∧ t.settings = s.settings) ∧
      ¬ ((connected = true ∨ s.capture.state.capture .ui = true) ∧ appid = none ∧
        (s.settings.includedApps.count > 0 ∨ s.settings.excludedApps.count > 0)) := by
  unfold videoConnectedAct
  dsimp only
  split
  · next quiet =>
    refine Or.inr ⟨⟨_, rfl, serviceStop_settings _ _⟩, ?_⟩
    rintro ⟨source, _⟩
    rcases source with on | ui
    · simp [on] at quiet
    · simp [ui] at quiet
  · next loud =>
    have source : connected = true ∨ s.capture.state.capture .ui = true := by
      cases connected with
      | true => exact Or.inl rfl
      | false => exact Or.inr (by simpa using loud)
    have decided {r : Bool} (start : shouldStart appid s.settings = .ok r) :
        ∃ t, (do
            let b ← shouldStart appid s.settings
            if b then return (serviceStart env { s with videoConnected := connected }).2
            else return (serviceStop env { s with videoConnected := connected }).2) =
          (Except.ok t : Except MemoryFault Service) ∧ t.settings = s.settings := by
      rw [start, ok_bind]
      cases r with
      | true => exact ⟨_, rfl, serviceStart_settings _ _⟩
      | false => exact ⟨_, rfl, serviceStop_settings _ _⟩
    cases appid with
    | some id =>
      obtain ⟨r, start⟩ := shouldStart_total id represented
      exact Or.inr ⟨decided start, fun lost => Option.some_ne_none id lost.2.1⟩
    | none =>
      by_cases lists : s.settings.includedApps.count > 0 ∨ s.settings.excludedApps.count > 0
      · refine Or.inl ⟨?_, source, rfl, lists⟩
        rw [shouldStart_none, if_pos lists]
        rfl
      · refine Or.inr ⟨decided (r := true) ?_, fun lost => lists lost.2.2⟩
        rw [shouldStart_none, if_neg lists]

theorem hdrAct_total (hdrType : Option String) (enabled : String → Bool) (env : Env) {s : Service}
    (represented : Represented s.settings) : ∃ s', hdrAct hdrType enabled env s = .ok s' := by
  unfold hdrAct
  split
  · exact ⟨s, rfl⟩
  · exact hdrCallback_total _ _ env represented

theorem powerCallback_null (payload : JVal) (env : Env) (s : Service) :
    powerCallback payload env s = .error .nullDereference ↔
      jisValid (jobjectGet payload "state") = true ∧
        jisString (jobjectGet payload "state") = false := by
  unfold powerCallback
  cases null : jisNull payload with
  | true =>
    have missing : jobjectGet payload "state" = .invalid := by
      cases payload with
      | invalid => rfl
      | null => rfl
      | _ => cases null
    rw [missing]
    exact iff_of_false (ok_ne_error _ _) fun h => Bool.false_ne_true h.1
  | false =>
    generalize jobjectGet payload "state" = state
    cases state <;> simp [jisValid, jisString, jstringGet, deref, bind, Except.bind, pure,
      Except.pure]

theorem videooutputCallback_null (payload : JVal) (env : Env) {s : Service}
    (represented : Represented s.settings) :
    videooutputCallback payload env s = .error .nullDereference ↔
      (∃ connected, videoMessage payload = some (connected, none) ∧
        (connected = true ∨ s.capture.state.capture .ui = true)) ∧
      (s.settings.includedApps.count > 0 ∨ s.settings.excludedApps.count > 0) := by
  rw [videooutputCallback_eq]
  cases videoMessage payload with
  | none =>
    obtain ⟨t, tail⟩ := hdrAct_total (videoHdrType payload)
      (fun hdrType => decide (hdrType ≠ "none")) env represented
    rw [ok_bind, tail]
    refine iff_of_false (ok_ne_error _ _) ?_
    rintro ⟨⟨_, message, _⟩, _⟩
    cases message
  | some message =>
    obtain ⟨connected, appid⟩ := message
    dsimp only
    rcases videoConnectedAct_total connected appid env represented with
      ⟨fault, source, rfl, lists⟩ | ⟨⟨t, act, same⟩, fine⟩
    · rw [fault]
      exact ⟨fun _ => ⟨⟨connected, rfl, source⟩, lists⟩, fun _ => rfl⟩
    · obtain ⟨t', tail⟩ := hdrAct_total (videoHdrType payload)
        (fun hdrType => decide (hdrType ≠ "none")) env (same.symm ▸ represented)
      rw [act, ok_bind, tail]
      refine iff_of_false (ok_ne_error _ _) ?_
      rintro ⟨⟨_, message, source⟩, lists⟩
      cases message
      exact fine ⟨source, rfl, lists⟩

theorem settingsLoadJson_null {s : Settings} (payload : JVal) (loaded : Loaded s) :
    settingsLoadJson s payload = .error .nullDereference ↔
      Tidy s ∧ NumericGains payload ∧
        (hasHyperion payload = false → s.hyperion.adjustmentsCount = 0) ∧
        ¬ AppsAreStrings payload := by
  rcases loaded with ⟨p, after⟩ | dangling
  · rcases settingsLoadJson_cases payload after.toTidy with
      ⟨f, fault, memory, cause⟩ | ⟨numeric, kept, ⟨odd, fault⟩ | ⟨s', strings, loaded, _⟩⟩
    · rw [fault]
      refine iff_of_false (fun same => memory (Except.error.inj same)) ?_
      rintro ⟨_, numeric, kept, _⟩
      rcases cause with mixed | ⟨absent, counted⟩
      · exact mixed numeric
      · exact counted (kept absent)
    · exact iff_of_true fault ⟨after.toTidy, numeric, kept, odd⟩
    · rw [loaded]
      exact iff_of_false (ok_ne_error _ _) fun odd => odd.2.2.2 strings
  · obtain ⟨f, fault, memory⟩ := settingsLoadJson_dangling payload dangling
    rw [fault]
    refine iff_of_false (fun same => memory (Except.error.inj same)) ?_
    rintro ⟨tidy, _⟩
    exact tidy_not_dangling tidy dangling

/-! ### Iterators left unset -/

section Unset

variable {s : Settings} {payload : JVal}

theorem Loaded.settled (loaded : Loaded s) (here : s.hyperion.adjustments ≠ .released) :
    Settled GainsFilled s.hyperion.adjustmentsCount s.hyperion.adjustments := by
  rcases loaded with ⟨p, after⟩ | dangling
  · exact after.toTidy.adjustments
  · rcases dangling.adjustments with settled | ⟨released, _⟩
    · exact settled
    · exact absurd released here

def stray : List (String × JVal) := [("", .object [])]

theorem stray_member {v : JVal} (odd : jisObject v = false) :
    loadAdjustmentsMember stray v = .error .outOfBlock := by
  rw [loadAdjustmentsMember_odd odd]
  rfl

theorem stray_load (loaded : Loaded s) (here : s.hyperion.adjustments ≠ .released)
    (unset : LeavesUnset payload) :
    settingsLoadJsonWith stray s payload = .error .outOfBlock := by
  have settled := loaded.settled here
  obtain ⟨cells, released, freed⟩ :=
    release_filled settled.filled here fun _ => freeAdjustment_filled
  have load : settingsHyperionLoadWith stray s.hyperion payload = .error .outOfBlock := by
    simp only [settingsHyperionLoadWith, released, ok_bind, freed, unset.1, if_true,
      stray_member unset.2, error_bind]
  simp only [settingsLoadJsonWith, load, error_bind]

theorem settingsLoadApps_inside {included excluded : Apps} (payload : JVal)
    (inc : AppsSettled included ∨ included = ⟨0, .released⟩)
    (exc : AppsSettled excluded ∨ excluded = ⟨0, .released⟩) :
    settingsLoadApps included excluded payload ≠ .error .outOfBlock := by
  rcases inc with inc | rfl
  · rcases exc with exc | rfl
    · rcases settingsLoadApps_cases payload inc exc with ⟨_, load⟩ | ⟨i, e, _, load, _⟩
      · rw [load]
        simp
      · rw [load]
        exact ok_ne_error _ _
    · rw [settingsLoadApps, freeApps_settled inc, ok_bind]
      simp [freeApps, Owned.releaseEach, Owned.free, bind, Except.bind]
  · simp [settingsLoadApps, freeApps, Owned.releaseEach, Owned.free, bind, Except.bind]

theorem silent_load (loaded : Loaded s) (here : s.hyperion.adjustments ≠ .released)
    (unset : LeavesUnset payload) : settingsLoadJson s payload ≠ .error .outOfBlock := by
  have settled := loaded.settled here
  have empty : hdrMembers payload = [] := by
    rw [hdrMembers]
    have odd := unset.2
    generalize jobjectGet (jobjectGet payload "hyperion") "adjustments" = v at odd ⊢
    cases v with
    | object members => cases odd
    | _ => rfl
  have dump : dumpAdjustments (carriedHyperion s.hyperion payload) = .ok () := by
    rw [dumpAdjustments, carriedHyperion, hdrEntries, empty]
    rfl
  have load := settingsHyperionLoad_carried settled.filled here unset.1
  rw [dump, ok_bind] at load
  have apps : settingsLoadApps s.includedApps s.excludedApps payload ≠ .error .outOfBlock := by
    rcases loaded with ⟨p, after⟩ | dangling
    · exact settingsLoadApps_inside payload (Or.inl after.toTidy.included)
        (Or.inl after.toTidy.excluded)
    · exact settingsLoadApps_inside payload dangling.included dangling.excluded
  simp only [settingsLoadJson, settingsLoadJsonWith, settingsHyperionLoadWith_nil, load, pure_bind]
  cases copied : settingsLoadApps s.includedApps s.excludedApps payload with
  | error f =>
    rw [copied] at apps
    rw [error_bind]
    exact fun fault => apps (congrArg Except.error (Except.error.inj fault))
  | ok both =>
    simp only [ok_bind]
    rw [dump]
    exact ok_ne_error _ _

theorem released_load (loaded : Loaded s) (released : s.hyperion.adjustments = .released)
    (unset : List (String × JVal)) :
    settingsLoadJsonWith unset s payload = .error .doubleRelease := by
  have load : settingsHyperionLoadWith unset s.hyperion payload = .error .doubleRelease :=
    settingsHyperionLoadWith_released loaded.represented.adjustments released unset payload
  simp only [settingsLoadJsonWith, load, error_bind]

/-- A load depends on an iterator left unset exactly when it comes to use one. -/
theorem sameLoads_iff (loaded : Loaded s) :
    (∀ unset unset', settingsLoadJsonWith unset s payload =
        settingsLoadJsonWith unset' s payload) ↔
      ¬ (LeavesUnset payload ∧ s.hyperion.adjustments ≠ .released) := by
  constructor
  · rintro same ⟨leaves, here⟩
    apply silent_load loaded here leaves
    rw [← settingsLoadJsonWith_nil, same [] stray]
    exact stray_load loaded here leaves
  · intro fine unset unset'
    by_cases leaves : LeavesUnset payload
    · have released : s.hyperion.adjustments = .released := by
        by_contra here
        exact fine ⟨leaves, here⟩
      rw [released_load loaded released unset, released_load loaded released unset']
    · rw [settingsLoadJsonWith_set leaves unset, settingsLoadJsonWith_set leaves unset']

end Unset

theorem misread_null {payload : JVal} (null : jisNull payload = true) (env : Env) (s : Service) :
    ¬ Misread s ⟨.setSettings payload, env⟩ := by
  have empty (key : String) : StringApps key payload := by
    intro item member
    cases payload with
    | invalid => cases member
    | null => cases member
    | _ => cases null
  rintro (⟨⟨object, _⟩, _⟩ | ⟨_, _, _, odd⟩)
  · cases payload with
    | invalid => cases object
    | null => cases object
    | _ => cases null
  · exact odd ⟨empty _, empty _⟩

theorem serviceMethodSetSettings_load {payload : JVal} (value : jisNull payload = false)
    (env : Env) (s : Service) (f : MemoryFault) :
    serviceMethodSetSettings payload env s = .error f ↔
      settingsLoadJsonWith env.unset s.settings payload = .error f := by
  rw [serviceMethodSetSettings, value, if_neg Bool.false_ne_true]
  cases settingsLoadJsonWith env.unset s.settings payload with
  | ok settings => exact iff_of_false (ok_ne_error _ _) (ok_ne_error _ _)
  | error g => simp [bind, Except.bind]

theorem setSettings_defined (payload : JVal) (env : Env) {s : Service}
    (loaded : Loaded s.settings) :
    Defined s ⟨.setSettings payload, env⟩ ↔ ¬ Misread s ⟨.setSettings payload, env⟩ := by
  cases null : jisNull payload with
  | true =>
    have returns (env : Env) : serviceMethodSetSettings payload env s = .ok s := by
      rw [serviceMethodSetSettings, null, if_pos rfl]
      rfl
    refine iff_of_true ⟨?_, fun w w' unset unset' _ _ => ?_⟩ (misread_null null env s)
    · change serviceMethodSetSettings payload env s ≠ _
      rw [returns]
      exact ok_ne_error _ _
    · exact (returns _).trans (returns _).symm
  | false =>
  constructor
  · rintro ⟨fine, same⟩ misread
    have decided : ¬ (LeavesUnset payload ∧ s.settings.hyperion.adjustments ≠ .released) := by
      rintro ⟨leaves, here⟩
      apply silent_load loaded here leaves
      have fault := (serviceMethodSetSettings_load null
        { env with stackWord := 0, unset := stray } s .outOfBlock).mpr
        (stray_load loaded here leaves)
      have zero : IsInt 0 := by
        unfold IsInt
        decide
      have moved := (same 0 0 [] stray zero zero).trans fault
      exact (serviceMethodSetSettings_load null _ s .outOfBlock).mp moved
    rcases misread with leaves | odd
    · exact decided leaves
    · apply fine
      refine (serviceMethodSetSettings_load null env s _).mpr ?_
      rw [(sameLoads_iff loaded).mpr decided env.unset []]
      exact (settingsLoadJson_null payload loaded).mpr odd
  · intro fine
    have same := (sameLoads_iff loaded).mpr fun leaves => fine (Or.inl leaves)
    refine ⟨fun fault => fine (Or.inr ?_), fun w w' unset unset' _ _ => ?_⟩
    · have load := (serviceMethodSetSettings_load null env s _).mp fault
      rw [same env.unset []] at load
      exact (settingsLoadJson_null payload loaded).mp load
    · change serviceMethodSetSettings payload { env with stackWord := w, unset := unset } s =
        serviceMethodSetSettings payload { env with stackWord := w', unset := unset' } s
      simp only [serviceMethodSetSettings, null]
      rw [same unset unset']
      rfl

theorem isInt_bounds : IsInt (-2147483648) ∧ IsInt 2147483647 := by
  unfold IsInt
  decide

/-- The word decides exactly when the capture or its light pause could be moved by one word
and left alone by another. -/
theorem sensorAct_word (env : Env) (s : Service) :
    (∀ w w', IsInt w → IsInt w' → sensorAct w env s = sensorAct w' env s) ↔
      ¬ (s.settings.lumenThreshold ≠ 0 ∧ s.powerPaused = false ∧ s.running ≠ s.lumenPaused ∧
        -2147483648 ≤ s.settings.lumenThreshold ∧ s.settings.lumenThreshold < 2147483647) := by
  constructor
  · rintro same ⟨on, awake, moves, low, high⟩
    have ends := same (-2147483648) 2147483647 isInt_bounds.1 isInt_bounds.2
    have dark : ¬ -2147483648 > s.settings.lumenThreshold := by omega
    simp only [sensorAct, if_neg on, awake, Bool.false_eq_true, if_false, if_neg dark,
      if_pos high] at ends
    have lumen := congrArg Service.lumenPaused ends
    cases run : s.running with
    | true =>
      have clear : s.lumenPaused = false := by
        apply eq_false_of_ne_true
        intro set
        exact moves (run.trans set.symm)
      simp [run, clear] at lumen
    | false =>
      have set : s.lumenPaused = true := by
        apply eq_true_of_ne_false
        intro clear
        exact moves (run.trans clear.symm)
      simp [run, set] at lumen
  · intro idle w w' int int'
    unfold IsInt at int int'
    by_cases on : s.settings.lumenThreshold = 0
    · rw [sensorAct, if_pos on, sensorAct, if_pos on]
    cases awake : s.powerPaused with
    | true => simp [sensorAct, awake]
    | false =>
      by_cases moves : s.running = s.lumenPaused
      · cases paused : s.lumenPaused <;> simp [sensorAct, moves, paused]
      · have sides : s.settings.lumenThreshold < -2147483648 ∨
            2147483647 ≤ s.settings.lumenThreshold := by
          by_contra inside
          push Not at inside
          exact idle ⟨on, awake, moves, by omega, by omega⟩
        have same : w > s.settings.lumenThreshold ↔ w' > s.settings.lumenThreshold := by omega
        unfold sensorAct
        rw [if_neg on, if_neg on]
        by_cases bright : w > s.settings.lumenThreshold
        · simp only [if_pos bright, if_pos (same.mp bright)]
        · simp only [if_neg bright, if_neg fun h => bright (same.mpr h)]

theorem sensor_defined (payload : JVal) (env : Env) (s : Service) :
    (∀ w w', IsInt w → IsInt w' →
      sensorCallback payload { env with stackWord := w } s =
        sensorCallback payload { env with stackWord := w' } s) ↔
      ¬ Misread s ⟨.sensor payload, env⟩ := by
  simp only [sensorCallback_eq, Misread]
  cases sensorMessage payload with
  | some v => exact iff_of_true (fun _ _ _ _ => rfl) (fun h => Option.some_ne_none v h.1)
  | none =>
    dsimp only
    cases jisValid (jobjectGet payload "sensorData") with
    | false =>
      exact iff_of_true (fun _ _ _ _ => rfl) (fun h => Bool.false_ne_true h.2.1)
    | true =>
      simp only [if_true, true_and]
      exact sensorAct_word env s

theorem defined_iff {s : Service} (loaded : Loaded s.settings) (e : Event) :
    Defined s e ↔ ¬ Misread s e := by
  obtain ⟨action, env⟩ := e
  cases action with
  | power payload =>
    have same : Defined s ⟨.power payload, env⟩ ↔
        ¬ powerCallback payload env s = .error .nullDereference :=
      ⟨And.left, fun fine => ⟨fine, fun _ _ _ _ _ _ => rfl⟩⟩
    rw [same, powerCallback_null]
    rfl
  | videooutput payload =>
    have same : Defined s ⟨.videooutput payload, env⟩ ↔
        ¬ videooutputCallback payload env s = .error .nullDereference :=
      ⟨And.left, fun fine => ⟨fine, fun _ _ _ _ _ _ => rfl⟩⟩
    rw [same, videooutputCallback_null payload env loaded.represented]
    rfl
  | setSettings payload => exact setSettings_defined payload env loaded
  | picture payload =>
    refine iff_of_true ⟨?_, fun _ _ _ _ _ _ => rfl⟩ id
    obtain ⟨t, done⟩ := hdrAct_total (pictureMessage payload)
      (fun dynamicRange => decide (dynamicRange ≠ "sdr")) env loaded.represented
    change pictureCallback payload env s ≠ _
    rw [pictureCallback_eq, done]
    exact ok_ne_error _ _
  | sensor payload =>
    rw [← sensor_defined]
    constructor
    · rintro ⟨_, same⟩ w w' int int'
      exact Except.ok.inj (same w w' [] [] int int')
    · intro same
      exact ⟨ok_ne_error _ _, fun w w' _ _ int int' => congrArg Except.ok (same w w' int int')⟩
  | start => exact iff_of_true ⟨ok_ne_error _ _, fun _ _ _ _ _ _ => rfl⟩ id
  | stop => exact iff_of_true ⟨ok_ne_error _ _, fun _ _ _ _ _ _ => rfl⟩ id
  | startorstop => exact iff_of_true ⟨ok_ne_error _ _, fun _ _ _ _ _ _ => rfl⟩ id
  | captureThread it => exact iff_of_true ⟨ok_ne_error _ _, fun _ _ _ _ _ _ => rfl⟩ id

/-- In every reachable state a handler is defined on a payload exactly when the payload is
not one of the shapes that it misreads there. -/
theorem bus_handlers_defined_iff (s : Service) (reach : Reachable s) (e : Event) :
    Defined s e ↔ ¬ Misread s e :=
  defined_iff (reachable_loaded reach) e

theorem bus_handlers_defined_fresh :
    Defined (boot calm none none settingsInit) ⟨.power (.object []), calm⟩ ↔
      ¬ Misread (boot calm none none settingsInit) ⟨.power (.object []), calm⟩ :=
  bus_handlers_defined_iff (boot calm none none settingsInit)
    ⟨[], settingsInit, calm, none, none, [], rfl, rfl⟩ ⟨.power (.object []), calm⟩

/-- A power message whose state is a number ends the process. -/
theorem bus_handlers_null_state :
    Reachable (boot calm none none settingsInit) ∧
      step (boot calm none none settingsInit)
        ⟨.power (.object [("state", .number ⟨1, 0x3FF0000000000000⟩)]), calm⟩ =
          .error .nullDereference ∧
      ¬ Defined (boot calm none none settingsInit)
        ⟨.power (.object [("state", .number ⟨1, 0x3FF0000000000000⟩)]), calm⟩ :=
  ⟨⟨[], settingsInit, calm, none, none, [], rfl, rfl⟩, rfl, fun fine => fine.1 rfl⟩

end HyperionWebos.PayloadSafety
