import HyperionWebos.ConnectionThread
import HyperionWebos.ServiceSteps

/-! The handlers in phases. `ConnectionThread` cuts the start, the stop and the restart of
the service at its accesses to the address; taken phase after phase, with the connection
thread between two attempts, they leave the settings and the flags as `ServiceLoop` does. -/

namespace HyperionWebos.HandlerPhases
open Runs Pbnjson SettingsLoad ConnectionThread ServiceLoop ServiceSteps

/-- The main loop between two handlers, the connection thread between two attempts. -/
structure Agrees (l : Link) (s : Service) : Prop where
  settings : l.settings = s.settings
  running : l.running = s.running
  loop : l.connectionLoopRunning = s.connectionLoopRunning
  main : l.main = .idle
  thread : l.thread = if s.running then .head else .absent

abbrev Leads : Link → Link → Prop := Reaches ConnectionThread.step

variable {l : Link} {s : Service}

theorem start_phase (created : Bool) (here : l.main = .start) (off : l.running = false) :
    Leads l (if created then
      { l with running := true, connectionLoopRunning := true, thread := .head, main := .idle }
    else { l with connectionLoopRunning := false, main := .idle }) := by
  refine reaches_step (e := .main created) ?_ reaches_refl
  cases created <;> simp [ConnectionThread.step, mainStep, here, off]

theorem stop_phases (destroy : Bool) (here : l.main = .stop destroy) (on : l.running = true)
    (between : l.thread = .head) : Leads l { l with
      running := false
      connectionLoopRunning := false
      thread := .absent
      main := if destroy then .init true else .idle } := by
  let asked : Link := { l with connectionLoopRunning := false, main := .join destroy }
  have ask : ConnectionThread.step l (.main true) = .ok asked := by
    simp [ConnectionThread.step, mainStep, here, on, asked]
  have leave : ConnectionThread.step asked (.thread true) =
      .ok { asked with thread := .ended } := by
    simp [ConnectionThread.step, threadStep, between, asked]
  apply reaches_step ask
  apply reaches_step leave
  refine reaches_step (e := .main true) ?_ reaches_refl
  simp [ConnectionThread.step, mainStep, asked]

theorem load_phases {payload : JVal} {settings : Settings}
    (here : l.main = .loadAddress payload)
    (loads : settingsLoadJson l.settings payload = .ok settings) :
    ∃ address blocks released, Leads l { l with
      settings := settings
      address := address
      blocks := blocks
      released := released
      main := .stop true } := by
  have rest (l : Link) (here : l.main = .loadRest payload)
      (loads : settingsLoadJson l.settings payload = .ok settings) :
      Leads l { l with settings := settings, main := .stop true } := by
    refine reaches_step (e := .main true)
      (t := { l with settings := settings, main := .save }) ?_ ?_
    · simp [ConnectionThread.step, mainStep, here, loads]
    · exact reaches_step (e := .main true) rfl reaches_refl
  cases carried : jisString (jobjectGet payload "address") with
  | true =>
    let freed : Link :=
      { l with released := l.address :: l.released, main := .dupAddress payload }
    let replaced : Link :=
      { freed with address := l.blocks, blocks := l.blocks + 1, main := .loadRest payload }
    have free : ConnectionThread.step l (.main true) = .ok freed := by
      simp [ConnectionThread.step, mainStep, here, carried, freed]
    have replace : ConnectionThread.step freed (.main true) = .ok replaced := rfl
    refine ⟨l.blocks, l.blocks + 1, l.address :: l.released, ?_⟩
    exact reaches_step free (reaches_step replace (rest replaced rfl loads))
  | false =>
    let kept : Link := { l with main := .loadRest payload }
    have keep : ConnectionThread.step l (.main true) = .ok kept := by
      simp [ConnectionThread.step, mainStep, here, carried, kept]
    exact ⟨l.address, l.blocks, l.released, reaches_step keep (rest kept rfl loads)⟩

theorem start_agrees_off (env : Env) (here : l.main = .start) (settings : l.settings = s.settings)
    (off : l.running = false) (absent : l.thread = .absent) (stopped : s.running = false) :
    ∃ l', Leads l l' ∧ Agrees l' (serviceStart env s).2 := by
  refine ⟨_, start_phase env.connectionCreated here off, ?_⟩
  rcases serviceStart_cases env s with ⟨on, _⟩ | ⟨_, created, _, eq⟩ | ⟨_, created, eq⟩
  · rw [stopped] at on
    exact absurd on (by decide)
  · rw [eq, created]
    exact ⟨settings, rfl, rfl, rfl, rfl⟩
  · rw [eq, created]
    exact ⟨settings, off, rfl, rfl, absent⟩

theorem start_agrees (env : Env) (agrees : Agrees l s) :
    ∃ l', Leads l l' ∧ Agrees l' (serviceStart env s).2 := by
  have ask : ConnectionThread.step l (.request .start) = .ok { l with main := .start } := by
    simp [ConnectionThread.step, takeRequest, agrees.main]
  cases on : s.running with
  | true =>
    have running : l.running = true := agrees.running.trans on
    refine ⟨{ l with main := .idle }, ?_, ?_⟩
    · refine reaches_step ask (reaches_step (e := .main true) ?_ reaches_refl)
      simp [ConnectionThread.step, mainStep, running]
    · rw [serviceStart, if_pos on]
      exact { agrees with main := rfl }
  | false =>
    have absent : l.thread = .absent := by simpa [on] using agrees.thread
    obtain ⟨l', leads, agrees'⟩ := start_agrees_off (l := { l with main := .start }) env rfl
      agrees.settings (agrees.running.trans on) absent on
    exact ⟨l', reaches_step ask leads, agrees'⟩

theorem stop_agrees (env : Env) (agrees : Agrees l s) :
    ∃ l', Leads l l' ∧ Agrees l' (serviceStop env s).2 := by
  have ask : ConnectionThread.step l (.request .stop) = .ok { l with main := .stop false } := by
    simp [ConnectionThread.step, takeRequest, agrees.main]
  rcases serviceStop_cases env s with ⟨off, eq⟩ | ⟨on, _, eq⟩
  · have running : l.running = false := agrees.running.trans off
    refine ⟨{ l with main := .idle }, ?_, ?_⟩
    · refine reaches_step ask (reaches_step (e := .main true) ?_ reaches_refl)
      simp [ConnectionThread.step, mainStep, running]
    · rw [eq]
      exact { agrees with main := rfl }
  · have between : l.thread = .head := by simpa [on] using agrees.thread
    refine ⟨_, reaches_step ask (stop_phases false rfl (agrees.running.trans on) between), ?_⟩
    rw [eq]
    exact ⟨agrees.settings, rfl, rfl, rfl, rfl⟩

theorem restart_agrees (env : Env) {payload : JVal} {settings : Settings}
    (present : jisNull payload = false)
    (loads : settingsLoadJson s.settings payload = .ok settings) (agrees : Agrees l s) :
    ∃ l', Leads l l' ∧ Agrees l' (serviceRestart env { s with settings := settings }) := by
  have ask : ConnectionThread.step l (.request (.setSettings payload)) =
      .ok { l with main := .loadAddress payload } := by
    simp [ConnectionThread.step, takeRequest, agrees.main, present]
  rw [← agrees.settings] at loads
  obtain ⟨address, blocks, released, load⟩ :=
    load_phases (l := { l with main := .loadAddress payload }) rfl loads
  let loaded : Link := { l with
    settings := settings
    address := address
    blocks := blocks
    released := released
    main := .stop true }
  have toLoaded : Leads l loaded := reaches_step ask load
  rw [serviceRestart_eq]
  by_cases on : s.running = true
  · have between : l.thread = .head := by simpa [on] using agrees.thread
    let stopped : Link := { loaded with
      running := false
      connectionLoopRunning := false
      thread := .absent
      main := .init true }
    have stop : Leads loaded stopped :=
      stop_phases (l := loaded) true rfl (agrees.running.trans on) between
    have init : ConnectionThread.step stopped (.main true) =
      .ok { stopped with main := .start } := rfl
    rw [if_pos on]
    obtain ⟨l', start, agrees'⟩ := start_agrees_off (l := { stopped with main := .start })
      (s := serviceInit env settings (serviceDestroy env { s with settings := settings }).2)
      env rfl rfl rfl rfl (by simp [serviceInit, serviceDestroy])
    exact ⟨l', toLoaded.trans (stop.trans (reaches_step init start)), agrees'⟩
  · have off : s.running = false := by simpa using on
    have running : l.running = false := agrees.running.trans off
    refine ⟨{ loaded with main := .idle }, toLoaded.trans ?_, ?_⟩
    · refine reaches_step (e := .main true) (t := { loaded with main := .init false }) ?_ ?_
      · simp [ConnectionThread.step, mainStep, loaded, running]
      · exact reaches_step (e := .main true) rfl reaches_refl
    · have nothing : serviceStop env { s with settings := settings } =
          (1, { s with settings := settings }) := by
        rw [serviceStop, if_pos (by simp [off])]
      rw [if_neg on, serviceDestroy, nothing]
      exact ⟨rfl, agrees.running, agrees.loop, rfl, agrees.thread⟩

/-- Every handler of the service, and every step of its capture thread, is a run of the
interleaving in which the connection thread is left alone between two attempts. -/
theorem step_phases {e : ServiceLoop.Event} {s' : Service} (agrees : Agrees l s)
    (taken : ServiceLoop.step s e = .ok s') : ∃ l', Leads l l' ∧ Agrees l' s' := by
  cases kind : e.action with
  | setSettings payload =>
    simp only [ServiceLoop.step, kind, serviceMethodSetSettings] at taken
    split at taken
    · cases taken
      exact ⟨l, reaches_refl, agrees⟩
    · next present =>
      obtain ⟨settings, loads, restarted⟩ := bind_eq_ok.mp taken
      cases restarted
      exact restart_agrees e.env (by simpa using present) (settingsLoadJsonWith_ok loads) agrees
  | _ =>
    refine step_invariant (P := fun s' => ∃ l', Leads l l' ∧ Agrees l' s') ?_ ?_ ?_ ?_ ?_ taken
      ⟨l, reaches_refl, agrees⟩
    · rintro t power video lumen rpc ⟨l', leads, agrees'⟩
      exact ⟨l', leads, ⟨agrees'.settings, agrees'.running, agrees'.loop, agrees'.main,
        agrees'.thread⟩⟩
    · rintro env t ⟨l', leads, agrees'⟩
      obtain ⟨l'', later, agrees''⟩ := start_agrees env agrees'
      exact ⟨l'', leads.trans later, agrees''⟩
    · rintro env t ⟨l', leads, agrees'⟩
      obtain ⟨l'', later, agrees''⟩ := stop_agrees env agrees'
      exact ⟨l'', leads.trans later, agrees''⟩
    · intro payload same
      rw [kind] at same
      cases same
    · rintro it _ ⟨l', leads, agrees'⟩
      exact ⟨l', leads, ⟨agrees'.settings, agrees'.running, agrees'.loop, agrees'.main,
        agrees'.thread⟩⟩

theorem boot_agrees (env : Env) (handle handleLegacy : Option Nat) (settings : Settings) :
    Agrees (ConnectionThread.boot settings) (ServiceLoop.boot env handle handleLegacy settings) :=
  ⟨rfl, rfl, rfl, rfl, rfl⟩

theorem run_phases {env : Env} {handle handleLegacy : Option Nat} {settings : Settings}
    {es : List ServiceLoop.Event} (reached : run ServiceLoop.step
      (ServiceLoop.boot env handle handleLegacy settings) es = .ok s) :
    ∃ l, Leads (ConnectionThread.boot settings) l ∧ Agrees l s := by
  let Matched (s : Service) := ∃ l, Leads (ConnectionThread.boot settings) l ∧ Agrees l s
  have start : Matched (ServiceLoop.boot env handle handleLegacy settings) :=
    ⟨_, reaches_refl, boot_agrees env handle handleLegacy settings⟩
  have keeps (t : Service) (e : ServiceLoop.Event) (t' : Service) (matched : Matched t)
      (taken : ServiceLoop.step t e = .ok t') : Matched t' := by
    obtain ⟨l, leads, agrees⟩ := matched
    obtain ⟨l', later, agrees'⟩ := step_phases agrees taken
    exact ⟨l', leads.trans later, agrees'⟩
  exact run_invariant keeps start reached

end HyperionWebos.HandlerPhases
