import HyperionWebos.ResourceLedger
import HyperionWebos.ServiceSteps

/-! Who owns the LUT and its file. The books of the LUT's blocks and file handles are
compared with `unicapture.lut_table` after every call of the service. A table that loads
leaves its file open, and the next `service_init` clears the only pointer to it, so
`lut_balanced_iff` holds of the runs that never load one. -/

namespace HyperionWebos.LutOwnership
open Runs TraceMonitor ResourceLedger OwnedArray Pbnjson SettingsLoad Unicapture ServiceLoop
  ServiceSteps

inductive LutResource where
  | file
  | block (id : Nat)
deriving DecidableEq, Repr

def entry : LutAction → Entry LutResource
  | .fopen => .acquire .file
  | .fclose => .release .file
  | .malloc id => .acquire (.block id)
  | .free id => .release (.block id)

/-- What a sequence of LUT actions leaves held; `none` after a double free. -/
def heldAfter (lut : List LutAction) : Option (List LutResource) := ledger.after (lut.map entry)

/-- The only LUT block is the one the pointer names, and no handle is open. -/
def LutBalanced (s : Service) : Prop :=
  heldAfter s.capture.lut = some (s.capture.state.lutTable.toList.map .block)

inductive Call where
  | serviceInit (env : Env) (settings : Settings)
  | serviceDestroy (env : Env)
  | handle (e : Event)

def perform (s : Service) : Call → Except MemoryFault Service
  | .serviceInit env settings => .ok (serviceInit env settings s)
  | .serviceDestroy env => .ok (serviceDestroy env s).2
  | .handle e => step s e

/-- The LUT file is configured, opens, has the right length and is read to its end. -/
def ReadsWhole (file : LutFile) (path : String) : Prop :=
  path ≠ "" ∧ file.opens = true ∧ file.length = lutFileSize ∧ file.readBytes = file.length

def LoadsLut (s : Service) : Call → Prop
  | .serviceInit env settings => ReadsWhole env.lut settings.lutTable
  | .serviceDestroy _ => False
  | .handle e => ∃ payload, e.action = .setSettings payload ∧ jisNull payload = false ∧
    ReadsWhole e.env.lut (loadString payload "lut-table" s.settings.lutTable)

/-- The actions on LUT blocks and files, and the pointer they leave. -/
def lutBooks (c : Capture) : List LutAction × Option Nat := (c.lut, c.state.lutTable)

theorem reinit_lutBooks (ret : Side → Int) (side : Side) (c : Capture) :
    lutBooks (reinit ret side c) = lutBooks c := by
  unfold reinit
  split
  · dsimp only
    split <;> rfl
  · rfl

theorem runHead_lutBooks (ret : Side → Int) (c : Capture) :
    lutBooks (runHead ret c) = lutBooks c := by
  change lutBooks (reinit ret .video (reinit ret .ui c)) = _
  rw [reinit_lutBooks, reinit_lutBooks]

theorem attemptStart_lutBooks (it : Iteration) (side : Side) (lastStart : Side → UInt64)
    (c : Capture) : lutBooks (attemptStart it side lastStart c).2 = lutBooks c := by
  unfold attemptStart
  split
  · dsimp only
    split <;> rfl
  · rfl

theorem acquireUi_lutBooks (it : Iteration) (c : Capture) :
    lutBooks (acquireUi it c).2 = lutBooks c := by
  unfold acquireUi
  split
  · dsimp only
    split <;> rfl
  · rfl

theorem acquireVideo_lutBooks (it : Iteration) (c : Capture) :
    lutBooks (acquireVideo it c).2 = lutBooks c := by
  unfold acquireVideo
  split
  · dsimp only
    split
    · split <;> rfl
    · rfl
  · rfl

theorem release_lutBooks (side : Side) (format : PixelFormat) (c : Capture) :
    lutBooks (release side format c) = lutBooks c := by
  unfold release
  split <;> rfl

theorem runIteration_lutBooks (it : Iteration) (lastStart : Side → UInt64) (c : Capture) :
    lutBooks (runIteration it lastStart c) = lutBooks c := by
  unfold runIteration
  dsimp only
  change lutBooks (release .video _ (release .ui _ _)) = _
  rw [release_lutBooks, release_lutBooks, acquireVideo_lutBooks, acquireUi_lutBooks,
    attemptStart_lutBooks, attemptStart_lutBooks]

theorem terminateIfRunning_lutBooks (side : Side) (c : Capture) :
    lutBooks (terminateIfRunning side c) = lutBooks c := by
  unfold terminateIfRunning
  split <;> rfl

theorem cleanupIfInitialized_lutBooks (side : Side) (c : Capture) :
    lutBooks (cleanupIfInitialized side c) = lutBooks c := by
  unfold cleanupIfInitialized
  split <;> rfl

theorem runShutdown_lutBooks (c : Capture) : lutBooks (runShutdown c) = lutBooks c := by
  change lutBooks (cleanupIfInitialized .video (cleanupIfInitialized .ui (terminateIfRunning .video
    (terminateIfRunning .ui (setVsyncThreadRunning false c))))) = _
  rw [cleanupIfInitialized_lutBooks, cleanupIfInitialized_lutBooks, terminateIfRunning_lutBooks,
    terminateIfRunning_lutBooks]
  rfl

theorem captureStep_lutBooks (ret : Side → Int) (it : Iteration) (c : Capture) :
    lutBooks (captureStep ret it c) = lutBooks c := by
  unfold captureStep
  split
  · rfl
  · exact runHead_lutBooks ret c
  · split
    · exact runIteration_lutBooks it _ c
    · exact runShutdown_lutBooks c

theorem unicaptureStart_lutBooks (c : Capture) :
    lutBooks (unicaptureStart c).2 = lutBooks c := by
  unfold unicaptureStart
  split <;> rfl

theorem unicaptureStop_lutBooks (ret : Side → Int) (c : Capture) :
    lutBooks (unicaptureStop ret c).2 = lutBooks c := by
  unfold unicaptureStop
  split
  · rfl
  · change lutBooks (runToEnd ret { c with state := { c.state with running := false } }) = _
    unfold runToEnd
    split
    · rfl
    · rw [runShutdown_lutBooks, runHead_lutBooks]
      rfl
    · rw [runShutdown_lutBooks]
      rfl

theorem unicaptureInitBackend_lutBooks (load : String → LoadResult) (config : CapBackendConfig)
    (side : Side) (name : String) (c : Capture) :
    lutBooks (unicaptureInitBackend load config side name c).2 = lutBooks c := by
  unfold unicaptureInitBackend
  split
  · rfl
  · rfl
  · dsimp only
    split <;> rfl

theorem unicaptureTryBackends_lutBooks (load : String → LoadResult) (config : CapBackendConfig)
    (side : Side) (names : List String) (c : Capture) :
    lutBooks (unicaptureTryBackends load config side names c).2 = lutBooks c := by
  induction names generalizing c with
  | nil => rfl
  | cons name rest ih =>
    unfold unicaptureTryBackends
    dsimp only
    split
    · exact unicaptureInitBackend_lutBooks load config side name c
    · rw [ih, unicaptureInitBackend_lutBooks]

theorem selectBackend_lutBooks (load : String → LoadResult) (config : CapBackendConfig)
    (side : Side) (disabled : Bool) (backend : Option String) (candidates : List String)
    (c : Capture) :
    lutBooks (selectBackend load config side disabled backend candidates c) = lutBooks c := by
  have kept (b : Bool) (c : Capture) : lutBooks (c.setCapture side b) = lutBooks c := rfl
  unfold selectBackend
  dsimp only
  split
  · rfl
  · split
    · split
      · rw [kept, unicaptureTryBackends_lutBooks, kept]
      · rw [unicaptureTryBackends_lutBooks, kept]
    · split
      · rw [kept, unicaptureInitBackend_lutBooks, kept]
      · rw [unicaptureInitBackend_lutBooks, kept]

theorem serviceStart_lutBooks (env : Env) (s : Service) :
    lutBooks (serviceStart env s).2.capture = lutBooks s.capture := by
  rcases serviceStart_cases env s with ⟨_, eq⟩ | ⟨_, _, _, eq⟩ | ⟨_, _, eq⟩
  · rw [eq]
  · rw [eq]
    exact unicaptureStart_lutBooks s.capture
  · rw [eq, unicaptureStop_lutBooks, unicaptureStart_lutBooks]

theorem serviceStop_lutBooks (env : Env) (s : Service) :
    lutBooks (serviceStop env s).2.capture = lutBooks s.capture := by
  rcases serviceStop_cases env s with ⟨_, eq⟩ | ⟨_, _, eq⟩
  · rw [eq]
  · rw [eq]
    exact unicaptureStop_lutBooks env.reinit s.capture

theorem serviceDestroy_lutBooks (env : Env) (s : Service) :
    lutBooks (serviceDestroy env s).2.capture = lutBooks s.capture := by
  change lutBooks (cleanupIfInitialized .video (cleanupIfInitialized .ui
    (serviceStop env s).2.capture)) = _
  rw [cleanupIfInitialized_lutBooks, cleanupIfInitialized_lutBooks, serviceStop_lutBooks]

def loadBooks (file : LutFile) (path : String) (lut : List LutAction) :
    List LutAction × Option Nat :=
  if path = "" ∨ file.opens = false then (lut, none)
  else if file.length ≠ lutFileSize then (lut ++ [.fopen, .fclose], none)
  else if file.readBytes ≠ file.length then
    (lut ++ [.fopen, .malloc (lut.length + 1), .free (lut.length + 1), .fclose], none)
  else (lut ++ [.fopen, .malloc (lut.length + 1)], some (lut.length + 1))

theorem unicaptureLoadLutTable_lutBooks (file : LutFile) {c : Capture}
    (cleared : c.state.lutTable = none) :
    lutBooks (unicaptureLoadLutTable file c).2 =
      loadBooks file c.state.lutTableFile c.lut := by
  unfold unicaptureLoadLutTable loadBooks
  rw [cleared]
  dsimp only
  by_cases named : c.state.lutTableFile = ""
  · rw [if_pos named, if_pos (Or.inl named), lutBooks, cleared]
  rw [if_neg named]
  cases opened : file.opens with
  | false =>
    rw [if_pos (Or.inr rfl), if_pos Bool.not_false, lutBooks, cleared]
  | true =>
    rw [if_neg (not_or.mpr ⟨named, Bool.noConfusion⟩), if_neg (by decide)]
    split
    · simp [lutBooks, Capture.lutAction, cleared]
    · split
      · simp [lutBooks, Capture.lutAction, cleared]
      · simp [lutBooks, Capture.lutAction]

theorem clearedCapture_lutBooks (env : Env) (settings : Settings) (c : Capture) :
    lutBooks (clearedCapture env settings c) = loadBooks env.lut settings.lutTable c.lut :=
  unicaptureLoadLutTable_lutBooks env.lut rfl

theorem serviceInit_lutBooks (env : Env) (settings : Settings) (s : Service) :
    lutBooks (serviceInit env settings s).capture =
      loadBooks env.lut settings.lutTable s.capture.lut := by
  rw [serviceInit_capture, selectBackend_lutBooks, selectBackend_lutBooks,
    clearedCapture_lutBooks]

theorem heldAfter_loadBooks (file : LutFile) (path : String) {lut : List LutAction}
    (free : heldAfter lut = some []) :
    (ReadsWhole file path ∧ (loadBooks file path lut).2 = some (lut.length + 1) ∧
      heldAfter (loadBooks file path lut).1 = some [.block (lut.length + 1), .file]) ∨
    (¬ ReadsWhole file path ∧ (loadBooks file path lut).2 = none ∧
      heldAfter (loadBooks file path lut).1 = some []) := by
  have held (actions : List LutAction) :
      heldAfter (lut ++ actions) = ledger.readFrom [] (actions.map entry) := by
    unfold heldAfter at free ⊢
    rw [List.map_append, ledger.after_append free]
  unfold ReadsWhole loadBooks
  by_cases closed : path = "" ∨ file.opens = false
  · rw [if_pos closed]
    refine Or.inr ⟨fun whole => ?_, rfl, free⟩
    rcases closed with unnamed | shut
    · exact whole.1 unnamed
    · exact Bool.false_ne_true (shut.symm.trans whole.2.1)
  rw [if_neg closed]
  by_cases long : file.length = lutFileSize
  · rw [if_neg (not_not.mpr long)]
    by_cases read : file.readBytes = file.length
    · rw [if_neg (not_not.mpr read)]
      obtain ⟨named, opened⟩ := not_or.mp closed
      refine Or.inl ⟨⟨named, eq_true_of_ne_false opened, long, read⟩, rfl, ?_⟩
      simp [held, entry]
    · rw [if_pos read]
      refine Or.inr ⟨fun whole => read whole.2.2.2, rfl, ?_⟩
      simp [held, entry]
  · rw [if_pos long]
    refine Or.inr ⟨fun whole => long whole.2.2.1, rfl, ?_⟩
    simp [held, entry]

theorem settingsLoadJson_lutTable {settings loaded : Settings} {payload : JVal}
    (h : settingsLoadJson settings payload = .ok loaded) :
    loaded.lutTable = loadString payload "lut-table" settings.lutTable := by
  unfold settingsLoadJson settingsLoadJsonWith at h
  obtain ⟨hyperion, _, h⟩ := bind_eq_ok.mp h
  obtain ⟨apps, _, h⟩ := bind_eq_ok.mp h
  obtain ⟨_, _, h⟩ := bind_eq_ok.mp h
  cases h
  rfl

theorem serviceRestart_lutBooks (env : Env) (s : Service) :
    lutBooks (serviceRestart env s).capture =
      loadBooks env.lut s.settings.lutTable s.capture.lut := by
  have same : (serviceDestroy env s).2.capture.lut = s.capture.lut :=
    congrArg Prod.fst (serviceDestroy_lutBooks env s)
  rw [serviceRestart_eq]
  split
  · rw [serviceStart_lutBooks, serviceInit_lutBooks, same]
  · rw [serviceInit_lutBooks, same]

theorem step_lutBooks {s s' : Service} {e : Event} (h : step s e = .ok s')
    (other : ∀ payload, e.action ≠ .setSettings payload) :
    lutBooks s'.capture = lutBooks s.capture := by
  have same : lutBooks s.capture = lutBooks s.capture := rfl
  refine step_invariant (P := fun t => lutBooks t.capture = lutBooks s.capture)
    (fun _ _ _ _ _ here => here) ?_ ?_ ?_ ?_ h same
  · intro env t here
    rw [serviceStart_lutBooks, here]
  · intro env t here
    rw [serviceStop_lutBooks, here]
  · intro payload action
    exact absurd action (other payload)
  · intro it _ here
    rw [captureStep_lutBooks, here]

theorem setSettings_lutBooks {s s' : Service} {payload : JVal} {env : Env}
    (h : step s ⟨.setSettings payload, env⟩ = .ok s') (some_payload : jisNull payload = false) :
    lutBooks s'.capture =
      loadBooks env.lut (loadString payload "lut-table" s.settings.lutTable) s.capture.lut := by
  have loads : serviceMethodSetSettings payload env s = .ok s' := h
  unfold serviceMethodSetSettings at loads
  rw [some_payload] at loads
  obtain ⟨settings, loaded, done⟩ := bind_eq_ok.mp loads
  cases done
  rw [serviceRestart_lutBooks, settingsLoadJson_lutTable (settingsLoadJsonWith_ok loaded)]

theorem perform_lutBooks {s s' : Service} {call : Call} (h : perform s call = .ok s') :
    (¬ LoadsLut s call ∧ lutBooks s'.capture = lutBooks s.capture) ∨
      ∃ file path, (LoadsLut s call ↔ ReadsWhole file path) ∧
        lutBooks s'.capture = loadBooks file path s.capture.lut := by
  cases call with
  | serviceInit env settings =>
    cases h
    exact Or.inr ⟨env.lut, settings.lutTable, Iff.rfl, serviceInit_lutBooks env settings s⟩
  | serviceDestroy env =>
    cases h
    exact Or.inl ⟨id, serviceDestroy_lutBooks env s⟩
  | handle e =>
    by_cases sets : ∃ payload, e.action = .setSettings payload
    · obtain ⟨action, env⟩ := e
      obtain ⟨payload, rfl⟩ := sets
      cases null : jisNull payload with
      | true =>
        have same : step s ⟨.setSettings payload, env⟩ = .ok s := by
          simp only [step, serviceMethodSetSettings, null]
          rfl
        cases same.symm.trans h
        refine Or.inl ⟨?_, rfl⟩
        rintro ⟨_, ⟨⟩, some_payload, _⟩
        exact Bool.false_ne_true (some_payload.symm.trans null)
      | false =>
        refine Or.inr ⟨env.lut, loadString payload "lut-table" s.settings.lutTable, ⟨?_, ?_⟩,
          setSettings_lutBooks h null⟩
        · rintro ⟨_, ⟨⟩, _, whole⟩
          exact whole
        · intro whole
          exact ⟨payload, rfl, null, whole⟩
    · refine Or.inl ⟨?_, step_lutBooks h (not_exists.mp sets)⟩
      rintro ⟨payload, action, _⟩
      exact sets ⟨payload, action⟩

def NoLut (s : Service) : Prop :=
  heldAfter s.capture.lut = some [] ∧ s.capture.state.lutTable = none

theorem perform_noLut {s s' : Service} {call : Call} (here : NoLut s)
    (h : perform s call = .ok s') :
    (¬ LoadsLut s call → NoLut s') ∧ (LutBalanced s' ↔ ¬ LoadsLut s call) := by
  have balanced {t : Service} (none : NoLut t) : LutBalanced t := by
    rw [LutBalanced, none.1, none.2]
    rfl
  rcases perform_lutBooks h with ⟨quiet, same⟩ | ⟨file, path, loads, moved⟩
  · have kept : NoLut s' :=
      ⟨(congrArg heldAfter (congrArg Prod.fst same)).trans here.1,
        (congrArg Prod.snd same).trans here.2⟩
    exact ⟨fun _ => kept, iff_of_true (balanced kept) quiet⟩
  · have lut : s'.capture.lut = (loadBooks file path s.capture.lut).1 := congrArg Prod.fst moved
    have table : s'.capture.state.lutTable = (loadBooks file path s.capture.lut).2 :=
      congrArg Prod.snd moved
    rw [loads]
    rcases heldAfter_loadBooks file path here.1 with ⟨whole, named, held⟩ | ⟨failed, null, held⟩
    · refine ⟨fun quiet => absurd whole quiet, iff_of_false (fun law => ?_) (not_not.mpr whole)⟩
      rw [LutBalanced, lut, table, held, named] at law
      cases law
    · have kept : NoLut s' := ⟨lut ▸ held, table.trans null⟩
      exact ⟨fun _ => kept, iff_of_true (balanced kept) failed⟩

theorem throughout_lutBalanced {s : Service} (here : NoLut s) (calls : List Call) :
    Throughout perform (fun _ _ s' => LutBalanced s') s calls ↔
      Throughout perform (fun s call _ => ¬ LoadsLut s call) s calls := by
  have decided (s : Service) (call : Call) (s' : Service) (here : NoLut s)
      (h : perform s call = .ok s') : LutBalanced s' ↔ ¬ LoadsLut s call :=
    (perform_noLut here h).2
  have keeps (s : Service) (call : Call) (s' : Service) (here : NoLut s)
      (h : perform s call = .ok s') (law : LutBalanced s') : NoLut s' :=
    (perform_noLut here h).1 ((perform_noLut here h).2.mp law)
  exact throughout_congr decided keeps here

/-- The LUT's books balance after every call of a run exactly when no call loads a LUT. -/
theorem lut_balanced_iff (handle handleLegacy : Option Nat) (settings : Settings)
    (calls : List Call) :
    Throughout perform (fun _ _ s' => LutBalanced s') (zeroed handle handleLegacy settings)
        calls ↔
      Throughout perform (fun s call _ => ¬ LoadsLut s call) (zeroed handle handleLegacy settings)
        calls :=
  throughout_lutBalanced ⟨rfl, rfl⟩ calls

/-- A LUT loaded twice leaves two blocks and two open files, of which the pointer names
one block. -/
theorem lut_balanced_reloaded :
    ∃ s env, env = { calm with lut := ⟨true, lutFileSize, lutFileSize⟩ } ∧
      run perform (zeroed none none settingsInit)
        [.serviceInit env { settingsInit with lutTable := "/tmp/lut.3d" },
          .handle ⟨.setSettings (.object []), env⟩] = .ok s ∧
      s.capture.state.lutTable = some 3 ∧
      heldAfter s.capture.lut = some [.block 3, .file, .block 1, .file] ∧ ¬ LutBalanced s := by
  refine ⟨_, _, rfl, rfl, rfl, rfl, ?_⟩
  intro law
  cases law

end HyperionWebos.LutOwnership
