import HyperionWebos.Unicapture

/-! What the capture thread and the loading of a backend leave alone. Whatever they call,
they do not touch the backend pointers, `this->running` or the thread handles; those belong
to the main loop. -/

namespace HyperionWebos.CaptureThread
open Unicapture

structure Undisturbed (c c' : Capture) : Prop where
  capture : c'.state.capture = c.state.capture
  running : c'.state.running = c.state.running
  mainThread : c'.state.mainThread = c.state.mainThread
  threads : c'.threads = c.threads

namespace Undisturbed

theorem refl (c : Capture) : Undisturbed c c := ⟨rfl, rfl, rfl, rfl⟩

theorem trans {c c' c'' : Capture} (first : Undisturbed c c') (second : Undisturbed c' c'') :
    Undisturbed c c'' where
  capture := second.capture.trans first.capture
  running := second.running.trans first.running
  mainThread := second.mainThread.trans first.mainThread
  threads := second.threads.trans first.threads

end Undisturbed

theorem reinit_undisturbed (ret : Side → Int) (side : Side) (c : Capture) :
    Undisturbed c (reinit ret side c) := by
  rw [reinit]
  split
  · dsimp only
    split <;> exact ⟨rfl, rfl, rfl, rfl⟩
  · exact .refl c

theorem runHead_undisturbed (ret : Side → Int) (c : Capture) :
    Undisturbed c (runHead ret c) := by
  have inits : Undisturbed c (reinit ret .video (reinit ret .ui c)) :=
    (reinit_undisturbed ret .ui c).trans (reinit_undisturbed ret .video _)
  exact inits.trans ⟨rfl, rfl, rfl, rfl⟩

theorem attemptStart_undisturbed (it : Iteration) (side : Side) (lastStart : Side → UInt64)
    (c : Capture) : Undisturbed c (attemptStart it side lastStart c).2 := by
  rw [attemptStart]
  split
  · dsimp only
    split <;> exact ⟨rfl, rfl, rfl, rfl⟩
  · exact .refl c

theorem acquireUi_undisturbed (it : Iteration) (c : Capture) :
    Undisturbed c (acquireUi it c).2 := by
  rw [acquireUi]
  split
  · dsimp only
    split <;> exact ⟨rfl, rfl, rfl, rfl⟩
  · exact .refl c

theorem acquireVideo_undisturbed (it : Iteration) (c : Capture) :
    Undisturbed c (acquireVideo it c).2 := by
  rw [acquireVideo]
  split
  · dsimp only
    split
    · split <;> exact ⟨rfl, rfl, rfl, rfl⟩
    · exact ⟨rfl, rfl, rfl, rfl⟩
  · exact .refl c

theorem release_undisturbed (side : Side) (format : PixelFormat) (c : Capture) :
    Undisturbed c (release side format c) := by
  rw [release]
  split
  · exact ⟨rfl, rfl, rfl, rfl⟩
  · exact .refl c

theorem runIteration_undisturbed (it : Iteration) (lastStart : Side → UInt64) (c : Capture) :
    Undisturbed c (runIteration it lastStart c) := by
  have attempts : Undisturbed c (attemptStart it .video (attemptStart it .ui lastStart c).1
      (attemptStart it .ui lastStart c).2).2 :=
    (attemptStart_undisturbed it .ui lastStart c).trans (attemptStart_undisturbed it .video _ _)
  have acquires := (attempts.trans (acquireUi_undisturbed it _)).trans
    (acquireVideo_undisturbed it _)
  have releases (ui video : PixelFormat) := (acquires.trans (release_undisturbed .ui ui _)).trans
    (release_undisturbed .video video _)
  exact (releases _ _).trans ⟨rfl, rfl, rfl, rfl⟩

theorem terminateIfRunning_undisturbed (side : Side) (c : Capture) :
    Undisturbed c (terminateIfRunning side c) := by
  rw [terminateIfRunning]
  split
  · exact ⟨rfl, rfl, rfl, rfl⟩
  · exact .refl c

theorem cleanupIfInitialized_undisturbed (side : Side) (c : Capture) :
    Undisturbed c (cleanupIfInitialized side c) := by
  rw [cleanupIfInitialized]
  split
  · exact ⟨rfl, rfl, rfl, rfl⟩
  · exact .refl c

theorem runShutdown_undisturbed (c : Capture) : Undisturbed c (runShutdown c) := by
  have vsync : Undisturbed c (setVsyncThreadRunning false c) := ⟨rfl, rfl, rfl, rfl⟩
  have terminates := (vsync.trans (terminateIfRunning_undisturbed .ui _)).trans
    (terminateIfRunning_undisturbed .video _)
  have cleanups := (terminates.trans (cleanupIfInitialized_undisturbed .ui _)).trans
    (cleanupIfInitialized_undisturbed .video _)
  exact cleanups.trans ⟨rfl, rfl, rfl, rfl⟩

theorem captureStep_undisturbed (ret : Side → Int) (it : Iteration) (c : Capture) :
    Undisturbed c (captureStep ret it c) := by
  rw [captureStep]
  split
  · exact .refl c
  · exact runHead_undisturbed ret c
  · split
    · exact runIteration_undisturbed it _ c
    · exact runShutdown_undisturbed c

theorem runToEnd_undisturbed (ret : Side → Int) (c : Capture) :
    Undisturbed c (runToEnd ret c) := by
  rw [runToEnd]
  split
  · exact .refl c
  · exact (runHead_undisturbed ret c).trans (runShutdown_undisturbed _)
  · exact runShutdown_undisturbed c

theorem unicaptureLoadLutTable_undisturbed (file : LutFile) (c : Capture) :
    Undisturbed c (unicaptureLoadLutTable file c).2 := by
  rw [unicaptureLoadLutTable]
  cases c.state.lutTable with
  | none =>
    dsimp only
    repeat' split
    all_goals exact ⟨rfl, rfl, rfl, rfl⟩
  | some id =>
    dsimp only
    repeat' split
    all_goals exact ⟨rfl, rfl, rfl, rfl⟩

theorem unicaptureInitBackend_undisturbed (load : String → LoadResult) (config : CapBackendConfig)
    (side : Side) (name : String) (c : Capture) :
    Undisturbed c (unicaptureInitBackend load config side name c).2 := by
  rw [unicaptureInitBackend]
  split
  · exact .refl c
  · exact .refl c
  · dsimp only
    split <;> exact ⟨rfl, rfl, rfl, rfl⟩

theorem unicaptureTryBackends_undisturbed (load : String → LoadResult) (config : CapBackendConfig)
    (side : Side) (names : List String) (c : Capture) :
    Undisturbed c (unicaptureTryBackends load config side names c).2 := by
  induction names generalizing c with
  | nil => exact .refl c
  | cons name rest ih =>
    have init := unicaptureInitBackend_undisturbed load config side name c
    rw [unicaptureTryBackends]
    dsimp only
    split
    · exact init
    · exact init.trans (ih _)

theorem unicaptureStart_capture (c : Capture) :
    (unicaptureStart c).2.state.capture = c.state.capture := by
  rw [unicaptureStart]
  split <;> rfl

theorem unicaptureStop_capture (ret : Side → Int) (c : Capture) :
    (unicaptureStop ret c).2.state.capture = c.state.capture := by
  rw [unicaptureStop]
  split
  · rfl
  · exact (runToEnd_undisturbed ret _).capture

end HyperionWebos.CaptureThread
