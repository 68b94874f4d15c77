import Mathlib.Logic.Function.Basic

/-! `unicapture.c`: the two capture backends, the capture thread `unicapture_run` and its
start and stop. The thread is cut at `while (this->running)`: nothing the main loop
writes is read inside an iteration, so an iteration is one step. Calls into a backend,
thread operations and the LUT's blocks and file handles are logged in order. Frame
contents and the calls of the vsync thread are not part of this state. -/

namespace HyperionWebos.Unicapture

inductive Side where
  | ui
  | video
deriving DecidableEq, Repr

/-- A call into a backend with what it returned. -/
inductive BackendCall where
  | init (ret : Int)
  | cleanup
  | start (ret : Int)
  | terminate
  | acquireFrame (ret : Int)
  | releaseFrame
deriving DecidableEq, Repr

inductive ThreadKind where
  | capture
  | connection
deriving DecidableEq, Repr

inductive ThreadAction where
  | create (kind : ThreadKind) (id : Nat)
  | join (id : Nat)
  | memset
deriving DecidableEq, Repr

inductive LutAction where
  | fopen
  | fclose
  | malloc (id : Nat)
  | free (id : Nat)
deriving DecidableEq, Repr

inductive PixelFormat where
  | invalid
  | yuv420Planar
  | yuv420SemiPlanar
  | yuv420Interleaved
  | yuv422Planar
  | yuv422SemiPlanar
  | yuv422Interleaved
  | yuv444Planar
  | yuv444SemiPlanar
  | yuv444Interleaved
  | rgb
  | abgr
  | argb
deriving DecidableEq, Repr

structure Plane (β : Type) where
  buffer : β
  stride : Int
deriving DecidableEq, Repr

/-- `frame_info_t`, whose buffers are pointers to whatever stands for memory where a frame is
used. No backend fills in more than two planes. -/
structure FrameInfo (β : Type) where
  pixelFormat : PixelFormat
  width : Int
  height : Int
  plane0 : Plane β
  plane1 : Plane β
deriving DecidableEq, Repr

structure CapBackendConfig where
  resolutionWidth : Int
  resolutionHeight : Int
  fps : Int
  quirks : Int
deriving DecidableEq, Repr

structure CaptureBackend where
  name : Option String
  initialized : Bool
  config : CapBackendConfig

/-- `unicapture_state_t`. `capture side` says that `ui_capture` or `video_capture` is not
null; it then points at the backend of its own side. -/
structure UnicaptureState where
  capture : Side → Bool
  vsync : Bool
  fps : UInt32
  running : Bool
  mainThread : Nat
  captureRunning : Side → Bool
  vsyncThreadRunning : Bool
  dumpFrames : Bool
  lutTableFile : String
  lutTable : Option Nat

/-- How much of `unicapture_run` is still to run: nothing, everything, or the loop with
its local times of the last start attempts. -/
inductive RunPhase where
  | absent
  | created
  | looping (lastStart : Side → UInt64)

structure Capture where
  state : UnicaptureState
  backend : Side → CaptureBackend
  phase : RunPhase
  calls : List (Side × BackendCall)
  threads : List ThreadAction
  lut : List LutAction

def zeroState : UnicaptureState where
  capture := fun _ => false
  vsync := false
  fps := 0
  running := false
  mainThread := 0
  captureRunning := fun _ => false
  vsyncThreadRunning := false
  dumpFrames := false
  lutTableFile := ""
  lutTable := none

def zeroCapture : Capture where
  state := zeroState
  backend := fun _ => ⟨none, false, ⟨0, 0, 0, 0⟩⟩
  phase := .absent
  calls := []
  threads := []
  lut := []

namespace Capture

def call (side : Side) (b : BackendCall) (c : Capture) : Capture :=
  { c with calls := c.calls ++ [(side, b)] }

def setInitialized (side : Side) (b : Bool) (c : Capture) : Capture :=
  { c with backend := Function.update c.backend side { c.backend side with initialized := b } }

def setCapture (side : Side) (b : Bool) (c : Capture) : Capture :=
  { c with state := { c.state with capture := Function.update c.state.capture side b } }

def setCaptureRunning (side : Side) (b : Bool) (c : Capture) : Capture :=
  { c with state :=
    { c.state with captureRunning := Function.update c.state.captureRunning side b } }

def thread (a : ThreadAction) (c : Capture) : Capture := { c with threads := c.threads ++ [a] }

def lutAction (a : LutAction) (c : Capture) : Capture := { c with lut := c.lut ++ [a] }

end Capture

/-- What the loader and the backend's own `capture_init` answer for one candidate. -/
inductive LoadResult where
  | dlopenFailed
  | dlsymFailed
  | loaded (ret : Int)
deriving DecidableEq, Repr

def unicaptureInitBackend (load : String → LoadResult) (config : CapBackendConfig) (side : Side)
    (name : String) (c : Capture) : Int × Capture :=
  match load name with
  | .dlopenFailed => (-1, c)
  | .dlsymFailed => (-2, c)
  | .loaded ret =>
    let c := c.call side (.init ret)
    if ret = 0 then
      (0, { c with backend := Function.update c.backend side ⟨some name, true, config⟩ })
    else (ret, c)

def unicaptureTryBackends (load : String → LoadResult) (config : CapBackendConfig) (side : Side) :
    List String → Capture → Int × Capture
  | [], c => (-1, c)
  | name :: rest, c =>
    let (ret, c) := unicaptureInitBackend load config side name c
    if ret = 0 then (0, c) else unicaptureTryBackends load config side rest c

def lutFileSize : Nat := 256 * 256 * 256 * 3

/-- The LUT file as `fopen`, `ftell` and `fread` report it. -/
structure LutFile where
  opens : Bool
  length : Nat
  readBytes : Nat
deriving DecidableEq, Repr

/-- The `memset` also drops the LUT pointer and, until `service_init` stores it again,
the LUT path. -/
def unicaptureInit (c : Capture) : Capture :=
  { c.thread .memset with state := { zeroState with vsync := true, lutTable := none } }

def unicaptureLoadLutTable (file : LutFile) (c : Capture) : Int × Capture :=
  let c := match c.state.lutTable with
    | some id => { c.lutAction (.free id) with state := { c.state with lutTable := none } }
    | none => c
  if c.state.lutTableFile = "" then (1, c)
  else if !file.opens then (1, c)
  else
    let c := c.lutAction .fopen
    if file.length ≠ lutFileSize then (1, c.lutAction .fclose)
    else
      let id := c.lut.length
      let c := c.lutAction (.malloc id)
      if file.readBytes ≠ file.length then (1, (c.lutAction (.free id)).lutAction .fclose)
      else (0, { c with state := { c.state with lutTable := some id } })

/-- Outcomes of one iteration of `unicapture_run`: the clock, the return codes of the
calls the iteration may make and the pixel format an acquired frame carries. -/
structure Iteration where
  now : UInt64
  start : Side → Int
  acquire : Side → Int
  format : Side → PixelFormat

def reinit (ret : Side → Int) (side : Side) (c : Capture) : Capture :=
  if c.state.capture side && !(c.backend side).initialized then
    let c := c.call side (.init (ret side))
    if ret side = 0 then c.setInitialized side true else c
  else c

def setVsyncThreadRunning (b : Bool) (c : Capture) : Capture :=
  { c with state := { c.state with vsyncThreadRunning := b } }

/-- `unicapture_run` up to its loop. -/
def runHead (ret : Side → Int) (c : Capture) : Capture :=
  let c := reinit ret .video (reinit ret .ui c)
  { setVsyncThreadRunning true c with phase := .looping fun _ => 0 }

/-- The retry gate: over a second since this side's last attempt, wrapping. -/
def gateOpen (side : Side) (now : UInt64) (lastStart : Side → UInt64) (c : Capture) : Bool :=
  decide (now - lastStart side > 1000000) && c.state.capture side && !c.state.captureRunning side

def attemptStart (it : Iteration) (side : Side) (lastStart : Side → UInt64) (c : Capture) :
    (Side → UInt64) × Capture :=
  if gateOpen side it.now lastStart c then
    let c := c.call side (.start (it.start side))
    (Function.update lastStart side it.now,
      if it.start side = 0 then c.setCaptureRunning side true else c)
  else (lastStart, c)

def acquireUi (it : Iteration) (c : Capture) : PixelFormat × Capture :=
  if c.state.captureRunning .ui then
    let c := c.call .ui (.acquireFrame (it.acquire .ui))
    if it.acquire .ui ≠ 0 then (.invalid, c) else (it.format .ui, c)
  else (.invalid, c)

/-- Unlike the UI side, `-99` from the video backend stops the capture. -/
def acquireVideo (it : Iteration) (c : Capture) : PixelFormat × Capture :=
  if c.state.captureRunning .video then
    let c := c.call .video (.acquireFrame (it.acquire .video))
    if it.acquire .video ≠ 0 then
      if it.acquire .video = -99 then
        (.invalid, (c.call .video .terminate).setCaptureRunning .video false)
      else (.invalid, c)
    else (it.format .video, c)
  else (.invalid, c)

def release (side : Side) (format : PixelFormat) (c : Capture) : Capture :=
  if format ≠ .invalid then c.call side .releaseFrame else c

def runIteration (it : Iteration) (lastStart : Side → UInt64) (c : Capture) : Capture :=
  let (lastStart, c) := attemptStart it .ui lastStart c
  let (lastStart, c) := attemptStart it .video lastStart c
  let (uiFormat, c) := acquireUi it c
  let (videoFormat, c) := acquireVideo it c
  let c := release .ui uiFormat c
  let c := release .video videoFormat c
  { c with phase := .looping lastStart }

def terminateIfRunning (side : Side) (c : Capture) : Capture :=
  if c.state.captureRunning side then (c.call side .terminate).setCaptureRunning side false else c

/-- The cleanup block that `unicapture_run` and `service_destroy` share. -/
def cleanupIfInitialized (side : Side) (c : Capture) : Capture :=
  if c.state.capture side && (c.backend side).initialized then
    (c.call side .cleanup).setInitialized side false
  else c

/-- `unicapture_run` after its loop. -/
def runShutdown (c : Capture) : Capture :=
  let c := setVsyncThreadRunning false c
  let c := terminateIfRunning .video (terminateIfRunning .ui c)
  let c := cleanupIfInitialized .video (cleanupIfInitialized .ui c)
  { c with phase := .absent }

/-- The capture thread runs until its next look at `this->running`. -/
def captureStep (ret : Side → Int) (it : Iteration) (c : Capture) : Capture :=
  match c.phase with
  | .absent => c
  | .created => runHead ret c
  | .looping lastStart => if c.state.running then runIteration it lastStart c else runShutdown c

/-- What is left of the thread once `this->running` is false. -/
def runToEnd (ret : Side → Int) (c : Capture) : Capture :=
  match c.phase with
  | .absent => c
  | .created => runShutdown (runHead ret c)
  | .looping _ => runShutdown c

def unicaptureStart (c : Capture) : Int × Capture :=
  if c.state.running then (1, c)
  else
    let id := c.threads.length
    let c := { c with state := { c.state with running := true, mainThread := id } }
    (0, { c.thread (.create .capture id) with phase := .created })

def unicaptureStop (ret : Side → Int) (c : Capture) : Int × Capture :=
  if !c.state.running then (1, c)
  else
    let c := { c with state := { c.state with running := false } }
    (0, (runToEnd ret c).thread (.join c.state.mainThread))

end HyperionWebos.Unicapture
