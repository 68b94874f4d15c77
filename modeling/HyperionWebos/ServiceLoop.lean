import HyperionWebos.JsonRpcClient
import HyperionWebos.Unicapture

/-! `service.c`: `service_t`, its start and stop, and the handlers that the main loop
runs one at a time between steps of the capture thread. What the system decides is the
`Env` of an event. `connected`, which only the connection thread and the status answer
use, the process priority and the files that `setSettings` writes are not part of this
state. -/

namespace HyperionWebos.ServiceLoop
open OwnedArray Pbnjson SettingsLoad Unicapture JsonRpcClient

structure Service where
  running : Bool
  powerPaused : Bool
  videoConnected : Bool
  lumenPaused : Bool
  capture : Capture
  settings : Settings
  connectionThread : Nat
  connectionLoopRunning : Bool
  handle : Option Nat
  handleLegacy : Option Nat
  rpc : Rpc
  toasts : List (Nat × String)

/-- Outcomes of one event: the creation of the connection thread, the re-inits of a
capture thread that has not begun, the backends' loading, the LUT file, the answers of
the lighting daemon, the word an unassigned local happens to hold and what a JSON iterator
yields that was never set. -/
structure Env where
  connectionCreated : Bool
  reinit : Side → Int
  load : Side → String → LoadResult
  lut : LutFile
  replies : Nat → Reply
  stackWord : Int
  unset : List (String × JVal)

def createToast (toast : String) (s : Service) : Service :=
  if s.powerPaused then s
  else { s with toasts := s.toasts ++ (s.handle.toList ++ s.handleLegacy.toList).map (·, toast) }

def toastIfWanted (toast : String) (s : Service) : Service :=
  if s.settings.notifications then createToast toast s else s

def serviceStart (env : Env) (s : Service) : Int × Service :=
  if s.running then (1, s)
  else
    let s := { s with running := true, capture := (unicaptureStart s.capture).2 }
    let s := { s with connectionLoopRunning := true }
    if env.connectionCreated then
      let id := s.capture.threads.length
      let s := { s with
        capture := s.capture.thread (.create .connection id), connectionThread := id }
      (0, toastIfWanted "Capture started" s)
    else
      (-1, { s with
        capture := (unicaptureStop env.reinit s.capture).2
        connectionLoopRunning := false
        running := false })

def serviceStop (env : Env) (s : Service) : Int × Service :=
  if !s.running then (1, s)
  else
    let s := { s with connectionLoopRunning := false }
    let s := { s with capture := (unicaptureStop env.reinit s.capture).2 }
    let s := { s with capture := s.capture.thread (.join s.connectionThread), running := false }
    (0, toastIfWanted "Capture stopped" s)

def uiBackends : List String := ["libgm_backend.so", "libhalgal_backend.so"]

def videoBackends : List String := ["libvtcapture_backend.so", "libdile_vt_backend.so"]

def filenameMax : Nat := 4096

/-- The characters whose bytes all lie among the first `n`. -/
def takeBytes : Nat → List Char → List Char
  | _, [] => []
  | n, c :: cs => if c.utf8Size ≤ n then c :: takeBytes (n - c.utf8Size) cs else []

/-- `snprintf` of the library name into `backend_name`, without the bytes that a character
which is cut in two leaves at its end. -/
def backendName (backend : String) : String :=
  String.ofList (takeBytes (filenameMax - 1) (backend ++ "_backend.so").toList)

def isAuto (backend : Option String) : Bool :=
  backend = none || backend = some "" || backend = some "auto"

/-- One half of the backend selection in `service_init`. -/
def selectBackend (load : String → LoadResult) (config : CapBackendConfig) (side : Side)
    (disabled : Bool) (backend : Option String) (candidates : List String) (c : Capture) :
    Capture :=
  let c := c.setCapture side false
  if disabled then c
  else
    let (ret, c) := if isAuto backend then unicaptureTryBackends load config side candidates c
      else unicaptureInitBackend load config side (backendName (backend.getD "")) c
    if ret = 0 then c.setCapture side true else c

def serviceInit (env : Env) (settings : Settings) (s : Service) : Service :=
  let config : CapBackendConfig :=
    ⟨settings.width, settings.height, settings.fps, settings.quirks⟩
  let c := unicaptureInit s.capture
  let c := { c with state := { c.state with
    vsync := settings.vsync
    fps := UInt32.ofInt settings.fps
    dumpFrames := settings.dumpFrames
    lutTableFile := settings.lutTable } }
  let c := (unicaptureLoadLutTable env.lut c).2
  let c := selectBackend (env.load .ui) config .ui settings.noGui settings.uiBackend uiBackends c
  let c := selectBackend (env.load .video) config .video settings.noVideo settings.videoBackend
    videoBackends c
  { s with settings := settings, capture := c }

def serviceDestroy (env : Env) (s : Service) : Int × Service :=
  let (ret, s) := serviceStop env s
  (ret, { s with
    capture := cleanupIfInitialized .video (cleanupIfInitialized .ui s.capture) })

def serviceMethodStartorstop (env : Env) (s : Service) : Service :=
  if s.running then (serviceStop env s).2 else (serviceStart env s).2

/-- The tail of `setSettings`, once the new settings are in place. -/
def serviceRestart (env : Env) (s : Service) : Service :=
  let (ret, s) := serviceDestroy env s
  if ret = 0 then (serviceStart env (serviceInit env s.settings s)).2
  else serviceInit env s.settings s

def serviceMethodSetSettings (parsed : JVal) (env : Env) (s : Service) :
    Except MemoryFault Service := do
  if jisNull parsed then return s
  let settings ← settingsLoadJsonWith env.unset s.settings parsed
  return serviceRestart env { s with settings := settings }

/-- A string function on the null pointer does not return. -/
def deref (str : Option String) : Except MemoryFault String :=
  match str with
  | some str => .ok str
  | none => .error .nullDereference

/-- The two tests of `power_callback`, of which at most one starts or stops. -/
def powerAct (targetState processing : Bool) (env : Env) (s : Service) : Service :=
  let s := if !s.running && targetState && s.powerPaused && !processing then
      let s := { s with powerPaused := false }
      if s.videoConnected || s.capture.state.capture .ui then (serviceStart env s).2 else s
    else s
  if s.running && !targetState && !s.powerPaused && !processing then
    (serviceStop env { s with powerPaused := true }).2
  else s

def powerCallback (parsed : JVal) (env : Env) (s : Service) : Except MemoryFault Service := do
  if jisNull parsed then return s
  let stateRef := jobjectGet parsed "state"
  if !jisValid stateRef then return s
  let stateStr ← deref (jstringGet stateRef)
  return powerAct (decide (stateStr = "Active")) (jobjectContainskey parsed "processing") env s

def strcasecmpEq (a b : String) : Bool := a.toList.map Char.toLower = b.toList.map Char.toLower

/-- The search of `hdr_callback`: `none` is a `def_adj` whose `hdr_type` is null. -/
def pickAdjustment (hdrType sHdrType : String) (hdrEnabled : Bool)
    (adjustments : Owned HyperionAdjustments) (i : Nat) :
    Nat → Option HyperionAdjustments → Except MemoryFault (Option HyperionAdjustments)
  | 0, defAdj => .ok defAdj
  | n + 1, defAdj => do
    let a ← adjustments.read i
    let defAdj := if hdrEnabled && defAdj.isNone && strcasecmpEq sHdrType a.hdrType then some a
      else defAdj
    let defAdj := if strcasecmpEq hdrType a.hdrType then some a else defAdj
    pickAdjustment hdrType sHdrType hdrEnabled adjustments (i + 1) n defAdj

def hdrCallback (hdrType : String) (hdrEnabled : Bool) (env : Env) (s : Service) :
    Except MemoryFault Service := do
  let address := if s.settings.unixSocket then "127.0.0.1" else s.settings.address
  let h := s.settings.hyperion
  let (_, rpc) := setHdrState env.replies address rpcPort hdrEnabled s.rpc
  let s := { s with rpc := rpc }
  if h.hyperionAdjustments then
    let sHdrType := if hdrEnabled then "hdr" else "sdr"
    match ← pickAdjustment hdrType sHdrType hdrEnabled h.adjustments 0 h.adjustmentsCount none with
    | some defAdj =>
      let (_, rpc) ← hyperionSetAdjustments env.replies address rpcPort defAdj h.instances
        h.instancesCount rpc
      return { s with rpc := rpc }
    | none => return s
  else return s

/-- The loop over `included_apps`, which looks at every entry. -/
def appIncluded (appid : Option String) (apps : Owned String) (i : Nat) :
    Nat → Bool → Except MemoryFault Bool
  | 0, shouldStart => .ok shouldStart
  | n + 1, shouldStart => do
    let id ← deref appid
    let app ← apps.read i
    appIncluded appid apps (i + 1) n (shouldStart || decide (id = app))

/-- The loop over `excluded_apps`, which ends at the first match. -/
def appNotExcluded (appid : Option String) (apps : Owned String) (i : Nat) :
    Nat → Except MemoryFault Bool
  | 0 => .ok true
  | n + 1 => do
    let id ← deref appid
    let app ← apps.read i
    if id = app then return false
    appNotExcluded appid apps (i + 1) n

def shouldStart (appid : Option String) (settings : Settings) : Except MemoryFault Bool :=
  if settings.includedApps.count > 0 then
    appIncluded appid settings.includedApps.apps 0 settings.includedApps.count false
  else if settings.excludedApps.count > 0 then
    appNotExcluded appid settings.excludedApps.apps 0 settings.excludedApps.count
  else .ok true

/-- The effect of a boolean `connected` on the capture. -/
def videoConnectedAct (connected : Bool) (appid : Option String) (env : Env) (s : Service) :
    Except MemoryFault Service := do
  let s := { s with videoConnected := connected }
  if !s.videoConnected && !s.capture.state.capture .ui then
    return (serviceStop env s).2
  else if ← shouldStart appid s.settings then
    return (serviceStart env s).2
  else
    return (serviceStop env s).2

def videooutputCallback (parsed : JVal) (env : Env) (s : Service) : Except MemoryFault Service := do
  if jisNull parsed then return s
  let videoRef := jobjectGet parsed "video"
  if jisNull videoRef then return s
  let video0Ref := jarrayGet videoRef 0
  if jisNull video0Ref then return s
  let appid := jstringGet (jobjectGet video0Ref "appId")
  let s ← match jobjectGet video0Ref "connected" with
    | .boolean connected => videoConnectedAct connected appid env s
    | _ => pure s
  match jstringGet (jobjectGet (jobjectGet video0Ref "videoInfo") "hdrType") with
  | none => return s
  | some hdrType => hdrCallback hdrType (decide (hdrType ≠ "none")) env s

def pictureCallback (parsed : JVal) (env : Env) (s : Service) : Except MemoryFault Service := do
  if jisNull parsed then return s
  match jstringGet (jobjectGet (jobjectGet parsed "dimension") "dynamicRange") with
  | none => return s
  | some dynamicRange => hdrCallback dynamicRange (decide (dynamicRange ≠ "sdr")) env s

def sensorAct (visibleLuminance : Int) (env : Env) (s : Service) : Service :=
  if s.settings.lumenThreshold = 0 then s
  else if s.powerPaused then s
  else if visibleLuminance > s.settings.lumenThreshold then
    if s.running && !s.lumenPaused then (serviceStop env { s with lumenPaused := true }).2 else s
  else
    if !s.running && s.lumenPaused then (serviceStart env { s with lumenPaused := false }).2 else s

/-- `visibleLuminance` keeps whatever its stack slot holds unless it is a number. -/
def sensorCallback (parsed : JVal) (env : Env) (s : Service) : Service :=
  if jisNull parsed then s
  else
    let sensorData := jobjectGet parsed "sensorData"
    if !jisValid sensorData then s
    else
      let visibleLuminance := match jobjectGet sensorData "visibleLuminance" with
        | .number n => n.i32
        | _ => env.stackWord
      sensorAct visibleLuminance env s

inductive Action where
  | start
  | stop
  | startorstop
  | setSettings (payload : JVal)
  | power (payload : JVal)
  | videooutput (payload : JVal)
  | picture (payload : JVal)
  | sensor (payload : JVal)
  | captureThread (it : Iteration)

structure Event where
  action : Action
  env : Env

def step (s : Service) (e : Event) : Except MemoryFault Service :=
  match e.action with
  | .start => .ok (serviceStart e.env s).2
  | .stop => .ok (serviceStop e.env s).2
  | .startorstop => .ok (serviceMethodStartorstop e.env s)
  | .setSettings payload => serviceMethodSetSettings payload e.env s
  | .power payload => powerCallback payload e.env s
  | .videooutput payload => videooutputCallback payload e.env s
  | .picture payload => pictureCallback payload e.env s
  | .sensor payload => .ok (sensorCallback payload e.env s)
  | .captureThread it => .ok { s with capture := captureStep e.env.reinit it s.capture }

/-- The zeroed global of `main`, with the bus handles `service_register` has filled in
and no request sent to the lighting daemon. -/
def zeroed (handle handleLegacy : Option Nat) (settings : Settings) : Service where
  running := false
  powerPaused := false
  videoConnected := false
  lumenPaused := false
  capture := zeroCapture
  settings := settings
  connectionThread := 0
  connectionLoopRunning := false
  handle := handle
  handleLegacy := handleLegacy
  rpc := ⟨.notSet, []⟩
  toasts := []

/-- `service_init` on the zeroed global, before the first event. -/
def boot (env : Env) (handle handleLegacy : Option Nat) (settings : Settings) : Service :=
  serviceInit env settings (zeroed handle handleLegacy settings)

end HyperionWebos.ServiceLoop
