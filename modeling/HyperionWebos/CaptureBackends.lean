import HyperionWebos.NativeCalls
import HyperionWebos.Unicapture

/-! The four capture backends that are built, at the grain of what they hold: what
`capture_init`, `capture_start`, `capture_terminate` and `capture_cleanup` take from the
vendor libraries and from the kernel, and give back. What each native call answers comes
with the call; `calloc` succeeds. A handle that no call filled in is 0, as `calloc` left
it, and `HAL_GAL_Init` hands out none. -/

namespace HyperionWebos.CaptureBackends
open NativeCalls
open Unicapture (CapBackendConfig)

inductive Kind where
  | block
  | context
  | driver
  | client
  | preprocess
  | process
  | running
  | surface
  | descriptor
  | mapping
deriving DecidableEq, Repr

def hasQuirk (quirks : Int) (flag : BitVec 32) : Bool := BitVec.ofInt 32 quirks &&& flag == flag

/-- A backend's entry points. `captureInit` returns its `ret` and what it stored in
`*state_p`, `none` where it leaves `*state_p` alone. -/
structure Backend where
  Outcomes : Type
  StartOutcomes : Type
  State : Type
  block : State → Nat
  captureInit : CapBackendConfig → Outcomes → Native Kind (Int × Option State)
  captureStart : StartOutcomes → State → Native Kind (Int × State)
  captureTerminate : State → Native Kind (Int × State)
  captureCleanup : State → Native Kind Int

namespace LibGm

structure State where
  block : Nat
  width : Int
  height : Int
  surfaceInfo : Nat
deriving DecidableEq, Repr

/-- `outcome` is what `GM_CreateSurface` returns. -/
def captureInit (config : CapBackendConfig) (outcome : Int) :
    Native Kind (Int × Option State) := do
  let block ← acquire .block
  if outcome ≠ 0 then
    release .block block
    return (outcome, none)
  let surface ← acquire .surface
  return (0, some ⟨block, config.resolutionWidth, config.resolutionHeight, surface⟩)

def captureCleanup (state : State) : Native Kind Int := do
  release .surface state.surfaceInfo
  release .block state.block
  return 0

def captureStart (_ : Unit) (state : State) : Native Kind (Int × State) := return (0, state)

def captureTerminate (state : State) : Native Kind (Int × State) := return (0, state)

end LibGm

namespace LibHalGal

structure Outcomes where
  getuid : Nat
  init : Int
  createSurface : Int
  captureFrameBuffer : Int
  openGfx : Bool
  property : Nat
  pitch : Nat
  surfaceHeight : Nat
  mmap : Bool
deriving DecidableEq, Repr

structure State where
  block : Nat
  width : Int
  height : Int
  surfaceInfo : Nat
  numBytes : Nat
  memAddr : Nat
  memFd : Nat
deriving DecidableEq, Repr

def errDestroy (this : State) (ret : Int) : Native Kind (Int × Option State) := do
  release .surface this.surfaceInfo
  release .block this.block
  return (ret, none)

def errMmap (this : State) (ret : Int) : Native Kind (Int × Option State) := do
  release .descriptor this.memFd
  errDestroy this ret

def captureInit (config : CapBackendConfig) (o : Outcomes) :
    Native Kind (Int × Option State) := do
  let block ← acquire .block
  let this : State := ⟨block, config.resolutionWidth, config.resolutionHeight, 0, 0, 0, 0⟩
  if o.getuid ≠ 0 then
    return (-1, none)
  if o.init ≠ 0 then
    return ← errDestroy this (-1)
  if o.createSurface ≠ 0 then
    return ← errDestroy this (-2)
  let surface ← acquire .surface
  let this := { this with surfaceInfo := surface }
  if o.captureFrameBuffer ≠ 0 then
    return ← errDestroy this (-3)
  if o.openGfx = false then
    return ← errDestroy this (-4)
  let fd ← acquire .descriptor
  let numBytes := if o.property = 0 then o.pitch * o.surfaceHeight else o.property
  let this := { this with memFd := fd, numBytes := numBytes }
  if o.mmap = false then
    return ← errMmap this (-5)
  let addr ← acquire .mapping
  return (0, some { this with memAddr := addr })

def captureCleanup (this : State) : Native Kind Int := do
  release .surface this.surfaceInfo
  release .mapping this.memAddr
  release .descriptor this.memFd
  release .block this.block
  return 0

def captureStart (_ : Unit) (this : State) : Native Kind (Int × State) := return (0, this)

def captureTerminate (this : State) : Native Kind (Int × State) := return (0, this)

end LibHalGal

namespace LibVtCapture

inductive Create where
  | runtimeError
  | null
  | driver
deriving DecidableEq, Repr

structure StartOutcomes where
  init : Int
  openForceCapture : Bool
  preprocess : Int
  planeInfo : Int
  planeWidth : Int
  planeHeight : Int
  stride : Int
  process : Int
deriving DecidableEq, Repr

structure Properties where
  frm : Int
  dump : Nat
  width : Int
  height : Int
  bufCnt : Nat
deriving DecidableEq, Repr

/-- The client is one name for three things: `vtCapture_init` opens it, and
`vtCapture_preprocess` and `vtCapture_process` take theirs under it. -/
structure State where
  block : Nat
  width : Int
  height : Int
  stride : Int
  driver : Nat
  client : Nat
  props : Properties
  terminate : Bool
  quirkForceCapture : Bool
deriving DecidableEq, Repr

def errDestroy (self : State) (ret : Int) : Native Kind (Int × Option State) := do
  if self.driver ≠ 0 then
    release .driver self.driver
  release .block self.block
  return (ret, none)

/-- `ret` is still 0 when `vtCapture_create` throws. -/
def captureInit (config : CapBackendConfig) (create : Create) :
    Native Kind (Int × Option State) := do
  let block ← acquire .block
  let self : State := ⟨block, 0, 0, 0, 0, 0, ⟨0, 0, 0, 0, 0⟩, false, false⟩
  match create with
  | .runtimeError => errDestroy self 0
  | .null => errDestroy self (-1)
  | .driver =>
    let driver ← acquire .driver
    return (0, some { self with
      driver := driver
      props := {
        frm := if config.fps = 0 then 60 else config.fps
        dump := if hasQuirk config.quirks 0x200 then 1 else 2
        width := config.resolutionWidth
        height := config.resolutionHeight
        bufCnt := 3 }
      quirkForceCapture := hasQuirk config.quirks 0x100 })

def captureCleanup (self : State) : Native Kind Int := do
  release .preprocess self.client
  release .client self.client
  release .driver self.driver
  release .block self.block
  return 0

def forceCapture (o : StartOutcomes) (self : State) : Native Kind Unit := do
  if self.quirkForceCapture && o.openForceCapture then
    let fd ← acquire .descriptor
    release .descriptor fd

def captureStart (o : StartOutcomes) (self : State) : Native Kind (Int × State) := do
  if o.init = 17 then
    forceCapture o self
    return (-2, self)
  if o.init = 11 then
    return (-3, self)
  if o.init ≠ 0 then
    return (-4, self)
  let client ← acquire .client
  let self := { self with client := client }
  if o.preprocess ≠ 0 then
    release .client self.client
    return (if o.preprocess = 1 then -5 else -6, self)
  acquireAs .preprocess self.client
  if o.planeInfo ≠ 0 then
    release .preprocess self.client
    release .client self.client
    return (-7, self)
  let self := { self with
    width := o.planeWidth
    height := o.planeHeight
    stride := o.stride
    terminate := false }
  if o.process ≠ 0 then
    release .process self.client
    release .preprocess self.client
    release .client self.client
    return (-1, self)
  acquireAs .process self.client
  return (0, self)

def captureTerminate (self : State) : Native Kind (Int × State) := do
  release .process self.client
  release .preprocess self.client
  release .client self.client
  return (0, { self with terminate := true })

end LibVtCapture

namespace LibDileVt

inductive DumpLocation where
  | scaler
  | display
  | undocumented2
deriving DecidableEq, Repr

structure Outcomes where
  create : Bool
  createEx : Bool
  limitation : Int
  dumpLocation : DumpLocation → Int
  outputRegion : DumpLocation → Int
  framerateDivide : Int
  freezed : Int
  capability : Int
  numVfbs : Nat
  numPlanes : Nat
  allProperties : Int
  openMem : Bool
  mmap : Nat → Nat → Bool

structure State where
  block : Nat
  vth : Nat
  framerate : Int
  ptr : Nat
  vfbs : Nat
  memFd : Nat
  noFreezeToAcquireFrame : Bool
deriving DecidableEq, Repr

/-- Whether `DILE_VT_CreateEx` or `DILE_VT_Create` returns a context. -/
def createsContext (config : CapBackendConfig) (o : Outcomes) : Bool :=
  if hasQuirk config.quirks 0x1 then o.createEx else o.create

def dumpLocation (config : CapBackendConfig) (o : Outcomes) : Option DumpLocation :=
  if hasQuirk config.quirks 0x4 then
    if o.dumpLocation .undocumented2 ≠ 0 then none else some .undocumented2
  else if o.dumpLocation .display ≠ 0 then
    if o.dumpLocation .scaler ≠ 0 then none else some .scaler
  else some .display

/-- The calls on the context between `calloc` and the offsets table; they take nothing. -/
def configureOutput (config : CapBackendConfig) (o : Outcomes) : Int :=
  if o.limitation ≠ 0 then -11
  else match dumpLocation config o with
    | none => -2
    | some location =>
      if o.outputRegion location ≠ 0 then -3
      else if o.framerateDivide ≠ 0 then -4
      else if o.freezed ≠ 0 then -5
      else if o.capability ≠ 0 then -9
      else 0

def callocRows : Nat → Native Kind Unit
  | 0 => return ()
  | vfbs + 1 => do
    let _ ← acquire .block
    callocRows vfbs

/-- The loop over the planes of one buffer; false after `MAP_FAILED`. -/
def mapPlanes (mmap : Nat → Bool) : List Nat → Native Kind Bool
  | [] => return true
  | plane :: planes =>
    if mmap plane then do
      let _ ← acquire .mapping
      mapPlanes mmap planes
    else return false

def mapVfbs (mmap : Nat → Nat → Bool) (planes : List Nat) : List Nat → Native Kind Bool
  | [] => return true
  | vfb :: vfbs => do
    let _ ← acquire .block
    if ← mapPlanes (mmap vfb) planes then mapVfbs mmap planes vfbs else return false

def errDestroy (this : State) (ret : Int) : Native Kind (Int × Option State) := do
  release .context this.vth
  release .block this.block
  return (ret, some this)

def errMmap (this : State) (ret : Int) : Native Kind (Int × Option State) := do
  release .descriptor this.memFd
  errDestroy this ret

/-- `*state_p` is set before the first call that can fail and not reset by one that does. -/
def captureInit (config : CapBackendConfig) (o : Outcomes) :
    Native Kind (Int × Option State) := do
  if createsContext config o = false then
    return (-1, none)
  let vth ← acquire .context
  let block ← acquire .block
  let framerate := if config.fps = 0 then 1 else Int.tdiv 60 config.fps
  let this : State := ⟨block, vth, framerate, 0, 0, 0, false⟩
  if configureOutput config o ≠ 0 then
    return ← errDestroy this (configureOutput config o)
  let ptr ← acquire .block
  callocRows o.numVfbs
  let this := { this with ptr := ptr }
  if o.allProperties ≠ 0 then
    return ← errDestroy this (-10)
  if o.openMem = false then
    return ← errDestroy this (-6)
  let fd ← acquire .descriptor
  let vfbs ← acquire .block
  let this := { this with memFd := fd, vfbs := vfbs }
  if (← mapVfbs o.mmap (List.range o.numPlanes) (List.range o.numVfbs)) = false then
    return ← errMmap this (-7)
  return (0, some { this with noFreezeToAcquireFrame := hasQuirk config.quirks 0x2 })

def captureCleanup (this : State) : Native Kind Int := do
  release .context this.vth
  release .block this.block
  return 0

/-- `outcome` is what `DILE_VT_Start` returns. -/
def captureStart (outcome : Int) (this : State) : Native Kind (Int × State) := do
  if outcome ≠ 0 then
    return (-1, this)
  acquireAs .running this.vth
  return (0, this)

def captureTerminate (this : State) : Native Kind (Int × State) := do
  release .running this.vth
  return (0, this)

end LibDileVt

inductive Shipped where
  | libdileVt
  | libvtcapture
  | libgm
  | libhalgal
deriving DecidableEq, Repr

def Shipped.backend : Shipped → Backend
  | .libdileVt => ⟨LibDileVt.Outcomes, Int, LibDileVt.State, LibDileVt.State.block,
      LibDileVt.captureInit, LibDileVt.captureStart, LibDileVt.captureTerminate,
      LibDileVt.captureCleanup⟩
  | .libvtcapture => ⟨LibVtCapture.Create, LibVtCapture.StartOutcomes, LibVtCapture.State,
      LibVtCapture.State.block, LibVtCapture.captureInit, LibVtCapture.captureStart,
      LibVtCapture.captureTerminate, LibVtCapture.captureCleanup⟩
  | .libgm => ⟨Int, Unit, LibGm.State, LibGm.State.block, LibGm.captureInit,
      LibGm.captureStart, LibGm.captureTerminate, LibGm.captureCleanup⟩
  | .libhalgal => ⟨LibHalGal.Outcomes, Unit, LibHalGal.State, LibHalGal.State.block,
      LibHalGal.captureInit, LibHalGal.captureStart, LibHalGal.captureTerminate,
      LibHalGal.captureCleanup⟩

end HyperionWebos.CaptureBackends
