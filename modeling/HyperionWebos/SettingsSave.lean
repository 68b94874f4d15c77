import HyperionWebos.ServiceLoop

/-! `settings_save_json`: the settings as the JSON object that the settings file and the
answer of `getSettings` hold. Strings and keys are created from their NUL-terminated
bytes; a backend name without a string is a null dereference. `Persisted` is what that
object is for: every field it keeps, the gains of each HDR type as maps. -/

namespace HyperionWebos.SettingsSave
open OwnedArray Pbnjson SettingsLoad ServiceLoop

def saveGain (_ : Nat) (a : HyperionAdjustment) (adjustmentJobj : JVal) :
    Except MemoryFault JVal :=
  .ok (jobjectSet adjustmentJobj (cstr a.name) (.number (jnumberCreateF64 a.gain)))

def saveAdjustment (_ : Nat) (a : HyperionAdjustments) (adjustmentsJobj : JVal) :
    Except MemoryFault JVal := do
  let adjustmentJobj ← a.adjustments.foldEach saveGain 0 a.adjustmentsCount (.object [])
  return jobjectSet adjustmentsJobj (cstr a.hdrType) adjustmentJobj

def saveInstance (i : Nat) (instanceId : Int) (instancesJarr : JVal) : Except MemoryFault JVal :=
  .ok (jarraySet instancesJarr i (.number (jnumberCreateI32 instanceId)))

def settingsHyperionSaveJson (h : Hyperion) (target : JVal) : Except MemoryFault JVal := do
  let adjustmentsJobj ← h.adjustments.foldEach saveAdjustment 0 h.adjustmentsCount (.object [])
  let instancesJarr ← h.instances.foldEach saveInstance 0 h.instancesCount (.array [])
  let hyperionBody := jobjectSet (.object []) "enabled" (.boolean h.hyperionAdjustments)
  let hyperionBody := jobjectSet hyperionBody "adjustments" adjustmentsJobj
  let hyperionBody := jobjectSet hyperionBody "instances" instancesJarr
  return jobjectSet target "hyperion" hyperionBody

def saveApp (i : Nat) (app : String) (apps : JVal) : Except MemoryFault JVal :=
  .ok (jarraySet apps i (jstringCreate app))

def saveAppList (a : Apps) (key : String) (target : JVal) : Except MemoryFault JVal := do
  let apps ← a.apps.foldEach saveApp 0 a.count (.array [])
  return jobjectSet target key apps

def settingsSaveApps (included excluded : Apps) (target : JVal) : Except MemoryFault JVal := do
  let target ← saveAppList included "included_apps" target
  saveAppList excluded "excluded_apps" target

def saveBackend (backend : Option String) (key : String) (target : JVal) :
    Except MemoryFault JVal := do
  let str ← deref backend
  return jobjectSet target key (jstringCreate str)

def settingsSaveJson (settings : Settings) (target : JVal) : Except MemoryFault JVal := do
  let target ← saveBackend settings.videoBackend "backend" target
  let target ← saveBackend settings.uiBackend "uibackend" target
  let target := jobjectSet target "address" (jstringCreate settings.address)
  let target := jobjectSet target "port" (.number (jnumberCreateI32 settings.port))
  let target := jobjectSet target "priority" (.number (jnumberCreateI32 settings.priority))
  let target := jobjectSet target "unix_socket" (.boolean settings.unixSocket)
  let target := jobjectSet target "lut-table" (jstringCreate settings.lutTable)
  let target := jobjectSet target "fps" (.number (jnumberCreateI32 settings.fps))
  let target := jobjectSet target "width" (.number (jnumberCreateI32 settings.width))
  let target := jobjectSet target "height" (.number (jnumberCreateI32 settings.height))
  let target := jobjectSet target "quirks" (.number (jnumberCreateI32 settings.quirks))
  let target := jobjectSet target "process_priority"
    (.number (jnumberCreateI32 settings.processPriority))
  let target := jobjectSet target "lumen_threshold"
    (.number (jnumberCreateI32 settings.lumenThreshold))
  let target ← settingsHyperionSaveJson settings.hyperion target
  let target ← settingsSaveApps settings.includedApps settings.excludedApps target
  let target := jobjectSet target "vsync" (.boolean settings.vsync)
  let target := jobjectSet target "novideo" (.boolean settings.noVideo)
  let target := jobjectSet target "nogui" (.boolean settings.noGui)
  let target := jobjectSet target "autostart" (.boolean settings.autostart)
  return jobjectSet target "notifications" (.boolean settings.notifications)

def serviceMethodGetSettings (s : Service) : Except MemoryFault JVal :=
  settingsSaveJson s.settings (jobjectSet (.object []) "returnValue" (.boolean true))

structure Persisted where
  videoBackend : Option String
  uiBackend : Option String
  address : String
  port : Int
  priority : Int
  unixSocket : Bool
  fps : Int
  width : Int
  height : Int
  hyperionAdjustments : Bool
  adjustments : String → Option (String → Option UInt64)
  instances : List Int
  includedApps : List String
  excludedApps : List String
  vsync : Bool
  quirks : Int
  processPriority : Int
  lumenThreshold : Int
  lutTable : String
  noVideo : Bool
  noGui : Bool
  autostart : Bool
  notifications : Bool

def gainMap (gains : List HyperionAdjustment) (name : String) : Option UInt64 :=
  (gains.map fun a => (a.name, a.gain)).lookup name

def gainsOf (a : HyperionAdjustments) : List HyperionAdjustment :=
  a.adjustments.contents a.adjustmentsCount

def adjustmentsOf (h : Hyperion) : List HyperionAdjustments :=
  h.adjustments.contents h.adjustmentsCount

def adjustmentView (a : HyperionAdjustments) : String × (String → Option UInt64) :=
  (a.hdrType, gainMap (gainsOf a))

def adjustmentMap (adjustments : List HyperionAdjustments) (hdrType : String) :
    Option (String → Option UInt64) :=
  (adjustments.map adjustmentView).lookup hdrType

def persisted (s : Settings) : Persisted where
  videoBackend := s.videoBackend
  uiBackend := s.uiBackend
  address := s.address
  port := s.port
  priority := s.priority
  unixSocket := s.unixSocket
  fps := s.fps
  width := s.width
  height := s.height
  hyperionAdjustments := s.hyperion.hyperionAdjustments
  adjustments := adjustmentMap (adjustmentsOf s.hyperion)
  instances := s.hyperion.instances.contents s.hyperion.instancesCount
  includedApps := s.includedApps.apps.contents s.includedApps.count
  excludedApps := s.excludedApps.apps.contents s.excludedApps.count
  vsync := s.vsync
  quirks := s.quirks
  processPriority := s.processPriority
  lumenThreshold := s.lumenThreshold
  lutTable := s.lutTable
  noVideo := s.noVideo
  noGui := s.noGui
  autostart := s.autostart
  notifications := s.notifications

end HyperionWebos.SettingsSave
