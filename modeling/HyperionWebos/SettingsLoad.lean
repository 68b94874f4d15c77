import HyperionWebos.OwnedArray
import HyperionWebos.Pbnjson

/-! `settings_t` and its loader. Counted arrays keep the pointer as an `Owned` array
next to the count the C code stores, so a loader that frees, forgets or overcounts
shows as a fault of the run. Blocks that are only leaked (`hdr_type`, the inner gain
arrays, replaced instance lists) are never looked at again and leave no trace. -/

namespace HyperionWebos.SettingsLoad
open Runs OwnedArray Pbnjson

structure HyperionAdjustment where
  name : String
  gain : UInt64
deriving DecidableEq, Repr

structure HyperionAdjustments where
  hdrType : String
  adjustments : Owned HyperionAdjustment
  adjustmentsCount : Nat
deriving DecidableEq, Repr

structure Hyperion where
  hyperionAdjustments : Bool
  adjustments : Owned HyperionAdjustments
  adjustmentsCount : Nat
  instances : Owned Int
  instancesCount : Nat
deriving DecidableEq, Repr

structure Apps where
  count : Nat
  apps : Owned String
deriving DecidableEq, Repr

structure Settings where
  videoBackend : Option String
  uiBackend : Option String
  address : String
  port : Int
  priority : Int
  unixSocket : Bool
  fps : Int
  width : Int
  height : Int
  hyperion : Hyperion
  includedApps : Apps
  excludedApps : Apps
  vsync : Bool
  quirks : Int
  processPriority : Int
  lumenThreshold : Int
  lutTable : String
  noVideo : Bool
  noGui : Bool
  autostart : Bool
  notifications : Bool
  dumpFrames : Bool
deriving DecidableEq, Repr

/-- `settings_init` on the zeroed global. -/
def settingsInit : Settings where
  uiBackend := some "auto"
  videoBackend := some "auto"
  address := ""
  port := 19400
  priority := 150
  unixSocket := false
  fps := 30
  width := 320
  height := 180
  quirks := 0
  hyperion := ⟨false, .null, 0, .null, 0⟩
  includedApps := ⟨0, .null⟩
  excludedApps := ⟨0, .null⟩
  lutTable := ""
  noVideo := false
  noGui := false
  autostart := false
  notifications := false
  lumenThreshold := 500
  processPriority := 0
  vsync := true
  dumpFrames := false

def loadI32 (source : JVal) (key : String) (old : Int) : Int :=
  match jobjectGet source key with
  | .number n => n.i32
  | _ => old

def loadBool (source : JVal) (key : String) (old : Bool) : Bool :=
  match jobjectGet source key with
  | .boolean b => b
  | _ => old

def loadString (source : JVal) (key : String) (old : String) : String :=
  (jstringGet (jobjectGet source key)).getD old

def nothing {α : Type} (_ : α) : Except MemoryFault Unit := .ok ()

/-- Free the counted entries of one HDR type; its gain array itself is leaked. -/
def freeAdjustment (a : HyperionAdjustments) : Except MemoryFault Unit := do
  let _ ← a.adjustments.releaseEach nothing 0 a.adjustmentsCount

/-- The inner loop over `kvmap`: cell `i` advances only at a number. -/
def loadKvmap : List (String × JVal) → Nat → Owned HyperionAdjustment →
    Except MemoryFault (Owned HyperionAdjustment)
  | [], _, kvmap => .ok kvmap
  | (key, .number n) :: rest, i, kvmap => do
    let kvmap ← kvmap.store i ⟨cstr key, n.f64⟩
    let _ ← kvmap.read i
    loadKvmap rest (i + 1) kvmap
  | _ :: rest, i, kvmap => loadKvmap rest i kvmap

/-- The outer loop: cell `j` advances only at an object, whose count is its JSON size. -/
def loadAdjustments : List (String × JVal) → Nat → Owned HyperionAdjustments →
    Except MemoryFault (Owned HyperionAdjustments × Nat)
  | [], j, adjustments => .ok (adjustments, j)
  | (key, .object members) :: rest, j, adjustments => do
    let kvmap ← loadKvmap members 0 (.malloc members.length)
    let adjustments ← adjustments.store j ⟨cstr key, kvmap, members.length⟩
    loadAdjustments rest (j + 1) adjustments
  | _ :: rest, j, adjustments => loadAdjustments rest j adjustments

/-- `jnumber_get_i32` into cell `i`, which keeps its zero at anything but a number. -/
def loadInstance (instances : Owned Int) (i : Nat) : JVal → Except MemoryFault (Owned Int)
  | .number n => instances.store i n.i32
  | _ => .ok instances

def loadInstances : List JVal → Nat → Owned Int → Except MemoryFault (Owned Int)
  | [], _, instances => .ok instances
  | item :: rest, i, instances => do
    let instances ← loadInstance instances i item
    let _ ← instances.read i
    loadInstances rest (i + 1) instances

def dumpAdjustment (a : HyperionAdjustments) : Except MemoryFault Unit :=
  a.adjustments.readEach nothing 0 a.adjustmentsCount

/-- The debug loops that print every counted adjustment. -/
def dumpAdjustments (h : Hyperion) : Except MemoryFault Unit :=
  h.adjustments.readEach dumpAdjustment 0 h.adjustmentsCount

/-- What `jobject_iter_next` goes through. `jobject_iter_init` fails on anything but an object
and leaves the iterator as it was; such an iterator yields `unset`. -/
def iteratedMembers (unset : List (String × JVal)) : JVal → List (String × JVal)
  | .object members => members
  | _ => unset

/-- The `adjustments` of a `hyperion` object, in a block of their JSON size. -/
def loadAdjustmentsMember (unset : List (String × JVal)) (value2 : JVal) :
    Except MemoryFault (Owned HyperionAdjustments × Nat) :=
  loadAdjustments (iteratedMembers unset value2) 0 (.malloc (jobjectSize value2))

def settingsHyperionLoadWith (unset : List (String × JVal)) (h : Hyperion) (source : JVal) :
    Except MemoryFault Hyperion := do
  let cells ← h.adjustments.releaseEach freeAdjustment 0 h.adjustmentsCount
  let freed ← cells.free
  let h := { h with adjustments := freed }
  let value := jobjectGet source "hyperion"
  let h ← if jisObject value then do
      let h := { h with hyperionAdjustments := loadBool value "enabled" h.hyperionAdjustments }
      -- the guard tests `value` again, so a missing or odd `adjustments` also lands here
      let value2 := jobjectGet value "adjustments"
      let (adjustments, j) ← loadAdjustmentsMember unset value2
      let h := { h with adjustments := adjustments, adjustmentsCount := j }
      let value2 := jobjectGet value "instances"
      let s := jarraySize value2
      let instances ← loadInstances (jitems value2) 0 (.calloc s 0)
      pure { h with instances := instances, instancesCount := s }
    else pure h
  dumpAdjustments h
  return h

def freeApps (a : Apps) : Except MemoryFault Apps := do
  let cells ← a.apps.releaseEach nothing 0 a.count
  let freed ← cells.free
  return ⟨0, freed⟩

/-- `strdup` of every item: an item without a string buffer is a null dereference. -/
def copyApps : List JVal → Nat → Owned String → Except MemoryFault (Owned String)
  | [], _, apps => .ok apps
  | item :: rest, i, apps => do
    match jstringGet item with
    | none => .error .nullDereference
    | some str =>
      let apps ← apps.store i str
      let _ ← apps.read i
      copyApps rest (i + 1) apps

def loadAppList (a : Apps) (source : JVal) (key : String) : Except MemoryFault Apps := do
  let value := jobjectGet source key
  if jisArray value then
    let s := jarraySize value
    let apps ← copyApps (jitems value) 0 (.malloc s)
    return ⟨s, apps⟩
  else
    return a

def settingsLoadApps (included excluded : Apps) (source : JVal) :
    Except MemoryFault (Apps × Apps) := do
  let included ← freeApps included
  let excluded ← freeApps excluded
  let included ← loadAppList included source "included_apps"
  let excluded ← loadAppList excluded source "excluded_apps"
  return (included, excluded)

def settingsLoadJsonWith (unset : List (String × JVal)) (settings : Settings) (source : JVal) :
    Except MemoryFault Settings := do
  let settings := { settings with
    videoBackend := (jstringGet (jobjectGet source "backend")).or settings.videoBackend
    uiBackend := (jstringGet (jobjectGet source "uibackend")).or settings.uiBackend
    address := loadString source "address" settings.address
    port := loadI32 source "port" settings.port
    priority := loadI32 source "priority" settings.priority
    unixSocket := loadBool source "unix_socket" settings.unixSocket
    lutTable := loadString source "lut-table" settings.lutTable
    fps := loadI32 source "fps" settings.fps
    width := loadI32 source "width" settings.width
    height := loadI32 source "height" settings.height
    quirks := loadI32 source "quirks" settings.quirks
    processPriority := loadI32 source "process_priority" settings.processPriority
    lumenThreshold := loadI32 source "lumen_threshold" settings.lumenThreshold }
  let hyperion ← settingsHyperionLoadWith unset settings.hyperion source
  let apps ← settingsLoadApps settings.includedApps settings.excludedApps source
  let settings := { settings with
    hyperion := hyperion
    includedApps := apps.1
    excludedApps := apps.2
    vsync := loadBool source "vsync" settings.vsync
    noVideo := loadBool source "novideo" settings.noVideo
    noGui := loadBool source "nogui" settings.noGui
    autostart := loadBool source "autostart" settings.autostart
    notifications := loadBool source "notifications" settings.notifications }
  dumpAdjustments settings.hyperion
  return settings

/-! ### Iterators that yield nothing unless they are set -/

def settingsHyperionLoad : Hyperion → JVal → Except MemoryFault Hyperion :=
  settingsHyperionLoadWith []

def settingsLoadJson : Settings → JVal → Except MemoryFault Settings := settingsLoadJsonWith []

theorem settingsHyperionLoadWith_nil : settingsHyperionLoadWith [] = settingsHyperionLoad := rfl

theorem settingsLoadJsonWith_nil : settingsLoadJsonWith [] = settingsLoadJson := rfl

section Unset

variable {unset : List (String × JVal)} {v source : JVal}

theorem loadAdjustmentsMember_nil (v : JVal) : loadAdjustmentsMember [] v =
    loadAdjustments (jmembers v) 0 (.malloc (jobjectSize v)) := by
  cases v <;> rfl

theorem loadAdjustmentsMember_object (object : jisObject v = true)
    (unset : List (String × JVal)) :
    loadAdjustmentsMember unset v = loadAdjustmentsMember [] v := by
  cases v with
  | object members => rfl
  | _ => cases object

theorem loadAdjustmentsMember_odd (odd : jisObject v = false) (unset : List (String × JVal)) :
    loadAdjustmentsMember unset v = loadAdjustments unset 0 (.malloc 0) := by
  cases v with
  | object members => cases odd
  | _ => rfl

theorem loadAdjustments_empty {members : List (String × JVal)}
    {r : Owned HyperionAdjustments × Nat}
    (load : loadAdjustments members 0 (.malloc 0) = .ok r) : r = (.malloc 0, 0) := by
  induction members with
  | nil => exact (Except.ok.inj load).symm
  | cons m members ih =>
    obtain ⟨key, value⟩ := m
    cases value with
    | object gains =>
      obtain ⟨kvmap, -, load⟩ := bind_eq_ok.mp load
      obtain ⟨adjustments, stored, -⟩ := bind_eq_ok.mp load
      cases stored
    | _ => exact ih load

theorem loadAdjustmentsMember_ok {r : Owned HyperionAdjustments × Nat}
    (load : loadAdjustmentsMember unset v = .ok r) : loadAdjustmentsMember [] v = .ok r := by
  cases object : jisObject v with
  | true =>
    rw [← loadAdjustmentsMember_object object unset]
    exact load
  | false =>
    rw [loadAdjustmentsMember_odd object] at load ⊢
    rw [loadAdjustments_empty load]
    rfl

theorem settingsHyperionLoadWith_ok {h h' : Hyperion}
    (load : settingsHyperionLoadWith unset h source = .ok h') :
    settingsHyperionLoad h source = .ok h' := by
  unfold settingsHyperionLoad
  unfold settingsHyperionLoadWith at load ⊢
  obtain ⟨cells, released, load⟩ := bind_eq_ok.mp load
  obtain ⟨freed, free, load⟩ := bind_eq_ok.mp load
  refine bind_eq_ok.mpr ⟨cells, released, bind_eq_ok.mpr ⟨freed, free, ?_⟩⟩
  dsimp only at load ⊢
  split at load
  · next object =>
    rw [if_pos object]
    obtain ⟨r, member, load⟩ := bind_eq_ok.mp load
    exact bind_eq_ok.mpr ⟨r, loadAdjustmentsMember_ok member, load⟩
  · next absent =>
    rw [if_neg absent]
    exact load

theorem settingsLoadJsonWith_ok {s s' : Settings}
    (load : settingsLoadJsonWith unset s source = .ok s') : settingsLoadJson s source = .ok s' := by
  unfold settingsLoadJson
  unfold settingsLoadJsonWith at load ⊢
  obtain ⟨hyperion, loaded, load⟩ := bind_eq_ok.mp load
  exact bind_eq_ok.mpr ⟨hyperion, settingsHyperionLoadWith_ok loaded, load⟩

/-- An iterator is left unset: `adjustments` is missing from the `hyperion` object or is no
object itself. -/
def LeavesUnset (source : JVal) : Prop :=
  jisObject (jobjectGet source "hyperion") = true ∧
    jisObject (jobjectGet (jobjectGet source "hyperion") "adjustments") = false

theorem settingsLoadJsonWith_set (set : ¬ LeavesUnset source) (unset : List (String × JVal))
    (s : Settings) : settingsLoadJsonWith unset s source = settingsLoadJson s source := by
  have same (h : Hyperion) :
      settingsHyperionLoadWith unset h source = settingsHyperionLoad h source := by
    unfold settingsHyperionLoad settingsHyperionLoadWith
    by_cases object : jisObject (jobjectGet source "hyperion") = true
    · have member : jisObject (jobjectGet (jobjectGet source "hyperion") "adjustments") = true := by
        by_contra odd
        exact set ⟨object, eq_false_of_ne_true odd⟩
      simp only [loadAdjustmentsMember_object member]
    · simp only [if_neg object]
  simp only [settingsLoadJson, settingsLoadJsonWith, same, settingsHyperionLoadWith_nil]

end Unset

end HyperionWebos.SettingsLoad
