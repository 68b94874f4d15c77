import HyperionWebos.OptionParsing
import HyperionWebos.SettingsSave

/-! What outlives the process: the settings file and the startup symlink, as `setSettings`
leaves them and `main` finds them. The text of a JSON value is pbnjson's. A write may end
anywhere in the text, and a process may end at any time, by a signal or without; what
`main` does up to its main loop is one step. -/

namespace HyperionWebos.ServiceFiles
open Runs OwnedArray Pbnjson SettingsLoad SettingsSave OptionParsing ServiceLoop

/-- `jvalue_tostring_simple` and `jdom_parse`. -/
structure JsonText where
  print : JVal → String
  parse : String → JVal

/-- The text under `SETTINGS_PERSISTENCE_PATH`, and whether there is a link under
`startup_symlink`. -/
structure Disk where
  settingsFile : Option String
  startupSymlink : Bool
deriving DecidableEq, Repr

/-- What became of the settings file: `fopen` failed, or left it empty for `fputs` to write
some characters of the text or all of them. -/
inductive SaveOutcome where
  | unopened
  | cut (count : Nat)
  | whole
deriving DecidableEq, Repr

/-- A cut text misses at least its last character. -/
def SaveOutcome.written (text : String) : SaveOutcome → Option String
  | .unopened => none
  | .cut count => some (.ofList (text.toList.take (min count (text.toList.length - 1))))
  | .whole => some text

structure FileOutcomes where
  save : SaveOutcome
  unlinks : Bool
  symlinks : Bool
deriving DecidableEq, Repr

/-- Nobody looks at what `fputs` returns. -/
def settingsSaveFile (json : JsonText) (settings : Settings) (o : SaveOutcome) (d : Disk) :
    Except MemoryFault (Int × Disk) := do
  let jobj ← settingsSaveJson settings (.object [])
  match o.written (json.print jobj) with
  | none => return (-1, d)
  | some text => return (0, { d with settingsFile := some text })

/-- `symlink` fails where a link still stands. -/
def updateStartup (autostart : Bool) (o : FileOutcomes) (d : Disk) : Disk :=
  let d := { d with startupSymlink := d.startupSymlink && !o.unlinks }
  if autostart then { d with startupSymlink := d.startupSymlink || o.symlinks } else d

/-- `ServiceLoop.serviceMethodSetSettings` with the files it writes. -/
def serviceMethodSetSettings (json : JsonText) (parsed : JVal) (env : Env) (o : FileOutcomes)
    (d : Disk) (s : Service) : Except MemoryFault (Disk × Service) := do
  if jisNull parsed then return (d, s)
  let settings ← settingsLoadJsonWith env.unset s.settings parsed
  let (_, d) ← settingsSaveFile json settings o.save d
  return (updateStartup settings.autostart o d, serviceRestart env { s with settings := settings })

def configFile (json : JsonText) : Option String → ConfigFile
  | none => .unreadable
  | some text => .contents (json.parse (cstr text))

/-- How a process is started: `using_cli` is false where the bus set `LS_SERVICE_NAMES`,
`files` are those that `--config` names, the handles what `service_register` gets. -/
structure Launch where
  usingCli : Bool
  argv : List String
  files : String → ConfigFile
  handle : Option Nat
  handleLegacy : Option Nat
  env : Env

inductive Launched where
  | exited (ret : Int)
  | serving (s : Service)

def loadedSettings (json : JsonText) (l : Launch) (d : Disk) : Except MemoryFault Settings :=
  if l.usingCli then .ok settingsInit
  else (settingsLoadFileWith l.env.unset settingsInit (configFile json d.settingsFile)).map Prod.snd

def main (json : JsonText) (l : Launch) (d : Disk) : Except MemoryFault Launched := do
  let settings ← loadedSettings json l d
  let (ret, m) ← parseOptionsWith l.env.unset l.files l.argv ⟨settings, .info, 0⟩
  if ret ≠ 0 then return .exited ret
  if m.printVersion > 0 then return .exited 0
  let s := boot l.env l.handle l.handleLegacy m.settings
  -- a start that fails quits a main loop that does not run yet, which then runs all the same
  return .serving (if l.usingCli || m.settings.autostart then (serviceStart l.env s).2 else s)

structure Machine where
  disk : Disk
  process : Option Service

inductive MachineEvent where
  | launch (l : Launch)
  | handle (e : Event) (o : FileOutcomes)
  | exit

def handleStep (json : JsonText) (e : Event) (o : FileOutcomes) (d : Disk) (s : Service) :
    Except MemoryFault (Disk × Service) :=
  match e.action with
  | .setSettings payload => serviceMethodSetSettings json payload e.env o d s
  | _ => do
    let s ← step s e
    return (d, s)

def machineStep (json : JsonText) (m : Machine) (e : MachineEvent) : Except MemoryFault Machine :=
  match e, m.process with
  | .launch l, none => do
    match ← main json l m.disk with
    | .exited _ => return m
    | .serving s => return { m with process := some s }
  | .launch _, some _ => .ok m
  | .handle e o, some s => do
    let (d, s) ← handleStep json e o m.disk s
    return ⟨d, some s⟩
  | .handle _ _, none => .ok m
  | .exit, _ => .ok { m with process := none }

theorem handleStep_service {json : JsonText} {e : Event} {o : FileOutcomes} {d d' : Disk}
    {s s' : Service} (handled : handleStep json e o d s = .ok (d', s')) : step s e = .ok s' := by
  obtain ⟨action, env⟩ := e
  cases action with
  | setSettings payload =>
    simp only [handleStep, serviceMethodSetSettings] at handled
    simp only [step, ServiceLoop.serviceMethodSetSettings]
    split at handled
    · next null =>
      cases handled
      exact if_pos null
    · next null =>
      obtain ⟨settings, load, handled⟩ := bind_eq_ok.mp handled
      obtain ⟨saved, _, handled⟩ := bind_eq_ok.mp handled
      cases handled
      rw [if_neg null, load]
      rfl
  | _ =>
    obtain ⟨t, taken, same⟩ := bind_eq_ok.mp handled
    cases same
    exact taken

end HyperionWebos.ServiceFiles
