import HyperionWebos.SettingsLoad

/-! `json_rpc_client.c`: requests to the ambient lighting daemon and the choice of what
to send it. The n-th request of the process is answered by `replies n`; what a request
carries is kept as JSON, and `curlCommand` is the text that is handed to the shell. -/

namespace HyperionWebos.JsonRpcClient
open OwnedArray Pbnjson SettingsLoad

def rpcPort : Nat := 8090

inductive AmbientLightingDaemon where
  | invalid
  | notSet
  | hyperionNg
  | hyperhdr
deriving DecidableEq, Repr

/-- The outcome of one HTTP post: a failed command, or the parsed response. -/
inductive Reply where
  | httpFailed
  | parsed (response : JVal)

structure Request where
  host : String
  port : Nat
  body : JVal

/-- The global `daemon_flavor` and every request made so far. -/
structure Rpc where
  daemonFlavor : AmbientLightingDaemon
  sent : List Request

def rpcUrl (host : String) (port : Nat) : String :=
  "http://" ++ host ++ ":" ++ toString port ++ "/json-rpc"

def curlCommand (url postBody : String) : String :=
  "curl --silent -X POST " ++ url ++ " -d '" ++ postBody ++ "'"

def sendRpcMessage (replies : Nat → Reply) (host : String) (port : Nat) (body : JVal) (r : Rpc) :
    Int × JVal × Rpc :=
  let sent := { r with sent := r.sent ++ [⟨host, port, body⟩] }
  match replies r.sent.length with
  | .httpFailed => (-3, .invalid, sent)
  | .parsed response =>
    if !jisValid response || jisNull response then (-4, response, sent)
    else match jobjectGet response "success" with
      | .boolean true => (0, response, sent)
      | _ => (-5, response, sent)

def getDaemonFlavor (replies : Nat → Reply) (host : String) (port : Nat) (r : Rpc) : Int × Rpc :=
  let (ret, response, r) :=
    sendRpcMessage replies host port (.object [("command", .string "sysinfo")]) r
  if ret ≠ 0 then (-1, r)
  else
    let info := jobjectGet response "info"
    if jisValid info then
      if jisValid (jobjectGet info "hyperion") then (0, { r with daemonFlavor := .hyperionNg })
      else if jisValid (jobjectGet info "hyperhdr") then (0, { r with daemonFlavor := .hyperhdr })
      else (-2, { r with daemonFlavor := .invalid })
    else (-3, r)

/-- The opening of every command: ask for the flavor only while it is not known. -/
def knowDaemonFlavor (replies : Nat → Reply) (host : String) (port : Nat) (r : Rpc) : Int × Rpc :=
  if r.daemonFlavor = .notSet ∨ r.daemonFlavor = .invalid then getDaemonFlavor replies host port r
  else (0, r)

def hdrStateBody (hdrActive : Bool) : JVal :=
  .object [("command", .string "componentstate"),
    ("componentstate", .object [("component", .string "HDR"), ("state", .boolean hdrActive)])]

def setHdrState (replies : Nat → Reply) (host : String) (port : Nat) (hdrActive : Bool) (r : Rpc) :
    Int × Rpc :=
  let (ret, r) := knowDaemonFlavor replies host port r
  if ret ≠ 0 then (-1, r)
  else if r.daemonFlavor ≠ .hyperhdr then (-2, r)
  else
    let (ret, _, r) := sendRpcMessage replies host port (hdrStateBody hdrActive) r
    (if ret ≠ 0 then -3 else ret, r)

/-- `jobject_set` of every counted gain: a repeated name keeps its last gain. -/
def adjustmentMembers (adjustments : Owned HyperionAdjustment) (i : Nat) :
    Nat → List (String × JVal) → Except MemoryFault (List (String × JVal))
  | 0, members => .ok members
  | n + 1, members => do
    let a ← adjustments.read i
    let value := JVal.number (jnumberCreateF64 a.gain)
    adjustmentMembers adjustments (i + 1) n
      (members.filter (fun m => m.1 ≠ a.name) ++ [(a.name, value)])

def adjustmentBody (members : List (String × JVal)) : JVal :=
  .object [("command", .string "adjustment"), ("adjustment", .object members)]

def switchToBody (instanceId : Int) : JVal :=
  .object [("instance", .number (jnumberCreateI32 instanceId)), ("subcommand", .string "switchTo"),
    ("command", .string "instance")]

/-- Switch to each instance and post the adjustment, whether or not the switch worked. -/
def postToInstances (replies : Nat → Reply) (host : String) (port : Nat) (body : JVal)
    (instances : Owned Int) (i : Nat) : Nat → Int × Rpc → Except MemoryFault (Int × Rpc)
  | 0, (ret, r) => .ok (ret, r)
  | n + 1, (_, r) => do
    let instanceId ← instances.read i
    let (_, _, r) := sendRpcMessage replies host port (switchToBody instanceId) r
    let (ret, _, r) := sendRpcMessage replies host port body r
    postToInstances replies host port body instances (i + 1) n (if ret ≠ 0 then -3 else ret, r)

def hyperionSetAdjustments (replies : Nat → Reply) (host : String) (port : Nat)
    (adjustments : HyperionAdjustments) (instances : Owned Int) (instanceCount : Nat) (r : Rpc) :
    Except MemoryFault (Int × Rpc) := do
  let (ret, r) := knowDaemonFlavor replies host port r
  if ret ≠ 0 then return (-1, r)
  if r.daemonFlavor ≠ .hyperionNg then return (-2, r)
  let members ← adjustmentMembers adjustments.adjustments 0 adjustments.adjustmentsCount []
  postToInstances replies host port (adjustmentBody members) instances 0 instanceCount (0, r)

end HyperionWebos.JsonRpcClient
