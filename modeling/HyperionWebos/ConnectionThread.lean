import HyperionWebos.Runs
import HyperionWebos.SettingsLoad

/-! `connection_loop` beside the main loop, at the grain of the accesses to
`settings->address`. The main loop takes one request at a time and handles `setSettings`
in the order of the source: free and replace the address, load the rest, save, stop and
join, init, start. The connection thread evaluates the address once for each connection
attempt and passes the pointer on. Blocks are numbered in the order of their `strdup`;
using a block that was freed is a fault. What a system call answers, or the capture flags
that the thread polls say, comes with the step. `unicapture_stop`, to which a stop comes
first, has returned: the join of the capture thread is not followed here. -/

namespace HyperionWebos.ConnectionThread
open Runs OwnedArray Pbnjson SettingsLoad

inductive Fault where
  | settings (f : MemoryFault)
  | addressReleased
deriving DecidableEq, Repr

/-- The requests that touch the connection thread or the address; whatever else starts
or stops the capture does it as these. -/
inductive Request where
  | start
  | stop
  | setSettings (payload : JVal)

/-- Where the handler of the current request stands. `dupAddress` lies between the free
of the old address and its replacement. -/
inductive MainPhase where
  | idle
  | loadAddress (payload : JVal)
  | dupAddress (payload : JVal)
  | loadRest (payload : JVal)
  | save
  | stop (destroy : Bool)
  | join (destroy : Bool)
  | init (start : Bool)
  | start

/-- Where `connection_loop` stands; `socket` to `warn` are inside `hyperion_client`. -/
inductive ThreadPhase where
  | absent
  | head
  | poll
  | evaluate
  | socket (host : Nat) (unixSocket : Bool)
  | parse (host : Nat)
  | copy (host : Nat)
  | connect (host : Nat)
  | warn (host : Nat)
  | read
  | destroy
  | ended
deriving DecidableEq, Repr

structure Link where
  settings : Settings
  address : Nat
  blocks : Nat
  released : List Nat
  running : Bool
  connectionLoopRunning : Bool
  main : MainPhase
  thread : ThreadPhase

inductive Event where
  | request (r : Request)
  | main (created : Bool)
  | thread (answer : Bool)

/-- The main loop looks at its next message only between two handlers. -/
def takeRequest (r : Request) (s : Link) : Link :=
  match s.main with
  | .idle =>
    match r with
    | .start => { s with main := .start }
    | .stop => { s with main := .stop false }
    | .setSettings payload => if jisNull payload then s else { s with main := .loadAddress payload }
  | _ => s

def mainStep (created : Bool) (s : Link) : Except Fault Link :=
  match s.main with
  | .idle => .ok s
  | .loadAddress payload =>
    if jisString (jobjectGet payload "address") then
      .ok { s with released := s.address :: s.released, main := .dupAddress payload }
    else .ok { s with main := .loadRest payload }
  | .dupAddress payload =>
    .ok { s with address := s.blocks, blocks := s.blocks + 1, main := .loadRest payload }
  | .loadRest payload =>
    match settingsLoadJson s.settings payload with
    | .ok settings => .ok { s with settings := settings, main := .save }
    | .error f => .error (.settings f)
  | .save => .ok { s with main := .stop true }
  | .stop destroy =>
    if s.running then .ok { s with connectionLoopRunning := false, main := .join destroy }
    else .ok { s with main := if destroy then .init false else .idle }
  | .join destroy =>
    if s.thread = .ended then
      .ok { s with
        thread := .absent, running := false, main := if destroy then .init true else .idle }
    else .ok s
  | .init start => .ok { s with main := if start then .start else .idle }
  | .start =>
    if s.running then .ok { s with main := .idle }
    else if created then
      .ok { s with running := true, connectionLoopRunning := true, thread := .head, main := .idle }
    else .ok { s with connectionLoopRunning := false, main := .idle }

/-- A string function or a `%s` of the log reads the block. -/
def useHost (host : Nat) (s : Link) (next : ThreadPhase) : Except Fault Link :=
  if host ∈ s.released then .error .addressReleased else .ok { s with thread := next }

def threadStep (answer : Bool) (s : Link) : Except Fault Link :=
  match s.thread with
  | .absent | .ended => .ok s
  | .head => .ok { s with thread := if s.connectionLoopRunning then .poll else .ended }
  | .poll => .ok { s with thread := if answer then .evaluate else .head }
  | .evaluate => .ok { s with thread := .socket s.address s.settings.unixSocket }
  | .socket host unixSocket =>
    .ok { s with thread :=
      if answer then if unixSocket then .copy host else .parse host else .destroy }
  | .parse host => useHost host s (if answer then .connect host else .warn host)
  | .copy host => useHost host s (.connect host)
  | .connect host => .ok { s with thread := if answer then .read else .warn host }
  | .warn host => useHost host s .destroy
  | .read => .ok { s with thread := if s.connectionLoopRunning && answer then .read else .destroy }
  | .destroy => .ok { s with thread := .head }

def step (s : Link) : Event → Except Fault Link
  | .request r => .ok (takeRequest r s)
  | .main created => mainStep created s
  | .thread answer => threadStep answer s

def boot (settings : Settings) : Link where
  settings := settings
  address := 0
  blocks := 1
  released := []
  running := false
  connectionLoopRunning := false
  main := .idle
  thread := .absent

end HyperionWebos.ConnectionThread
