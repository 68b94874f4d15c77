import HyperionWebos.FlatReply
import HyperionWebos.Runs

/-! `hyperion_client.c` under its two threads: `connection_loop` connects, reads and
destroys, and the capture thread sends its frames. No lock is taken; a step is one access
to a file-level variable or one call on the socket, in the order of the source. The
descriptors of the standard streams are in use, so a new socket gets a positive one. -/

namespace HyperionWebos.ClientThreads
open Runs HyperionClient FlatReply

abbrev Descriptor := { fd : Int // 0 < fd }

/-- What `connection_loop` passes to `hyperion_client`, the origin "webos" apart. -/
structure Target where
  hostname : String
  port : Int
  unixSocket : Bool
  priority : Int

def Target.address (t : Target) : Address :=
  if t.unixSocket then .unix t.hostname else .inet t.hostname t.port

inductive Call where
  | socket (fd : Option Descriptor)
  | connect (fd : Int) (address : Address) (connects : Bool)
  | writeHeader (fd : Int) (request : Request) (o : WriteOutcome)
  | writeBody (fd : Int) (request : Request) (o : WriteOutcome)
  | registered
  | close (fd : Int)

/-- Where `connection_loop` stands. From `setOrigin` to `setConnected` it is inside
`hyperion_client`, from `readHeader` to `readBody` inside `hyperion_read`, and from
`destroy` to `clear` inside `hyperion_destroy`. -/
inductive LoopPhase where
  | away
  | setOrigin (t : Target)
  | setPriority (t : Target)
  | clearConnected (t : Target)
  | clearRegistered (t : Target)
  | clearSocket (t : Target)
  | socket (t : Target)
  | options (t : Target)
  | connect (t : Target)
  | setConnected
  | read
  | readHeader
  | readBody (messageSize : Nat)
  | destroy
  | close
  | clear

/-- Where `hyperion_set_image` stands with its request; `registerSocket` is the check of
`hyperion_set_register`. -/
inductive FeedPhase where
  | idle
  | checkSocket (request : Request)
  | checkConnected (request : Request)
  | checkRegistered (request : Request)
  | registerSocket (request : Request)
  | header (request : Request)
  | body (request : Request)

structure Threads where
  sockfd : Int
  registered : Bool
  priority : Int
  origin : Option String
  connected : Bool
  recvBuff : List UInt8
  loop : LoopPhase
  feeder : FeedPhase
  calls : List Call

def Threads.log (call : Call) (s : Threads) : Threads := { s with calls := s.calls ++ [call] }

/-- What a step of `connection_loop` meets: whether there is something to connect to, what
`socket` returns, whether a call works or the loop goes on, and what `read` delivers. -/
structure Answer where
  target : Option Target
  socket : Option Descriptor
  works : Bool
  stack : Fin 4 → UInt8
  delivers : ReadOutcome

/-- The inner loop goes on after data and after `EAGAIN`. -/
def afterRead (ret : Int) : LoopPhase :=
  if ret = -11 then .read else if ret < 0 then .destroy else .read

def loopStep (codec : Codec) (a : Answer) (s : Threads) : Threads :=
  match s.loop with
  | .away => match a.target with
    | none => s
    | some t => { s with loop := .setOrigin t }
  | .setOrigin t => { s with origin := some "webos", loop := .setPriority t }
  | .setPriority t => { s with priority := t.priority, loop := .clearConnected t }
  | .clearConnected t => { s with connected := false, loop := .clearRegistered t }
  | .clearRegistered t => { s with registered := false, loop := .clearSocket t }
  | .clearSocket t => { s with sockfd := 0, loop := .socket t }
  | .socket t => match a.socket with
    | none => { s.log (.socket none) with sockfd := -1, loop := .destroy }
    | some fd => { s.log (.socket (some fd)) with sockfd := fd, loop := .options t }
  | .options t => { s with loop := if a.works then .connect t else .destroy }
  | .connect t =>
    let s := s.log (.connect s.sockfd t.address a.works)
    { s with loop := if a.works then .setConnected else .destroy }
  | .setConnected => { s with connected := true, loop := .read }
  | .read => { s with loop := if a.works && s.sockfd ≠ 0 then .readHeader else .destroy }
  | .readHeader => match readHeader a.stack a.delivers with
    | .error ret => { s with loop := afterRead ret }
    | .ok messageSize => { s with loop := .readBody messageSize }
  | .readBody messageSize => match a.delivers with
    | .failed errno => { s with loop := afterRead (-errno) }
    | .data bytes =>
      let got := bytes.take messageSize
      let s := { s with recvBuff := got ++ s.recvBuff.drop got.length, loop := .read }
      if registeredBy (codec.decode s.recvBuff) false s.priority then
        { s.log .registered with registered := true }
      else s
  | .destroy => { s with loop := if s.sockfd = 0 then .away else .close }
  | .close => { s.log (.close s.sockfd) with loop := .clear }
  | .clear => { s with sockfd := 0, loop := .away }

structure Feed where
  image : List UInt8
  width : Int
  height : Int
  writes : WriteOutcome

def feedStep (f : Feed) (s : Threads) : Threads :=
  match s.feeder with
  | .idle => { s with feeder := .checkSocket (.image f.image f.width f.height) }
  | .checkSocket request =>
    { s with feeder := if s.sockfd = 0 then .idle else .checkConnected request }
  | .checkConnected request =>
    { s with feeder := if s.connected then .checkRegistered request else .idle }
  | .checkRegistered request =>
    { s with feeder :=
      if s.registered then .header request else .registerSocket (.register s.origin s.priority) }
  | .registerSocket request =>
    { s with feeder := if s.sockfd = 0 then .idle else .header request }
  | .header request =>
    { s.log (.writeHeader s.sockfd request f.writes) with feeder := .body request }
  | .body request => { s.log (.writeBody s.sockfd request f.writes) with feeder := .idle }

inductive Event where
  | loop (a : Answer)
  | feed (f : Feed)

def step (codec : Codec) (s : Threads) (e : Event) : Except Empty Threads :=
  match e with
  | .loop a => .ok (loopStep codec a s)
  | .feed f => .ok (feedStep f s)

/-- The file-level variables as the program starts, before either thread. -/
def boot : Threads where
  sockfd := 0
  registered := false
  priority := 0
  origin := none
  connected := false
  recvBuff := List.replicate recvBuffSize 0
  loop := .away
  feeder := .idle
  calls := []

end HyperionWebos.ClientThreads
