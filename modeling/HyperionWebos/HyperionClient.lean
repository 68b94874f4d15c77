import HyperionWebos.LengthFrames

/-! `hyperion_client.c`: one socket to the Hyperion server and the file-level variables that
go with it. What the kernel answers to a call is the input of the function that makes it.
The flatbuffers encoders, and the reader of a reply, are a `Codec`. Every call on a socket
is logged in order; log lines and the closing of a null pointer are left out. -/

namespace HyperionWebos.HyperionClient
open LengthFrames

/-- A finished flatbuffer: it has a root offset, and its size is a 32-bit `size_t`. -/
structure Message where
  bytes : List UInt8
  rooted : 4 ≤ bytes.length
  fits : bytes.length < 2 ^ 32

inductive Request where
  | image (image : List UInt8) (width height : Int)
  | register (origin : Option String) (priority : Int)
deriving DecidableEq

structure Reply where
  error : Option String
  video : Int
  registered : Int

structure Codec where
  encode : Request → Message
  decode : List UInt8 → Reply

inductive Address where
  | unix (hostname : String)
  | inet (hostname : String) (port : Int)
deriving DecidableEq

/-- What `write` did: took all bytes, took some but not all, or failed. -/
inductive WriteOutcome where
  | all
  | short (more : Nat)
  | failed
deriving DecidableEq

/-- A short write takes at least one byte and leaves at least one. -/
def WriteOutcome.taken (bytes : List UInt8) : WriteOutcome → List UInt8
  | .all => bytes
  | .short more => bytes.take (min (more + 1) (bytes.length - 1))
  | .failed => []

@[simp] theorem WriteOutcome.taken_all (bytes : List UInt8) : taken bytes .all = bytes := rfl

@[simp] theorem WriteOutcome.taken_failed (bytes : List UInt8) : taken bytes .failed = [] := rfl

/-- What `read` did: it delivered bytes, none at the end of the stream, or failed. -/
inductive ReadOutcome where
  | data (bytes : List UInt8)
  | failed (errno : Nat)

inductive SocketCall where
  | socket (ret : Int)
  | connect (fd : Int) (address : Address) (connects : Bool)
  | frame (fd : Int) (request : Request) (header body : WriteOutcome)
  | reply (body : List UInt8)
  | close (fd : Int)

structure Client where
  sockfd : Int
  registered : Bool
  priority : Int
  origin : Option String
  connected : Bool
  recvBuff : List UInt8
  calls : List SocketCall

def recvBuffSize : Nat := 1024

/-- The file-level variables as the program starts. -/
def zeroed : Client := ⟨0, false, 0, none, false, List.replicate recvBuffSize 0, []⟩

def Client.log (call : SocketCall) (c : Client) : Client := { c with calls := c.calls ++ [call] }

/-- Outcomes of the calls that open a connection, in order. -/
structure ConnectOutcome where
  socket : Int
  sndtimeo : Bool
  rcvtimeo : Bool
  parses : Bool
  connects : Bool

/-- What the two families share: the socket is kept even where a later call fails. -/
def connectSocket (address : Address) (parses : Bool) (o : ConnectOutcome) (c : Client) :
    Int × Client :=
  let c := { c.log (.socket o.socket) with sockfd := o.socket }
  if o.socket = -1 then (1, c)
  else if !o.sndtimeo then (1, c)
  else if !o.rcvtimeo then (1, c)
  else if !parses then (1, c)
  else
    let c := c.log (.connect o.socket address o.connects)
    if !o.connects then (1, c) else (0, { c with connected := true })

def connectInetSocket (hostname : String) (port : Int) (o : ConnectOutcome) (c : Client) :
    Int × Client :=
  connectSocket (.inet hostname port) o.parses o c

def connectUnixSocket (hostname : String) (o : ConnectOutcome) (c : Client) : Int × Client :=
  connectSocket (.unix hostname) true o c

def hyperionClient (origin hostname : String) (port : Int) (unixSocket : Bool) (priority : Int)
    (o : ConnectOutcome) (c : Client) : Int × Client :=
  let c := { c with
    origin := some origin
    priority := priority
    connected := false
    registered := false
    sockfd := 0 }
  if unixSocket then connectUnixSocket hostname o c else connectInetSocket hostname port o c

def parseReply (codec : Codec) (c : Client) : Client :=
  let reply := codec.decode c.recvBuff
  if reply.error.isNone then
    if reply.video ≠ -1 then c
    else if reply.registered = c.priority then { c with registered := true }
    else c
  else c

theorem parseReply_eq (codec : Codec) (c : Client) :
    ∃ registered, parseReply codec c = { c with registered := registered } := by
  rw [parseReply]
  split
  · split
    · exact ⟨_, rfl⟩
    · split
      · exact ⟨_, rfl⟩
      · exact ⟨_, rfl⟩
  · exact ⟨_, rfl⟩

/-- The first `read` of `hyperion_read`. Bytes of `headbuff` that it did not deliver are
those of the stack. -/
def readHeader (stack : Fin 4 → UInt8) : ReadOutcome → Except Int Nat
  | .failed errno => .error (-errno)
  | .data bytes =>
    let got := bytes.take 4
    if got = [] then .error (-1)
    else
      let messageSize := headerValue (got ++ (List.ofFn stack).drop got.length)
      if messageSize ≥ recvBuffSize then .error (-1) else .ok messageSize

def hyperionRead (codec : Codec) (stack : Fin 4 → UInt8) (header body : ReadOutcome) (c : Client) :
    Int × Client :=
  if c.sockfd = 0 then (-99, c)
  else match readHeader stack header with
    | .error ret => (ret, c)
    | .ok messageSize => match body with
      | .failed errno => (-errno, c)
      | .data bytes =>
        let got := bytes.take messageSize
        let c := { c with recvBuff := got ++ c.recvBuff.drop got.length }
        (0, parseReply codec (c.log (.reply (c.recvBuff.take messageSize))))

def hyperionDestroy (c : Client) : Int × Client :=
  if c.sockfd = 0 then (0, c) else (0, { c.log (.close c.sockfd) with sockfd := 0 })

/-- The two writes that `_send_message` and `hyperion_set_register` end with: neither looks
at how much the other took. -/
def writeFrame (request : Request) (header body : WriteOutcome) (c : Client) : Int × Client :=
  (if header = .failed ∨ body = .failed then -1 else 0,
    c.log (.frame c.sockfd request header body))

def hyperionSetRegister (origin : Option String) (priority : Int) (header body : WriteOutcome)
    (c : Client) : Int × Client :=
  if c.sockfd = 0 then (0, c) else writeFrame (.register origin priority) header body c

def sendMessage (request : Request) (header body : WriteOutcome) (c : Client) : Int × Client :=
  if c.sockfd = 0 then (0, c)
  else if !c.connected then (0, c)
  else if !c.registered then hyperionSetRegister c.origin c.priority header body c
  else writeFrame request header body c

def hyperionSetImage (image : List UInt8) (width height : Int) (header body : WriteOutcome)
    (c : Client) : Int × Client :=
  sendMessage (.image image width height) header body c

inductive ClientEvent where
  | client (origin hostname : String) (port : Int) (unixSocket : Bool) (priority : Int)
      (o : ConnectOutcome)
  | read (stack : Fin 4 → UInt8) (header body : ReadOutcome)
  | destroy
  | setImage (image : List UInt8) (width height : Int) (header body : WriteOutcome)

def clientStep (codec : Codec) (c : Client) : ClientEvent → Client
  | .client origin hostname port unixSocket priority o =>
    (hyperionClient origin hostname port unixSocket priority o c).2
  | .read stack header body => (hyperionRead codec stack header body c).2
  | .destroy => (hyperionDestroy c).2
  | .setImage image width height header body =>
    (hyperionSetImage image width height header body c).2

/-- A codec whose every message is the same four bytes. -/
def plain : Codec := ⟨fun _ => ⟨[1, 2, 3, 4], by decide, by decide⟩, fun _ => ⟨none, -1, 0⟩⟩

def connectedClient : Client :=
  clientStep plain zeroed (.client "webos" "127.0.0.1" 19400 false 150 ⟨5, true, true, true, true⟩)

end HyperionWebos.HyperionClient
