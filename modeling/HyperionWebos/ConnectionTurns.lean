import HyperionWebos.OutgoingFrames
import HyperionWebos.Registration
import HyperionWebos.SocketBalance

/-! `connection_loop` turn by turn, beside the capture thread that feeds frames. Each thread is
taken by whole calls: the loop connects, reads or destroys in a turn, and a frame is one call of
`hyperion_set_image`. -/

namespace HyperionWebos.ConnectionTurns
open Runs HyperionClient OutgoingFrames Registration SocketBalance

inductive Phase where
  | head
  | read
  | destroy
deriving DecidableEq

structure Connection where
  phase : Phase
  client : Client

/-- What a turn of `connection_loop` meets; `goesOn` is the test of the inner loop. A loop that
has ended and is started again is at its head all the while. -/
structure Turn where
  capturing : Bool
  hostname : String
  port : Int
  unixSocket : Bool
  priority : Int
  connect : ConnectOutcome
  goesOn : Bool
  answer : ReadAnswer

inductive Event where
  | loop (t : Turn)
  | frame (image : List UInt8) (width height : Int) (header body : WriteOutcome)

def connect (t : Turn) (c : Client) : Int × Client :=
  hyperionClient "webos" t.hostname t.port t.unixSocket t.priority t.connect c

def receive (codec : Codec) (a : ReadAnswer) (c : Client) : Int × Client :=
  hyperionRead codec a.stack a.header a.body c

def afterRead (ret : Int) : Phase :=
  if ret = -11 then .read else if ret < 0 then .destroy else .read

def loopStep (codec : Codec) (t : Turn) (s : Connection) : Connection :=
  match s.phase with
  | .head =>
    if t.capturing then
      let (ret, c) := connect t s.client
      ⟨if ret ≠ 0 then .destroy else .read, c⟩
    else s
  | .read =>
    if t.goesOn then
      let (ret, c) := receive codec t.answer s.client
      ⟨afterRead ret, c⟩
    else { s with phase := .destroy }
  | .destroy => ⟨.head, (hyperionDestroy s.client).2⟩

def step (codec : Codec) (s : Connection) : Event → Except Empty Connection
  | .loop t => .ok (loopStep codec t s)
  | .frame image width height header body =>
    .ok { s with client := (hyperionSetImage image width height header body s.client).2 }

def boot : Connection := ⟨.head, zeroed⟩

section Passes

variable {codec : Codec}

def idleTurn : Turn :=
  ⟨false, "", 0, false, 0, ⟨-1, false, false, false, false⟩, false,
    ⟨fun _ => 0, .data [], .data []⟩⟩

theorem readLoop_reaches (answers : List ReadAnswer) (c : Client) :
    Reaches (step codec) ⟨.read, c⟩ ⟨.destroy, readLoop codec answers c⟩ := by
  induction answers generalizing c with
  | nil =>
    have leaves : step codec ⟨.read, c⟩ (.loop idleTurn) = .ok ⟨.destroy, c⟩ := rfl
    exact reaches_step leaves reaches_refl
  | cons a answers ih =>
    have reads : step codec ⟨.read, c⟩ (.loop { idleTurn with goesOn := true, answer := a }) =
        .ok ⟨afterRead (receive codec a c).1, (receive codec a c).2⟩ := rfl
    refine reaches_step reads ?_
    unfold readLoop afterRead
    change Reaches (step codec) _ ⟨.destroy, if (receive codec a c).1 = -11 then
      readLoop codec answers (receive codec a c).2 else if (receive codec a c).1 < 0 then
        (receive codec a c).2 else readLoop codec answers (receive codec a c).2⟩
    split
    · exact ih _
    · split
      · exact reaches_refl
      · exact ih _

theorem connectionLoop_reaches (passes : List Pass) (c : Client) :
    Reaches (step codec) ⟨.head, c⟩ ⟨.head, connectionLoop codec passes c⟩ := by
  induction passes generalizing c with
  | nil => exact reaches_refl
  | cons p passes ih =>
    unfold connectionLoop
    split
    · refine Reaches.trans ?_ (ih _)
      unfold connectionPass
      split
      · let t : Turn := ⟨true, p.hostname, p.port, p.unixSocket, p.priority, p.connect, false,
          ⟨fun _ => 0, .data [], .data []⟩⟩
        have connects : step codec ⟨.head, c⟩ (.loop t) =
            .ok ⟨if (connect t c).1 ≠ 0 then .destroy else .read, (connect t c).2⟩ := rfl
        have destroys (c : Client) : Reaches (step codec) ⟨.destroy, c⟩
            ⟨.head, (hyperionDestroy c).2⟩ :=
          reaches_step (e := .loop idleTurn) rfl reaches_refl
        refine reaches_step connects (Reaches.trans ?_ (destroys _))
        change Reaches (step codec) _ ⟨.destroy, if (connect t c).1 ≠ 0 then (connect t c).2
          else readLoop codec p.reads (connect t c).2⟩
        split
        · exact reaches_refl
        · exact readLoop_reaches p.reads _
      · exact reaches_refl
    · exact reaches_refl

end Passes

/-! ### What a turn leaves -/

/-- The inner loop is entered only with a connection. -/
def Reads (s : Connection) : Prop := s.phase = .read → s.client.connected = true

section Steps

variable {codec : Codec} {s : Connection} {t : Turn} {c : Client}

theorem connectSocket_connected (address : Address) (parses : Bool) (o : ConnectOutcome)
    (c : Client) : (connectSocket address parses o c).1 = 0 →
      (connectSocket address parses o c).2.connected = true := by
  have failed : (1 : Int) ≠ 0 := by decide
  unfold connectSocket
  dsimp only
  repeat' split
  all_goals first
    | exact fun succeeded => absurd succeeded failed
    | exact fun _ => rfl

theorem connect_connected (c : Client) (succeeded : (connect t c).1 = 0) :
    (connect t c).2.connected = true := by
  unfold connect hyperionClient at succeeded ⊢
  dsimp only at succeeded ⊢
  split at succeeded
  · next unix =>
    rw [if_pos unix]
    exact connectSocket_connected _ _ _ _ succeeded
  · next inet =>
    rw [if_neg inet]
    exact connectSocket_connected _ _ _ _ succeeded

theorem connect_fields (c : Client) : (connect t c).2.sockfd = t.connect.socket ∧
    (connect t c).2.registered = false := by
  obtain ⟨sockfd, -, registered⟩ := hyperionClient_fields "webos" t.hostname t.port t.unixSocket
    t.priority t.connect c
  exact ⟨sockfd, registered⟩

theorem read_opened (a : ReadAnswer) (c : Client) : (receive codec a c).2.sockfd = c.sockfd ∧
    (receive codec a c).2.connected = c.connected := by
  obtain ⟨-, -, -, -, sockfd, connected⟩ := @hyperionRead_opened codec c a.stack a.header a.body
  exact ⟨sockfd, connected⟩

theorem read_closed (a : ReadAnswer) (closed : c.sockfd = 0) : receive codec a c = (-99, c) := by
  unfold receive hyperionRead
  rw [if_pos closed]

theorem frame_fields (image : List UInt8) (width height : Int) (header body : WriteOutcome)
    (c : Client) : ∃ calls,
    (hyperionSetImage image width height header body c).2 = { c with calls := calls } := by
  obtain ⟨_, _, _, logged⟩ | ⟨_, same | logged⟩ :=
    hyperionSetImage_cases image width height header body c
  · exact ⟨_, logged⟩
  · exact ⟨c.calls, same⟩
  · exact ⟨_, logged⟩

theorem step_reads {e : Event} {s' : Connection} (here : Reads s)
    (taken : step codec s e = .ok s') : Reads s' := by
  cases e with
  | frame image width height header body =>
    cases taken
    obtain ⟨calls, same⟩ := frame_fields image width height header body s.client
    intro phase
    rw [same]
    exact here phase
  | loop t =>
    cases taken
    unfold loopStep
    cases phase : s.phase with
    | head =>
      dsimp only
      split
      · intro reads
        dsimp only at reads ⊢
        split at reads
        · cases reads
        · next succeeded => exact connect_connected s.client (not_not.mp succeeded)
      · exact here
    | read =>
      dsimp only
      split
      · intro _
        exact (read_opened t.answer s.client).2.trans (here phase)
      · intro reads
        cases reads
    | destroy =>
      intro reads
      cases reads

end Steps

end HyperionWebos.ConnectionTurns
