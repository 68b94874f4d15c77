import HyperionWebos.FlatReply
import HyperionWebos.Runs

/-! Whether the server has registered the client that sends it images. `_registered` is
cleared with every `hyperion_client`, so no acknowledgement outlives its connection; but
`recvBuff` is not cleared, and a body that comes short is completed from what it held. -/

namespace HyperionWebos.Registration
open Runs HyperionClient FlatReply

def call (codec : Codec) (c : Client) (e : ClientEvent) : Except Empty Client :=
  .ok (clientStep codec c e)

def delivered (stack : Fin 4 → UInt8) (header body : ReadOutcome) : Option (Nat × List UInt8) :=
  match readHeader stack header, body with
  | .ok messageSize, .data bytes => some (messageSize, bytes.take messageSize)
  | _, _ => none

def acks (codec : Codec) (priority : Int) (bytes : List UInt8) : Bool :=
  registeredBy (codec.decode bytes) false priority

/-- What is known of the connection that the last `hyperion_client` opened: its socket, the
priority it asked for, whether a whole reply acknowledged it, and whether a body acknowledged
it only together with what was left in `recvBuff`. -/
structure Session where
  socket : Int
  priority : Int
  acked : Bool
  misled : Bool

def noSession : Session := ⟨0, 0, false, false⟩

def Session.receive (codec : Codec) (recvBuff : List UInt8) (messageSize : Nat)
    (got : List UInt8) (g : Session) : Session :=
  let genuine := decide (got.length = messageSize) && acks codec g.priority got
  let seen := acks codec g.priority (got ++ recvBuff.drop got.length)
  { g with acked := g.acked || genuine, misled := g.misled || (seen && !genuine) }

def observe (codec : Codec) (g : Session) (c : Client) (e : ClientEvent) (_ : Client) : Session :=
  match e with
  | .client _ _ _ _ priority o => ⟨o.socket, priority, false, false⟩
  | .read stack header body =>
    if c.sockfd = 0 then g
    else match delivered stack header body with
      | some (messageSize, got) => g.receive codec c.recvBuff messageSize got
      | none => g
  | .destroy | .setImage .. => g

/-- An image goes only to the socket of the current connection, and only once a whole reply
received on it has acknowledged the priority it was opened with. -/
def ImageAcked (p : Client × Session) (_ : ClientEvent) (q : Client × Session) : Prop :=
  ∀ fd image width height header body,
    q.1.calls = p.1.calls ++ [.frame fd (.image image width height) header body] →
      fd = p.2.socket ∧ p.2.acked = true

def MisledImage (p : Client × Session) (e : ClientEvent) : Prop :=
  (∃ image width height header body, e = .setImage image width height header body) ∧
    p.1.sockfd ≠ 0 ∧ p.1.connected = true ∧ p.2.misled = true ∧ p.2.acked = false

/-- The session speaks of the client's socket and priority, and `_registered` is due to a
reply of this connection, read rightly or wrongly. -/
structure Tied (p : Client × Session) : Prop where
  socket : p.1.sockfd ≠ 0 → p.1.sockfd = p.2.socket
  priority : p.1.priority = p.2.priority
  registered : p.1.registered = true → p.2.acked = true ∨ p.2.misled = true
  misled : p.2.misled = true → p.1.registered = true

theorem tied_zeroed : Tied (zeroed, noSession) where
  socket open_ := absurd rfl open_
  priority := rfl
  registered set := by cases set
  misled set := by cases set

theorem connectSocket_fields (address : Address) (parses : Bool) (o : ConnectOutcome)
    (c : Client) :
    (connectSocket address parses o c).2.sockfd = o.socket ∧
      (connectSocket address parses o c).2.priority = c.priority ∧
      (connectSocket address parses o c).2.registered = c.registered := by
  unfold connectSocket
  dsimp only
  repeat' split
  all_goals exact ⟨rfl, rfl, rfl⟩

theorem hyperionClient_fields (origin hostname : String) (port : Int) (unixSocket : Bool)
    (priority : Int) (o : ConnectOutcome) (c : Client) :
    (hyperionClient origin hostname port unixSocket priority o c).2.sockfd = o.socket ∧
      (hyperionClient origin hostname port unixSocket priority o c).2.priority = priority ∧
      (hyperionClient origin hostname port unixSocket priority o c).2.registered = false := by
  unfold hyperionClient
  dsimp only
  split
  · exact connectSocket_fields _ _ _ _
  · exact connectSocket_fields _ _ _ _

theorem hyperionRead_cases (codec : Codec) (stack : Fin 4 → UInt8) (header body : ReadOutcome)
    {c : Client} (open_ : c.sockfd ≠ 0) :
    (delivered stack header body = none ∧ (hyperionRead codec stack header body c).2 = c) ∨
    ∃ messageSize got, delivered stack header body = some (messageSize, got) ∧
      (hyperionRead codec stack header body c).2.sockfd = c.sockfd ∧
      (hyperionRead codec stack header body c).2.priority = c.priority ∧
      (hyperionRead codec stack header body c).2.connected = c.connected ∧
      (hyperionRead codec stack header body c).2.registered =
        (c.registered || acks codec c.priority (got ++ c.recvBuff.drop got.length)) := by
  unfold hyperionRead delivered
  rw [if_neg open_]
  cases readHeader stack header with
  | error ret => exact Or.inl ⟨rfl, rfl⟩
  | ok messageSize =>
    cases body with
    | failed errno => exact Or.inl ⟨rfl, rfl⟩
    | data bytes =>
      right
      refine ⟨messageSize, bytes.take messageSize, rfl, ?_⟩
      dsimp only
      obtain ⟨registered, eq⟩ := parseReply_eq codec
        (Client.log (.reply ((bytes.take messageSize ++
          c.recvBuff.drop (bytes.take messageSize).length).take messageSize))
          { c with recvBuff := bytes.take messageSize ++
              c.recvBuff.drop (bytes.take messageSize).length })
      refine ⟨by rw [eq]; rfl, by rw [eq]; rfl, by rw [eq]; rfl, ?_⟩
      rw [parseReply_registered]
      simp [acks, registeredBy, Client.log]

theorem hyperionSetImage_cases (image : List UInt8) (width height : Int)
    (header body : WriteOutcome) (c : Client) :
    (c.sockfd ≠ 0 ∧ c.connected = true ∧ c.registered = true ∧
      (hyperionSetImage image width height header body c).2 =
        c.log (.frame c.sockfd (.image image width height) header body)) ∨
    (¬ (c.sockfd ≠ 0 ∧ c.connected = true ∧ c.registered = true) ∧
      ((hyperionSetImage image width height header body c).2 = c ∨
        (hyperionSetImage image width height header body c).2 =
          c.log (.frame c.sockfd (.register c.origin c.priority) header body))) := by
  unfold hyperionSetImage sendMessage
  by_cases closed : c.sockfd = 0
  · exact Or.inr ⟨fun h => h.1 closed, Or.inl (by rw [if_pos closed])⟩
  rw [if_neg closed]
  cases connected : c.connected with
  | false => exact Or.inr ⟨fun h => Bool.false_ne_true h.2.1, Or.inl rfl⟩
  | true =>
    cases registered : c.registered with
    | false =>
      refine Or.inr ⟨fun h => Bool.false_ne_true h.2.2, Or.inr ?_⟩
      simp [hyperionSetRegister, closed, writeFrame]
    | true =>
      refine Or.inl ⟨closed, rfl, rfl, ?_⟩
      simp [writeFrame]

def Silent (c c' : Client) : Prop :=
  ∃ more, c'.calls = c.calls ++ more ∧
    ∀ fd request header body, SocketCall.frame fd request header body ∉ more

theorem connectSocket_silent (address : Address) (parses : Bool) (o : ConnectOutcome)
    (c : Client) : Silent c (connectSocket address parses o c).2 := by
  have opened : Silent c { c.log (.socket o.socket) with sockfd := o.socket } :=
    ⟨[.socket o.socket], rfl, by simp⟩
  have connected (b : Bool) : Silent c { ({ c.log (.socket o.socket) with
      sockfd := o.socket }.log (.connect o.socket address o.connects)) with connected := b } :=
    ⟨[.socket o.socket, .connect o.socket address o.connects], by simp [Client.log], by simp⟩
  unfold connectSocket
  dsimp only
  split
  · exact opened
  split
  · exact opened
  split
  · exact opened
  split
  · exact opened
  split
  · exact connected c.connected
  · exact connected true

theorem parseReply_calls (codec : Codec) (c : Client) :
    (parseReply codec c).calls = c.calls := by
  obtain ⟨registered, eq⟩ := parseReply_eq codec c
  rw [eq]

theorem clientStep_silent (codec : Codec) (c : Client) {e : ClientEvent}
    (other : ∀ image width height header body, e ≠ .setImage image width height header body) :
    Silent c (clientStep codec c e) := by
  have still : Silent c c := ⟨[], by simp, by simp⟩
  cases e with
  | client origin hostname port unixSocket priority o =>
    simp only [clientStep, hyperionClient]
    split
    · exact connectSocket_silent _ _ _ _
    · exact connectSocket_silent _ _ _ _
  | read stack header body =>
    simp only [clientStep, hyperionRead]
    split
    · exact still
    split
    · exact still
    split
    · exact still
    · exact ⟨_, parseReply_calls codec _, by simp⟩
  | destroy =>
    simp only [clientStep, hyperionDestroy]
    split
    · exact still
    · exact ⟨[.close c.sockfd], rfl, by simp⟩
  | setImage image width height header body =>
    exact absurd rfl (other image width height header body)

theorem silent_writes {c c' : Client} (silent : Silent c c') {fd : Int} {request : Request}
    {header body : WriteOutcome} : c'.calls ≠ c.calls ++ [.frame fd request header body] := by
  obtain ⟨more, grown, none⟩ := silent
  intro written
  rw [grown] at written
  have last := List.append_cancel_left written
  exact none fd request header body (last ▸ List.mem_singleton_self _)

theorem imageAcked_iff {codec : Codec} {p q : Client × Session} {e : ClientEvent} (here : Tied p)
    (h : watched (call codec) (observe codec) p e = .ok q) :
    ImageAcked p e q ↔ ¬ MisledImage p e := by
  obtain ⟨moved, _⟩ := watched_ok.mp h
  have stepped : q.1 = clientStep codec p.1 e := (Except.ok.inj moved).symm
  by_cases sends : ∃ image width height header body, e = .setImage image width height header body
  · obtain ⟨image, width, height, header, body, rfl⟩ := sends
    rcases hyperionSetImage_cases image width height header body p.1 with
      ⟨opened, connected, registered, written⟩ | ⟨shut, quiet⟩
    · have grown : q.1.calls =
          p.1.calls ++ [.frame p.1.sockfd (.image image width height) header body] := by
        rw [stepped]
        exact congrArg Client.calls written
      constructor
      · rintro law ⟨_, _, _, _, unacked⟩
        exact Bool.false_ne_true (unacked.symm.trans (law _ _ _ _ _ _ grown).2)
      · intro honest fd image' width' height' header' body' written'
        have same := List.append_cancel_left (grown.symm.trans written')
        simp only [List.cons.injEq, SocketCall.frame.injEq] at same
        refine ⟨same.1.1.symm.trans (here.socket opened), ?_⟩
        rcases here.registered registered with acked | misled
        · exact acked
        · apply eq_true_of_ne_false
          intro unacked
          exact honest ⟨⟨_, _, _, _, _, rfl⟩, opened, connected, misled, unacked⟩
    · refine iff_of_true ?_ ?_
      · intro fd image' width' height' header' body' written
        rw [stepped] at written
        change (hyperionSetImage image width height header body p.1).2.calls = _ at written
        rcases quiet with same | register
        · rw [same] at written
          simp at written
        · rw [register] at written
          have last := List.append_cancel_left written
          simp at last
      · rintro ⟨_, opened, connected, misled, _⟩
        exact shut ⟨opened, connected, here.misled misled⟩
  · have silent : Silent p.1 q.1 := by
      rw [stepped]
      refine clientStep_silent codec p.1 fun image width height header body same => ?_
      exact sends ⟨image, width, height, header, body, same⟩
    refine iff_of_true ?_ fun bad => sends bad.1
    intro fd image width height header body written
    exact absurd written (silent_writes silent)

theorem receive_tied {codec : Codec} {c c' : Client} {g : Session} {messageSize : Nat}
    {got : List UInt8} (here : Tied (c, g)) (socket : c'.sockfd = c.sockfd)
    (priority : c'.priority = c.priority)
    (registered : c'.registered =
      (c.registered || acks codec c.priority (got ++ c.recvBuff.drop got.length))) :
    Tied (c', g.receive codec c.recvBuff messageSize got) := by
  have asked : c.priority = g.priority := here.priority
  rw [asked] at registered
  refine ⟨fun opened => ?_, priority.trans asked, fun set => ?_, fun misled => ?_⟩
  · exact socket.trans (here.socket (socket ▸ opened))
  · simp only [Session.receive]
    change c'.registered = true at set
    rw [registered, Bool.or_eq_true] at set
    rcases set with before | seen
    · rcases here.registered before with acked | misled
      · exact Or.inl (by rw [acked, Bool.true_or])
      · exact Or.inr (by rw [misled, Bool.true_or])
    · cases genuine : decide (got.length = messageSize) && acks codec g.priority got with
      | true => exact Or.inl (Bool.or_true _)
      | false => exact Or.inr (by rw [seen, Bool.not_false, Bool.and_true, Bool.or_true])
  · simp only [Session.receive, Bool.or_eq_true, Bool.and_eq_true] at misled
    change c'.registered = true
    rw [registered, Bool.or_eq_true]
    exact misled.imp here.misled And.left

theorem observe_tied {codec : Codec} {p q : Client × Session} {e : ClientEvent} (here : Tied p)
    (h : watched (call codec) (observe codec) p e = .ok q) : Tied q := by
  obtain ⟨moved, seen⟩ := watched_ok.mp h
  obtain ⟨c, g⟩ := p
  obtain ⟨c', g'⟩ := q
  obtain rfl : g' = observe codec g c e c' := seen
  obtain rfl : clientStep codec c e = c' := Except.ok.inj moved
  cases e with
  | client origin hostname port unixSocket priority o =>
    obtain ⟨socket, asked, registered⟩ :=
      hyperionClient_fields origin hostname port unixSocket priority o c
    exact ⟨fun _ => socket, asked, fun set => Bool.noConfusion (registered.symm.trans set),
      Bool.noConfusion⟩
  | read stack header body =>
    simp only [clientStep, observe]
    by_cases shut : c.sockfd = 0
    · rw [if_pos shut, hyperionRead, if_pos shut]
      exact here
    · rw [if_neg shut]
      rcases hyperionRead_cases codec stack header body shut with
        ⟨none, same⟩ | ⟨messageSize, got, arrived, socket, priority, _, registered⟩
      · rw [none, same]
        exact here
      · rw [arrived]
        exact receive_tied here socket priority registered
  | destroy =>
    simp only [clientStep, observe, hyperionDestroy]
    split
    · exact here
    · exact ⟨fun opened => absurd rfl opened, here.priority, here.registered, here.misled⟩
  | setImage image width height header body =>
    simp only [clientStep, observe]
    rcases hyperionSetImage_cases image width height header body c with
      ⟨_, _, _, eq⟩ | ⟨_, eq | eq⟩
    · rw [eq]
      exact ⟨here.socket, here.priority, here.registered, here.misled⟩
    · rw [eq]
      exact here
    · rw [eq]
      exact ⟨here.socket, here.priority, here.registered, here.misled⟩

theorem throughout_imageAcked (codec : Codec) {p : Client × Session} (here : Tied p)
    (es : List ClientEvent) :
    Throughout (watched (call codec) (observe codec)) ImageAcked p es ↔
      Throughout (watched (call codec) (observe codec)) (fun p e _ => ¬ MisledImage p e) p es := by
  have decided (p : Client × Session) (e : ClientEvent) (q : Client × Session) (here : Tied p)
      (h : watched (call codec) (observe codec) p e = .ok q) :
      ImageAcked p e q ↔ ¬ MisledImage p e := imageAcked_iff here h
  have keeps (p : Client × Session) (e : ClientEvent) (q : Client × Session) (here : Tied p)
      (h : watched (call codec) (observe codec) p e = .ok q) (_ : ImageAcked p e q) : Tied q :=
    observe_tied here h
  exact throughout_congr decided keeps here

/-- Every image of a run follows an acknowledgement received on its own connection exactly
when no image is sent on one that only stale bytes have acknowledged. -/
theorem image_acked_iff (codec : Codec) (es : List ClientEvent) :
    Throughout (watched (call codec) (observe codec)) ImageAcked (zeroed, noSession) es ↔
      Throughout (watched (call codec) (observe codec)) (fun p e _ => ¬ MisledImage p e)
        (zeroed, noSession) es :=
  throughout_imageAcked codec tied_zeroed es

/-- After a reconnect the old acknowledgement is still in `recvBuff`, and a body that ends
before its first byte makes the client read it again. -/
theorem image_acked_reconnected :
    ¬ Throughout (watched (call (flatCodec plain.encode fun _ => 0))
        (observe (flatCodec plain.encode fun _ => 0))) ImageAcked (zeroed, noSession)
      [.client "webos" "127.0.0.1" 19400 false 150 ⟨5, true, true, true, true⟩,
        .read (fun _ => 0) (.data [0, 0, 0, 24]) (.data ackBytes), .destroy,
        .client "webos" "127.0.0.1" 19400 false 150 ⟨6, true, true, true, true⟩,
        .read (fun _ => 0) (.data [0, 0, 0, 24]) (.data []),
        .setImage [1, 2, 3] 1 1 .all .all] := by
  intro law
  have honest := (throughout_imageAcked _ tied_zeroed _).mp law
  have last := (((((honest _ rfl).2 _ rfl).2 _ rfl).2 _ rfl).2 _ rfl).2 _ rfl
  refine last.1 ⟨⟨_, _, _, _, _, rfl⟩, ?_, ?_, ?_, ?_⟩
  · decide +kernel
  · decide +kernel
  · decide +kernel
  · decide +kernel

end HyperionWebos.Registration
