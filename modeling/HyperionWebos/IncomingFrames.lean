import HyperionWebos.ReplyBounds

/-! The reading side of `connection_loop`: the server's frames come in pieces as the kernel
likes, and `hyperion_read` takes what one `read` delivers for what it asked for. Where no
frame is divided by a delivery, the bodies that reach `_parse_reply` are those sent; and
where their offsets stay among their own bytes, nothing else is parsed. -/

namespace HyperionWebos.IncomingFrames
open LengthFrames HyperionClient FlatReply ReplyBounds

/-- How the kernel answers one `read`: with some of the pending bytes, or not in time. -/
inductive Delivery where
  | chunk (more : Nat)
  | timeout
deriving DecidableEq

def eagain : Nat := 11

/-- With nothing pending a chunk is the end of the stream. A `read` of no bytes never waits. -/
def kernelRead (n : Nat) (pending : List UInt8) : Delivery → ReadOutcome × List UInt8
  | .timeout => if n = 0 then (.data [], pending) else (.failed eagain, pending)
  | .chunk more =>
    (.data (pending.take (min (more + 1) n)), pending.drop (min (more + 1) n))

/-- One call of `hyperion_read`: what its stack held and how its two reads are answered. -/
structure ReadCall where
  stack : Fin 4 → UInt8
  header : Delivery
  body : Delivery

def readOnce (codec : Codec) (r : ReadCall) (c : Client) (pending : List UInt8) :
    Int × Client × List UInt8 :=
  let (header, rest) := kernelRead 4 pending r.header
  let (body, rest) := match readHeader r.stack header with
    | .error _ => (.data [], rest)
    | .ok messageSize => kernelRead messageSize rest r.body
  let (ret, c) := hyperionRead codec r.stack header body c
  (ret, c, rest)

/-- The inner loop of `connection_loop`, which only a timeout does not end on an error. -/
def readLoop (codec : Codec) : List ReadCall → Client → List UInt8 → Client
  | [], c, _ => c
  | r :: rs, c, pending =>
    let (ret, c, rest) := readOnce codec r c pending
    if ret = -(eagain : Int) then readLoop codec rs c rest
    else if ret < 0 then c
    else readLoop codec rs c rest

def handed (calls : List SocketCall) : List (List UInt8) :=
  calls.filterMap fun
    | .reply body => some body
    | _ => none

def Complete (n : Nat) : Delivery → Prop
  | .chunk more => n ≤ more + 1
  | .timeout => n = 0

instance (n : Nat) : (d : Delivery) → Decidable (Complete n d)
  | .chunk more => inferInstanceAs (Decidable (n ≤ more + 1))
  | .timeout => inferInstanceAs (Decidable (n = 0))

def OwnBytes (body : List UInt8) : Prop := InBounds body.length (memory (fun _ => 0) body)

/-- No delivery divides a frame: a call gets nothing of it or both reads in full. A timeout
between header and body may only be the last thing that happens. What a call gets in full
decodes within its own bytes. -/
def Undivided : List ReadCall → List UInt8 → Prop
  | [], _ => True
  | r :: rs, pending =>
    pending = [] ∨ (r.header = .timeout ∧ Undivided rs pending) ∨
      (Complete 4 r.header ∧
        ((Complete (headerValue (pending.take 4)) r.body ∧
            OwnBytes ((pending.drop 4).take (headerValue (pending.take 4))) ∧
            Undivided rs (pending.drop (4 + headerValue (pending.take 4)))) ∨
          (headerValue (pending.take 4) ≠ 0 ∧ r.body = .timeout ∧ rs = [])))

def wire (bodies : List Received) : List UInt8 := frames (bodies.map Received.bytes)

/-- `_registered` after a reply, from the bytes of that reply alone. -/
def registers (priority : Int) (registered : Bool) (received : Received) : Bool :=
  registeredBy (readReply.run (alone received)) registered priority

variable {codec : Codec}

theorem kernelRead_complete {n : Nat} {d : Delivery} (complete : Complete n d)
    {front rest : List UInt8} (size : front.length = n) :
    kernelRead n (front ++ rest) d = (.data front, rest) := by
  cases d with
  | timeout =>
    have empty : n = 0 := complete
    obtain rfl : front = [] := List.length_eq_zero_iff.mp (size.trans empty)
    rw [kernelRead, if_pos empty]
    rfl
  | chunk more =>
    have all : min (more + 1) n = n := Nat.min_eq_right complete
    rw [kernelRead, all, List.take_left' size, List.drop_left' size]

theorem readHeader_frame (stack : Fin 4 → UInt8) {n : Nat} (small : n < recvBuffSize) :
    readHeader stack (.data (header n)) = .ok n := by
  have value : headerValue (header n ++ (List.ofFn stack).drop (header n).length) = n := by
    rw [header_length, List.drop_eq_nil_of_le (by simp), List.append_nil]
    exact headerValue_header (Nat.lt_trans small (by decide))
  have whole : (header n).take 4 = header n := rfl
  have some_bytes : header n ≠ [] := List.cons_ne_nil _ _
  rw [readHeader, whole]
  dsimp only
  rw [if_neg some_bytes, value, if_neg (Nat.not_le.mpr small)]

theorem wire_cons (received : Received) (bodies : List Received) :
    wire (received :: bodies) =
      header received.bytes.length ++ (received.bytes ++ wire bodies) := by
  rw [wire, List.map_cons, frames_cons]
  rfl

theorem readOnce_frame (stack : Fin 4 → UInt8) {first second : Delivery} {received : Received}
    (head : Complete 4 first) (tail : Complete received.bytes.length second) {c : Client}
    (opened : c.sockfd ≠ 0) (bodies : List Received) :
    ∃ c', readOnce codec ⟨stack, first, second⟩ c (wire (received :: bodies)) =
        (0, c', wire bodies) ∧
      c'.sockfd ≠ 0 ∧ c'.priority = c.priority ∧ c'.calls = c.calls ++ [.reply received.bytes] ∧
      c'.registered = (parseReply codec { c with
        recvBuff := received.bytes ++ c.recvBuff.drop received.bytes.length }).registered := by
  have small := received.fits
  have head_read : kernelRead 4 (wire (received :: bodies)) first =
      (.data (header received.bytes.length), received.bytes ++ wire bodies) := by
    rw [wire_cons]
    exact kernelRead_complete head rfl
  have body_read : kernelRead received.bytes.length (received.bytes ++ wire bodies) second =
      (.data received.bytes, wire bodies) := kernelRead_complete tail rfl
  let c₀ : Client := { c with
    recvBuff := received.bytes ++ c.recvBuff.drop received.bytes.length }
  obtain ⟨registered, parsed⟩ := parseReply_eq codec (c₀.log (.reply received.bytes))
  refine ⟨{ c₀.log (.reply received.bytes) with registered := registered }, ?_, opened, rfl, rfl,
    ?_⟩
  · have read : hyperionRead codec stack (.data (header received.bytes.length))
        (.data received.bytes) c =
          (0, { c₀.log (.reply received.bytes) with registered := registered }) := by
      rw [hyperionRead, if_neg opened, readHeader_frame stack small]
      dsimp only
      rw [List.take_length, List.take_left' rfl, parsed]
    simp only [readOnce, head_read, readHeader_frame stack small, body_read, read]
  · -- the log takes no part in the parse
    have logged := parseReply_registered codec (c₀.log (.reply received.bytes))
    rw [parsed] at logged
    rw [parseReply_registered]
    exact logged

theorem readOnce_timeout (stack : Fin 4 → UInt8) (second : Delivery) {c : Client}
    (opened : c.sockfd ≠ 0) (pending : List UInt8) :
    readOnce codec ⟨stack, .timeout, second⟩ c pending = (-(eagain : Int), c, pending) := by
  have waits : kernelRead 4 pending .timeout = (.failed eagain, pending) := rfl
  rw [readOnce]
  simp only [waits, readHeader, hyperionRead, if_neg opened]

theorem readLoop_nil (rs : List ReadCall) {c : Client} (opened : c.sockfd ≠ 0) :
    readLoop codec rs c [] = c := by
  induction rs with
  | nil => rfl
  | cons r rs ih =>
    obtain ⟨stack, first, second⟩ := r
    cases first with
    | timeout =>
      rw [readLoop, readOnce_timeout stack second opened]
      simpa using ih
    | chunk more =>
      simp [readLoop, readOnce, kernelRead, readHeader, hyperionRead, opened, eagain]

theorem readOnce_half (stack : Fin 4 → UInt8) {first : Delivery} {received : Received}
    (head : Complete 4 first) (waits : received.bytes.length ≠ 0) {c : Client}
    (opened : c.sockfd ≠ 0) (bodies : List Received) :
    (readOnce codec ⟨stack, first, .timeout⟩ c (wire (received :: bodies))).2.1 = c := by
  have head_read : kernelRead 4 (wire (received :: bodies)) first =
      (.data (header received.bytes.length), received.bytes ++ wire bodies) := by
    rw [wire_cons]
    exact kernelRead_complete head rfl
  have body_read : kernelRead received.bytes.length (received.bytes ++ wire bodies) .timeout =
      (.failed eagain, received.bytes ++ wire bodies) := if_neg waits
  simp only [readOnce, head_read, readHeader_frame stack received.fits, body_read, hyperionRead,
    if_neg opened]

theorem readLoop_single (r : ReadCall) (c : Client) (pending : List UInt8) :
    readLoop codec [r] c pending = (readOnce codec r c pending).2.1 := by
  rw [readLoop]
  dsimp only
  split
  · rfl
  · split <;> rfl

/-- `c'` has handed over the first of `bodies` and nothing else, and parsed each from its own
bytes alone. -/
def HandsPrefix (bodies : List Received) (c c' : Client) : Prop :=
  ∃ calls n, c'.calls = c.calls ++ calls ∧ handed calls = (bodies.take n).map Received.bytes ∧
    (∀ received ∈ bodies.take n, DecodedFromReceived received) ∧
    c'.registered = (bodies.take n).foldl (registers c.priority) c.registered

theorem handsPrefix_refl (bodies : List Received) (c : Client) : HandsPrefix bodies c c :=
  ⟨[], 0, (List.append_nil _).symm, rfl, List.forall_mem_nil _, rfl⟩

theorem HandsPrefix.cons {bodies : List Received} {c c' c'' : Client} {received : Received}
    (calls : c'.calls = c.calls ++ [.reply received.bytes]) (priority : c'.priority = c.priority)
    (own : DecodedFromReceived received)
    (registered : c'.registered = registers c.priority c.registered received)
    (later : HandsPrefix bodies c' c'') : HandsPrefix (received :: bodies) c c'' := by
  obtain ⟨calls', n, eq, same, decoded, result⟩ := later
  refine ⟨.reply received.bytes :: calls', n + 1, ?_, ?_, ?_, ?_⟩
  · rw [eq, calls, List.append_assoc]
    rfl
  · rw [List.take_succ_cons, List.map_cons, ← same]
    rfl
  · rw [List.take_succ_cons, List.forall_mem_cons]
    exact ⟨own, decoded⟩
  · rw [result, registered, priority]
    rfl

section Flat

variable {encode : Request → Message} {outside : Int → UInt8}

/-- The step lemma: a frame read in full, before the loop goes on. -/
theorem readLoop_frame (rs : List ReadCall) (stack : Fin 4 → UInt8) {first second : Delivery}
    {received : Received} (head : Complete 4 first)
    (tail : Complete received.bytes.length second) (own : OwnBytes received.bytes) {c : Client}
    (opened : c.sockfd ≠ 0) {bodies : List Received} {c'' : Client}
    (later : ∀ c', c'.sockfd ≠ 0 → readLoop (flatCodec encode outside) rs c' (wire bodies) = c'' →
      HandsPrefix bodies c' c'')
    (ran : readLoop (flatCodec encode outside) (⟨stack, first, second⟩ :: rs) c
      (wire (received :: bodies)) = c'') :
    HandsPrefix (received :: bodies) c c'' := by
  obtain ⟨c', once, opened', priority, calls, registered⟩ :=
    @readOnce_frame (flatCodec encode outside) stack first second received head tail c opened
      bodies
  rw [readLoop, once] at ran
  refine HandsPrefix.cons calls priority (decoded_of_own own) ?_ (later c' opened' ?_)
  · rw [registered]
    exact own_registered own encode outside rfl
  · simpa [eagain] using ran

/-- Where the deliveries divide no frame and each body decodes within its own bytes, the
bodies handed to `_parse_reply` are a prefix of those the server sent, and nothing but their
own bytes is parsed. -/
theorem incoming_frames (encode : Request → Message) (outside : Int → UInt8)
    (rs : List ReadCall) (bodies : List Received) (c : Client) (opened : c.sockfd ≠ 0)
    (undivided : Undivided rs (wire bodies)) :
    HandsPrefix bodies c (readLoop (flatCodec encode outside) rs c (wire bodies)) := by
  induction rs generalizing c bodies with
  | nil => exact handsPrefix_refl bodies c
  | cons r rs ih =>
    obtain ⟨stack, first, second⟩ := r
    cases bodies with
    | nil =>
      rw [wire, List.map_nil, frames_nil, readLoop_nil _ opened]
      exact handsPrefix_refl [] c
    | cons received bodies =>
      have length : headerValue ((wire (received :: bodies)).take 4) = received.bytes.length := by
        rw [wire, List.map_cons, take_frames]
        exact headerValue_header (Nat.lt_trans received.fits (by decide))
      have rest : (wire (received :: bodies)).drop 4 = received.bytes ++ wire bodies := by
        rw [wire_cons]
        exact List.drop_left' rfl
      rw [Undivided, length, ← List.drop_drop, rest, List.take_left' rfl, List.drop_left' rfl]
        at undivided
      rcases undivided with ended | ⟨timeout, later⟩ | ⟨head, ⟨tail, own, later⟩ |
        ⟨waits, timeout, last⟩⟩
      · rw [wire_cons] at ended
        exact absurd ended (List.cons_ne_nil _ _)
      · have none : first = .timeout := timeout
        rw [none, readLoop, readOnce_timeout stack second opened]
        exact ih (received :: bodies) c opened later
      · refine readLoop_frame rs stack head tail own opened (fun c' opened' ran => ?_) rfl
        rw [← ran]
        exact ih bodies c' opened' later
      · have none : second = .timeout := timeout
        rw [none, last, readLoop_single, readOnce_half stack head waits opened bodies]
        exact handsPrefix_refl _ c

end Flat

def ack : Received := ⟨ackBytes, by decide⟩

theorem ack_own : OwnBytes ack.bytes := by
  refine ⟨⟨by decide, by decide +kernel, by decide +kernel, by decide +kernel⟩,
    ⟨by decide +kernel, by decide +kernel⟩, ?_⟩
  have noError : fieldOffset (memory (fun _ => 0) ack.bytes) 0 = 0 := by decide +kernel
  rw [if_pos noError]
  exact ⟨⟨by decide +kernel, by decide +kernel⟩, ⟨by decide +kernel, by decide +kernel⟩⟩

theorem incoming_frames_timeouts :
    HandsPrefix [ack, ⟨[8, 9], by decide⟩] connectedClient
      (readLoop (flatCodec plain.encode fun _ => 0)
        [⟨fun _ => 1, .timeout, .timeout⟩, ⟨fun _ => 1, .chunk 9, .chunk 30⟩,
          ⟨fun _ => 1, .chunk 3, .timeout⟩] connectedClient
        (wire [ack, ⟨[8, 9], by decide⟩])) := by
  refine incoming_frames plain.encode (fun _ => 0) _ _ connectedClient (by decide) ?_
  refine Or.inr (Or.inl ⟨rfl, Or.inr (Or.inr ⟨by decide, Or.inl ⟨by decide, ack_own, ?_⟩⟩)⟩)
  exact Or.inr (Or.inr ⟨by decide, Or.inr ⟨by decide, rfl, rfl⟩⟩)

/-- One byte of a header is taken for an empty message, a body that was waited for in vain for
the next header, and the bytes of an earlier message for those of a short one. -/
theorem incoming_frames_divided :
    ¬ HandsPrefix [⟨[7], by decide⟩] connectedClient
        (readLoop (flatCodec plain.encode fun _ => 0) [⟨fun _ => 0, .chunk 0, .chunk 0⟩]
          connectedClient (frames [[7]])) ∧
      ¬ HandsPrefix [⟨[0, 0, 0, 1, 9], by decide⟩] connectedClient
        (readLoop (flatCodec plain.encode fun _ => 0)
          [⟨fun _ => 0, .chunk 3, .timeout⟩, ⟨fun _ => 0, .chunk 3, .chunk 0⟩] connectedClient
          (frames [[0, 0, 0, 1, 9]])) ∧
      ¬ HandsPrefix [ack, ⟨[16, 0, 0, 0], by decide⟩] connectedClient
        (readLoop (flatCodec plain.encode fun _ => 0)
          [⟨fun _ => 0, .chunk 3, .chunk 23⟩, ⟨fun _ => 0, .chunk 3, .chunk 3⟩] connectedClient
          (wire [ack, ⟨[16, 0, 0, 0], by decide⟩])) := by
  have first (bodies : List Received) (c c' : Client) (body : List UInt8)
      (calls : c'.calls = c.calls ++ [.reply body])
      (other : ∀ n, (bodies.take n).map Received.bytes ≠ [body]) : ¬ HandsPrefix bodies c c' := by
    rintro ⟨calls', n, eq, same, _⟩
    rw [calls] at eq
    rw [← List.append_cancel_left eq] at same
    exact other n same.symm
  refine ⟨?_, ?_, ?_⟩
  · refine first _ _ _ [] rfl ?_
    rintro (_ | n) same
    · cases same
    · cases same
  · refine first _ _ _ [9] rfl ?_
    rintro (_ | n) same
    · cases same
    · cases same
  · rintro ⟨calls, n, eq, same, own, _⟩
    have both : calls = [.reply ackBytes, .reply [16, 0, 0, 0]] :=
      (List.append_cancel_left (eq.symm.trans rfl :
        connectedClient.calls ++ calls = connectedClient.calls ++ _))
    rw [both] at same
    have second : ⟨[16, 0, 0, 0], by decide⟩ ∈
        [ack, (⟨[16, 0, 0, 0], by decide⟩ : Received)].take n := by
      match n with
      | 0 => cases same
      | 1 => cases same
      | n + 2 => simp
    have touched := (own _ second).1 (fun _ => 0) [] 16 (by decide +kernel)
    exact absurd touched.2 (by decide)

end HyperionWebos.IncomingFrames
