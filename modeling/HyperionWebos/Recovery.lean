import HyperionWebos.ConnectionTurns
import HyperionWebos.FairRuns
import HyperionWebos.PixelPath

/-! The connection comes back. Each frame of the capture sends a registration until the server
has acknowledged one. So after any loss, once connecting works again and the server answers a
registration, the client is registered within a bounded number of rounds, and its frames arrive
whole from then on. -/

namespace HyperionWebos.Recovery
open Runs FairRuns HyperionClient OutgoingFrames LengthFrames Registration ConnectionTurns
open SocketBalance (ReadAnswer)
open PixelPath (Serving)

/-! ### The surroundings -/

/-- The connection as it is watched: whether it was opened since, whether a registration went
out on it whole, and the reads after that. -/
structure Attempt where
  opened : Bool
  asked : Bool
  reads : Nat

def unwatched : Attempt := ⟨false, false, 0⟩

def asks (c : Client) (header body : WriteOutcome) : Bool :=
  c.sockfd ≠ 0 && c.connected && !c.registered && header = .all && body = .all

def observe (g : Attempt) (s : Connection) (e : Event) (_ : Connection) : Attempt :=
  match e with
  | .loop t =>
    match s.phase with
    | .head => if t.capturing then ⟨true, false, 0⟩ else g
    | .read => if g.asked then { g with reads := g.reads + 1 } else g
    | .destroy => g
  | .frame _ _ _ header body => if asks s.client header body then { g with asked := true } else g

def Fails (ret : Int) : Prop := ret < 0 ∧ ret ≠ -11

/-- The read delivers a reply that acknowledges the priority, whatever follows in `recvBuff`. -/
def Answers (codec : Codec) (a : ReadAnswer) (priority : Int) : Prop :=
  ∃ messageSize got, delivered a.stack a.header a.body = some (messageSize, got) ∧
    ∀ rest, acks codec priority (got ++ rest) = true

@[simp] def Written : Event → Prop
  | .loop _ => True
  | .frame _ _ _ header body => header = .all ∧ body = .all

structure Connects (t : Turn) : Prop where
  capturing : t.capturing = true
  socket : 0 < t.connect.socket
  sndtimeo : t.connect.sndtimeo = true
  rcvtimeo : t.connect.rcvtimeo = true
  parses : t.connect.parses = true
  connects : t.connect.connects = true

structure Served (s : Connection) : Prop extends Serving s.client where
  phase : s.phase = .read

instance (s : Connection) : Decidable (Served s) :=
  decidable_of_iff (s.phase = .read ∧ s.client.sockfd ≠ 0 ∧ s.client.connected = true ∧
      s.client.registered = true)
    ⟨fun ⟨phase, sockfd, connected, registered⟩ => ⟨⟨⟨sockfd, connected⟩, registered⟩, phase⟩,
      fun served => ⟨served.phase, served.sockfd, served.connected, served.registered⟩⟩

/-- Writes take everything. And as long as the client is not served, a capture is on and
connecting works, a connection opened since does not fail, and one that a registration went
out on fails or answers it in at most `d + 1` reads. -/
def Kind (codec : Codec) (d : Nat) (p : Connection × Attempt) (e : Event) : Prop :=
  Written e ∧ (¬ Served p.1 → ∀ t, e = .loop t → match p.1.phase with
    | .head => Connects t
    | .read => t.goesOn = true ∧
      (p.2.opened = true → ¬ Fails (receive codec t.answer p.1.client).1) ∧
      (p.2.asked = true → d ≤ p.2.reads → Answers codec t.answer p.1.client.priority ∨
        Fails (receive codec t.answer p.1.client).1)
    | .destroy => True)

inductive Thread where
  | loop
  | capture

def moves : Thread → Event → Prop
  | .loop, .loop _ => True
  | .capture, .frame .. => True
  | _, _ => False

/-! ### One step -/

section Steps

variable {codec : Codec} {s : Connection} {t : Turn} {c : Client}

theorem connect_works (works : Connects t) (c : Client) : (connect t c).1 = 0 := by
  have opens (address : Address) (parses : Bool) (c : Client) (known : parses = true) :
      (connectSocket address parses t.connect c).1 = 0 := by
    have socket : t.connect.socket ≠ -1 := by
      have := works.socket
      omega
    simp [connectSocket, socket, works.sndtimeo, works.rcvtimeo, known, works.connects]
  unfold connect hyperionClient
  dsimp only
  split
  · exact opens _ _ _ rfl
  · exact opens _ _ _ works.parses

theorem read_answered {a : ReadAnswer} (open_ : c.sockfd ≠ 0)
    (answers : Answers codec a c.priority) : (receive codec a c).2.registered = true := by
  obtain ⟨messageSize, got, came, acked⟩ := answers
  obtain ⟨none, _⟩ | ⟨messageSize', got', came', _, _, _, registered⟩ :=
    hyperionRead_cases codec a.stack a.header a.body open_
  · rw [none] at came
    cases came
  · rw [came'] at came
    cases came
    unfold receive
    rw [registered, acked, Bool.or_true]

end Steps

/-! ### Progress -/

def waiting (d : Nat) (g : Attempt) : Nat := if g.asked then d - g.reads + 1 else d + 2

def rank (d : Nat) (p : Connection × Attempt) : Nat :=
  match p.1.phase with
  | .head => d + 3
  | .destroy => d + 4
  | .read =>
    if Served p.1 then 0
    else if p.1.client.sockfd = 0 then d + 5
    else if p.2.opened then waiting d p.2
    else d + 5 + waiting d p.2

def helper (p : Connection × Attempt) : Thread :=
  if p.1.phase = .read ∧ p.1.client.sockfd ≠ 0 ∧ p.2.asked = false then .capture else .loop

theorem waiting_le (d : Nat) (g : Attempt) : waiting d g ≤ d + 2 := by
  unfold waiting
  split <;> omega

theorem rank_le (d : Nat) (p : Connection × Attempt) : rank d p ≤ 2 * d + 7 := by
  have waits := waiting_le d p.2
  unfold rank
  repeat' split
  all_goals omega

section Ranks

variable {codec : Codec} {d : Nat} {s s' : Connection} {g g' : Attempt}

theorem waiting_pos (d : Nat) (g : Attempt) : 0 < waiting d g := by
  unfold waiting
  split <;> omega

theorem rank_head (phase : s.phase = .head) : rank d (s, g) = d + 3 := by
  unfold rank
  rw [phase]

theorem rank_destroy (phase : s.phase = .destroy) : rank d (s, g) = d + 4 := by
  unfold rank
  rw [phase]

theorem rank_outside (outside : s.phase ≠ .read) (same : s'.phase = s.phase) :
    rank d (s', g') = rank d (s, g) := by
  unfold rank
  dsimp only
  rw [same]
  cases phase : s.phase with
  | read => exact absurd phase outside
  | head => rfl
  | destroy => rfl

theorem rank_served (served : Served s) : rank d (s, g) = 0 := by
  unfold rank
  rw [served.phase]
  exact if_pos served

theorem rank_closed (phase : s.phase = .read) (closed : s.client.sockfd = 0) :
    rank d (s, g) = d + 5 := by
  unfold rank
  rw [phase]
  dsimp only
  rw [if_neg fun served => served.sockfd closed, if_pos closed]

theorem rank_open (phase : s.phase = .read) (short : ¬ Served s) (open_ : s.client.sockfd ≠ 0) :
    rank d (s, g) = if g.opened then waiting d g else d + 5 + waiting d g := by
  unfold rank
  rw [phase]
  dsimp only
  rw [if_neg short, if_neg open_]

theorem rank_pos (short : ¬ Served s) : 0 < rank d (s, g) := by
  have waits := waiting_pos d g
  cases phase : s.phase with
  | head => rw [rank_head phase]; omega
  | destroy => rw [rank_destroy phase]; omega
  | read =>
    by_cases closed : s.client.sockfd = 0
    · rw [rank_closed phase closed]
      omega
    · rw [rank_open phase short closed]
      split <;> omega

theorem rank_lt_open (phase : s.phase = .read) (short : ¬ Served s) (open_ : s.client.sockfd ≠ 0)
    (phase' : s'.phase = .read) (open' : s'.client.sockfd ≠ 0) (opened : g'.opened = g.opened)
    (waits : waiting d g' < waiting d g) : rank d (s', g') < rank d (s, g) := by
  by_cases served : Served s'
  · rw [rank_served served]
    exact rank_pos short
  · rw [rank_open phase short open_, rank_open phase' served open', opened]
    split <;> omega

theorem helper_open (phase : s.phase = .read) (open_ : s.client.sockfd ≠ 0) :
    helper (s, g) = if g.asked then .loop else .capture := by
  unfold helper
  cases asked : g.asked with
  | true => simp
  | false => simp [phase, open_]

theorem helper_closed (closed : s.client.sockfd = 0) : helper (s, g) = .loop := by
  unfold helper
  simp [closed]

theorem helper_outside (phase : s.phase ≠ .read) : helper (s, g) = .loop := by
  unfold helper
  simp [phase]

end Ranks

/-- The step lowers the rank, or does not touch it and is not the helper's. -/
def Nearer (d : Nat) (p : Connection × Attempt) (e : Event) (q : Connection × Attempt) : Prop :=
  rank d q < rank d p ∨ (rank d q = rank d p ∧ helper q = helper p ∧ ¬ moves (helper p) e)

section Lowers

variable {codec : Codec} {d : Nat} {s : Connection} {g : Attempt}

theorem nearer_stays {e : Event} {s' : Connection} (rank_eq : rank d (s', g) = rank d (s, g))
    (helper_eq : helper (s', g) = helper (s, g)) (other : ¬ moves (helper (s, g)) e) :
    Nearer d (s, g) e (s', g) := .inr ⟨rank_eq, helper_eq, other⟩

theorem frame_nearer (here : Reads s) (short : ¬ Served s) (image : List UInt8)
    (width height : Int) : Nearer d (s, g) (.frame image width height .all .all)
      ({ s with client := (hyperionSetImage image width height .all .all s.client).2 },
        observe g s (.frame image width height .all .all) s) := by
  obtain ⟨calls, same⟩ := frame_fields image width height .all .all s.client
  rw [same]
  unfold observe
  dsimp only
  by_cases reading : s.phase = .read
  · by_cases closed : s.client.sockfd = 0
    · have quiet : asks s.client .all .all = false := by simp [asks, closed]
      rw [quiet, if_neg Bool.false_ne_true]
      refine nearer_stays ?_ ?_ ?_
      · rw [rank_closed reading closed, rank_closed (by exact reading) (by exact closed)]
      · rw [helper_closed closed, helper_closed (by exact closed)]
      · rw [helper_closed closed]
        exact id
    · have unregistered : s.client.registered = false := by
        refine Bool.not_eq_true _ ▸ fun registered => ?_
        exact short ⟨⟨⟨closed, here reading⟩, registered⟩, reading⟩
      have asking : asks s.client .all .all = true := by
        simp [asks, closed, here reading, unregistered]
      rw [if_pos asking]
      have short' : ¬ Served { s with client := { s.client with calls := calls } } :=
        fun served => Bool.false_ne_true (unregistered.symm.trans served.registered)
      cases asked : g.asked with
      | true =>
        have still : { g with asked := true } = g := by rw [← asked]
        rw [still]
        refine nearer_stays ?_ ?_ ?_
        · rw [rank_open reading short closed, rank_open (by exact reading) short' (by exact closed)]
        · rw [helper_open reading closed, helper_open (by exact reading) (by exact closed)]
        · rw [helper_open reading closed, asked, if_pos rfl]
          exact id
      | false =>
        refine .inl (rank_lt_open reading short closed (by exact reading) (by exact closed) rfl ?_)
        unfold waiting
        rw [asked, if_pos rfl, if_neg Bool.false_ne_true]
        omega
  · refine .inr ⟨rank_outside reading (by rfl), ?_, ?_⟩
    · rw [helper_outside reading, helper_outside (by exact reading)]
    · rw [helper_outside reading]
      exact id

theorem loop_nearer (here : Reads s) (short : ¬ Served s) (t : Turn)
    (kind : Kind codec d (s, g) (.loop t)) :
    Nearer d (s, g) (.loop t) (loopStep codec t s, observe g s (.loop t) s) := by
  have kind := kind.2 short t rfl
  unfold loopStep observe
  dsimp only at kind ⊢
  cases phase : s.phase with
  | head =>
    rw [phase] at kind
    have works : Connects t := kind
    obtain ⟨sockfd, registered⟩ := @connect_fields t s.client
    have open_ : (connect t s.client).2.sockfd ≠ 0 := by
      have := works.socket
      rw [sockfd]
      omega
    have short' : ¬ Served ⟨.read, (connect t s.client).2⟩ :=
      fun served => Bool.false_ne_true (registered.symm.trans served.registered)
    dsimp only
    rw [if_pos works.capturing, if_pos works.capturing, connect_works works,
      if_neg (not_not.mpr rfl)]
    left
    rw [rank_head phase, rank_open rfl short' open_]
    change d + 2 < d + 3
    omega
  | destroy =>
    left
    dsimp only
    rw [rank_destroy phase, rank_head rfl]
    omega
  | read =>
    rw [phase] at kind
    obtain ⟨goesOn, sound, due⟩ := kind
    obtain ⟨sockfd, connected⟩ := @read_opened codec t.answer s.client
    dsimp only
    rw [if_pos goesOn]
    by_cases closed : s.client.sockfd = 0
    · left
      rw [rank_closed phase closed, read_closed t.answer closed]
      change rank d (⟨.destroy, s.client⟩, _) < d + 5
      rw [rank_destroy rfl]
      omega
    have open_ : (receive codec t.answer s.client).2.sockfd ≠ 0 := sockfd ▸ closed
    by_cases fails : Fails (receive codec t.answer s.client).1
    · have old : g.opened = false := Bool.not_eq_true _ ▸ fun opened => sound opened fails
      have ends : afterRead (receive codec t.answer s.client).1 = .destroy := by
        rw [afterRead, if_neg fails.2, if_pos fails.1]
      left
      rw [ends, rank_open phase short closed, old, if_neg Bool.false_ne_true, rank_destroy rfl]
      omega
    have stays : afterRead (receive codec t.answer s.client).1 = .read := by
      unfold afterRead
      split
      · rfl
      · next other => rw [if_neg fun negative => fails ⟨negative, other⟩]
    rw [stays]
    by_cases served : Served ⟨.read, (receive codec t.answer s.client).2⟩
    · left
      rw [rank_served served]
      exact rank_pos short
    cases asked : g.asked with
    | false =>
      rw [if_neg Bool.false_ne_true]
      refine nearer_stays ?_ ?_ ?_
      · rw [rank_open phase short closed, rank_open rfl served open_]
      · rw [helper_open phase closed, helper_open rfl open_]
      · rw [helper_open phase closed, asked, if_neg Bool.false_ne_true]
        exact id
    | true =>
      rw [if_pos rfl]
      have more : g.reads < d := by
        by_contra late
        obtain answers | failed := due asked (Nat.le_of_not_lt late)
        · exact served ⟨⟨⟨open_, connected.trans (here phase)⟩, read_answered closed answers⟩, rfl⟩
        · exact fails failed
      refine .inl (rank_lt_open phase short closed rfl open_ rfl ?_)
      unfold waiting
      dsimp only
      rw [asked, if_pos rfl, if_pos rfl]
      omega

theorem step_nearer {p q : Connection × Attempt} {e : Event} (here : Reads p.1)
    (short : ¬ Served p.1) (kind : Kind codec d p e)
    (taken : watched (step codec) observe p e = .ok q) : Nearer d p e q := by
  obtain ⟨moved, seen⟩ := watched_ok.mp taken
  obtain ⟨s, g⟩ := p
  obtain ⟨s', g'⟩ := q
  cases e with
  | frame image width height header body =>
    obtain ⟨rfl, rfl⟩ : header = .all ∧ body = .all := kind.1
    cases moved
    cases seen
    exact frame_nearer here short image width height
  | loop t =>
    cases moved
    cases seen
    exact loop_nearer here short t kind

end Lowers

open scoped Classical in
theorem progress (codec : Codec) (d : Nat) :
    Progress (lawful (watched (step codec) observe) fun p e _ => Kind codec d p e) moves
      (fun p => Reads p.1) (fun p => Served p.1) (rank d) helper where
  keeps _ _ _ here _ taken := step_reads here (watched_ok.mp (lawful_ok.mp taken).1).1
  lowers _ _ _ here short taken :=
    step_nearer here short (lawful_ok.mp taken).2 (lawful_ok.mp taken).1

/-! ### After that -/

def images (es : List Event) : List Request :=
  es.filterMap fun
    | .frame image width height _ _ => some (.image image width height)
    | .loop _ => none

section Streams

variable {codec : Codec} {s t : Connection} {es : List Event}

theorem served_streams (served : Served s) (written : ∀ e ∈ es, Written e)
    (lasts : Throughout (step codec) (fun _ _ t => t.phase = .read) s es)
    (ran : run (step codec) s es = .ok t) :
    Served t ∧ ∃ calls, t.client.calls = s.client.calls ++ calls ∧
      accepted codec calls = frames ((images es).map fun r => (codec.encode r).bytes) := by
  induction es generalizing s with
  | nil =>
    cases ran
    exact ⟨served, [], (List.append_nil _).symm, rfl⟩
  | cons e es ih =>
    obtain ⟨s', taken, rest⟩ := run_cons_ok.mp ran
    obtain ⟨reading, later⟩ := lasts s' taken
    obtain ⟨whole, others⟩ := List.forall_mem_cons.mp written
    cases e with
    | frame image width height header body =>
      obtain ⟨rfl, rfl⟩ := whole
      cases taken
      obtain ⟨_, _, _, logged⟩ | ⟨closed, _⟩ :=
        hyperionSetImage_cases image width height .all .all s.client
      · rw [logged] at later rest
        have still : Served ⟨s.phase, s.client.log
            (.frame s.client.sockfd (.image image width height) .all .all)⟩ :=
          ⟨⟨⟨served.sockfd, served.connected⟩, served.registered⟩, served.phase⟩
        obtain ⟨ends, calls, more, arrived⟩ := ih still others later rest
        refine ⟨ends, .frame s.client.sockfd (.image image width height) .all .all :: calls, ?_, ?_⟩
        · rw [more]
          simp [Client.log]
        · exact congrArg (frame (codec.encode (.image image width height)).bytes ++ ·) arrived
      · exact absurd ⟨served.sockfd, served.connected, served.registered⟩ closed
    | loop t =>
      cases taken
      have goes : loopStep codec t s = ⟨.read, (receive codec t.answer s.client).2⟩ := by
        unfold loopStep at reading ⊢
        rw [served.phase] at reading ⊢
        dsimp only at reading ⊢
        split
        · next on =>
          rw [if_pos on] at reading
          have stays : afterRead (receive codec t.answer s.client).1 = .read := reading
          rw [stays]
        · next off =>
          rw [if_neg off] at reading
          cases reading
      rw [goes] at later rest
      obtain ⟨replies, calls, -, silent, -⟩ :=
        @hyperionRead_opened codec s.client t.answer.stack t.answer.header t.answer.body
      obtain ⟨ends, calls', more, arrived⟩ :=
        ih ⟨PixelPath.read_serving served.toServing _ _ _, rfl⟩ others later rest
      refine ⟨ends, replies ++ calls', ?_, ?_⟩
      · rw [more, ← List.append_assoc, ← calls]
        rfl
      · rw [accepted_append, silent, List.nil_append]
        exact arrived

end Streams

theorem step_total (codec : Codec) (p : Connection × Attempt) (e : Event) :
    ∃ q, watched (step codec) observe p e = .ok q := by
  cases e <;> exact ⟨_, rfl⟩

theorem kind_written {codec : Codec} {d : Nat} {p : Connection × Attempt} {es : List Event}
    (kind : Careful (watched (step codec) observe) (Kind codec d) p es) : ∀ e ∈ es, Written e := by
  induction es generalizing p with
  | nil => exact List.forall_mem_nil _
  | cons e es ih =>
    obtain ⟨q, taken⟩ := step_total codec p e
    obtain ⟨here, later⟩ := (throughout_cons taken).mp kind
    exact List.forall_mem_cons.mpr ⟨here.1, ih later⟩

/-- From every reachable state, however the connection was lost: while connecting works and a
registration is answered within `d + 1` reads, `2 * d + 8` rounds in which both threads move
lead to a registered connection; and while its reads do not fail the frames fed after that
arrive whole, one for each image and in their order. -/
theorem recovers (codec : Codec) (d : Nat) (earlier : List Event) (s : Connection)
    (ran : run (step codec) boot earlier = .ok s) (es : List Event)
    (rounds : Rounds moves (2 * d + 8) es)
    (kind : Careful (watched (step codec) observe) (Kind codec d) (s, unwatched) es) :
    ∃ before after t, es = before ++ after ∧ run (step codec) s before = .ok t ∧ Served t ∧
      ∀ more u, more <+: after → run (step codec) t more = .ok u →
        Throughout (step codec) (fun _ _ v => v.phase = .read) t more →
        Served u ∧ ∃ calls, u.client.calls = t.client.calls ++ calls ∧
          accepted codec calls = frames ((images more).map fun r => (codec.encode r).bytes) := by
  classical
  have keeps : ∀ s e t, Reads s → step codec s e = .ok t → Reads t :=
    fun s e t here taken => step_reads here taken
  have here : Reads s := run_invariant keeps (fun reads => by cases reads) ran
  have meets := (progress codec d).meets here rounds (Nat.lt_succ_of_le (rank_le d (s, unwatched)))
  obtain ⟨f, failed⟩ | ⟨before, q, ⟨after, rfl⟩, reached, served⟩ := meets_iff.mp meets
  · obtain ⟨q, ends⟩ := run_total (step_total codec) (s, unwatched) es
    rw [run_lawful_ok.mpr ⟨ends, kind⟩] at failed
    cases failed
  · refine ⟨before, after, q.1, rfl, run_watched (run_lawful_ok.mp reached).1, served, ?_⟩
    rintro more u ⟨rest, rfl⟩ ran lasts
    refine served_streams served (fun e member => ?_) lasts ran
    exact kind_written kind e
      (List.mem_append_right before (List.mem_append_left rest member))

def working : Turn :=
  ⟨true, "127.0.0.1", 19400, false, 0, ⟨5, true, true, true, true⟩, true,
    ⟨fun _ => 0, .data [0, 0, 0, 4], .data [1, 2, 3, 4]⟩⟩

def fed : Event := .frame [1, 2, 3] 1 1 .all .all

/-- The server is gone after the client has registered. -/
def lost : List Event :=
  [.loop working, fed, .loop working, fed,
    .loop { working with answer := ⟨fun _ => 0, .failed 104, .data []⟩ }]

def silent : Turn := { working with answer := ⟨fun _ => 0, .failed 11, .data []⟩ }

/-- The server is back, and once it has acknowledged it says nothing more. -/
def back : List Event :=
  [fed, .loop working, fed, .loop working, fed, .loop working] ++
    (List.replicate 5 [fed, .loop silent]).flatten

theorem back_rounds : Rounds moves (2 * 0 + 8) back := by
  have split : back = (List.replicate 3 [fed, .loop working] ++
    List.replicate 5 [fed, .loop silent]).flatten := rfl
  rw [split]
  refine @rounds_flatten _ _ moves (List.replicate 3 [fed, .loop working] ++
    List.replicate 5 [fed, .loop silent]) ?_
  intro r member i
  rcases List.mem_append.mp member with first | later
  · rw [List.eq_of_mem_replicate first]
    cases i with
    | loop => exact ⟨_, List.mem_cons_of_mem _ List.mem_cons_self, trivial⟩
    | capture => exact ⟨_, List.mem_cons_self, trivial⟩
  · rw [List.eq_of_mem_replicate later]
    cases i with
    | loop => exact ⟨_, List.mem_cons_of_mem _ List.mem_cons_self, trivial⟩
    | capture => exact ⟨_, List.mem_cons_self, trivial⟩

theorem fed_kind (p : Connection × Attempt) : Kind plain 0 p fed :=
  ⟨⟨rfl, rfl⟩, fun _ t loop => by cases loop⟩

theorem working_kind {p : Connection × Attempt}
    (here : p.1.phase = .read → p.1.client.sockfd ≠ 0 ∧ p.1.client.priority = 0) :
    Kind plain 0 p (.loop working) := by
  obtain ⟨s, g⟩ := p
  refine ⟨trivial, fun _ t loop => ?_⟩
  cases loop
  dsimp only at here ⊢
  cases phase : s.phase with
  | head => exact ⟨rfl, by decide, rfl, rfl, rfl, rfl⟩
  | destroy => trivial
  | read =>
    obtain ⟨open_, priority⟩ := here phase
    have succeeds : (receive plain working.answer s.client).1 = 0 := by
      unfold receive hyperionRead
      rw [if_neg open_]
      rfl
    refine ⟨rfl, fun _ fails => ?_, fun _ _ => .inl ⟨4, [1, 2, 3, 4], rfl, fun rest => ?_⟩⟩
    · exact absurd fails.1 (by rw [succeeds]; decide)
    · rw [priority]
      rfl

theorem silent_kind {p : Connection × Attempt} {e : Event} (served : Served p.1)
    (one : e = fed ∨ e = .loop silent) :
    ∃ q, watched (step plain) observe p e = .ok q ∧ Kind plain 0 p e ∧ Served q.1 := by
  obtain ⟨s, g⟩ := p
  obtain rfl | rfl := one
  · refine ⟨_, rfl, fed_kind _, ?_⟩
    obtain ⟨calls, same⟩ := frame_fields [1, 2, 3] 1 1 .all .all s.client
    dsimp only
    rw [same]
    exact ⟨⟨⟨served.sockfd, served.connected⟩, served.registered⟩, served.phase⟩
  · refine ⟨_, rfl, ⟨trivial, fun short => absurd served short⟩, ?_⟩
    have open_ : s.client.sockfd ≠ 0 := served.sockfd
    have waits : receive plain silent.answer s.client = (-11, s.client) := by
      unfold receive hyperionRead
      rw [if_neg open_]
      rfl
    dsimp only
    unfold loopStep
    rw [show s.phase = .read from served.phase]
    dsimp only
    rw [waits, if_pos (show silent.goesOn = true from rfl)]
    exact ⟨⟨⟨served.sockfd, served.connected⟩, served.registered⟩, rfl⟩

theorem recovers_lost : ∃ s, run (step plain) boot lost = .ok s ∧ s.phase = .destroy ∧
    ∃ before after t, back = before ++ after ∧ run (step plain) s before = .ok t ∧ Served t ∧
      ∀ more u, more <+: after → run (step plain) t more = .ok u →
        Throughout (step plain) (fun _ _ v => v.phase = .read) t more →
        Served u ∧ ∃ calls, u.client.calls = t.client.calls ++ calls ∧
          accepted plain calls = frames ((images more).map fun r => (plain.encode r).bytes) := by
  have quiet {p : Connection × Attempt} (served : Served p.1) :
      Careful (watched (step plain) observe) (Kind plain 0) p
        (List.replicate 5 [fed, .loop silent]).flatten := by
    have good : ∀ e ∈ (List.replicate 5 [fed, .loop silent]).flatten,
        e = fed ∨ e = .loop silent := by
      intro e member
      obtain ⟨r, one, inside⟩ := List.mem_flatten.mp member
      rw [List.eq_of_mem_replicate one] at inside
      simpa using inside
    have steps : ∀ (p : Connection × Attempt) e, Served p.1 → (e = fed ∨ e = .loop silent) →
        ∃ q, watched (step plain) observe p e = .ok q ∧ Kind plain 0 p e ∧ Served q.1 :=
      fun p e served one => silent_kind served one
    obtain ⟨-, -, careful, -⟩ :=
      run_succeeds (R := fun p e _ => Kind plain 0 p e) steps served good
    exact careful
  refine ⟨_, rfl, rfl, recovers plain 0 lost _ rfl back back_rounds ?_⟩
  refine (throughout_cons rfl).mpr ⟨fed_kind _, ?_⟩
  refine (throughout_cons rfl).mpr ⟨working_kind (fun reading => by cases reading), ?_⟩
  refine (throughout_cons rfl).mpr ⟨fed_kind _, ?_⟩
  refine (throughout_cons rfl).mpr ⟨working_kind (fun reading => by cases reading), ?_⟩
  refine (throughout_cons rfl).mpr ⟨fed_kind _, ?_⟩
  refine (throughout_cons rfl).mpr ⟨working_kind fun _ => ⟨by decide, rfl⟩, ?_⟩
  exact quiet (by decide)

end HyperionWebos.Recovery
