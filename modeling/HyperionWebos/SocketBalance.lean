import HyperionWebos.HyperionClient

/-! The descriptors of `connection_loop`: each pass that finds a capture running opens a
socket, reads from it and destroys it. `sockfd` is 0 without a socket and -1 after
`socket` failed, and `hyperion_destroy` closes whatever is not 0; so what is closed is
what was opened exactly as long as every socket gets a positive descriptor. -/

namespace HyperionWebos.SocketBalance
open HyperionClient

/-- How one call of `hyperion_read` is answered. -/
structure ReadAnswer where
  stack : Fin 4 → UInt8
  header : ReadOutcome
  body : ReadOutcome

/-- What a pass of the outer loop finds. The inner loop ends at the latest with `reads`,
when `connection_loop_running` or `connected` is seen cleared. -/
structure Pass where
  connectionLoopRunning : Bool
  capturing : Bool
  hostname : String
  port : Int
  unixSocket : Bool
  priority : Int
  connect : ConnectOutcome
  reads : List ReadAnswer

def readLoop (codec : Codec) : List ReadAnswer → Client → Client
  | [], c => c
  | a :: as, c =>
    let (ret, c) := hyperionRead codec a.stack a.header a.body c
    if ret = -11 then readLoop codec as c
    else if ret < 0 then c
    else readLoop codec as c

def connectionPass (codec : Codec) (p : Pass) (c : Client) : Client :=
  if p.capturing then
    let (ret, c) :=
      hyperionClient "webos" p.hostname p.port p.unixSocket p.priority p.connect c
    let c := if ret ≠ 0 then c else readLoop codec p.reads c
    (hyperionDestroy c).2
  else c

def connectionLoop (codec : Codec) : List Pass → Client → Client
  | [], c => c
  | p :: ps, c =>
    if p.connectionLoopRunning then connectionLoop codec ps (connectionPass codec p c) else c

def descriptorCalls (calls : List SocketCall) : List SocketCall :=
  calls.filter fun
    | .socket _ => true
    | .close _ => true
    | _ => false

/-- Each descriptor that `socket` returned is the next to be closed, and no other is. -/
inductive Balanced : List SocketCall → Prop
  | nil : Balanced []
  | failed {rest : List SocketCall} : Balanced rest → Balanced (.socket (-1) :: rest)
  | opened {fd : Int} {rest : List SocketCall} :
    0 ≤ fd → Balanced rest → Balanced (.socket fd :: .close fd :: rest)

def ClosesItsSockets (codec : Codec) (passes : List Pass) (c : Client) : Prop :=
  ∃ during, (connectionLoop codec passes c).calls = c.calls ++ during ∧
    Balanced (descriptorCalls during)

/-! ### One pass -/

def Keeps (c c' : Client) : Prop :=
  c'.sockfd = c.sockfd ∧
    ∃ during, c'.calls = c.calls ++ during ∧ descriptorCalls during = []

section Passes

variable {codec : Codec} {c c' c'' : Client}

theorem keeps_refl (c : Client) : Keeps c c := ⟨rfl, [], (List.append_nil _).symm, rfl⟩

theorem Keeps.trans (first : Keeps c c') (later : Keeps c' c'') : Keeps c c'' := by
  obtain ⟨same, during, calls, none⟩ := first
  obtain ⟨same', during', calls', none'⟩ := later
  refine ⟨same'.trans same, during ++ during', ?_, ?_⟩
  · rw [calls', calls, List.append_assoc]
  · unfold descriptorCalls at none none' ⊢
    rw [List.filter_append, none, none']
    rfl

theorem hyperionRead_keeps (stack : Fin 4 → UInt8) (header body : ReadOutcome) (c : Client) :
    Keeps c (hyperionRead codec stack header body c).2 := by
  unfold hyperionRead
  split
  · exact keeps_refl c
  · split
    · exact keeps_refl c
    · split
      · exact keeps_refl c
      · dsimp only
        generalize replied : Client.log _ _ = c'
        obtain ⟨registered, parsed⟩ := parseReply_eq codec c'
        rw [parsed, ← replied]
        exact ⟨rfl, [.reply _], rfl, rfl⟩

theorem readLoop_keeps (reads : List ReadAnswer) (c : Client) :
    Keeps c (readLoop codec reads c) := by
  induction reads generalizing c with
  | nil => exact keeps_refl c
  | cons a as ih =>
    have read : Keeps c (hyperionRead codec a.stack a.header a.body c).2 :=
      hyperionRead_keeps a.stack a.header a.body c
    unfold readLoop
    dsimp only
    split
    · exact read.trans (ih _)
    · split
      · exact read
      · exact read.trans (ih _)

theorem connectSocket_calls (address : Address) (parses : Bool) (o : ConnectOutcome)
    (c : Client) :
    (connectSocket address parses o c).2.sockfd = o.socket ∧
      ∃ during, (connectSocket address parses o c).2.calls = c.calls ++ during ∧
        descriptorCalls during = [.socket o.socket] := by
  unfold connectSocket
  dsimp only
  split
  · exact ⟨rfl, _, rfl, rfl⟩
  · split
    · exact ⟨rfl, _, rfl, rfl⟩
    · split
      · exact ⟨rfl, _, rfl, rfl⟩
      · split
        · exact ⟨rfl, _, rfl, rfl⟩
        · split
          · exact ⟨rfl, [_, _], List.append_assoc _ _ _, rfl⟩
          · exact ⟨rfl, [_, _], List.append_assoc _ _ _, rfl⟩

theorem hyperionClient_calls (origin hostname : String) (port : Int) (unixSocket : Bool)
    (priority : Int) (o : ConnectOutcome) (c : Client) :
    (hyperionClient origin hostname port unixSocket priority o c).2.sockfd = o.socket ∧
      ∃ during, (hyperionClient origin hostname port unixSocket priority o c).2.calls =
          c.calls ++ during ∧
        descriptorCalls during = [.socket o.socket] := by
  unfold hyperionClient
  dsimp only
  split
  · exact connectSocket_calls _ _ o _
  · exact connectSocket_calls _ _ o _

def passCalls (p : Pass) : List SocketCall :=
  if p.capturing then
    .socket p.connect.socket :: if p.connect.socket = 0 then [] else [.close p.connect.socket]
  else []

theorem hyperionDestroy_calls (c : Client) :
    ∃ during, (hyperionDestroy c).2.calls = c.calls ++ during ∧
      descriptorCalls during = if c.sockfd = 0 then [] else [.close c.sockfd] := by
  unfold hyperionDestroy
  split
  · exact ⟨[], (List.append_nil _).symm, rfl⟩
  · exact ⟨_, rfl, rfl⟩

theorem connectionPass_calls (p : Pass) (c : Client) :
    ∃ during, (connectionPass codec p c).calls = c.calls ++ during ∧
      descriptorCalls during = passCalls p := by
  unfold connectionPass passCalls
  split
  · obtain ⟨socket, opening, calls, opened⟩ := hyperionClient_calls "webos" p.hostname p.port
      p.unixSocket p.priority p.connect c
    generalize hyperionClient "webos" p.hostname p.port p.unixSocket p.priority p.connect c =
      client at socket calls
    obtain ⟨kept, reading, readCalls, quiet⟩ :
        Keeps client.2 (if client.1 ≠ 0 then client.2 else readLoop codec p.reads client.2) := by
      split
      · exact keeps_refl _
      · exact readLoop_keeps p.reads _
    obtain ⟨closing, closeCalls, closed⟩ := hyperionDestroy_calls
      (if client.1 ≠ 0 then client.2 else readLoop codec p.reads client.2)
    refine ⟨opening ++ reading ++ closing, ?_, ?_⟩
    · dsimp only
      rw [closeCalls, readCalls, calls, List.append_assoc, List.append_assoc, List.append_assoc]
    · rw [kept, socket] at closed
      unfold descriptorCalls at opened quiet closed ⊢
      rw [List.filter_append, List.filter_append, opened, quiet, closed]
      rfl
  · exact ⟨[], (List.append_nil _).symm, rfl⟩

end Passes

/-! ### The loop -/

section Loops

variable {codec : Codec}

theorem connectionLoop_calls (passes : List Pass) (c : Client) :
    ∃ during, (connectionLoop codec passes c).calls = c.calls ++ during ∧
      descriptorCalls during =
        (passes.takeWhile Pass.connectionLoopRunning).flatMap passCalls := by
  induction passes generalizing c with
  | nil => exact ⟨[], (List.append_nil _).symm, rfl⟩
  | cons p ps ih =>
    unfold connectionLoop
    rw [List.takeWhile_cons]
    split
    · obtain ⟨first, calls, here⟩ := @connectionPass_calls codec p c
      obtain ⟨rest, calls', later⟩ := ih (connectionPass codec p c)
      refine ⟨first ++ rest, ?_, ?_⟩
      · rw [calls', calls, List.append_assoc]
      · unfold descriptorCalls at here later ⊢
        rw [List.filter_append, here, later, List.flatMap_cons]
    · exact ⟨[], (List.append_nil _).symm, rfl⟩

theorem passCalls_socket_first (passes : List Pass) {call : SocketCall} {rest : List SocketCall}
    (first : passes.flatMap passCalls = call :: rest) : ∃ fd, call = .socket fd := by
  induction passes with
  | nil => cases first
  | cons p ps ih =>
    rw [List.flatMap_cons] at first
    unfold passCalls at first
    split at first
    · exact ⟨_, (List.cons.inj first).1.symm⟩
    · exact ih first

theorem balanced_pass_iff (p : Pass) (ps : List Pass) :
    Balanced (passCalls p ++ ps.flatMap passCalls) ↔
      (p.capturing = true → 0 < p.connect.socket) ∧ Balanced (ps.flatMap passCalls) := by
  generalize later : ps.flatMap passCalls = rest
  unfold passCalls
  cases p.capturing with
  | false => simp
  | true =>
    rw [if_pos rfl]
    generalize p.connect.socket = fd
    by_cases zero : fd = 0
    · rw [if_pos zero, zero]
      constructor
      · intro balanced
        cases balanced with
        | opened _ _ =>
          obtain ⟨fd, same⟩ := passCalls_socket_first ps later
          cases same
      · rintro ⟨positive, -⟩
        exact absurd (positive rfl) (Int.lt_irrefl 0)
    · rw [if_neg zero]
      constructor
      · intro balanced
        cases balanced with
        | failed rest => cases rest
        | opened nonneg rest => exact ⟨fun _ => by omega, rest⟩
      · rintro ⟨positive, balanced⟩
        exact .opened (Int.le_of_lt (positive rfl)) balanced

theorem balanced_passes_iff (ps : List Pass) :
    Balanced (ps.flatMap passCalls) ↔
      ∀ p ∈ ps, p.capturing = true → 0 < p.connect.socket := by
  induction ps with
  | nil => exact iff_of_true .nil (by simp)
  | cons p ps ih => rw [List.flatMap_cons, balanced_pass_iff, ih, List.forall_mem_cons]

theorem closesItsSockets_iff (passes : List Pass) (c : Client) :
    ClosesItsSockets codec passes c ↔
      Balanced ((passes.takeWhile Pass.connectionLoopRunning).flatMap passCalls) := by
  obtain ⟨during, calls, same⟩ := @connectionLoop_calls codec passes c
  rw [← same]
  constructor
  · rintro ⟨during', calls', balanced⟩
    rw [calls] at calls'
    rwa [List.append_cancel_left calls']
  · exact fun balanced => ⟨during, calls, balanced⟩

end Loops

/-- Over any run of `connection_loop` every socket is closed once, in the pass that opened
it, and nothing else is, exactly when each pass that connects gets a positive descriptor. -/
theorem socket_balance_iff (codec : Codec) (passes : List Pass) (c : Client) :
    ClosesItsSockets codec passes c ↔
      ∀ p ∈ passes.takeWhile Pass.connectionLoopRunning,
        p.capturing = true → 0 < p.connect.socket := by
  rw [closesItsSockets_iff, balanced_passes_iff]

def passWith (fd : Int) : Pass :=
  ⟨true, true, "127.0.0.1", 19400, false, 150, ⟨fd, true, true, true, true⟩, []⟩

/-- Descriptor 0 is never closed, and without a descriptor -1 is. -/
theorem socket_balance_zero_and_failed :
    ¬ ClosesItsSockets plain [passWith 0] zeroed ∧
      ¬ ClosesItsSockets plain [passWith (-1)] zeroed := by
  constructor
  · rw [closesItsSockets_iff, balanced_passes_iff]
    decide
  · rw [closesItsSockets_iff, balanced_passes_iff]
    decide

end HyperionWebos.SocketBalance
