import HyperionWebos.SendOverlap

/-! The two threads against calls one after the other. A run of the threads whose steps are
clear is, for all that the variables and the sockets show between two calls, a run of whole
calls of `hyperion_client`, `hyperion_read`, `hyperion_destroy` and `hyperion_set_image`: a
frame counts where it reads `_registered`, a connection where `hyperion_client` returns. -/

namespace HyperionWebos.ClientAtomicity
open Runs HyperionClient FlatReply ClientThreads SendOverlap

/-- The calls with each frame in one; a header waits for its body. -/
structure Fused where
  half : Option (Int × Request × WriteOutcome)
  calls : List SocketCall

def descriptor : Option Descriptor → Int
  | none => -1
  | some fd => fd

def Fused.next (f : Fused) : Call → Fused
  | .socket fd => { f with calls := f.calls ++ [.socket (descriptor fd)] }
  | .connect fd address connects => { f with calls := f.calls ++ [.connect fd address connects] }
  | .writeHeader fd request o => { f with half := some (fd, request, o) }
  | .writeBody _ _ o => match f.half with
    | some (fd, request, header) => ⟨none, f.calls ++ [.frame fd request header o]⟩
    | none => f
  | .registered => f
  | .close fd => { f with calls := f.calls ++ [.close fd] }

def fuse (calls : List Call) : Fused := calls.foldl Fused.next ⟨none, []⟩

def visible (calls : List SocketCall) : List SocketCall :=
  calls.filter fun
    | .reply _ => false
    | _ => true

def called (codec : Codec) (es : List ClientEvent) : Client :=
  es.foldl (clientStep codec) zeroed

structure SameVars (s : Threads) (c : Client) : Prop where
  sockfd : c.sockfd = s.sockfd
  registered : c.registered = s.registered
  priority : c.priority = s.priority
  origin : c.origin = s.origin
  connected : c.connected = s.connected
  recvBuff : c.recvBuff = s.recvBuff

/-! ### The simulation -/

/-- Without a socket the client only keeps its buffer for later. -/
structure Resting (s : Threads) (c : Client) : Prop where
  sockfd : c.sockfd = 0
  recvBuff : c.recvBuff = s.recvBuff

structure Opening (t : Target) (s : Threads) (c : Client) : Prop extends Resting s c where
  origin : s.origin = some "webos"
  priority : s.priority = t.priority

def Logged (s : Threads) (c : Client) (more : List SocketCall) : Prop :=
  (fuse s.calls).calls = visible c.calls ++ more

/-- What the whole calls so far have to do with a loop in this phase. -/
@[simp] def LoopAgrees (s : Threads) (c : Client) : LoopPhase → Prop
  | .away | .read | .readHeader | .destroy | .close => SameVars s c ∧ Logged s c []
  | .readBody messageSize => (SameVars s c ∧ Logged s c []) ∧
    ∃ stack header, readHeader stack header = .ok messageSize
  | .setOrigin _ => Resting s c ∧ Logged s c []
  | .setPriority _ => (Resting s c ∧ s.origin = some "webos") ∧ Logged s c []
  | .clearConnected t | .clearRegistered t | .clearSocket t | .socket t =>
    Opening t s c ∧ Logged s c []
  | .options t | .connect t => (Opening t s c ∧ 0 < s.sockfd) ∧ Logged s c [.socket s.sockfd]
  | .setConnected => ∃ t, (Opening t s c ∧ 0 < s.sockfd) ∧
    Logged s c [.socket s.sockfd, .connect s.sockfd t.address true]
  | .clear => SameVars { s with sockfd := 0 } c ∧ Logged s c []

def isRead : ClientEvent → Prop
  | .read .. => True
  | _ => False

/-- The frame that is under way can be put before the last reads. -/
def Sends (codec : Codec) (s : Threads) (es : List ClientEvent) (request : Request) : Prop :=
  ∃ before reads, es = before ++ reads ∧ (∀ e ∈ reads, isRead e) ∧
    ∃ image width height, ∀ header body,
      clientStep codec (called codec before) (.setImage image width height header body) =
        (called codec before).log (.frame s.sockfd request header body)

@[simp] def FeedAgrees (codec : Codec) (s : Threads) (es : List ClientEvent) : FeedPhase → Prop
  | .registerSocket request | .header request =>
    Sends codec s es request ∧ (fuse s.calls).half = none
  | .body request => Sends codec s es request ∧
    ∃ header, (fuse s.calls).half = some (s.sockfd, request, header)
  | _ => (fuse s.calls).half = none

structure Refines (codec : Codec) (s : Threads) (es : List ClientEvent) : Prop where
  loop : LoopAgrees s (called codec es) s.loop
  feeder : FeedAgrees codec s es s.feeder

section Steps

variable {codec : Codec} {s t : Threads} {es : List ClientEvent}

theorem fuse_concat (calls : List Call) (call : Call) :
    fuse (calls ++ [call]) = (fuse calls).next call := by
  rw [fuse, List.foldl_append]
  rfl

theorem called_concat (codec : Codec) (es : List ClientEvent) (e : ClientEvent) :
    called codec (es ++ [e]) = clientStep codec (called codec es) e := by
  rw [called, List.foldl_append]
  rfl

theorem visible_append (xs ys : List SocketCall) : visible (xs ++ ys) = visible xs ++ visible ys :=
  List.filter_append xs ys

theorem parseReply_log (codec : Codec) (c : Client) (log : List SocketCall) :
    parseReply codec { c with calls := log } = { parseReply codec c with calls := log } := by
  unfold parseReply
  dsimp only
  split
  · split
    · rfl
    · split
      · rfl
      · rfl
  · rfl

theorem read_log (codec : Codec) {e : ClientEvent} (reads : isRead e) (c : Client) :
    ∃ more, visible more = [] ∧ ∀ log, clientStep codec { c with calls := log } e =
      { clientStep codec c e with calls := log ++ more } := by
  cases e with
  | read stack header body =>
    simp only [clientStep, hyperionRead]
    by_cases closed : c.sockfd = 0
    · exact ⟨[], rfl, fun log => by simp [closed]⟩
    · cases readHeader stack header with
      | error ret => exact ⟨[], rfl, fun log => by simp [closed]⟩
      | ok messageSize =>
        cases body with
        | failed errno => exact ⟨[], rfl, fun log => by simp [closed]⟩
        | data bytes =>
          refine ⟨[.reply ((bytes.take messageSize ++
            c.recvBuff.drop (bytes.take messageSize).length).take messageSize)], rfl,
            fun log => ?_⟩
          simp only [closed, if_false]
          exact parseReply_log codec (Client.log (.reply _) { c with recvBuff := _ }) _
  | client => exact reads.elim
  | destroy => exact reads.elim
  | setImage => exact reads.elim

theorem reads_log (codec : Codec) {reads : List ClientEvent} (all : ∀ e ∈ reads, isRead e)
    (c : Client) : ∃ more, visible more = [] ∧
      ∀ log, reads.foldl (clientStep codec) { c with calls := log } =
        { reads.foldl (clientStep codec) c with calls := log ++ more } := by
  induction reads generalizing c with
  | nil => exact ⟨[], rfl, fun log => by rw [List.append_nil]; rfl⟩
  | cons e reads ih =>
    obtain ⟨first, later⟩ := List.forall_mem_cons.mp all
    obtain ⟨here, silent, step⟩ := read_log codec first c
    obtain ⟨rest, quiet, steps⟩ := ih later (clientStep codec c e)
    refine ⟨here ++ rest, by rw [visible_append, silent, quiet]; rfl, fun log => ?_⟩
    rw [List.foldl_cons, step, steps, List.foldl_cons, List.append_assoc]

theorem called_append (codec : Codec) (before after : List ClientEvent) :
    called codec (before ++ after) = after.foldl (clientStep codec) (called codec before) :=
  List.foldl_append

/-- A frame put before the last reads shows at the end, and changes nothing else. -/
theorem called_insert (codec : Codec) {before reads : List ClientEvent}
    (all : ∀ e ∈ reads, isRead e) {frame : ClientEvent} {call : SocketCall}
    (shows : visible [call] = [call])
    (sends : clientStep codec (called codec before) frame = (called codec before).log call) :
    ∃ log, called codec (before ++ frame :: reads) =
        { called codec (before ++ reads) with calls := log } ∧
      visible log = visible (called codec (before ++ reads)).calls ++ [call] := by
  obtain ⟨more, silent, steps⟩ := reads_log codec all (called codec before)
  have plain := congrArg Client.calls (steps (called codec before).calls)
  refine ⟨(called codec before).calls ++ [call] ++ more, ?_, ?_⟩
  · rw [called_append, List.foldl_cons, sends, called_append]
    exact steps _
  · rw [called_append]
    change (reads.foldl (clientStep codec) (called codec before)).calls = _ at plain
    rw [plain, visible_append, visible_append, visible_append, silent, shows]
    simp

/-! ### The loop -/

theorem client_step (codec : Codec) (c : Client) (t : Target) (o : ConnectOutcome)
    (parses : o.parses = true) :
    clientStep codec c (.client "webos" t.hostname t.port t.unixSocket t.priority o) =
      (connectSocket t.address true o { c with
        origin := some "webos"
        priority := t.priority
        connected := false
        registered := false
        sockfd := 0 }).2 := by
  rw [clientStep, hyperionClient, Target.address]
  cases t.unixSocket with
  | true => rfl
  | false =>
    simp only [Bool.false_eq_true, if_false, connectInetSocket, parses]

def returned (t : Target) (fd : Int) (connected : Bool) (more : List SocketCall) (c : Client) :
    Client where
  sockfd := fd
  registered := false
  priority := t.priority
  origin := some "webos"
  connected := connected
  recvBuff := c.recvBuff
  calls := c.calls ++ more

def outcome (fd : Int) (options connects : Bool) : ConnectOutcome :=
  ⟨fd, options, true, true, connects⟩

def opens (t : Target) (o : ConnectOutcome) : ClientEvent :=
  .client "webos" t.hostname t.port t.unixSocket t.priority o

theorem opens_none (codec : Codec) (c : Client) (t : Target) :
    clientStep codec c (opens t (outcome (-1) true true)) =
      returned t (-1) false [.socket (-1)] c :=
  client_step codec c t _ rfl

theorem opens_refused (codec : Codec) (c : Client) (t : Target) {fd : Int} (some : 0 < fd) :
    clientStep codec c (opens t (outcome fd false true)) =
      returned t fd false [.socket fd] c := by
  have valid : fd ≠ -1 := by omega
  rw [opens, client_step codec c t _ rfl]
  simp [connectSocket, outcome, valid, returned, Client.log]

theorem opens_fails (codec : Codec) (c : Client) (t : Target) {fd : Int} (some : 0 < fd) :
    clientStep codec c (opens t (outcome fd true false)) =
      returned t fd false [.socket fd, .connect fd t.address false] c := by
  have valid : fd ≠ -1 := by omega
  rw [opens, client_step codec c t _ rfl]
  simp [connectSocket, outcome, valid, returned, Client.log]

theorem opens_connects (codec : Codec) (c : Client) (t : Target) {fd : Int} (some : 0 < fd) :
    clientStep codec c (opens t (outcome fd true true)) =
      returned t fd true [.socket fd, .connect fd t.address true] c := by
  have valid : fd ≠ -1 := by omega
  rw [opens, client_step codec c t _ rfl]
  simp [connectSocket, outcome, valid, returned, Client.log]

theorem returned_agrees {c : Client} {target : Target} {o : ConnectOutcome} {fd : Int}
    {connects : Bool} {more : List SocketCall} (opening : Opening target s c)
    (steps : clientStep codec c (opens target o) = returned target fd connects more c)
    (sockfd : t.sockfd = fd) (connected : t.connected = connects) (shows : visible more = more)
    (log : (fuse t.calls).calls = visible c.calls ++ more)
    (registered : t.registered = false) (priority : t.priority = s.priority)
    (origin : t.origin = s.origin) (recvBuff : t.recvBuff = s.recvBuff) :
    SameVars t (clientStep codec c (opens target o)) ∧
      Logged t (clientStep codec c (opens target o)) [] := by
  rw [steps]
  refine ⟨⟨sockfd.symm, registered.symm, ?_, ?_, connected.symm, ?_⟩, ?_⟩
  · exact (priority.trans opening.priority).symm
  · exact (origin.trans opening.origin).symm
  · exact opening.recvBuff.trans recvBuff.symm
  · rw [Logged, log, returned, visible_append, shows, List.append_nil]

theorem feedAgrees_shallow {f : FeedPhase} (shallow : deep f = false) :
    FeedAgrees codec s es f ↔ (fuse s.calls).half = none := by
  cases f <;> first | rfl | cases shallow

theorem feedAgrees_apart {es' : List ClientEvent} (feeds : Feeds s)
    (away : standing s.loop = false) (here : FeedAgrees codec s es s.feeder)
    (feeder : t.feeder = s.feeder) (halves : (fuse t.calls).half = (fuse s.calls).half) :
    FeedAgrees codec t es' t.feeder := by
  have shallow := feeds.shallow away
  rw [feeder]
  rw [feedAgrees_shallow shallow] at here ⊢
  exact halves.trans here

theorem sends_read {e : ClientEvent} {request : Request} (here : Sends codec s es request)
    (reads : isRead e) (sockfd : t.sockfd = s.sockfd) : Sends codec t (es ++ [e]) request := by
  obtain ⟨before, later, rfl, all, image, width, height, sends⟩ := here
  refine ⟨before, later ++ [e], (List.append_assoc ..), ?_, image, width, height, ?_⟩
  · exact List.forall_mem_append.mpr ⟨all, List.forall_mem_singleton.mpr reads⟩
  · rw [sockfd]
    exact sends

theorem sends_same {request : Request} (here : Sends codec s es request)
    (sockfd : t.sockfd = s.sockfd) : Sends codec t es request := by
  obtain ⟨before, later, same, all, image, width, height, sends⟩ := here
  refine ⟨before, later, same, all, image, width, height, ?_⟩
  rw [sockfd]
  exact sends

theorem feedAgrees_sends {es' : List ClientEvent} {f : FeedPhase}
    (here : FeedAgrees codec s es f)
    (sends : ∀ request, Sends codec s es request → Sends codec t es' request)
    (sockfd : t.sockfd = s.sockfd) (halves : (fuse t.calls).half = (fuse s.calls).half) :
    FeedAgrees codec t es' f := by
  cases f with
  | registerSocket request => exact ⟨sends request here.1, halves.trans here.2⟩
  | header request => exact ⟨sends request here.1, halves.trans here.2⟩
  | body request =>
    obtain ⟨sent, header, half⟩ := here
    exact ⟨sends request sent, header, by rw [halves, half, sockfd]⟩
  | idle => exact halves.trans here
  | checkSocket request => exact halves.trans here
  | checkConnected request => exact halves.trans here
  | checkRegistered request => exact halves.trans here

theorem fuse_registered (calls : List Call) : fuse (calls ++ [.registered]) = fuse calls :=
  fuse_concat calls _

theorem sameVars_destroy (codec : Codec) {c : Client} (same : SameVars s c)
    (socket : s.sockfd ≠ 0) :
    clientStep codec c .destroy = { c.log (.close s.sockfd) with sockfd := 0 } := by
  rw [clientStep, hyperionDestroy, if_neg (same.sockfd ▸ socket), same.sockfd]

theorem readBody_agrees {c : Client} {stack : Fin 4 → UInt8} {header : ReadOutcome}
    {messageSize : Nat} {bytes : List UInt8} (same : SameVars s c) (socket : s.sockfd ≠ 0)
    (head : readHeader stack header = .ok messageSize) (logged : Logged s c [])
    (recvBuff : t.recvBuff = bytes.take messageSize ++
      s.recvBuff.drop (bytes.take messageSize).length)
    (registered : t.registered =
      (s.registered || registeredBy (codec.decode t.recvBuff) false s.priority))
    (sockfd : t.sockfd = s.sockfd) (priority : t.priority = s.priority)
    (origin : t.origin = s.origin) (connected : t.connected = s.connected)
    (log : fuse t.calls = fuse s.calls) :
    SameVars t (clientStep codec c (.read stack header (.data bytes))) ∧
      Logged t (clientStep codec c (.read stack header (.data bytes))) [] := by
  have shows : visible (clientStep codec c (.read stack header (.data bytes))).calls =
      visible c.calls := by
    obtain ⟨more, silent, steps⟩ := read_log (e := .read stack header (.data bytes)) codec trivial c
    have plain := congrArg Client.calls (steps c.calls)
    change (clientStep codec c (.read stack header (.data bytes))).calls = _ at plain
    rw [plain, visible_append, silent, List.append_nil]
  have open_ : c.sockfd ≠ 0 := same.sockfd ▸ socket
  have buffer : bytes.take messageSize ++ c.recvBuff.drop (bytes.take messageSize).length =
      t.recvBuff := by rw [same.recvBuff, recvBuff]
  obtain ⟨d, fields, received, step⟩ : ∃ d : Client,
      { d with calls := c.calls, recvBuff := c.recvBuff } = c ∧ d.recvBuff = t.recvBuff ∧
      clientStep codec c (.read stack header (.data bytes)) = parseReply codec d := by
    refine ⟨Client.log (.reply (t.recvBuff.take messageSize)) { c with recvBuff := t.recvBuff },
      rfl, rfl, ?_⟩
    simp only [clientStep, hyperionRead, if_neg open_, head, buffer]
  obtain ⟨set, parsed⟩ := parseReply_eq codec d
  have acks := parseReply_registered codec d
  have untouched : d.registered = s.registered ∧ d.priority = s.priority :=
    ⟨(congrArg Client.registered fields).trans same.registered,
      (congrArg Client.priority fields).trans same.priority⟩
  have sets : set = t.registered := by
    rw [parsed, received, untouched.1, untouched.2] at acks
    rw [registered]
    exact acks
  refine ⟨?_, ?_⟩
  · rw [step, parsed]
    exact ⟨((congrArg Client.sockfd fields).trans same.sockfd).trans sockfd.symm, sets,
      untouched.2.trans priority.symm,
      ((congrArg Client.origin fields).trans same.origin).trans origin.symm,
      ((congrArg Client.connected fields).trans same.connected).trans connected.symm, received⟩
  · rw [Logged, shows, log]
    exact logged

theorem store_refines {a : Answer} (whole : Whole s) (here : Refines codec s es)
    (stores : ∃ t, s.loop = .setOrigin t ∨ s.loop = .setPriority t ∨ s.loop = .clearConnected t ∨
      s.loop = .clearRegistered t ∨ s.loop = .clearSocket t) :
    Refines codec (loopStep codec a s) es := by
  obtain ⟨loop, feeder⟩ := here
  obtain ⟨t, phase | phase | phase | phase | phase⟩ := stores
  · rw [phase] at loop
    rw [loopStep, phase]
    exact ⟨⟨⟨⟨loop.1.sockfd, loop.1.recvBuff⟩, rfl⟩, loop.2⟩, feeder⟩
  · rw [phase] at loop
    obtain ⟨⟨rest, origin⟩, logged⟩ := loop
    rw [loopStep, phase]
    exact ⟨⟨⟨⟨rest.sockfd, rest.recvBuff⟩, origin, rfl⟩, logged⟩, feeder⟩
  · rw [phase] at loop
    obtain ⟨⟨rest, origin, priority⟩, logged⟩ := loop
    rw [loopStep, phase]
    exact ⟨⟨⟨⟨rest.sockfd, rest.recvBuff⟩, origin, priority⟩, logged⟩, feeder⟩
  · rw [phase] at loop
    obtain ⟨⟨rest, origin, priority⟩, logged⟩ := loop
    rw [loopStep, phase]
    exact ⟨⟨⟨⟨rest.sockfd, rest.recvBuff⟩, origin, priority⟩, logged⟩, feeder⟩
  · have shallow : FeedAgrees codec (loopStep codec a s) es (loopStep codec a s).feeder :=
      feedAgrees_apart whole.feeds (by rw [phase]; rfl) feeder (by rw [loopStep, phase])
        (by rw [loopStep, phase])
    rw [phase] at loop
    obtain ⟨⟨rest, origin, priority⟩, logged⟩ := loop
    rw [loopStep, phase] at shallow ⊢
    exact ⟨⟨⟨⟨rest.sockfd, rest.recvBuff⟩, origin, priority⟩, logged⟩, shallow⟩

theorem open_refines {a : Answer} (whole : Whole s) (here : Refines codec s es)
    (calls : (∃ t, s.loop = .socket t ∨ s.loop = .options t ∨ s.loop = .connect t) ∨
      s.loop = .setConnected) : ∃ es', Refines codec (loopStep codec a s) es' := by
  obtain ⟨loop, feeder⟩ := here
  obtain ⟨⟨w, _, stands⟩, feeds⟩ := whole
  have apart (away : standing s.loop = false) (u : Threads) (es' : List ClientEvent)
      (same : u.feeder = s.feeder) (halves : (fuse u.calls).half = (fuse s.calls).half) :
      FeedAgrees codec u es' u.feeder := feedAgrees_apart feeds away feeder same halves
  rcases calls with ⟨t, phase | phase | phase⟩ | phase
  · have away : standing s.loop = false := by rw [phase]; rfl
    rw [phase] at loop stands
    obtain ⟨opening, logged⟩ := loop
    obtain ⟨_, connected, registered⟩ := stands
    have fused (fd : Option Descriptor) : fuse (s.calls ++ [.socket fd]) =
        ⟨(fuse s.calls).half, (fuse s.calls).calls ++ [.socket (descriptor fd)]⟩ := fuse_concat _ _
    have halves (fd : Option Descriptor) : (fuse (s.calls ++ [.socket fd])).half =
        (fuse s.calls).half := by rw [fused]
    have shown (fd : Option Descriptor) : (fuse (s.calls ++ [.socket fd])).calls =
        visible (called codec es).calls ++ [.socket (descriptor fd)] := by
      rw [fused, logged, List.append_nil]
    rw [loopStep, phase]
    cases a.socket with
    | none =>
      refine ⟨es ++ [opens t (outcome (-1) true true)], ?_,
        apart away _ _ rfl (halves none)⟩
      rw [called_concat]
      exact returned_agrees opening (opens_none codec _ t) rfl connected rfl (shown none)
        registered rfl rfl rfl
    | some fd =>
      exact ⟨es, ⟨⟨⟨⟨opening.sockfd, opening.recvBuff⟩, opening.origin, opening.priority⟩,
        fd.2⟩, shown (some fd)⟩, apart away _ _ rfl (halves (some fd))⟩
  · have away : standing s.loop = false := by rw [phase]; rfl
    rw [phase] at loop stands
    obtain ⟨⟨opening, some⟩, logged⟩ := loop
    obtain ⟨_, connected, registered, _⟩ := stands
    rw [loopStep, phase]
    cases a.works with
    | true => exact ⟨es, ⟨⟨⟨⟨opening.sockfd, opening.recvBuff⟩, opening.origin,
        opening.priority⟩, some⟩, logged⟩, feeder⟩
    | false =>
      refine ⟨es ++ [opens t (outcome s.sockfd false true)], ?_, apart away _ _ rfl rfl⟩
      rw [called_concat]
      exact returned_agrees opening (opens_refused codec _ t some) rfl connected rfl logged
        registered rfl rfl rfl
  · have away : standing s.loop = false := by rw [phase]; rfl
    rw [phase] at loop stands
    obtain ⟨⟨opening, some⟩, logged⟩ := loop
    obtain ⟨_, connected, registered, _⟩ := stands
    have both : (fuse (s.calls ++ [.connect s.sockfd t.address a.works])).calls =
        visible (called codec es).calls ++
          [.socket s.sockfd, .connect s.sockfd t.address a.works] := by
      rw [fuse_concat]
      change (fuse s.calls).calls ++ _ = _
      rw [logged, List.append_assoc]
      rfl
    have halves : (fuse (s.calls ++ [.connect s.sockfd t.address a.works])).half =
        (fuse s.calls).half := by
      rw [fuse_concat]
      rfl
    rw [loopStep, phase]
    cases works : a.works with
    | true =>
      rw [works] at both halves
      exact ⟨es, ⟨t, ⟨⟨⟨opening.sockfd, opening.recvBuff⟩, opening.origin, opening.priority⟩,
        some⟩, both⟩, apart away _ _ rfl halves⟩
    | false =>
      rw [works] at both halves
      refine ⟨es ++ [opens t (outcome s.sockfd true false)], ?_, apart away _ _ rfl halves⟩
      rw [called_concat]
      exact returned_agrees opening (opens_fails codec _ t some) rfl connected rfl both
        registered rfl rfl rfl
  · have away : standing s.loop = false := by rw [phase]; rfl
    rw [phase] at loop stands
    obtain ⟨t, ⟨opening, some⟩, logged⟩ := loop
    have registered : s.registered = false := stands.2.1
    rw [loopStep, phase]
    refine ⟨es ++ [opens t (outcome s.sockfd true true)], ?_, apart away _ _ rfl rfl⟩
    rw [called_concat]
    exact returned_agrees opening (opens_connects codec _ t some) rfl rfl rfl logged registered
      rfl rfl rfl

theorem SameVars.moved {c : Client} (same : SameVars s c) (l : LoopPhase) :
    SameVars { s with loop := l } c :=
  ⟨same.sockfd, same.registered, same.priority, same.origin, same.connected, same.recvBuff⟩

theorem afterRead_agrees {c : Client} (ret : Int) (same : SameVars s c) (logged : Logged s c []) :
    LoopAgrees s c (afterRead ret) := by
  unfold afterRead
  split
  · exact ⟨same, logged⟩
  · split
    · exact ⟨same, logged⟩
    · exact ⟨same, logged⟩

theorem standing_agrees {l : LoopPhase} {c : Client} (there : standing l = true)
    (here : LoopAgrees s c l) : SameVars s c ∧ Logged s c [] := by
  cases l with
  | read => exact here
  | readHeader => exact here
  | readBody messageSize => exact here.1
  | destroy => exact here
  | close => exact here
  | _ => cases there

theorem standing_keeps {l : LoopPhase} {c d : Client} (there : standing l = true)
    (here : LoopAgrees s c l) (same : SameVars t d) (logged : Logged t d []) :
    LoopAgrees t d l := by
  cases l with
  | read => exact ⟨same, logged⟩
  | readHeader => exact ⟨same, logged⟩
  | readBody messageSize => exact ⟨⟨same, logged⟩, here.2⟩
  | destroy => exact ⟨same, logged⟩
  | close => exact ⟨same, logged⟩
  | _ => cases there

theorem read_refines {a : Answer} (whole : Whole s) (here : Refines codec s es)
    (reads : s.loop = .read ∨ s.loop = .readHeader ∨
      ∃ messageSize, s.loop = .readBody messageSize) :
    ∃ es', Refines codec (loopStep codec a s) es' := by
  obtain ⟨loop, feeder⟩ := here
  obtain ⟨⟨w, _, stands⟩, _⟩ := whole
  have stays (l : LoopPhase) : FeedAgrees codec { s with loop := l } es s.feeder :=
    feedAgrees_sends feeder (fun _ here => sends_same here rfl) rfl rfl
  obtain phase | phase | ⟨messageSize, phase⟩ := reads
  · rw [phase] at loop
    rw [loopStep, phase]
    refine ⟨es, ?_, stays _⟩
    dsimp only
    split
    · exact ⟨loop.1.moved _, loop.2⟩
    · exact ⟨loop.1.moved _, loop.2⟩
  · rw [phase] at loop
    rw [loopStep, phase]
    dsimp only
    cases head : readHeader a.stack a.delivers with
    | error ret => exact ⟨es, afterRead_agrees ret (loop.1.moved _) loop.2, stays _⟩
    | ok messageSize =>
      exact ⟨es, ⟨⟨loop.1.moved _, loop.2⟩, a.stack, a.delivers, head⟩, stays _⟩
  · rw [phase] at loop stands
    obtain ⟨⟨same, logged⟩, stack, header, head⟩ := loop
    have socket : s.sockfd ≠ 0 := stands.2.1
    rw [loopStep, phase]
    dsimp only
    cases a.delivers with
    | failed errno => exact ⟨es, afterRead_agrees _ (same.moved _) logged, stays _⟩
    | data bytes =>
      refine ⟨es ++ [.read stack header (.data bytes)], ?_⟩
      have agrees (u : Threads) (recvBuff : u.recvBuff = bytes.take messageSize ++
            s.recvBuff.drop (bytes.take messageSize).length)
          (registered : u.registered =
            (s.registered || registeredBy (codec.decode u.recvBuff) false s.priority))
          (sockfd : u.sockfd = s.sockfd) (priority : u.priority = s.priority)
          (origin : u.origin = s.origin) (connected : u.connected = s.connected)
          (log : fuse u.calls = fuse s.calls) (back : u.loop = .read)
          (feeds : u.feeder = s.feeder) :
          Refines codec u (es ++ [.read stack header (.data bytes)]) := by
        refine ⟨?_, ?_⟩
        · rw [called_concat, back]
          exact readBody_agrees same socket head logged recvBuff registered sockfd priority origin
            connected log
        · rw [feeds]
          exact feedAgrees_sends feeder (fun _ here => sends_read here trivial sockfd) sockfd
            (by rw [log])
      dsimp only
      split
      · next acks =>
        have set := (congrArg (s.registered || ·) acks).trans (Bool.or_true _)
        exact agrees _ rfl set.symm rfl rfl rfl rfl (fuse_registered _) rfl rfl
      · next acks =>
        have kept := (congrArg (s.registered || ·) (Bool.eq_false_iff.mpr acks)).trans
          (Bool.or_false _)
        exact agrees _ rfl kept.symm rfl rfl rfl rfl rfl rfl rfl

theorem close_refines {a : Answer} (whole : Whole s) (clear : Clear s (.loop a))
    (here : Refines codec s es)
    (closes : s.loop = .destroy ∨ s.loop = .close ∨ s.loop = .clear ∨ s.loop = .away) :
    ∃ es', Refines codec (loopStep codec a s) es' := by
  obtain ⟨loop, feeder⟩ := here
  obtain ⟨⟨w, _, stands⟩, feeds⟩ := whole
  obtain phase | phase | phase | phase := closes
  · rw [phase] at loop stands
    rw [loopStep, phase]
    dsimp only
    rw [if_neg stands.1]
    exact ⟨es, ⟨loop.1.moved _, loop.2⟩, feedAgrees_sends feeder
      (fun _ here => sends_same here rfl) rfl rfl⟩
  · have shallow : deep s.feeder = false := by
      by_contra sees
      rw [Bool.not_eq_false] at sees
      exact Bool.false_ne_true
        ((clear phase (feeds.connected sees)).symm.trans (past_of_deep sees))
    rw [phase] at loop stands
    obtain ⟨same, logged⟩ := loop
    have closes := sameVars_destroy codec same stands.1
    have fused : fuse (s.calls ++ [.close s.sockfd]) =
        ⟨(fuse s.calls).half, (fuse s.calls).calls ++ [.close s.sockfd]⟩ := fuse_concat _ _
    rw [feedAgrees_shallow shallow] at feeder
    rw [loopStep, phase]
    refine ⟨es ++ [.destroy], ⟨?_, ?_⟩, ?_⟩
    · rw [called_concat, closes]
      exact ⟨rfl, same.registered, same.priority, same.origin, same.connected, same.recvBuff⟩
    · rw [called_concat, closes, Logged]
      have shown : visible ((called codec es).log (.close s.sockfd)).calls =
          visible (called codec es).calls ++ [.close s.sockfd] := visible_append _ _
      exact (congrArg Fused.calls fused).trans
        (by rw [logged, List.append_nil, List.append_nil]; exact shown.symm)
    · exact (feedAgrees_shallow shallow).mpr ((congrArg Fused.half fused).trans feeder)
  · have shallow := feeds.shallow (by rw [phase]; rfl)
    rw [phase] at loop
    obtain ⟨same, logged⟩ := loop
    rw [feedAgrees_shallow shallow] at feeder
    rw [loopStep, phase]
    exact ⟨es, ⟨⟨same.sockfd, same.registered, same.priority, same.origin, same.connected,
      same.recvBuff⟩, logged⟩, (feedAgrees_shallow shallow).mpr feeder⟩
  · have shallow := feeds.shallow (by rw [phase]; rfl)
    have plain := feeder
    rw [feedAgrees_shallow shallow] at plain
    have loop' := loop
    rw [phase] at loop stands
    rw [loopStep, phase]
    dsimp only
    cases a.target with
    | none => exact ⟨es, loop', feeder⟩
    | some target =>
      exact ⟨es, ⟨⟨loop.1.sockfd.trans stands, loop.1.recvBuff⟩, loop.2⟩,
        (feedAgrees_shallow shallow).mpr plain⟩

theorem loopStep_refines {a : Answer} (whole : Whole s) (clear : Clear s (.loop a))
    (here : Refines codec s es) : ∃ es', Refines codec (loopStep codec a s) es' := by
  cases phase : s.loop with
  | away => exact close_refines whole clear here (.inr (.inr (.inr phase)))
  | setOrigin target => exact ⟨es, store_refines whole here ⟨target, .inl phase⟩⟩
  | setPriority target => exact ⟨es, store_refines whole here ⟨target, .inr (.inl phase)⟩⟩
  | clearConnected target =>
    exact ⟨es, store_refines whole here ⟨target, .inr (.inr (.inl phase))⟩⟩
  | clearRegistered target =>
    exact ⟨es, store_refines whole here ⟨target, .inr (.inr (.inr (.inl phase)))⟩⟩
  | clearSocket target =>
    exact ⟨es, store_refines whole here ⟨target, .inr (.inr (.inr (.inr phase)))⟩⟩
  | socket target => exact open_refines whole here (.inl ⟨target, .inl phase⟩)
  | options target => exact open_refines whole here (.inl ⟨target, .inr (.inl phase)⟩)
  | connect target => exact open_refines whole here (.inl ⟨target, .inr (.inr phase)⟩)
  | setConnected => exact open_refines whole here (.inr phase)
  | read => exact read_refines whole here (.inl phase)
  | readHeader => exact read_refines whole here (.inr (.inl phase))
  | readBody messageSize => exact read_refines whole here (.inr (.inr ⟨messageSize, phase⟩))
  | destroy => exact close_refines whole clear here (.inl phase)
  | close => exact close_refines whole clear here (.inr (.inl phase))
  | clear => exact close_refines whole clear here (.inr (.inr (.inl phase)))

/-! ### The frame -/

/-- A frame that has not looked at `_registered` yet is an image. -/
@[simp] def Brings : FeedPhase → Prop
  | .checkSocket request | .checkConnected request | .checkRegistered request =>
    isImage request = true
  | _ => True

theorem SameVars.fed {c : Client} (same : SameVars s c) (f : FeedPhase) (calls : List Call) :
    SameVars { s with feeder := f, calls := calls } c :=
  ⟨same.sockfd, same.registered, same.priority, same.origin, same.connected, same.recvBuff⟩

theorem Resting.fed {c : Client} (rest : Resting s c) (f : FeedPhase) (calls : List Call) :
    Resting { s with feeder := f, calls := calls } c :=
  ⟨rest.sockfd, rest.recvBuff⟩

theorem Opening.fed {c : Client} {target : Target} (opening : Opening target s c) (f : FeedPhase)
    (calls : List Call) : Opening target { s with feeder := f, calls := calls } c :=
  ⟨opening.toResting.fed f calls, opening.origin, opening.priority⟩

theorem loopAgrees_fed {l : LoopPhase} {c : Client} (here : LoopAgrees s c l) (f : FeedPhase)
    {calls : List Call} (log : (fuse calls).calls = (fuse s.calls).calls) :
    LoopAgrees { s with feeder := f, calls := calls } c l := by
  have logs {more : List SocketCall} (logged : Logged s c more) :
      Logged { s with feeder := f, calls := calls } c more := log.trans logged
  cases l with
  | away => exact ⟨here.1.fed f calls, logs here.2⟩
  | setOrigin target => exact ⟨here.1.fed f calls, logs here.2⟩
  | setPriority target => exact ⟨⟨here.1.1.fed f calls, here.1.2⟩, logs here.2⟩
  | clearConnected target => exact ⟨here.1.fed f calls, logs here.2⟩
  | clearRegistered target => exact ⟨here.1.fed f calls, logs here.2⟩
  | clearSocket target => exact ⟨here.1.fed f calls, logs here.2⟩
  | socket target => exact ⟨here.1.fed f calls, logs here.2⟩
  | options target => exact ⟨⟨here.1.1.fed f calls, here.1.2⟩, logs here.2⟩
  | connect target => exact ⟨⟨here.1.1.fed f calls, here.1.2⟩, logs here.2⟩
  | setConnected =>
    obtain ⟨target, ⟨opening, some⟩, logged⟩ := here
    exact ⟨target, ⟨opening.fed f calls, some⟩, logs logged⟩
  | read => exact ⟨here.1.fed f calls, logs here.2⟩
  | readHeader => exact ⟨here.1.fed f calls, logs here.2⟩
  | readBody messageSize => exact ⟨⟨here.1.1.fed f calls, logs here.1.2⟩, here.2⟩
  | destroy => exact ⟨here.1.fed f calls, logs here.2⟩
  | close => exact ⟨here.1.fed f calls, logs here.2⟩
  | clear => exact ⟨(here.1.fed f calls), logs here.2⟩

/-- Where a frame reads `_registered`, `hyperion_set_image` as a whole would send what the
frame goes on to send. -/
theorem sends_now (image : List UInt8) (width height : Int) (same : SameVars s (called codec es))
    (socket : s.sockfd ≠ 0) (connected : s.connected = true) :
    Sends codec s es (if s.registered then .image image width height
      else .register s.origin s.priority) := by
  refine ⟨es, [], (List.append_nil es).symm, List.forall_mem_nil _, image, width, height, ?_⟩
  intro header body
  have open_ : (called codec es).sockfd ≠ 0 := same.sockfd ▸ socket
  simp only [clientStep, hyperionSetImage, sendMessage, if_neg open_, same.connected, connected,
    same.registered, same.origin, same.priority]
  cases s.registered with
  | true => simp [writeFrame, same.sockfd]
  | false => simp [hyperionSetRegister, socket, writeFrame, same.sockfd]

theorem feedStep_refines {f : Feed} (whole : Whole s) (brings : Brings s.feeder)
    (here : Refines codec s es) :
    Brings (feedStep f s).feeder ∧ ∃ es', Refines codec (feedStep f s) es' := by
  obtain ⟨loop, feeder⟩ := here
  obtain ⟨⟨w, _, stands⟩, feeds⟩ := whole
  have quiet (f : FeedPhase) : LoopAgrees { s with feeder := f } (called codec es) s.loop :=
    loopAgrees_fed loop f rfl
  unfold feedStep
  cases phase : s.feeder with
  | idle =>
    rw [phase] at feeder
    exact ⟨rfl, es, quiet _, feeder⟩
  | checkSocket request =>
    rw [phase] at feeder brings
    dsimp only
    split
    · exact ⟨trivial, es, quiet _, feeder⟩
    · exact ⟨brings, es, quiet _, feeder⟩
  | checkConnected request =>
    rw [phase] at feeder brings
    dsimp only
    split
    · exact ⟨brings, es, quiet _, feeder⟩
    · exact ⟨trivial, es, quiet _, feeder⟩
  | checkRegistered request =>
    obtain ⟨connected, there⟩ := feeds.deep_standing (by rw [phase]; rfl)
    obtain ⟨socket, _⟩ := (loop_iff_stands there connected).mp stands
    obtain ⟨same, _⟩ := standing_agrees there loop
    rw [phase] at feeder brings
    cases request with
    | register origin priority => cases brings
    | image image width height =>
      have sends := sends_now image width height same socket connected
      dsimp only
      split
      · next registered =>
        rw [if_pos registered] at sends
        exact ⟨trivial, es, quiet _, sends_same sends rfl, feeder⟩
      · next registered =>
        rw [if_neg registered] at sends
        exact ⟨trivial, es, quiet _, sends_same sends rfl, feeder⟩
  | registerSocket request =>
    rw [phase] at feeder
    dsimp only
    split
    · exact ⟨trivial, es, quiet _, feeder.2⟩
    · exact ⟨trivial, es, quiet _, sends_same feeder.1 rfl, feeder.2⟩
  | header request =>
    rw [phase] at feeder
    have fused : fuse (s.calls ++ [.writeHeader s.sockfd request f.writes]) =
        ⟨some (s.sockfd, request, f.writes), (fuse s.calls).calls⟩ := fuse_concat _ _
    have silent : (fuse (s.calls ++ [.writeHeader s.sockfd request f.writes])).calls =
        (fuse s.calls).calls := by rw [fused]
    exact ⟨trivial, es, loopAgrees_fed loop _ silent, sends_same feeder.1 rfl, f.writes,
      congrArg Fused.half fused⟩
  | body request =>
    obtain ⟨_, there⟩ := feeds.deep_standing (by rw [phase]; rfl)
    obtain ⟨same, logged⟩ := standing_agrees there loop
    rw [phase] at feeder
    obtain ⟨⟨before, reads, rfl, all, image, width, height, sends⟩, header, half⟩ := feeder
    have fused : fuse (s.calls ++ [.writeBody s.sockfd request f.writes]) =
        ⟨none, (fuse s.calls).calls ++ [.frame s.sockfd request header f.writes]⟩ := by
      rw [fuse_concat, Fused.next, half]
    obtain ⟨log, client, shows⟩ := called_insert codec all rfl (sends header f.writes)
    refine ⟨trivial, before ++ .setImage image width height header f.writes :: reads, ?_,
      congrArg Fused.half fused⟩
    refine standing_keeps there loop ?_ ?_
    · rw [client]
      exact ⟨same.sockfd, same.registered, same.priority, same.origin, same.connected,
        same.recvBuff⟩
    · rw [client, Logged]
      refine (congrArg Fused.calls fused).trans ?_
      rw [logged, List.append_nil, List.append_nil]
      exact shows.symm

/-! ### The run -/

/-- What clear steps keep: the connection, and the whole calls that the threads amount to. -/
structure Matched (codec : Codec) (s : Threads) : Prop where
  whole : Whole s
  brings : Brings s.feeder
  refines : ∃ es, Refines codec s es

theorem loopStep_feeder (codec : Codec) (a : Answer) (s : Threads) :
    (loopStep codec a s).feeder = s.feeder := by
  unfold loopStep
  cases s.loop with
  | away => cases a.target <;> rfl
  | socket target => cases a.socket <;> rfl
  | readHeader =>
    dsimp only
    cases readHeader a.stack a.delivers <;> rfl
  | readBody messageSize =>
    cases a.delivers with
    | failed errno => rfl
    | data bytes =>
      dsimp only
      split <;> rfl
  | _ => rfl

theorem step_matched {e : Event} (here : Matched codec s) (clear : Clear s e)
    (taken : step codec s e = .ok t) : Matched codec t := by
  obtain ⟨whole, brings, es, refines⟩ := here
  have kept := step_whole whole clear taken
  cases e with
  | loop a =>
    cases taken
    refine ⟨kept, ?_, loopStep_refines whole clear refines⟩
    rw [loopStep_feeder]
    exact brings
  | feed f =>
    cases taken
    obtain ⟨brings, refines⟩ := feedStep_refines (f := f) whole brings refines
    exact ⟨kept, brings, refines⟩

theorem boot_matched (codec : Codec) : Matched codec boot :=
  ⟨boot_whole, trivial, [], ⟨⟨⟨rfl, rfl, rfl, rfl, rfl, rfl⟩, rfl⟩, rfl⟩⟩

end Steps

def Between (s : Threads) : Prop :=
  (s.loop = .away ∨ s.loop = .read ∨ s.loop = .destroy) ∧ s.feeder = .idle

/-- Whatever the two threads do in a run whose steps are clear, wherever both stand between
their calls the variables and everything the socket has seen are those of the same client
called from one thread, one whole call after the other. -/
theorem careful_atomic {codec : Codec} {es : List Event} {t : Threads}
    (careful : Careful (step codec) Clear boot es) (ends : run (step codec) boot es = .ok t)
    (between : Between t) : ∃ calls, SameVars t (called codec calls) ∧
      fuse t.calls = ⟨none, visible (called codec calls).calls⟩ := by
  have keeps : ∀ s e s', Matched codec s → Clear s e → step codec s e = .ok s' →
      Matched codec s' := fun s e s' here clear taken => step_matched here clear taken
  obtain ⟨_, _, calls, loop, feeder⟩ := throughout_invariant keeps careful (boot_matched codec) ends
  obtain ⟨rests, idle⟩ := between
  rw [idle] at feeder
  obtain ⟨same, logged⟩ : SameVars t (called codec calls) ∧ Logged t (called codec calls) [] := by
    obtain phase | phase | phase := rests
    · rw [phase] at loop
      exact loop
    · rw [phase] at loop
      exact loop
    · rw [phase] at loop
      exact loop
  refine ⟨calls, same, ?_⟩
  rw [Logged, List.append_nil] at logged
  rw [← logged]
  exact congrArg (Fused.mk · (fuse t.calls).calls) feeder

theorem careful_loop {codec : Codec} {a : Answer} {s : Threads} {es : List Event}
    (stays : s.loop ≠ .close) (later : Careful (step codec) Clear (loopStep codec a s) es) :
    Careful (step codec) Clear s (.loop a :: es) :=
  (throughout_cons rfl).mpr ⟨fun closing => absurd closing stays, later⟩

theorem careful_feed {codec : Codec} {f : Feed} {s : Threads} {es : List Event}
    (stays : s.loop ≠ .clear) (later : Careful (step codec) Clear (feedStep f s) es) :
    Careful (step codec) Clear s (.feed f :: es) :=
  (throughout_cons rfl).mpr ⟨fun _ clearing => absurd clearing stays, later⟩

/-- The answers of a server that takes the connection and has sent nothing yet. -/
def silentServer : Answer :=
  ⟨some ⟨"127.0.0.1", 19400, false, 150⟩, some ⟨5, by decide⟩, true, fun _ => 0, .failed 11⟩

def registering : List Event :=
  List.replicate 10 (.loop silentServer) ++ List.replicate 3 (.feed someFeed) ++
    List.replicate 2 (.loop silentServer) ++ List.replicate 4 (.feed someFeed)

theorem careful_atomic_registering : ∃ t, run (step plain) boot registering = .ok t ∧
    ∃ calls, SameVars t (called plain calls) ∧
      fuse t.calls = ⟨none, visible (called plain calls).calls⟩ := by
  have careful : Careful (step plain) Clear boot registering := by
    iterate 10 refine careful_loop (by rintro ⟨⟩) ?_
    iterate 3 refine careful_feed (by rintro ⟨⟩) ?_
    iterate 2 refine careful_loop (by rintro ⟨⟩) ?_
    iterate 4 refine careful_feed (by rintro ⟨⟩) ?_
    trivial
  exact ⟨_, rfl, careful_atomic careful rfl ⟨.inr (.inl rfl), rfl⟩⟩

end HyperionWebos.ClientAtomicity
