import HyperionWebos.ClientThreads
import HyperionWebos.TraceMonitor

/-! Frames beside the connection loop. `_send_message` looks at the socket, then at the two
flags, and then writes twice, each time to what `sockfd` is by then. As long as
`hyperion_destroy` closes no socket of a connection while a frame is past its first look,
and no frame takes its first look at a socket just closed, each frame is written whole, to
an open socket that is connected, an image only after the registration; and any step
against this can be continued to a write on a closed socket. -/

namespace HyperionWebos.SendOverlap
open Runs HyperionClient FlatReply TraceMonitor ClientThreads

/-- The connection as the calls have left it: `half` is the request of which only the
header is written. -/
inductive Wire where
  | shut
  | opened (fd : Int)
  | ready (fd : Int) (registered : Bool) (half : Option Request)
deriving DecidableEq

def isImage : Request → Bool
  | .image .. => true
  | .register .. => false

/-- A header goes to the connected socket, an image's only once it is registered, and the
body of the same request follows it there before the next header. -/
def Wire.next : Wire → Call → Option Wire
  | _, .socket none => some .shut
  | _, .socket (some fd) => some (.opened fd)
  | w, .connect fd _ connects => some (if connects then .ready fd false none else w)
  | .ready fd registered none, .writeHeader fd' request _ =>
    if fd' = fd ∧ (isImage request = true → registered = true) then
      some (.ready fd registered (some request))
    else none
  | .ready fd registered (some half), .writeBody fd' request _ =>
    if fd' = fd ∧ request = half then some (.ready fd registered none) else none
  | .ready fd _ half, .registered => some (.ready fd true half)
  | _, .close _ => some .shut
  | _, _ => none

def wire : Monitor Call Wire := ⟨.shut, Wire.next⟩

@[simp] def past : FeedPhase → Bool
  | .idle | .checkSocket _ => false
  | _ => true

/-- No close of a connection's socket under a frame that is past its first look, and no
first look between that close and the write of `sockfd`. -/
def Clear (s : Threads) : Event → Prop
  | .loop _ => s.loop = .close → s.connected = true → past s.feeder = false
  | .feed _ => (∃ request, s.feeder = .checkSocket request) → s.loop = .clear → s.connected = false

def Torn : Except Empty Threads → Prop
  | .ok s => ¬ wire.Accepts s.calls
  | .error _ => False

/-! ### What clear steps keep -/

@[simp] def half : FeedPhase → Option Request
  | .body request => some request
  | _ => none

@[simp] def deep : FeedPhase → Bool
  | .idle | .checkSocket _ | .checkConnected _ => false
  | _ => true

@[simp] def standing : LoopPhase → Bool
  | .read | .readHeader | .readBody _ | .destroy | .close => true
  | _ => false

def Stands (s : Threads) (w : Wire) : Prop :=
  s.sockfd ≠ 0 ∧ w = .ready s.sockfd s.registered (half s.feeder)

@[simp] def Loop (s : Threads) (w : Wire) : LoopPhase → Prop
  | .away | .setOrigin _ | .setPriority _ | .clearConnected _ => s.sockfd = 0
  | .clearRegistered _ => s.sockfd = 0 ∧ s.connected = false
  | .clearSocket _ | .socket _ =>
    s.sockfd = 0 ∧ s.connected = false ∧ s.registered = false
  | .options _ | .connect _ =>
    s.sockfd ≠ 0 ∧ s.connected = false ∧ s.registered = false ∧ w = .opened s.sockfd
  | .setConnected => s.connected = false ∧ s.registered = false ∧ Stands s w
  | .read | .readHeader | .readBody _ => s.connected = true ∧ Stands s w
  | .destroy | .close => s.sockfd ≠ 0 ∧ (s.connected = true → Stands s w)
  | .clear => s.sockfd ≠ 0 ∧ w = .shut

structure Feeds (s : Threads) : Prop where
  held : past s.feeder = true → s.connected = true → standing s.loop = true
  connected : deep s.feeder = true → s.connected = true
  registered : ∀ request, s.feeder = .header request → isImage request = true →
    s.registered = true
  register : ∀ request, s.feeder = .registerSocket request → isImage request = false

structure Whole (s : Threads) : Prop where
  wire : ∃ w, wire.after s.calls = some w ∧ Loop s w s.loop
  feeds : Feeds s

section Kept

variable {s t : Threads} {w : Wire}

theorem past_of_deep {f : FeedPhase} (here : deep f = true) : past f = true := by
  cases f <;> first | rfl | cases here

theorem Feeds.deep_standing (here : Feeds s) (sees : deep s.feeder = true) :
    s.connected = true ∧ standing s.loop = true :=
  ⟨here.connected sees, here.held (past_of_deep sees) (here.connected sees)⟩

theorem Feeds.shallow (here : Feeds s) (away : standing s.loop = false) :
    deep s.feeder = false := by
  by_contra sees
  rw [Bool.not_eq_false] at sees
  exact Bool.false_ne_true (away.symm.trans (here.deep_standing sees).2)

theorem half_of_shallow {f : FeedPhase} (here : deep f = false) : half f = none := by
  cases f <;> first | rfl | cases here

theorem loop_iff_stands (there : standing s.loop = true) (connected : s.connected = true) :
    Loop s w s.loop ↔ Stands s w := by
  cases phase : s.loop with
  | read => exact ⟨And.right, And.intro connected⟩
  | readHeader => exact ⟨And.right, And.intro connected⟩
  | readBody messageSize => exact ⟨And.right, And.intro connected⟩
  | destroy => exact ⟨fun here => here.2 connected, fun stands => ⟨stands.1, fun _ => stands⟩⟩
  | close => exact ⟨fun here => here.2 connected, fun stands => ⟨stands.1, fun _ => stands⟩⟩
  | _ =>
    rw [phase] at there
    cases there

theorem Feeds.move (here : Feeds s) (feeder : t.feeder = s.feeder)
    (connected : t.connected = s.connected) (registered : s.registered = true → t.registered = true)
    (stays : past s.feeder = true → s.connected = true → standing s.loop = true →
      standing t.loop = true) : Feeds t where
  held sees set := by
    rw [feeder] at sees
    rw [connected] at set
    exact stays sees set (here.held sees set)
  connected sees := by
    rw [feeder] at sees
    exact connected.trans (here.connected sees)
  registered request phase image := by
    rw [feeder] at phase
    exact registered (here.registered request phase image)
  register request phase := by
    rw [feeder] at phase
    exact here.register request phase

theorem Feeds.apart (here : Feeds s) (away : standing s.loop = false)
    (feeder : t.feeder = s.feeder)
    (stays : past s.feeder = true → t.connected = true → standing t.loop = true) : Feeds t := by
  have shallow := here.shallow away
  refine ⟨fun sees set => ?_, fun sees => ?_, fun request phase => ?_, fun request phase => ?_⟩
  · rw [feeder] at sees
    exact stays sees set
  · rw [feeder] at sees
    exact absurd (shallow.symm.trans sees) Bool.false_ne_true
  · rw [feeder] at phase
    rw [phase] at shallow
    cases shallow
  · rw [feeder] at phase
    rw [phase] at shallow
    cases shallow

theorem Feeds.unconnected (here : Feeds s) (away : standing s.loop = false)
    (sees : past s.feeder = true) : s.connected = false := by
  by_contra set
  rw [Bool.not_eq_false] at set
  exact Bool.false_ne_true (away.symm.trans (here.held sees set))

theorem after_call {call : Call} {calls : List Call} {w w' : Wire}
    (after : wire.after calls = some w) (next : w.next call = some w') :
    wire.after (calls ++ [call]) = some w' := by
  rw [wire.after_append after, Monitor.readFrom]
  exact (congrArg (fun x => Option.bind x _) next).trans rfl

theorem afterRead_whole (ret : Int) (after : wire.after s.calls = some w)
    (connected : s.connected = true) (stands : Stands s w) (feeds : Feeds s) :
    Whole { s with loop := afterRead ret } := by
  have kept (l : LoopPhase) (stays : standing l = true) : Feeds { s with loop := l } :=
    feeds.move rfl rfl id fun _ _ _ => stays
  unfold afterRead
  split
  · exact ⟨⟨w, after, connected, stands⟩, kept _ rfl⟩
  · split
    · exact ⟨⟨w, after, stands.1, fun _ => stands⟩, kept _ rfl⟩
    · exact ⟨⟨w, after, connected, stands⟩, kept _ rfl⟩

theorem loopStep_whole {codec : Codec} {a : Answer} (here : Whole s)
    (clear : Clear s (.loop a)) : Whole (loopStep codec a s) := by
  have same := here
  obtain ⟨⟨w, after, loop⟩, feeds⟩ := here
  unfold loopStep
  cases phase : s.loop with
  | away =>
    rw [phase] at loop
    have off := feeds.unconnected (by rw [phase]; rfl)
    cases a.target with
    | none => exact same
    | some t =>
      exact ⟨⟨w, after, loop⟩, feeds.apart (by rw [phase]; rfl) rfl
        fun sees set => absurd ((off sees).symm.trans set) Bool.false_ne_true⟩
  | setOrigin t =>
    rw [phase] at loop
    have off := feeds.unconnected (by rw [phase]; rfl)
    exact ⟨⟨w, after, loop⟩, feeds.apart (by rw [phase]; rfl) rfl
      fun sees set => absurd ((off sees).symm.trans set) Bool.false_ne_true⟩
  | setPriority t =>
    rw [phase] at loop
    have off := feeds.unconnected (by rw [phase]; rfl)
    exact ⟨⟨w, after, loop⟩, feeds.apart (by rw [phase]; rfl) rfl
      fun sees set => absurd ((off sees).symm.trans set) Bool.false_ne_true⟩
  | clearConnected t =>
    rw [phase] at loop
    exact ⟨⟨w, after, loop, rfl⟩, feeds.apart (by rw [phase]; rfl) rfl
      fun _ set => absurd set Bool.false_ne_true⟩
  | clearRegistered t =>
    rw [phase] at loop
    exact ⟨⟨w, after, loop.1, loop.2, rfl⟩, feeds.apart (by rw [phase]; rfl) rfl
      fun _ set => absurd (loop.2.symm.trans set) Bool.false_ne_true⟩
  | clearSocket t =>
    rw [phase] at loop
    exact ⟨⟨w, after, rfl, loop.2⟩, feeds.apart (by rw [phase]; rfl) rfl
      fun _ set => absurd (loop.2.1.symm.trans set) Bool.false_ne_true⟩
  | socket t =>
    rw [phase] at loop
    have off (connected : Bool) (same : connected = s.connected) (set : connected = true) : False :=
      Bool.false_ne_true (loop.2.1.symm.trans (same.symm.trans set))
    cases a.socket with
    | none =>
      exact ⟨⟨.shut, after_call after rfl, by simp, fun set => (off _ rfl set).elim⟩,
        feeds.apart (by rw [phase]; rfl) rfl fun _ set => (off _ rfl set).elim⟩
    | some fd =>
      exact ⟨⟨.opened fd, after_call after rfl, Int.ne_of_gt fd.2, loop.2.1, loop.2.2, rfl⟩,
        feeds.apart (by rw [phase]; rfl) rfl fun _ set => (off _ rfl set).elim⟩
  | options t =>
    rw [phase] at loop
    obtain ⟨some, unset, unregistered, same⟩ := loop
    have kept (l : LoopPhase) : Feeds { s with loop := l } :=
      feeds.apart (by rw [phase]; rfl) rfl fun _ set =>
        absurd (unset.symm.trans set) Bool.false_ne_true
    dsimp only
    split
    · exact ⟨⟨w, after, some, unset, unregistered, same⟩, kept _⟩
    · exact ⟨⟨w, after, some, fun set => absurd (unset.symm.trans set) Bool.false_ne_true⟩, kept _⟩
  | connect t =>
    rw [phase] at loop
    obtain ⟨some, unset, unregistered, same⟩ := loop
    have whole : half s.feeder = none := half_of_shallow (feeds.shallow (by rw [phase]; rfl))
    have kept (connects : Bool) (l : LoopPhase) :
        Feeds { s.log (.connect s.sockfd t.address connects) with loop := l } :=
      feeds.apart (by rw [phase]; rfl) rfl fun _ set =>
        absurd (unset.symm.trans set) Bool.false_ne_true
    dsimp only
    cases a.works with
    | true =>
      refine ⟨⟨.ready s.sockfd false none, after_call after rfl, unset, unregistered, some, ?_⟩,
        kept true _⟩
      change Wire.ready s.sockfd false none = .ready s.sockfd s.registered (half s.feeder)
      rw [unregistered, whole]
    | false =>
      exact ⟨⟨w, after_call after rfl, some,
        fun set => absurd (unset.symm.trans set) Bool.false_ne_true⟩, kept false _⟩
  | setConnected =>
    rw [phase] at loop
    exact ⟨⟨w, after, rfl, loop.2.2⟩, feeds.apart (by rw [phase]; rfl) rfl fun _ _ => rfl⟩
  | read =>
    rw [phase] at loop
    have kept (l : LoopPhase) (stays : standing l = true) : Feeds { s with loop := l } :=
      feeds.move rfl rfl id fun _ _ _ => stays
    dsimp only
    split
    · exact ⟨⟨w, after, loop⟩, kept _ rfl⟩
    · exact ⟨⟨w, after, loop.2.1, fun _ => loop.2⟩, kept _ rfl⟩
  | readHeader =>
    rw [phase] at loop
    dsimp only
    split
    · exact afterRead_whole _ after loop.1 loop.2 feeds
    · exact ⟨⟨w, after, loop⟩, feeds.move rfl rfl id fun _ _ _ => rfl⟩
  | readBody messageSize =>
    rw [phase] at loop
    dsimp only
    split
    · exact afterRead_whole _ after loop.1 loop.2 feeds
    · split
      · refine ⟨⟨.ready s.sockfd true (half s.feeder), after_call after ?_, loop.1, loop.2.1, rfl⟩,
          feeds.move rfl rfl (fun _ => rfl) fun _ _ _ => rfl⟩
        rw [loop.2.2]
        rfl
      · exact ⟨⟨w, after, loop⟩, feeds.move rfl rfl id fun _ _ _ => rfl⟩
  | destroy =>
    rw [phase] at loop
    dsimp only
    rw [if_neg loop.1]
    exact ⟨⟨w, after, loop⟩, feeds.move rfl rfl id fun _ _ _ => rfl⟩
  | close =>
    rw [phase] at loop
    exact ⟨⟨.shut, after_call after rfl, loop.1, rfl⟩, feeds.move rfl rfl id
      fun sees set _ => absurd ((clear phase set).symm.trans sees) Bool.false_ne_true⟩
  | clear =>
    rw [phase] at loop
    have off := feeds.unconnected (by rw [phase]; rfl)
    exact ⟨⟨w, after, rfl⟩, feeds.apart (by rw [phase]; rfl) rfl
      fun sees set => absurd ((off sees).symm.trans set) Bool.false_ne_true⟩

theorem Whole.feed {f : FeedPhase} (here : Whole s) (halves : half f = half s.feeder)
    (feeds : Feeds { s with feeder := f }) : Whole { s with feeder := f } := by
  obtain ⟨⟨w, after, loop⟩, _⟩ := here
  refine ⟨⟨w, after, ?_⟩, feeds⟩
  have stands (stood : Stands s w) : Stands { s with feeder := f } w := by
    refine ⟨stood.1, ?_⟩
    rw [stood.2]
    exact congrArg (Wire.ready s.sockfd s.registered) halves.symm
  dsimp only
  cases phase : s.loop with
  | setConnected =>
    rw [phase] at loop
    exact ⟨loop.1, loop.2.1, stands loop.2.2⟩
  | read =>
    rw [phase] at loop
    exact ⟨loop.1, stands loop.2⟩
  | readHeader =>
    rw [phase] at loop
    exact ⟨loop.1, stands loop.2⟩
  | readBody messageSize =>
    rw [phase] at loop
    exact ⟨loop.1, stands loop.2⟩
  | destroy =>
    rw [phase] at loop
    exact ⟨loop.1, fun set => stands (loop.2 set)⟩
  | close =>
    rw [phase] at loop
    exact ⟨loop.1, fun set => stands (loop.2 set)⟩
  | _ =>
    rw [phase] at loop
    exact loop

theorem standing_of_socket (loop : Loop s w s.loop) (some : s.sockfd ≠ 0)
    (connected : s.connected = true) (open_ : s.loop ≠ .clear) : standing s.loop = true := by
  cases phase : s.loop with
  | read => rfl
  | readHeader => rfl
  | readBody messageSize => rfl
  | destroy => rfl
  | close => rfl
  | clear => exact absurd phase open_
  | away =>
    rw [phase] at loop
    exact absurd loop some
  | setOrigin t =>
    rw [phase] at loop
    exact absurd loop some
  | setPriority t =>
    rw [phase] at loop
    exact absurd loop some
  | clearConnected t =>
    rw [phase] at loop
    exact absurd loop some
  | clearRegistered t =>
    rw [phase] at loop
    exact absurd loop.1 some
  | clearSocket t =>
    rw [phase] at loop
    exact absurd loop.1 some
  | socket t =>
    rw [phase] at loop
    exact absurd loop.1 some
  | options t =>
    rw [phase] at loop
    exact absurd (loop.2.1.symm.trans connected) Bool.false_ne_true
  | connect t =>
    rw [phase] at loop
    exact absurd (loop.2.1.symm.trans connected) Bool.false_ne_true
  | setConnected =>
    rw [phase] at loop
    exact absurd (loop.1.symm.trans connected) Bool.false_ne_true

theorem feeds_shallow {f : FeedPhase} (shallow : deep f = false)
    (held : past f = true → s.connected = true → standing s.loop = true) :
    Feeds { s with feeder := f } where
  held := held
  connected sees := absurd (shallow.symm.trans sees) Bool.false_ne_true
  registered request phase := by
    change f = .header request at phase
    rw [phase] at shallow
    cases shallow
  register request phase := by
    change f = .registerSocket request at phase
    rw [phase] at shallow
    cases shallow

theorem feedStep_whole {f : Feed} (here : Whole s) (clear : Clear s (.feed f)) :
    Whole (feedStep f s) := by
  obtain ⟨w, after, loop⟩ := here.wire
  have feeds := here.feeds
  have idle : Feeds { s with feeder := .idle } :=
    feeds_shallow rfl fun sees => absurd sees Bool.false_ne_true
  unfold feedStep
  cases phase : s.feeder with
  | idle =>
    exact here.feed (by rw [phase]; rfl)
      (feeds_shallow rfl fun sees => absurd sees Bool.false_ne_true)
  | checkSocket request =>
    dsimp only
    split
    · exact here.feed (by rw [phase]; rfl) idle
    · next some =>
      refine here.feed (by rw [phase]; rfl) (feeds_shallow rfl fun _ connected => ?_)
      refine standing_of_socket loop some connected fun closed => ?_
      exact Bool.false_ne_true ((clear ⟨request, phase⟩ closed).symm.trans connected)
  | checkConnected request =>
    dsimp only
    split
    · next connected =>
      have stands := feeds.held (by rw [phase]; rfl) connected
      exact here.feed (by rw [phase]; rfl) ⟨fun _ _ => stands, fun _ => connected,
        fun _ other => (by cases other), fun _ other => by cases other⟩
    · exact here.feed (by rw [phase]; rfl) idle
  | checkRegistered request =>
    obtain ⟨connected, stands⟩ := feeds.deep_standing (by rw [phase]; rfl)
    dsimp only
    split
    · next registered =>
      exact here.feed (by rw [phase]; rfl) ⟨fun _ _ => stands, fun _ => connected,
        fun _ _ _ => registered, fun _ other => by cases other⟩
    · exact here.feed (by rw [phase]; rfl) ⟨fun _ _ => stands, fun _ => connected,
        fun _ other => (by cases other), fun _ same => by cases same; rfl⟩
  | registerSocket request =>
    obtain ⟨connected, stands⟩ := feeds.deep_standing (by rw [phase]; rfl)
    dsimp only
    split
    · exact here.feed (by rw [phase]; rfl) idle
    · refine here.feed (by rw [phase]; rfl) ⟨fun _ _ => stands, fun _ => connected,
        fun other same image => ?_, fun _ other => by cases other⟩
      cases same
      rw [feeds.register request phase] at image
      cases image
  | header request =>
    obtain ⟨connected, stands⟩ := feeds.deep_standing (by rw [phase]; rfl)
    obtain ⟨opened, ready⟩ := (loop_iff_stands stands connected).mp loop
    have next : w.next (.writeHeader s.sockfd request f.writes) =
        some (.ready s.sockfd s.registered (some request)) := by
      rw [ready, phase]
      exact if_pos ⟨rfl, feeds.registered request phase⟩
    refine ⟨⟨_, after_call after next, ?_⟩, ⟨fun _ _ => stands, fun _ => connected,
      fun _ other => (by cases other), fun _ other => by cases other⟩⟩
    exact (loop_iff_stands (s := { s.log (.writeHeader s.sockfd request f.writes) with
      feeder := .body request }) stands connected).mpr ⟨opened, rfl⟩
  | body request =>
    obtain ⟨connected, stands⟩ := feeds.deep_standing (by rw [phase]; rfl)
    obtain ⟨opened, ready⟩ := (loop_iff_stands stands connected).mp loop
    have next : w.next (.writeBody s.sockfd request f.writes) =
        some (.ready s.sockfd s.registered none) := by
      rw [ready, phase]
      exact if_pos ⟨rfl, rfl⟩
    refine ⟨⟨_, after_call after next, ?_⟩, ⟨fun _ _ => stands, fun _ => connected,
      fun _ other => (by cases other), fun _ other => by cases other⟩⟩
    exact (loop_iff_stands (s := { s.log (.writeBody s.sockfd request f.writes) with
      feeder := .idle }) stands connected).mpr ⟨opened, rfl⟩

end Kept

section Traps

variable {codec : Codec} {s t : Threads}

def someFeed : Feed := ⟨[], 0, 0, .all⟩

theorem doomed_feed (looked : ∀ request, s.feeder ≠ .checkSocket request)
    (doomed : Doomed (step codec) Clear Torn (feedStep someFeed s)) :
    Doomed (step codec) Clear Torn s :=
  doomed_step (e := .feed someFeed) (fun first => absurd first.choose_spec (looked _)) rfl doomed

theorem doomed_call (call : Call) (shut : wire.after s.calls = some .shut)
    (rejects : Wire.next .shut call = none) (calls : t.calls = s.calls ++ [call]) :
    Doomed (step codec) Clear Torn t := by
  apply doomed_now
  change ¬ wire.Accepts t.calls
  rw [calls, Monitor.Accepts, wire.after_append shut, Monitor.readFrom]
  change ¬ ((Wire.next .shut call).bind _).isSome
  rw [rejects]
  exact Bool.false_ne_true

theorem doomed_header {request : Request} (shut : wire.after s.calls = some .shut)
    (here : s.feeder = .header request) : Doomed (step codec) Clear Torn s := by
  refine doomed_feed (by simp [here]) ?_
  rw [feedStep, here]
  exact doomed_call (s := s) (.writeHeader s.sockfd request .all) shut rfl rfl

theorem doomed_body {request : Request} (shut : wire.after s.calls = some .shut)
    (here : s.feeder = .body request) : Doomed (step codec) Clear Torn s := by
  refine doomed_feed (by simp [here]) ?_
  rw [feedStep, here]
  exact doomed_call (s := s) (.writeBody s.sockfd request .all) shut rfl rfl

theorem doomed_registerSocket {request : Request} (shut : wire.after s.calls = some .shut)
    (socket : s.sockfd ≠ 0) (here : s.feeder = .registerSocket request) :
    Doomed (step codec) Clear Torn s := by
  refine doomed_feed (by simp [here]) ?_
  simp only [feedStep, here, if_neg socket]
  exact doomed_header shut rfl

theorem doomed_checkRegistered {request : Request} (shut : wire.after s.calls = some .shut)
    (socket : s.sockfd ≠ 0) (here : s.feeder = .checkRegistered request) :
    Doomed (step codec) Clear Torn s := by
  refine doomed_feed (by simp [here]) ?_
  simp only [feedStep, here]
  split
  · exact doomed_header shut rfl
  · exact doomed_registerSocket shut socket rfl

theorem doomed_past (shut : wire.after s.calls = some .shut) (socket : s.sockfd ≠ 0)
    (connected : s.connected = true) (here : past s.feeder = true) :
    Doomed (step codec) Clear Torn s := by
  cases phase : s.feeder with
  | checkConnected request =>
    refine doomed_feed (by simp [phase]) ?_
    simp only [feedStep, phase, connected, if_true]
    exact doomed_checkRegistered shut socket rfl
  | checkRegistered request => exact doomed_checkRegistered shut socket phase
  | registerSocket request => exact doomed_registerSocket shut socket phase
  | header request => exact doomed_header shut phase
  | body request => exact doomed_body shut phase
  | idle =>
    rw [phase] at here
    cases here
  | checkSocket request =>
    rw [phase] at here
    cases here

theorem doomed_of_unclear {e : Event} (here : Whole s) (unclear : ¬ Clear s e)
    (taken : step codec s e = .ok t) : Doomed (step codec) Clear Torn t := by
  obtain ⟨w, after, loop⟩ := here.wire
  cases e with
  | loop a =>
    cases taken
    simp only [Clear, Classical.not_imp, Bool.not_eq_false] at unclear
    obtain ⟨phase, connected, work⟩ := unclear
    rw [phase] at loop
    rw [loopStep, phase]
    exact doomed_past (after_call after rfl) loop.1 connected work
  | feed f =>
    cases taken
    simp only [Clear, Classical.not_imp, Bool.not_eq_false] at unclear
    obtain ⟨⟨request, phase⟩, closed, connected⟩ := unclear
    rw [closed] at loop
    obtain ⟨socket, rfl⟩ := loop
    simp only [feedStep, phase, if_neg socket]
    exact doomed_past after socket connected rfl

end Traps

theorem step_whole {codec : Codec} {s t : Threads} {e : Event} (here : Whole s)
    (clear : Clear s e) (taken : step codec s e = .ok t) : Whole t := by
  cases e with
  | loop a =>
    cases taken
    exact loopStep_whole here clear
  | feed f =>
    cases taken
    exact feedStep_whole here clear

theorem boot_whole : Whole boot where
  wire := ⟨.shut, rfl, rfl⟩
  feeds := feeds_shallow (s := boot) (f := .idle) rfl fun sees => absurd sees Bool.false_ne_true

/-- In every run of the two threads whose steps are clear each frame is whole: header and
body of one request in a row to the connected socket, an image only once it is registered;
and the steps of a run are clear exactly when no state it reaches can be continued by clear
steps to a frame that is not. -/
theorem frames_whole_iff (codec : Codec) (es : List Event) :
    (Careful (step codec) Clear boot es → ¬ Torn (run (step codec) boot es)) ∧
    (Throughout (step codec) (fun _ _ t => ¬ Doomed (step codec) Clear Torn t) boot es ↔
      Careful (step codec) Clear boot es) := by
  have keeps : ∀ s e t, Whole s → Clear s e → step codec s e = .ok t → Whole t :=
    fun s e t here clear taken => step_whole here clear taken
  have fine : ∀ s, Whole s → ¬ Torn (.ok s) := by
    intro s here bad
    obtain ⟨w, after, _⟩ := here.wire
    exact bad (wire.accepts_of_after after)
  have fails : ∀ s e f, Whole s → step codec s e = .error f → ¬ Torn (.error f) :=
    fun s e f _ _ => id
  exact ⟨careful_safe keeps fine fails boot_whole,
    undoomed_iff keeps fine fails (fun s e t here => doomed_of_unclear here) boot_whole⟩

end HyperionWebos.SendOverlap
