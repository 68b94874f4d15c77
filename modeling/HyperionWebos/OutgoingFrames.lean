import HyperionWebos.HyperionClient
import HyperionWebos.TraceMonitor

/-! What a connection carries to the server when writes fall short. The client goes on
writing whatever became of the writes before, so frames survive only where the socket takes
nothing more after the first frame it took in part; `orderly` reads the outcomes for that. -/

namespace HyperionWebos.OutgoingFrames
open LengthFrames TraceMonitor HyperionClient

def offered (codec : Codec) (calls : List SocketCall) : List (List UInt8) :=
  calls.filterMap fun
    | .frame _ request _ _ => some (codec.encode request).bytes
    | _ => none

def accepted (codec : Codec) (calls : List SocketCall) : List UInt8 :=
  calls.flatMap fun
    | .frame _ request head body =>
      head.taken (header (codec.encode request).bytes.length) ++
        body.taken (codec.encode request).bytes
    | _ => []

def transfers (es : List ClientEvent) : List (WriteOutcome × WriteOutcome) :=
  es.filterMap fun
    | .setImage _ _ _ head body => some (head, body)
    | _ => none

/-- Whether a frame has been cut off is its state; a cut is final, and no body follows a
header that was not taken whole. -/
def orderly : Monitor (WriteOutcome × WriteOutcome) Bool where
  start := false
  next
    | false, (.all, .all) => some false
    | false, (.failed, .failed) => some false
    | false, (.all, _) => some true
    | false, (.short _, .failed) => some true
    | true, (.failed, .failed) => some true
    | _, _ => none

/-- The calls that belong to one connection once it is open. -/
def OnConnection : ClientEvent → Prop
  | .read _ _ _ | .setImage _ _ _ _ _ => True
  | _ => False

structure Opened (c : Client) : Prop where
  sockfd : c.sockfd ≠ 0
  connected : c.connected = true

def Carried (codec : Codec) : Bool → List SocketCall → Prop
  | false, calls => Whole (offered codec calls) (accepted codec calls)
  | true, calls => CutOff (offered codec calls) (accepted codec calls)

variable {codec : Codec}

theorem taken_isPrefixOf (o : WriteOutcome) (bytes : List UInt8) : o.taken bytes <+: bytes := by
  cases o with
  | all => exact List.prefix_refl bytes
  | short more => exact List.take_prefix _ bytes
  | failed => exact List.nil_prefix

theorem offered_frame (calls : List SocketCall) (fd : Int) (request : Request)
    (head body : WriteOutcome) :
    offered codec (calls ++ [.frame fd request head body]) =
      offered codec calls ++ [(codec.encode request).bytes] := by
  simp [offered, List.filterMap_append]

theorem accepted_frame (calls : List SocketCall) (fd : Int) (request : Request)
    (head body : WriteOutcome) :
    accepted codec (calls ++ [.frame fd request head body]) = accepted codec calls ++
      (head.taken (header (codec.encode request).bytes.length) ++
        body.taken (codec.encode request).bytes) := by
  simp [accepted, List.flatMap_append]

theorem carried_frame {cut cut' : Bool} {calls : List SocketCall} {head body : WriteOutcome}
    (here : Carried codec cut calls) (next : orderly.next cut (head, body) = some cut') (fd : Int)
    (request : Request) : Carried codec cut' (calls ++ [.frame fd request head body]) := by
  have beginning : header (codec.encode request).bytes.length ++
      body.taken (codec.encode request).bytes <+: frame (codec.encode request).bytes :=
    (List.prefix_append_right_inj _).mpr (taken_isPrefixOf body _)
  cases cut with
  | false =>
    have whole : Whole (offered codec calls) (accepted codec calls) := here
    cases head with
    | all =>
      cases body with
      | all =>
        cases next
        rw [Carried, offered_frame, accepted_frame]
        exact whole.send _
      | short more =>
        cases next
        rw [Carried, offered_frame, accepted_frame]
        exact whole.cut beginning
      | failed =>
        cases next
        rw [Carried, offered_frame, accepted_frame]
        exact whole.cut beginning
    | short more =>
      cases body with
      | failed =>
        cases next
        rw [Carried, offered_frame, accepted_frame]
        refine whole.cut ?_
        rw [WriteOutcome.taken_failed, List.append_nil]
        exact (taken_isPrefixOf (.short more) _).trans (List.prefix_append _ _)
      | _ => cases next
    | failed =>
      cases body with
      | failed =>
        cases next
        rw [Carried, offered_frame, accepted_frame]
        simpa using whole.skip (codec.encode request).bytes
      | _ => cases next
  | true =>
    have cut : CutOff (offered codec calls) (accepted codec calls) := here
    rcases head with _ | _ | _ <;> rcases body with _ | _ | _ <;> cases next
    rw [Carried, offered_frame, accepted_frame]
    simpa using cut.skip (codec.encode request).bytes

theorem hyperionSetImage_opened {c : Client} (opened : Opened c) (image : List UInt8)
    (width height : Int) (head body : WriteOutcome) :
    ∃ request, (hyperionSetImage image width height head body c).2 =
      c.log (.frame c.sockfd request head body) := by
  rw [hyperionSetImage, sendMessage, if_neg opened.sockfd, opened.connected]
  cases registered : c.registered with
  | true => exact ⟨_, rfl⟩
  | false =>
    refine ⟨.register c.origin c.priority, ?_⟩
    simp [hyperionSetRegister, opened.sockfd, writeFrame]

theorem hyperionRead_opened (c : Client) (stack : Fin 4 → UInt8) (head body : ReadOutcome) :
    ∃ replies, (hyperionRead codec stack head body c).2.calls = c.calls ++ replies ∧
      offered codec replies = [] ∧ accepted codec replies = [] ∧
      (hyperionRead codec stack head body c).2.sockfd = c.sockfd ∧
      (hyperionRead codec stack head body c).2.connected = c.connected := by
  have silent : ∃ replies, c.calls = c.calls ++ replies ∧ offered codec replies = [] ∧
      accepted codec replies = [] ∧ c.sockfd = c.sockfd ∧ c.connected = c.connected :=
    ⟨[], (List.append_nil _).symm, rfl, rfl, rfl, rfl⟩
  rw [hyperionRead]
  split
  · exact silent
  · split
    · exact silent
    · split
      · exact silent
      · dsimp only
        obtain ⟨registered, eq⟩ := parseReply_eq codec (Client.log _ _)
        rw [eq]
        exact ⟨[.reply _], rfl, rfl, rfl, rfl, rfl⟩

theorem offered_append (calls more : List SocketCall) :
    offered codec (calls ++ more) = offered codec calls ++ offered codec more :=
  List.filterMap_append

theorem accepted_append (calls more : List SocketCall) :
    accepted codec (calls ++ more) = accepted codec calls ++ accepted codec more :=
  List.flatMap_append

theorem carried_replies {cut : Bool} {calls replies : List SocketCall}
    (here : Carried codec cut calls) (none_offered : offered codec replies = [])
    (none_accepted : accepted codec replies = []) : Carried codec cut (calls ++ replies) := by
  cases cut <;>
    rwa [Carried, offered_append, accepted_append, none_offered, none_accepted, List.append_nil,
      List.append_nil]

theorem framed_of_carried {cut : Bool} {calls : List SocketCall}
    (here : Carried codec cut calls) :
    Framed (offered codec calls) (accepted codec calls) := by
  cases cut with
  | false => exact Or.inl here
  | true => exact Or.inr here

theorem framed_from {es : List ClientEvent} {c : Client} {base sent : List SocketCall} {cut : Bool}
    (opened : Opened c) (calls : c.calls = base ++ sent) (here : Carried codec cut sent)
    (same : ∀ e ∈ es, OnConnection e) (fine : (orderly.readFrom cut (transfers es)).isSome) :
    ∃ more, (es.foldl (clientStep codec) c).calls = base ++ more ∧
      Framed (offered codec more) (accepted codec more) := by
  induction es generalizing c sent cut with
  | nil => exact ⟨sent, calls, framed_of_carried here⟩
  | cons e es ih =>
    have rest : ∀ e ∈ es, OnConnection e := fun e member => same e (List.mem_cons_of_mem _ member)
    cases e with
    | client => exact absurd (same _ List.mem_cons_self) nofun
    | destroy => exact absurd (same _ List.mem_cons_self) nofun
    | read stack head body =>
      obtain ⟨replies, calls', none_offered, none_accepted, sockfd, connected⟩ :=
        @hyperionRead_opened codec c stack head body
      refine ih ⟨?_, ?_⟩ ?_ (carried_replies here none_offered none_accepted) rest fine
      · exact fun closed => opened.sockfd (sockfd ▸ closed)
      · exact connected.trans opened.connected
      · rw [clientStep, calls', calls, List.append_assoc]
    | setImage image width height head body =>
      obtain ⟨request, eq⟩ := hyperionSetImage_opened opened image width height head body
      have pair : transfers (.setImage image width height head body :: es) =
        (head, body) :: transfers es := rfl
      rw [pair, Monitor.readFrom] at fine
      cases next : orderly.next cut (head, body) with
      | none =>
        rw [next] at fine
        cases fine
      | some cut' =>
        rw [next] at fine
        refine ih (c := clientStep codec c (.setImage image width height head body)) ?_ ?_
          (carried_frame here next c.sockfd request) rest fine
        · rw [clientStep, eq]
          exact ⟨opened.sockfd, opened.connected⟩
        · rw [clientStep, eq, Client.log, calls, List.append_assoc]

/-- While the writes of a connection are orderly, what the socket took is whole frames of the
messages, and at most a beginning of one more after which nothing was taken. -/
theorem outgoing_frames (codec : Codec) (c : Client) (opened : Opened c) (es : List ClientEvent)
    (same : ∀ e ∈ es, OnConnection e) (fine : orderly.Accepts (transfers es)) :
    ∃ sent, (es.foldl (clientStep codec) c).calls = c.calls ++ sent ∧
      Framed (offered codec sent) (accepted codec sent) := by
  have start : Carried codec false [] := whole_nil
  exact framed_from opened (List.append_nil _).symm start same fine

theorem outgoing_frames_cut :
    ∃ sent, ([ClientEvent.setImage [] 0 0 .all .all, .setImage [] 0 0 .all (.short 0),
        .setImage [] 0 0 .failed .failed].foldl (clientStep plain) connectedClient).calls =
          connectedClient.calls ++ sent ∧
      Framed (offered plain sent) (accepted plain sent) :=
  outgoing_frames plain connectedClient ⟨by decide, rfl⟩ _
    (by simp [OnConnection]) (by decide)

/-- Two bytes of the header and then the body: no frame begins like that. -/
theorem outgoing_frames_short_header :
    ∃ sent, ([ClientEvent.setImage [] 0 0 (.short 1) .all].foldl (clientStep plain)
        connectedClient).calls = connectedClient.calls ++ sent ∧
      ¬ Framed (offered plain sent) (accepted plain sent) := by
  refine ⟨[.frame 5 (.register (some "webos") 150) (.short 1) .all], rfl, ?_⟩
  have messages : offered plain [.frame 5 (.register (some "webos") 150) (.short 1) .all] =
    [[1, 2, 3, 4]] := rfl
  have wire : accepted plain [.frame 5 (.register (some "webos") 150) (.short 1) .all] =
    [0, 0, 1, 2, 3, 4] := rfl
  rw [messages, wire]
  rintro (⟨sent, sub, eq⟩ | ⟨sent, body, beginning, sub, begins, eq⟩)
  · rcases List.sublist_singleton.mp sub with rfl | rfl
    · cases eq
    · cases eq
  · have single : sent ++ [body] = [[1, 2, 3, 4]] := by
      rcases List.sublist_singleton.mp sub with none | one
      · simp at none
      · exact one
    obtain ⟨rfl, same⟩ := List.append_inj' (single.trans (List.nil_append _).symm) rfl
    obtain rfl := List.singleton_injective same
    rw [frames_nil, List.nil_append] at eq
    rw [← eq] at begins
    exact absurd begins (by decide)

end HyperionWebos.OutgoingFrames
