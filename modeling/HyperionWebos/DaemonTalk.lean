import HyperionWebos.ServiceSteps
import HyperionWebos.TraceMonitor

/-! The conversation with the lighting daemons. Requests and their answers are read in
order into a `Book` of what each host last said it was. `hdr_callback` is the only handler
that talks, and each of the functions it calls is judged once, by the book before it. -/

namespace HyperionWebos.DaemonTalk
open Runs TraceMonitor OwnedArray Pbnjson SettingsLoad Unicapture JsonRpcClient ServiceLoop
  ServiceSteps

def identified (response : JVal) : Option AmbientLightingDaemon :=
  let info := jobjectGet response "info"
  if jisValid (jobjectGet info "hyperion") then some .hyperionNg
  else if jisValid (jobjectGet info "hyperhdr") then some .hyperhdr
  else none

def succeeded : Reply → Option JVal
  | .httpFailed => none
  | .parsed response => match jobjectGet response "success" with
    | .boolean true => some response
    | _ => none

/-- What the last successful `sysinfo` answer of each host identified, and the host of the
latest one that identified a flavor at all. -/
structure Book where
  last : String → Option AmbientLightingDaemon
  detected : Option String

def blankBook : Book := ⟨fun _ => none, none⟩

def Book.enter (host : String) (response : JVal) (b : Book) : Book where
  last := Function.update b.last host (identified response)
  detected := if (identified response).isSome then some host else b.detected

def command (r : Request) : Option String := jstringGet (jobjectGet r.body "command")

/-- Reads requests with their answers, and is stuck at a command for a host that did not
last say it was the daemon the command is for. -/
def censor : Monitor (Request × Reply) Book where
  start := blankBook
  next b x :=
    if command x.1 = some "sysinfo" then match succeeded x.2 with
      | some response => some (b.enter x.1.host response)
      | none => some b
    else if command x.1 = some "componentstate" then
      if b.last x.1.host = some .hyperhdr then some b else none
    else if command x.1 = some "adjustment" then
      if b.last x.1.host = some .hyperionNg then some b else none
    else some b

def conversation (replies : Nat → Reply) : Nat → List Request → List (Request × Reply)
  | _, [] => []
  | k, r :: rs => (r, replies k) :: conversation replies (k + 1) rs

theorem conversation_append (replies : Nat → Reply) (k : Nat) (xs ys : List Request) :
    conversation replies k (xs ++ ys) =
      conversation replies k xs ++ conversation replies (k + xs.length) ys := by
  induction xs generalizing k with
  | nil => rfl
  | cons x xs ih =>
    rw [List.cons_append, conversation, ih, conversation, List.cons_append, List.length_cons,
      Nat.add_assoc, Nat.add_comm 1]

/-- The book after what was said between two states of the client. -/
def readTalk (replies : Nat → Reply) (r r' : Rpc) (b : Book) : Option Book :=
  censor.readFrom b (conversation replies r.sent.length (r'.sent.drop r.sent.length))

def Later (r r' : Rpc) : Prop := ∃ more, r'.sent = r.sent ++ more

theorem Later.refl (r : Rpc) : Later r r := ⟨[], (List.append_nil _).symm⟩

theorem Later.trans {r r' r'' : Rpc} (first : Later r r') (second : Later r' r'') :
    Later r r'' := by
  obtain ⟨xs, eq⟩ := first
  obtain ⟨ys, eq'⟩ := second
  exact ⟨xs ++ ys, by rw [eq', eq, List.append_assoc]⟩

theorem readTalk_silent (replies : Nat → Reply) {r r' : Rpc} (same : r'.sent = r.sent) (b : Book) :
    readTalk replies r r' b = some b := by
  rw [readTalk, same, List.drop_length]
  rfl

theorem readTalk_trans (replies : Nat → Reply) {r r' r'' : Rpc} (first : Later r r')
    (second : Later r' r'') (b : Book) :
    readTalk replies r r'' b = (readTalk replies r r' b).bind (readTalk replies r' r'') := by
  obtain ⟨xs, eq⟩ := first
  obtain ⟨ys, eq'⟩ := second
  have drop : r''.sent.drop r.sent.length = xs ++ ys := by
    rw [eq', eq, List.append_assoc, List.drop_left]
  have drop' : r''.sent.drop r'.sent.length = ys := by
    rw [eq', List.drop_left]
  have length : r'.sent.length = r.sent.length + xs.length := by
    rw [eq, List.length_append]
  unfold readTalk
  rw [drop, conversation_append, censor.readFrom_append, eq, List.drop_left, ← eq, drop', length]

theorem readTalk_send (replies : Nat → Reply) {r r' : Rpc} {request : Request}
    (sent : r'.sent = r.sent ++ [request]) (b : Book) :
    readTalk replies r r' b = censor.next b (request, replies r.sent.length) := by
  rw [readTalk, sent, List.drop_left]
  simp only [conversation, Monitor.readFrom]
  cases censor.next b (request, replies r.sent.length) <;> rfl

def Known (r : Rpc) : Prop := r.daemonFlavor = .hyperionNg ∨ r.daemonFlavor = .hyperhdr

/-- The cached flavor is the one that the book's latest identification gave, and no other
host has identified itself; without a flavor no host has. -/
structure Cached (r : Rpc) (b : Book) : Prop where
  known : Known r → ∃ host, b.detected = some host ∧ b.last host = some r.daemonFlavor ∧
    ∀ other, other ≠ host → b.last other = none
  unknown : ¬ Known r → ∀ host, b.last host = none

theorem Cached.last_iff {r : Rpc} {b : Book} (h : Cached r b) (known : Known r) (host : String) :
    b.last host = some r.daemonFlavor ↔ b.detected = some host := by
  obtain ⟨home, detected, last, others⟩ := h.known known
  rw [detected, Option.some_inj]
  constructor
  · intro agrees
    by_contra away
    rw [others host (Ne.symm away)] at agrees
    cases agrees
  · rintro rfl
    exact last

theorem Cached.congr {r r' : Rpc} {b : Book} (h : Cached r b)
    (same : r'.daemonFlavor = r.daemonFlavor) : Cached r' b := by
  have known_iff : Known r' ↔ Known r := by
    unfold Known
    rw [same]
  refine ⟨fun known => ?_, fun unknown => h.unknown fun known => unknown (known_iff.mpr known)⟩
  rw [same]
  exact h.known (known_iff.mp known)

theorem sendRpcMessage_cases (replies : Nat → Reply) (host : String) (port : Nat) (body : JVal)
    (r : Rpc) : ∃ ret response, sendRpcMessage replies host port body r =
        (ret, response, { r with sent := r.sent ++ [⟨host, port, body⟩] }) ∧
      ((ret = 0 ∧ succeeded (replies r.sent.length) = some response) ∨
        (ret ≠ 0 ∧ succeeded (replies r.sent.length) = none)) := by
  unfold sendRpcMessage succeeded
  dsimp only
  cases replies r.sent.length with
  | httpFailed => exact ⟨_, _, rfl, Or.inr ⟨by decide, rfl⟩⟩
  | parsed response =>
    dsimp only
    cases odd : !jisValid response || jisNull response with
    | true =>
      refine ⟨_, _, rfl, Or.inr ⟨by decide, ?_⟩⟩
      cases response with
      | invalid => rfl
      | null => rfl
      | _ => cases odd
    | false =>
      rw [if_neg Bool.false_ne_true]
      generalize jobjectGet response "success" = success
      cases success with
      | boolean b =>
        cases b with
        | true => exact ⟨_, _, rfl, Or.inl ⟨rfl, rfl⟩⟩
        | false => exact ⟨_, _, rfl, Or.inr ⟨by decide, rfl⟩⟩
      | _ => exact ⟨_, _, rfl, Or.inr ⟨by decide, rfl⟩⟩

def sysinfoBody : JVal := .object [("command", .string "sysinfo")]

theorem command_of {host : String} {port : Nat} {body : JVal} {name : String}
    (h : jstringGet (jobjectGet body "command") = some name) :
    command ⟨host, port, body⟩ = some name := h

theorem jisValid_of_member {v : JVal} {key : String}
    (member : jisValid (jobjectGet v key) = true) : jisValid v = true := by
  cases v with
  | invalid => cases member
  | _ => rfl

theorem getDaemonFlavor_cases (replies : Nat → Reply) (host : String) (port : Nat) {r : Rpc}
    (unknown : ¬ Known r) :
    ∃ ret flavor, getDaemonFlavor replies host port r =
        (ret, ⟨flavor, r.sent ++ [⟨host, port, sysinfoBody⟩]⟩) ∧
      ((∃ response, succeeded (replies r.sent.length) = some response ∧
          identified response = some flavor ∧ ret = 0 ∧
          (flavor = .hyperionNg ∨ flavor = .hyperhdr)) ∨
        (ret ≠ 0 ∧ ¬ (flavor = .hyperionNg ∨ flavor = .hyperhdr) ∧
          ∀ response, succeeded (replies r.sent.length) = some response →
            identified response = none)) := by
  obtain ⟨ret, response, eq, outcome⟩ := sendRpcMessage_cases replies host port
    (.object [("command", .string "sysinfo")]) r
  unfold getDaemonFlavor
  rw [eq]
  dsimp only
  rcases outcome with ⟨rfl, answer⟩ | ⟨bad, answer⟩
  · rw [if_neg (not_not.mpr rfl), answer]
    simp only [Option.some.injEq, forall_eq', exists_eq_left']
    cases ng : jisValid (jobjectGet (jobjectGet response "info") "hyperion") with
    | true =>
      have info : jisValid (jobjectGet response "info") = true := jisValid_of_member ng
      have named : identified response = some .hyperionNg := by simp [identified, ng]
      rw [if_pos info, if_pos rfl, named]
      exact ⟨_, _, rfl, Or.inl ⟨rfl, rfl, Or.inl rfl⟩⟩
    | false =>
      cases hdr : jisValid (jobjectGet (jobjectGet response "info") "hyperhdr") with
      | true =>
        have info : jisValid (jobjectGet response "info") = true := jisValid_of_member hdr
        have named : identified response = some .hyperhdr := by simp [identified, ng, hdr]
        rw [if_pos info, if_neg Bool.false_ne_true, if_pos rfl, named]
        exact ⟨_, _, rfl, Or.inl ⟨rfl, rfl, Or.inr rfl⟩⟩
      | false =>
        have unnamed : identified response = none := by simp [identified, ng, hdr]
        rw [unnamed, if_neg Bool.false_ne_true, if_neg Bool.false_ne_true]
        split
        · exact ⟨_, _, rfl, Or.inr ⟨by decide, by decide, rfl⟩⟩
        · exact ⟨_, _, rfl, Or.inr ⟨by decide, unknown, rfl⟩⟩
  · rw [if_pos bad, answer]
    exact ⟨_, _, rfl, Or.inr ⟨by decide, unknown, by simp⟩⟩

theorem knowDaemonFlavor_book (replies : Nat → Reply) (host : String) (port : Nat) {r : Rpc}
    {b : Book} (here : Cached r b) :
    ∃ ret r' b', knowDaemonFlavor replies host port r = (ret, r') ∧ Later r r' ∧
      readTalk replies r r' b = some b' ∧ Cached r' b' ∧ (ret = 0 ↔ Known r') ∧
      (Known r → r' = r ∧ b' = b) ∧ (¬ Known r → Known r' → b'.detected = some host) := by
  unfold knowDaemonFlavor
  by_cases known : Known r
  · have skip : ¬ (r.daemonFlavor = .notSet ∨ r.daemonFlavor = .invalid) := by
      rintro (unset | invalid)
      · simp [Known, unset] at known
      · simp [Known, invalid] at known
    rw [if_neg skip]
    exact ⟨0, r, b, rfl, Later.refl r, readTalk_silent replies rfl b, here,
      ⟨fun _ => known, fun _ => rfl⟩, fun _ => ⟨rfl, rfl⟩, fun unknown => absurd known unknown⟩
  · have ask : r.daemonFlavor = .notSet ∨ r.daemonFlavor = .invalid := by
      unfold Known at known
      cases flavor : r.daemonFlavor <;> simp_all
    rw [if_pos ask]
    obtain ⟨ret, flavor, eq, outcome⟩ := getDaemonFlavor_cases replies host port known
    have none_known := here.unknown known
    have asked : command ⟨host, port, sysinfoBody⟩ = some "sysinfo" := by
      apply command_of
      decide +kernel
    have talk : readTalk replies r ⟨flavor, r.sent ++ [⟨host, port, sysinfoBody⟩]⟩ b =
        match succeeded (replies r.sent.length) with
        | some response => some (b.enter host response)
        | none => some b := by
      rw [readTalk_send replies rfl b]
      simp only [censor, if_pos asked]
    rw [eq]
    rcases outcome with ⟨response, answer, named, rfl, which⟩ | ⟨bad, nameless, answers⟩
    · rw [answer] at talk
      refine ⟨_, _, _, rfl, ⟨_, rfl⟩, talk, ⟨fun _ => ?_, fun unknown => absurd which unknown⟩,
        ⟨fun _ => which, fun _ => rfl⟩, fun known' => absurd known' known, fun _ _ => ?_⟩
      · refine ⟨host, ?_, ?_, fun other away => ?_⟩
        · simp [Book.enter, named]
        · simp [Book.enter, named]
        · simp [Book.enter, away, none_known]
      · simp [Book.enter, named]
    · have still : ∃ b', (match succeeded (replies r.sent.length) with
            | some response => some (b.enter host response)
            | none => some b) = some b' ∧ ∀ g, b'.last g = none := by
        cases answer : succeeded (replies r.sent.length) with
        | none => exact ⟨b, rfl, none_known⟩
        | some response =>
          refine ⟨_, rfl, fun g => ?_⟩
          by_cases same : g = host
          · simp [Book.enter, same, answers response answer]
          · simp [Book.enter, same, none_known]
      obtain ⟨b', read, empty⟩ := still
      exact ⟨_, _, b', rfl, ⟨_, rfl⟩, talk.trans read, ⟨fun known' => absurd known' nameless,
        fun _ => empty⟩, ⟨fun zero => absurd zero bad, fun known' => absurd known' nameless⟩,
        fun known' => absurd known' known, fun _ known' => absurd known' nameless⟩

theorem command_componentstate (host : String) (port : Nat) (hdrActive : Bool) :
    command ⟨host, port, hdrStateBody hdrActive⟩ = some "componentstate" := by
  have name : jstringGet (.string "componentstate") = some "componentstate" := by decide +kernel
  rw [← name]
  rfl

theorem command_adjustment (host : String) (port : Nat) (members : List (String × JVal)) :
    command ⟨host, port, adjustmentBody members⟩ = some "adjustment" := by
  have name : jstringGet (.string "adjustment") = some "adjustment" := by decide +kernel
  rw [← name]
  rfl

theorem command_instance (host : String) (port : Nat) (instanceId : Int) :
    command ⟨host, port, switchToBody instanceId⟩ = some "instance" := by
  have name : jstringGet (.string "instance") = some "instance" := by decide +kernel
  rw [← name]
  rfl

theorem readTalk_command (replies : Nat → Reply) {q : Request} {name : String} {r r' : Rpc}
    (sent : r'.sent = r.sent ++ [q]) (named : command q = some name) (other : name ≠ "sysinfo")
    (b : Book) :
    readTalk replies r r' b =
      if name = "componentstate" then if b.last q.host = some .hyperhdr then some b else none
      else if name = "adjustment" then if b.last q.host = some .hyperionNg then some b else none
      else some b := by
  rw [readTalk_send replies sent]
  simp only [censor, named, Option.some.injEq, if_neg other]

theorem readTalk_componentstate (replies : Nat → Reply) (host : String) (port : Nat)
    (hdrActive : Bool) {r r' : Rpc}
    (sent : r'.sent = r.sent ++ [⟨host, port, hdrStateBody hdrActive⟩]) (b : Book) :
    readTalk replies r r' b = if b.last host = some .hyperhdr then some b else none := by
  rw [readTalk_command replies sent (command_componentstate host port hdrActive) (by decide),
    if_pos rfl]

theorem readTalk_adjustment (replies : Nat → Reply) (host : String) (port : Nat)
    (members : List (String × JVal)) {r r' : Rpc}
    (sent : r'.sent = r.sent ++ [⟨host, port, adjustmentBody members⟩]) (b : Book) :
    readTalk replies r r' b = if b.last host = some .hyperionNg then some b else none := by
  rw [readTalk_command replies sent (command_adjustment host port members) (by decide),
    if_neg (by decide), if_pos rfl]

theorem readTalk_instance (replies : Nat → Reply) (host : String) (port : Nat)
    (instanceId : Int) {r r' : Rpc}
    (sent : r'.sent = r.sent ++ [⟨host, port, switchToBody instanceId⟩]) (b : Book) :
    readTalk replies r r' b = some b := by
  rw [readTalk_command replies sent (command_instance host port instanceId) (by decide),
    if_neg (by decide), if_neg (by decide)]

/-- Every instance gets an adjustment, and the first of them already shows whether the host
is the daemon it is for. -/
theorem postToInstances_book {replies : Nat → Reply} {host : String} {port : Nat}
    {members : List (String × JVal)} {instances : Owned Int} {i n : Nat} {ret ret' : Int}
    {r r' : Rpc} (h : postToInstances replies host port (adjustmentBody members) instances i n
      (ret, r) = .ok (ret', r')) (b : Book) :
    Later r r' ∧ r'.daemonFlavor = r.daemonFlavor ∧ readTalk replies r r' b =
      if n = 0 ∨ b.last host = some .hyperionNg then some b else none := by
  induction n generalizing i ret r with
  | zero =>
    cases h
    rw [if_pos (Or.inl rfl)]
    exact ⟨Later.refl _, rfl, readTalk_silent replies rfl b⟩
  | succ n ih =>
    unfold postToInstances at h
    obtain ⟨instanceId, _, h⟩ := bind_eq_ok.mp h
    obtain ⟨_, _, switched, _⟩ := sendRpcMessage_cases replies host port (switchToBody instanceId) r
    rw [switched] at h
    dsimp only at h
    obtain ⟨_, _, posted, _⟩ := sendRpcMessage_cases replies host port (adjustmentBody members)
      { r with sent := r.sent ++ [⟨host, port, switchToBody instanceId⟩] }
    rw [posted] at h
    obtain ⟨later, flavor, rest⟩ := ih h
    have first : Later r ⟨r.daemonFlavor, r.sent ++ [⟨host, port, switchToBody instanceId⟩]⟩ :=
      ⟨_, rfl⟩
    have second : Later ⟨r.daemonFlavor, r.sent ++ [⟨host, port, switchToBody instanceId⟩]⟩
        ⟨r.daemonFlavor, r.sent ++ [⟨host, port, switchToBody instanceId⟩] ++
          [⟨host, port, adjustmentBody members⟩]⟩ := ⟨_, rfl⟩
    refine ⟨(first.trans second).trans later, flavor, ?_⟩
    rw [readTalk_trans replies (first.trans second) later, readTalk_trans replies first second,
      readTalk_instance replies host port instanceId rfl, Option.bind_some,
      readTalk_adjustment replies host port members rfl]
    by_cases matching : b.last host = some .hyperionNg
    · rw [if_pos matching, Option.bind_some, rest, if_pos (Or.inr matching),
        if_pos (Or.inr matching)]
    · rw [if_neg matching, Option.bind_none, if_neg]
      rintro (zero | matching')
      · exact Nat.succ_ne_zero n zero
      · exact matching matching'

theorem setHdrState_book (replies : Nat → Reply) (host : String) (port : Nat) (hdrActive : Bool)
    {r : Rpc} {b : Book} (here : Cached r b) :
    ∃ ret r', setHdrState replies host port hdrActive r = (ret, r') ∧ Later r r' ∧
      (Known r → r'.daemonFlavor = r.daemonFlavor) ∧
      ((r.daemonFlavor = .hyperhdr ∧ b.detected ≠ some host ∧ readTalk replies r r' b = none) ∨
        (¬ (r.daemonFlavor = .hyperhdr ∧ b.detected ≠ some host) ∧
          ∃ b', readTalk replies r r' b = some b' ∧ Cached r' b' ∧
            (Known r → b'.detected = b.detected) ∧
            (¬ Known r → Known r' → b'.detected = some host))) := by
  obtain ⟨ret, r₁, b₁, eq, later, talk, cached, success, same, fresh⟩ :=
    knowDaemonFlavor_book replies host port here
  have asleep (h : r₁.daemonFlavor ≠ .hyperhdr) :
      ¬ (r.daemonFlavor = .hyperhdr ∧ b.detected ≠ some host) := by
    rintro ⟨hdr, _⟩
    rw [(same (Or.inr hdr)).1] at h
    exact h hdr
  unfold setHdrState
  rw [eq]
  dsimp only
  by_cases failed : ret ≠ 0
  · rw [if_pos failed]
    have unknown : ¬ Known r₁ := fun known => failed (success.mpr known)
    exact ⟨_, _, rfl, later, fun known => by rw [(same known).1], Or.inr ⟨asleep fun hdr =>
      unknown (Or.inr hdr), b₁, talk, cached, fun known => by rw [(same known).2], fresh⟩⟩
  rw [if_neg failed]
  by_cases hdr : r₁.daemonFlavor = .hyperhdr
  · rw [if_neg (not_not.mpr hdr)]
    obtain ⟨_, _, posted, _⟩ := sendRpcMessage_cases replies host port (hdrStateBody hdrActive) r₁
    rw [posted]
    have more : Later r₁ { r₁ with sent := r₁.sent ++ [⟨host, port, hdrStateBody hdrActive⟩] } :=
      ⟨_, rfl⟩
    have agrees : b₁.last host = some .hyperhdr ↔ b₁.detected = some host := by
      rw [← cached.last_iff (Or.inr hdr), hdr]
    refine ⟨_, _, rfl, later.trans more, fun known => by rw [(same known).1], ?_⟩
    rw [readTalk_trans replies later more, talk, Option.bind_some,
      readTalk_componentstate replies host port hdrActive rfl]
    by_cases known : Known r
    · obtain ⟨rfl, rfl⟩ := same known
      by_cases home : b₁.detected = some host
      · rw [if_pos (agrees.mpr home)]
        exact Or.inr ⟨fun away => away.2 home, b₁, rfl, cached.congr rfl,
          fun _ => rfl, fun unknown => absurd known unknown⟩
      · rw [if_neg fun last => home (agrees.mp last)]
        exact Or.inl ⟨hdr, home, rfl⟩
    · have home := fresh known (Or.inr hdr)
      rw [if_pos (agrees.mpr home)]
      exact Or.inr ⟨fun away => known (Or.inr away.1), b₁, rfl,
        cached.congr rfl, fun known' => absurd known' known, fun _ _ => home⟩
  · rw [if_pos hdr]
    exact ⟨_, _, rfl, later, fun known => by rw [(same known).1], Or.inr ⟨asleep hdr, b₁, talk,
      cached, fun known => by rw [(same known).2], fresh⟩⟩

theorem hyperionSetAdjustments_book {replies : Nat → Reply} {host : String} {port : Nat}
    {a : HyperionAdjustments} {instances : Owned Int} {count : Nat} {r r' : Rpc} {ret : Int}
    {b : Book} (here : Cached r b)
    (h : hyperionSetAdjustments replies host port a instances count r = .ok (ret, r')) :
    Later r r' ∧
      ((r.daemonFlavor = .hyperionNg ∧ 0 < count ∧ b.detected ≠ some host ∧
          readTalk replies r r' b = none) ∨
        (¬ (r.daemonFlavor = .hyperionNg ∧ 0 < count ∧ b.detected ≠ some host) ∧
          ∃ b', readTalk replies r r' b = some b' ∧ Cached r' b')) := by
  obtain ⟨ret₁, r₁, b₁, eq, later, talk, cached, success, same, fresh⟩ :=
    knowDaemonFlavor_book replies host port here
  have asleep (h : r₁.daemonFlavor ≠ .hyperionNg) :
      ¬ (r.daemonFlavor = .hyperionNg ∧ 0 < count ∧ b.detected ≠ some host) := by
    rintro ⟨ng, _⟩
    rw [(same (Or.inl ng)).1] at h
    exact h ng
  unfold hyperionSetAdjustments at h
  rw [eq] at h
  dsimp only at h
  by_cases failed : ret₁ ≠ 0
  · have unknown : ¬ Known r₁ := fun known => failed (success.mpr known)
    rw [if_pos failed] at h
    cases h
    exact ⟨later, Or.inr ⟨asleep fun ng => unknown (Or.inl ng), b₁, talk, cached⟩⟩
  rw [if_neg failed] at h
  by_cases ng : r₁.daemonFlavor = .hyperionNg
  · simp only [if_neg (not_not.mpr ng)] at h
    obtain ⟨members, _, posts⟩ := bind_eq_ok.mp h
    obtain ⟨more, flavor, rest⟩ := postToInstances_book posts b₁
    have agrees : b₁.last host = some .hyperionNg ↔ b₁.detected = some host := by
      rw [← cached.last_iff (Or.inl ng), ng]
    have after : Cached r' b₁ := cached.congr flavor
    refine ⟨later.trans more, ?_⟩
    rw [readTalk_trans replies later more, talk, Option.bind_some, rest]
    by_cases none_or_home : count = 0 ∨ b₁.detected = some host
    · rw [if_pos (none_or_home.imp_right agrees.mpr)]
      refine Or.inr ⟨?_, b₁, rfl, after⟩
      rintro ⟨ng', some_instance, away⟩
      obtain ⟨rfl, rfl⟩ := same (Or.inl ng')
      rcases none_or_home with empty | home
      · omega
      · exact away home
    · obtain ⟨counted, away⟩ := not_or.mp none_or_home
      rw [if_neg fun passed => none_or_home (passed.imp_right agrees.mp)]
      have known : Known r := by
        by_contra unknown
        exact away (fresh unknown (Or.inl ng))
      obtain ⟨rfl, rfl⟩ := same known
      exact Or.inl ⟨ng, Nat.pos_of_ne_zero counted, away, rfl⟩
  · rw [if_pos ng] at h
    cases h
    exact ⟨later, Or.inr ⟨asleep ng, b₁, talk, cached⟩⟩

end HyperionWebos.DaemonTalk
