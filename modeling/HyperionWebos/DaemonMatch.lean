import HyperionWebos.DaemonTalk

/-! Commands and the daemons they are sent to. The flavor is detected once and for all
hosts; along every run the commands match their hosts exactly when none is sent after the
address has moved away from the host that was asked. -/

namespace HyperionWebos.DaemonMatch
open Runs TraceMonitor OwnedArray Pbnjson SettingsLoad Unicapture JsonRpcClient ServiceLoop
  ServiceSteps DaemonTalk

/-- Where `hdr_callback` sends its requests. -/
def rpcAddress (settings : Settings) : String :=
  if settings.unixSocket then "127.0.0.1" else settings.address

/-- The requests of `hdr_callback`. -/
def hdrRpc (hdrType : String) (hdrEnabled : Bool) (replies : Nat → Reply) (settings : Settings)
    (r : Rpc) : Except MemoryFault Rpc := do
  let h := settings.hyperion
  let (_, r) := setHdrState replies (rpcAddress settings) rpcPort hdrEnabled r
  if h.hyperionAdjustments then
    match ← pickAdjustment hdrType (if hdrEnabled then "hdr" else "sdr") hdrEnabled h.adjustments 0
        h.adjustmentsCount none with
    | some defAdj =>
      let (_, r) ← hyperionSetAdjustments replies (rpcAddress settings) rpcPort defAdj h.instances
        h.instancesCount r
      return r
    | none => return r
  else return r

theorem hdrCallback_ok {hdrType : String} {hdrEnabled : Bool} {env : Env} {s s' : Service}
    (h : hdrCallback hdrType hdrEnabled env s = .ok s') :
    hdrRpc hdrType hdrEnabled env.replies s.settings s.rpc = .ok s'.rpc := by
  unfold hdrCallback at h
  unfold hdrRpc rpcAddress
  dsimp only at h ⊢
  split at h
  · next adjusts =>
    rw [if_pos adjusts]
    obtain ⟨picked, found, h⟩ := bind_eq_ok.mp h
    rw [found, ok_bind]
    cases picked with
    | none =>
      cases h
      rfl
    | some a =>
      obtain ⟨q, sent, h⟩ := bind_eq_ok.mp h
      cases h
      dsimp only
      rw [sent]
      rfl
  · next plain =>
    cases h
    rw [if_neg plain]
    rfl

/-- The type and state of HDR that a message makes `hdr_callback` see. -/
def hdrMessage (e : Event) : Option (String × Bool) :=
  match e.action with
  | .videooutput payload => (videoHdrType payload).map fun t => (t, decide (t ≠ "none"))
  | .picture payload => (pictureMessage payload).map fun t => (t, decide (t ≠ "sdr"))
  | _ => none

theorem hdrAct_ok {hdrType : Option String} {enabled : String → Bool} {env : Env} {s s' : Service}
    (h : hdrAct hdrType enabled env s = .ok s') :
    match hdrType.map fun t => (t, enabled t) with
    | some (t, b) => hdrRpc t b env.replies s.settings s.rpc = .ok s'.rpc
    | none => s'.rpc = s.rpc := by
  unfold hdrAct at h
  cases hdrType with
  | none =>
    cases h
    rfl
  | some t => exact hdrCallback_ok h

theorem serviceStart_rpc (env : Env) (s : Service) : (serviceStart env s).2.rpc = s.rpc := by
  rcases serviceStart_cases env s with ⟨_, eq⟩ | ⟨_, _, _, eq⟩ | ⟨_, _, eq⟩ <;> rw [eq]

theorem serviceStop_rpc (env : Env) (s : Service) : (serviceStop env s).2.rpc = s.rpc := by
  rcases serviceStop_cases env s with ⟨_, eq⟩ | ⟨_, _, eq⟩ <;> rw [eq]

theorem serviceRestart_rpc (env : Env) (s : Service) : (serviceRestart env s).rpc = s.rpc := by
  rw [serviceRestart_eq]
  split <;> simp [serviceInit, serviceDestroy, serviceStart_rpc, serviceStop_rpc]

theorem videoConnectedAct_frame {connected : Bool} {appid : Option String} {env : Env}
    {s t : Service} (h : videoConnectedAct connected appid env s = .ok t) :
    t.settings = s.settings ∧ t.rpc = s.rpc := by
  rcases videoConnectedAct_ok h with ⟨_, rfl⟩ | ⟨_, rfl⟩
  · exact ⟨serviceStart_settings _ _, serviceStart_rpc _ _⟩
  · exact ⟨serviceStop_settings _ _, serviceStop_rpc _ _⟩

theorem step_rpc {s s' : Service} {e : Event} (h : step s e = .ok s') :
    match hdrMessage e with
    | some (t, b) => hdrRpc t b e.env.replies s.settings s.rpc = .ok s'.rpc
    | none => s'.rpc = s.rpc := by
  obtain ⟨action, env⟩ := e
  cases action with
  | start =>
    cases h
    exact serviceStart_rpc env s
  | stop =>
    cases h
    exact serviceStop_rpc env s
  | startorstop =>
    cases h
    change (serviceMethodStartorstop env s).rpc = s.rpc
    unfold serviceMethodStartorstop
    split
    · exact serviceStop_rpc env s
    · exact serviceStart_rpc env s
  | setSettings payload =>
    simp only [step, serviceMethodSetSettings] at h
    split at h
    · cases h
      rfl
    · obtain ⟨settings, _, h⟩ := bind_eq_ok.mp h
      cases h
      exact serviceRestart_rpc env _
  | power payload =>
    rw [powerCallback_ok h]
    change Service.rpc _ = s.rpc
    split
    · next targetState processing _ =>
      rcases powerAct_cases targetState processing env s with
        ⟨_, _, _, _, eq⟩ | ⟨_, _, _, _, eq⟩ | ⟨_, _, eq⟩
      · rw [eq]
        split
        · exact serviceStart_rpc env _
        · rfl
      · rw [eq]
        exact serviceStop_rpc env _
      · rw [eq]
    · rfl
  | videooutput payload =>
    have decoded : videooutputCallback payload env s = .ok s' := h
    rw [videooutputCallback_eq] at decoded
    obtain ⟨t, act, tail⟩ := bind_eq_ok.mp decoded
    have frame : t.settings = s.settings ∧ t.rpc = s.rpc := by
      split at act
      · exact videoConnectedAct_frame act
      · cases act
        exact ⟨rfl, rfl⟩
    rw [← frame.1, ← frame.2]
    exact hdrAct_ok tail
  | picture payload =>
    have decoded : pictureCallback payload env s = .ok s' := h
    rw [pictureCallback_eq] at decoded
    exact hdrAct_ok decoded
  | sensor payload =>
    cases h
    have acted (v : Int) : (sensorAct v env s).rpc = s.rpc := by
      rcases sensorAct_cases v env s with ⟨_, _, _, _, _, eq⟩ | ⟨_, _, _, _, _, eq⟩ | ⟨_, _, eq⟩
      · rw [eq]
        exact serviceStop_rpc env _
      · rw [eq]
        exact serviceStart_rpc env _
      · rw [eq]
    change (sensorCallback payload env s).rpc = s.rpc
    rw [sensorCallback_eq]
    split
    · exact acted _
    · split
      · exact acted _
      · rfl
  | captureThread it =>
    cases h
    rfl

def SendsCommand (hdrType : String) (hdrEnabled : Bool) (settings : Settings) (r : Rpc) : Prop :=
  r.daemonFlavor = .hyperhdr ∨
  r.daemonFlavor = .hyperionNg ∧ settings.hyperion.hyperionAdjustments = true ∧
    0 < settings.hyperion.instancesCount ∧
    ∃ a, pickAdjustment hdrType (if hdrEnabled then "hdr" else "sdr") hdrEnabled
      settings.hyperion.adjustments 0 settings.hyperion.adjustmentsCount none = .ok (some a)

theorem hdrRpc_book {hdrType : String} {hdrEnabled : Bool} {replies : Nat → Reply}
    {settings : Settings} {r r' : Rpc} {b : Book} (here : Cached r b)
    (h : hdrRpc hdrType hdrEnabled replies settings r = .ok r') :
    (SendsCommand hdrType hdrEnabled settings r ∧ b.detected ≠ some (rpcAddress settings) ∧
        readTalk replies r r' b = none) ∨
      (¬ (SendsCommand hdrType hdrEnabled settings r ∧
          b.detected ≠ some (rpcAddress settings)) ∧
        ∃ b', readTalk replies r r' b = some b' ∧ Cached r' b') := by
  obtain ⟨ret, r₁, eq, later, kept, judged⟩ :=
    setHdrState_book replies (rpcAddress settings) rpcPort hdrEnabled here
  unfold hdrRpc at h
  rw [eq] at h
  dsimp only at h
  have quiet {P : Prop} (calm : ¬ (r.daemonFlavor = .hyperhdr ∧
        b.detected ≠ some (rpcAddress settings)))
      (still : ¬ (r.daemonFlavor = .hyperionNg ∧ P)) :
      ¬ ((r.daemonFlavor = .hyperhdr ∨ r.daemonFlavor = .hyperionNg ∧ P) ∧
        b.detected ≠ some (rpcAddress settings)) := by
    rintro ⟨hdr | ng, away⟩
    · exact calm ⟨hdr, away⟩
    · exact still ng
  cases adjusts : settings.hyperion.hyperionAdjustments with
  | false =>
    rw [adjusts, if_neg Bool.false_ne_true] at h
    cases h
    rcases judged with ⟨hdr, away, stuck⟩ | ⟨calm, b₁, talk, cached, _⟩
    · exact Or.inl ⟨Or.inl hdr, away, stuck⟩
    · refine Or.inr ⟨quiet calm ?_, b₁, talk, cached⟩
      rintro ⟨_, adjusts', _⟩
      exact Bool.false_ne_true (adjusts.symm.trans adjusts')
  | true =>
    rw [adjusts, if_pos rfl] at h
    obtain ⟨picked, found, h⟩ := bind_eq_ok.mp h
    cases picked with
    | none =>
      cases h
      rcases judged with ⟨hdr, away, stuck⟩ | ⟨calm, b₁, talk, cached, _⟩
      · exact Or.inl ⟨Or.inl hdr, away, stuck⟩
      · refine Or.inr ⟨quiet calm ?_, b₁, talk, cached⟩
        rintro ⟨_, _, _, a, found'⟩
        rw [found] at found'
        cases found'
    | some a =>
      obtain ⟨⟨ret', r₂⟩, sent, h⟩ := bind_eq_ok.mp h
      cases h
      rcases judged with ⟨hdr, away, stuck⟩ | ⟨calm, b₁, talk, cached, same, fresh⟩
      · have unmoved : Cached r₁ b := here.congr (kept (Or.inr hdr))
        obtain ⟨more, _⟩ := hyperionSetAdjustments_book unmoved sent
        refine Or.inl ⟨Or.inl hdr, away, ?_⟩
        rw [readTalk_trans replies later more, stuck]
        rfl
      · obtain ⟨more, outcome⟩ := hyperionSetAdjustments_book cached sent
        rw [readTalk_trans replies later more, talk, Option.bind_some]
        rcases outcome with ⟨ng, counted, away, stuck⟩ | ⟨fine, b₂, talk', cached'⟩
        · have known : Known r := by
            by_contra unknown
            exact away (fresh unknown (Or.inl ng))
          rw [same known] at away
          rw [kept known] at ng
          exact Or.inl ⟨Or.inr ⟨ng, adjusts, counted, a, found⟩, away, stuck⟩
        · refine Or.inr ⟨?_, b₂, talk', cached'⟩
          rintro ⟨hdr | ⟨ng, _, counted, _⟩, away⟩
          · exact calm ⟨hdr, away⟩
          · have known : Known r := Or.inl ng
            exact fine ⟨(kept known).trans ng, counted, by rw [same known]; exact away⟩

/-- The book of the whole conversation; nothing once a command went to the wrong host. -/
def observe (g : Option Book) (s : Service) (e : Event) (s' : Service) : Option Book :=
  g.bind (readTalk e.env.replies s.rpc s'.rpc)

/-- All commands so far went to hosts that had last said they were what the command is for. -/
def Matched (_ : Service × Option Book) (_ : Event) (q : Service × Option Book) : Prop :=
  q.2.isSome = true

def MovedAway (p : Service × Option Book) (e : Event) : Prop :=
  ∃ b hdrType hdrEnabled, p.2 = some b ∧ hdrMessage e = some (hdrType, hdrEnabled) ∧
    SendsCommand hdrType hdrEnabled p.1.settings p.1.rpc ∧
    b.detected ≠ some (rpcAddress p.1.settings)

def BookKept (p : Service × Option Book) : Prop := ∃ b, p.2 = some b ∧ Cached p.1.rpc b

theorem step_book {p q : Service × Option Book} {e : Event} (here : BookKept p)
    (h : watched step observe p e = .ok q) :
    (MovedAway p e ∧ q.2 = none) ∨ (¬ MovedAway p e ∧ BookKept q) := by
  obtain ⟨moved, seen⟩ := watched_ok.mp h
  obtain ⟨s, g⟩ := p
  obtain ⟨b, rfl, cached⟩ := here
  have talked := step_rpc moved
  change q.2 = readTalk e.env.replies s.rpc q.1.rpc b at seen
  cases message : hdrMessage e with
  | none =>
    rw [message] at talked
    refine Or.inr ⟨?_, b, ?_, ?_⟩
    · rintro ⟨_, _, _, _, message', _⟩
      rw [message] at message'
      cases message'
    · rw [seen]
      exact readTalk_silent _ (congrArg Rpc.sent talked) b
    · rw [talked]
      exact cached
  | some seenType =>
    obtain ⟨hdrType, hdrEnabled⟩ := seenType
    rw [message] at talked
    rcases hdrRpc_book cached talked with ⟨sends, away, stuck⟩ | ⟨fine, b', read, cached'⟩
    · exact Or.inl ⟨⟨b, hdrType, hdrEnabled, rfl, message, sends, away⟩, seen.trans stuck⟩
    · refine Or.inr ⟨?_, b', seen.trans read, cached'⟩
      rintro ⟨b'', _, _, same, message', sends, away⟩
      cases same
      rw [message] at message'
      cases message'
      exact fine ⟨sends, away⟩

theorem throughout_matched {p : Service × Option Book} (here : BookKept p) (es : List Event) :
    Throughout (watched step observe) Matched p es ↔
      Throughout (watched step observe) (fun p e _ => ¬ MovedAway p e) p es := by
  have decided (p : Service × Option Book) (e : Event) (q : Service × Option Book)
      (here : BookKept p) (h : watched step observe p e = .ok q) :
      Matched p e q ↔ ¬ MovedAway p e := by
    unfold Matched
    rcases step_book here h with ⟨away, stuck⟩ | ⟨home, b, book, _⟩
    · rw [stuck]
      exact iff_of_false Bool.false_ne_true (not_not.mpr away)
    · rw [book]
      exact iff_of_true rfl home
  have keeps (p : Service × Option Book) (e : Event) (q : Service × Option Book)
      (here : BookKept p) (h : watched step observe p e = .ok q) (law : Matched p e q) :
      BookKept q := by
    rcases step_book here h with ⟨_, stuck⟩ | ⟨_, kept⟩
    · rw [Matched, stuck] at law
      cases law
    · exact kept
  exact throughout_congr decided keeps here

theorem boot_book (env : Env) (handle handleLegacy : Option Nat) (settings : Settings) :
    BookKept (boot env handle handleLegacy settings, some blankBook) := by
  refine ⟨blankBook, rfl, ⟨?_, fun _ _ => rfl⟩⟩
  rintro (ng | hdr)
  · cases ng
  · cases hdr

/-- Every command of a run matches the daemon at its host exactly when none is sent away
from the host at which the flavor was detected. -/
theorem daemon_match_iff (env : Env) (handle handleLegacy : Option Nat) (settings : Settings)
    (es : List Event) :
    Throughout (watched step observe) Matched
        (boot env handle handleLegacy settings, some blankBook) es ↔
      Throughout (watched step observe) (fun p e _ => ¬ MovedAway p e)
        (boot env handle handleLegacy settings, some blankBook) es :=
  throughout_matched (boot_book env handle handleLegacy settings) es

def hyperhdrReply : Reply :=
  .parsed (.object [("success", .boolean true),
    ("info", .object [("hyperhdr", .object [])])])

/-- Once a HyperHDR was found at one address, another address is sent HDR commands unasked. -/
theorem daemon_match_moved :
    ¬ Throughout (watched step observe) Matched
      (boot calm none none { settingsInit with address := "192.168.0.2" }, some blankBook)
      [⟨.picture (.object [("dimension", .object [("dynamicRange", .string "hdr10")])]),
          { calm with replies := fun _ => hyperhdrReply }⟩,
        ⟨.setSettings (.object [("address", .string "192.168.0.3")]), calm⟩,
        ⟨.picture (.object [("dimension", .object [("dynamicRange", .string "sdr")])]), calm⟩] := by
  intro law
  have last := (((law _ rfl).2 _ rfl).2 _ rfl).1
  unfold Matched at last
  revert last
  decide +kernel

end HyperionWebos.DaemonMatch
