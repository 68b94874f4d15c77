import HyperionWebos.DaemonMatch
import HyperionWebos.HdrChoice
import HyperionWebos.InstancePosts

/-! What a known daemon is told. Once `daemon_flavor` names a daemon nothing is asked any
more: HyperHDR gets one HDR command for every report of a video or picture message, and
Hyperion.NG the adjustment of the report for every instance, in the order of the reports. -/

namespace HyperionWebos.DaemonScript
open Runs OwnedArray Pbnjson SettingsLoad SettingsOwnership Unicapture JsonRpcClient ServiceLoop
open ServiceSteps PayloadSafety DaemonTalk DaemonMatch HdrChoice InstancePosts

/-- A gain under its name; the last one of a name counts. -/
def setMember (members : List (String × JVal)) (a : HyperionAdjustment) : List (String × JVal) :=
  members.filter (fun m => m.1 ≠ a.name) ++ [(a.name, .number (jnumberCreateF64 a.gain))]

def gainMembers (a : HyperionAdjustments) : List (String × JVal) :=
  (a.adjustments.contents a.adjustmentsCount).foldl setMember []

def adjustmentEntries (h : Hyperion) : List HyperionAdjustments :=
  h.adjustments.contents h.adjustmentsCount

def instanceIds (h : Hyperion) : List Int := h.instances.contents h.instancesCount

def script (daemon : AmbientLightingDaemon) (settings : Settings) (hdrType : String)
    (hdrEnabled : Bool) : List Request :=
  match daemon with
  | .hyperhdr => [⟨rpcAddress settings, rpcPort, hdrStateBody hdrEnabled⟩]
  | .hyperionNg =>
    if settings.hyperion.hyperionAdjustments then
      match chosen hdrType hdrEnabled (adjustmentEntries settings.hyperion) with
      | some a => instancePosts (rpcAddress settings) rpcPort (adjustmentBody (gainMembers a))
          (instanceIds settings.hyperion)
      | none => []
    else []
  | .notSet | .invalid => []

def scripted (told : List Request) (s : Service) (e : Event) (_ : Service) : List Request :=
  match hdrMessage e with
  | some (hdrType, hdrEnabled) =>
    told ++ script s.rpc.daemonFlavor s.settings hdrType hdrEnabled
  | none => told

section Calls

variable {replies : Nat → Reply} {host : String} {port : Nat} {settings : Settings} {r : Rpc}

theorem adjustmentMembers_live (xs : List HyperionAdjustment) (ys rest : List (Cell _))
    (members : List (String × JVal)) :
    adjustmentMembers (.live (ys ++ (xs.map .assigned ++ rest))) ys.length xs.length members =
      .ok (xs.foldl setMember members) := by
  induction xs generalizing ys members with
  | nil => rfl
  | cons a xs ih =>
    have here : (Owned.live (ys ++ ((a :: xs).map .assigned ++ rest))).read ys.length = .ok a := by
      simp [Owned.read, Owned.cells, ok_bind]
    have tail := ih (ys ++ [.assigned a]) (setMember members a)
    rw [List.length_cons, adjustmentMembers, here, ok_bind, List.foldl_cons, ← tail]
    simp [setMember]

theorem adjustmentMembers_filled {a : HyperionAdjustments} (filled : GainsFilled a) :
    adjustmentMembers a.adjustments 0 a.adjustmentsCount [] = .ok (gainMembers a) := by
  unfold gainMembers
  rcases filled with none | ⟨xs, counted, held, _⟩
  · rw [none, Owned.contents_zero]
    rfl
  · rw [← counted, Owned.contents_holds held]
    obtain ⟨rest, same⟩ := held
    rw [same]
    exact adjustmentMembers_live xs [] rest []

theorem postToInstances_filled {body : JVal} {instances : Owned Int} {count : Nat}
    (filled : instances.Filled (fun _ => True) count) (ret : Int) :
    ∃ ret', postToInstances replies host port body instances 0 count (ret, r) = .ok (ret',
      { r with sent := r.sent ++ instancePosts host port body (instances.contents count) }) := by
  rcases filled with rfl | ⟨ids, rfl, held, _⟩
  · refine ⟨ret, ?_⟩
    rw [Owned.contents_zero, instancePosts, List.flatMap_nil, List.append_nil]
    rfl
  · rw [Owned.contents_holds held]
    obtain ⟨rest, rfl⟩ := held
    exact ⟨_, postToInstances_live replies host port body ids [] rest ret r⟩

theorem pickAdjustment_filled (hdrType : String) (hdrEnabled : Bool) {h : Hyperion}
    (filled : h.adjustments.Filled GainsFilled h.adjustmentsCount) :
    pickAdjustment hdrType (sHdrType hdrEnabled) hdrEnabled h.adjustments 0 h.adjustmentsCount
        none = .ok (chosen hdrType hdrEnabled (adjustmentEntries h)) := by
  unfold adjustmentEntries
  rcases filled with none | ⟨entries, counted, held, _⟩
  · rw [none, Owned.contents_zero]
    cases hdrEnabled <;> rfl
  · rw [← counted, Owned.contents_holds held]
    exact pickAdjustment_holds hdrType hdrEnabled held

theorem chosen_mem {hdrType : String} {hdrEnabled : Bool} {entries : List HyperionAdjustments}
    {a : HyperionAdjustments} (found : chosen hdrType hdrEnabled entries = some a) :
    a ∈ entries := by
  unfold chosen at found
  rcases Option.or_eq_some_iff.mp found with exact | ⟨_, generic⟩
  · exact List.mem_reverse.mp (List.mem_of_find?_eq_some exact)
  · split at generic
    · exact List.mem_of_find?_eq_some generic
    · cases generic

theorem knowDaemonFlavor_known (known : Known r) :
    knowDaemonFlavor replies host port r = (0, r) := by
  rcases known with ng | hdr
  · simp [knowDaemonFlavor, ng]
  · simp [knowDaemonFlavor, hdr]

theorem setHdrState_hyperhdr (hdr : r.daemonFlavor = .hyperhdr) (hdrActive : Bool) :
    (setHdrState replies host port hdrActive r).2 =
      { r with sent := r.sent ++ [⟨host, port, hdrStateBody hdrActive⟩] } := by
  obtain ⟨ret, response, sent, _⟩ :=
    sendRpcMessage_succeeds replies host port (hdrStateBody hdrActive) r
  have asked : knowDaemonFlavor replies host port r = (0, r) := knowDaemonFlavor_known (.inr hdr)
  simp [setHdrState, asked, hdr, sent]

theorem setHdrState_hyperionNg (ng : r.daemonFlavor = .hyperionNg) (hdrActive : Bool) :
    (setHdrState replies host port hdrActive r).2 = r := by
  have asked : knowDaemonFlavor replies host port r = (0, r) := knowDaemonFlavor_known (.inl ng)
  simp [setHdrState, asked, ng]

theorem hyperionSetAdjustments_hyperhdr (hdr : r.daemonFlavor = .hyperhdr)
    (a : HyperionAdjustments) (instances : Owned Int) (count : Nat) :
    hyperionSetAdjustments replies host port a instances count r = .ok (-2, r) := by
  have asked : knowDaemonFlavor replies host port r = (0, r) := knowDaemonFlavor_known (.inr hdr)
  simp [hyperionSetAdjustments, asked, hdr, pure, Except.pure]

theorem hyperionSetAdjustments_hyperionNg (ng : r.daemonFlavor = .hyperionNg)
    {a : HyperionAdjustments} (gains : GainsFilled a) {instances : Owned Int} {count : Nat}
    (filled : instances.Filled (fun _ => True) count) :
    ∃ ret, hyperionSetAdjustments replies host port a instances count r =
      .ok (ret, { r with
        sent := r.sent ++ instancePosts host port (adjustmentBody (gainMembers a))
          (instances.contents count) }) := by
  have asked : knowDaemonFlavor replies host port r = (0, r) := knowDaemonFlavor_known (.inl ng)
  obtain ⟨ret, posted⟩ := @postToInstances_filled replies host port r
    (adjustmentBody (gainMembers a)) instances count filled 0
  refine ⟨ret, ?_⟩
  unfold hyperionSetAdjustments
  dsimp only
  rw [asked, adjustmentMembers_filled gains]
  dsimp only
  rw [if_neg (not_not.mpr rfl), if_neg (not_not.mpr ng)]
  exact posted

theorem hdrRpc_hyperhdr {hdrType : String} {hdrEnabled : Bool} {r' : Rpc}
    (hdr : r.daemonFlavor = .hyperhdr)
    (ran : hdrRpc hdrType hdrEnabled replies settings r = .ok r') :
    r' = { r with sent := r.sent ++ script .hyperhdr settings hdrType hdrEnabled } := by
  unfold hdrRpc at ran
  dsimp only at ran
  rw [setHdrState_hyperhdr hdr] at ran
  split at ran
  · obtain ⟨picked, _, ran⟩ := bind_eq_ok.mp ran
    cases picked with
    | none =>
      cases ran
      rfl
    | some a =>
      dsimp only at ran
      rw [hyperionSetAdjustments_hyperhdr (by exact hdr), ok_bind] at ran
      cases ran
      rfl
  · cases ran
    rfl

theorem hdrRpc_hyperionNg {hdrType : String} {hdrEnabled : Bool} {r' : Rpc}
    (ng : r.daemonFlavor = .hyperionNg) (represented : Represented settings)
    (ran : hdrRpc hdrType hdrEnabled replies settings r = .ok r') :
    r' = { r with sent := r.sent ++ script .hyperionNg settings hdrType hdrEnabled } := by
  have picks := pickAdjustment_filled hdrType hdrEnabled represented.adjustments
  unfold hdrRpc at ran
  unfold script
  dsimp only at ran ⊢
  rw [← sHdrType, picks, setHdrState_hyperionNg ng] at ran
  split at ran
  · next adjusts =>
    rw [if_pos adjusts]
    rw [ok_bind] at ran
    cases picked : chosen hdrType hdrEnabled (adjustmentEntries settings.hyperion) with
    | none =>
      rw [picked] at ran
      cases ran
      dsimp only
      rw [List.append_nil]
    | some a =>
      have gains : GainsFilled a :=
        Owned.contents_filled represented.adjustments a (chosen_mem picked)
      obtain ⟨ret, posted⟩ := @hyperionSetAdjustments_hyperionNg replies (rpcAddress settings)
        rpcPort r ng a gains _ _ represented.instances
      rw [picked] at ran
      dsimp only at ran
      rw [posted, ok_bind] at ran
      cases ran
      rfl
  · next plain =>
    rw [if_neg plain]
    cases ran
    rw [List.append_nil]

theorem hdrRpc_script {hdrType : String} {hdrEnabled : Bool} {r' : Rpc} (known : Known r)
    (represented : Represented settings)
    (ran : hdrRpc hdrType hdrEnabled replies settings r = .ok r') :
    r' = { r with sent := r.sent ++ script r.daemonFlavor settings hdrType hdrEnabled } := by
  rcases known with ng | hdr
  · have told := hdrRpc_hyperionNg ng represented ran
    rwa [← ng] at told
  · have told := hdrRpc_hyperhdr hdr ran
    rwa [← hdr] at told

end Calls

/-- From `s` the daemon stays known and has been told the scripts. -/
structure Told (s : Service) (p : Service × List Request) : Prop where
  loaded : Loaded p.1.settings
  flavor : p.1.rpc.daemonFlavor = s.rpc.daemonFlavor
  sent : p.1.rpc.sent = s.rpc.sent ++ p.2

theorem step_told {s : Service} {p q : Service × List Request} {e : Event}
    (known : Known s.rpc) (here : Told s p) (taken : watched step scripted p e = .ok q) :
    Told s q := by
  obtain ⟨moved, told⟩ := watched_ok.mp taken
  have loaded : Loaded q.1.settings := by
    rcases step_settings moved with same | ⟨_, _, load⟩
    · rw [same]
      exact here.loaded
    · exact settingsLoadJson_loaded here.loaded load
  have talked := step_rpc moved
  unfold scripted at told
  cases message : hdrMessage e with
  | none =>
    rw [message] at talked told
    exact ⟨loaded, by rw [talked]; exact here.flavor, by rw [talked, told]; exact here.sent⟩
  | some report =>
    obtain ⟨hdrType, hdrEnabled⟩ := report
    rw [message] at talked told
    have still : Known p.1.rpc := by
      unfold Known
      rw [here.flavor]
      exact known
    have done := hdrRpc_script still here.loaded.represented talked
    refine ⟨loaded, ?_, ?_⟩
    · rw [done]
      exact here.flavor
    · rw [done, told]
      dsimp only
      rw [here.sent, List.append_assoc]

/-- From every reachable state in which the daemon is known, the requests of every further
run are the scripts of its reports. -/
theorem daemon_told (s : Service) (reach : Reachable s) (known : Known s.rpc) (es : List Event)
    (s' : Service) (told : List Request)
    (ran : run (watched step scripted) (s, []) es = .ok (s', told)) :
    s'.rpc.daemonFlavor = s.rpc.daemonFlavor ∧ s'.rpc.sent = s.rpc.sent ++ told := by
  have keeps : ∀ p e q, Told s p → watched step scripted p e = .ok q → Told s q :=
    fun p e q here taken => step_told known here taken
  have start : Told s (s, []) := ⟨reachable_loaded reach, rfl, (List.append_nil _).symm⟩
  have last : Told s (s', told) := run_invariant keeps start ran
  exact ⟨last.flavor, last.sent⟩

def showing (dynamicRange : String) : Action :=
  .picture (.object [("dimension", .object [("dynamicRange", .string dynamicRange)])])

/-- HyperHDR answers the first report, and is told of the next one. -/
theorem daemon_told_hyperhdr : ∃ s s' told,
    run step (boot calm none none settingsInit)
      [⟨showing "hdr10", { calm with replies := fun _ => hyperhdrReply }⟩] = .ok s ∧
    run (watched step scripted) (s, []) [⟨showing "sdr", calm⟩] = .ok (s', told) ∧
    s'.rpc.daemonFlavor = s.rpc.daemonFlavor ∧ s'.rpc.sent = s.rpc.sent ++ told :=
  ⟨_, _, _, rfl, rfl, daemon_told _ ⟨[], settingsInit, calm, none, none,
    [⟨showing "hdr10", { calm with replies := fun _ => hyperhdrReply }⟩], rfl, rfl⟩ (Or.inr rfl)
    [⟨showing "sdr", calm⟩] _ _ rfl⟩

end HyperionWebos.DaemonScript
