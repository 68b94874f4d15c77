import HyperionWebos.JsonRpcClient
import HyperionWebos.Runs

/-! The requests a command makes: the question for the flavor, the switches between
instances and its own. What all of these have, all the requests of the command have. -/

namespace HyperionWebos.RequestTraces
open JsonRpcClient OwnedArray Pbnjson Runs SettingsLoad

def Sends (P : Request → Prop) (r r' : Rpc) : Prop :=
  ∃ more, r'.sent = r.sent ++ more ∧ ∀ q ∈ more, P q

variable {P : Request → Prop} {host : String} {port : Nat} {replies : Nat → Reply}
  {r r' r'' : Rpc}

theorem Sends.refl (r : Rpc) : Sends P r r :=
  ⟨[], (List.append_nil _).symm, List.forall_mem_nil _⟩

theorem Sends.trans (first : Sends P r r') (second : Sends P r' r'') : Sends P r r'' := by
  obtain ⟨more, same, all⟩ := first
  obtain ⟨more', same', all'⟩ := second
  refine ⟨more ++ more', ?_, List.forall_mem_append.mpr ⟨all, all'⟩⟩
  rw [same', same, List.append_assoc]

theorem Sends.all (sends : Sends P r r') (before : ∀ q ∈ r.sent, P q) : ∀ q ∈ r'.sent, P q := by
  obtain ⟨more, same, all⟩ := sends
  rw [same]
  exact List.forall_mem_append.mpr ⟨before, all⟩

theorem Sends.get (sends : Sends P r r') {j : Nat} {q : Request} (later : r.sent.length ≤ j)
    (here : r'.sent[j]? = some q) : P q := by
  obtain ⟨more, same, all⟩ := sends
  rw [same, List.getElem?_append_right later] at here
  exact all q (List.mem_of_getElem? here)

theorem sendRpcMessage_sent (body : JVal) (r : Rpc) :
    (sendRpcMessage replies host port body r).2.2.sent = r.sent ++ [⟨host, port, body⟩] := by
  rw [sendRpcMessage]
  split
  · rfl
  · split
    · rfl
    · split <;> rfl

theorem sendRpcMessage_sends {body : JVal} (this : P ⟨host, port, body⟩) (r : Rpc) :
    Sends P r (sendRpcMessage replies host port body r).2.2 :=
  ⟨_, sendRpcMessage_sent body r, List.forall_mem_singleton.mpr this⟩

theorem getDaemonFlavor_sent (r : Rpc) : (getDaemonFlavor replies host port r).2.sent =
    r.sent ++ [⟨host, port, .object [("command", .string "sysinfo")]⟩] := by
  rw [← sendRpcMessage_sent]
  simp only [getDaemonFlavor]
  repeat' split
  all_goals rfl

theorem knowDaemonFlavor_sends
    (asks : P ⟨host, port, .object [("command", .string "sysinfo")]⟩) (r : Rpc) :
    Sends P r (knowDaemonFlavor replies host port r).2 := by
  rw [knowDaemonFlavor]
  split
  · exact ⟨_, getDaemonFlavor_sent r, List.forall_mem_singleton.mpr asks⟩
  · exact Sends.refl r

theorem setHdrState_sends {hdrActive : Bool}
    (asks : P ⟨host, port, .object [("command", .string "sysinfo")]⟩)
    (sets : P ⟨host, port, hdrStateBody hdrActive⟩) (r : Rpc) :
    Sends P r (setHdrState replies host port hdrActive r).2 := by
  have known : Sends P r (knowDaemonFlavor replies host port r).2 := knowDaemonFlavor_sends asks r
  simp only [setHdrState]
  split
  · exact known
  split
  · exact known
  · exact known.trans (sendRpcMessage_sends sets _)

theorem postToInstances_sends {body : JVal} {instances : Owned Int} {n : Nat}
    (switches : ∀ id, P ⟨host, port, switchToBody id⟩) (posts : P ⟨host, port, body⟩) {i : Nat}
    {ret ret' : Int}
    (h : postToInstances replies host port body instances i n (ret, r) = .ok (ret', r')) :
    Sends P r r' := by
  induction n generalizing i ret r with
  | zero =>
    cases h
    exact Sends.refl _
  | succ n ih =>
    obtain ⟨instanceId, read, rest⟩ := bind_eq_ok.mp h
    have switched : Sends P r (sendRpcMessage replies host port (switchToBody instanceId) r).2.2 :=
      sendRpcMessage_sends (switches instanceId) r
    exact (switched.trans (sendRpcMessage_sends posts _)).trans (ih rest)

theorem hyperionSetAdjustments_sends {adjustments : HyperionAdjustments} {instances : Owned Int}
    {instanceCount : Nat} {ret : Int}
    (asks : P ⟨host, port, .object [("command", .string "sysinfo")]⟩)
    (switches : ∀ id, P ⟨host, port, switchToBody id⟩)
    (posts : ∀ members, adjustmentMembers adjustments.adjustments 0
      adjustments.adjustmentsCount [] = .ok members → P ⟨host, port, adjustmentBody members⟩)
    (h : hyperionSetAdjustments replies host port adjustments instances instanceCount r =
      .ok (ret, r')) : Sends P r r' := by
  have known : Sends P r (knowDaemonFlavor replies host port r).2 := knowDaemonFlavor_sends asks r
  simp only [hyperionSetAdjustments] at h
  split at h
  · cases h
    exact known
  split at h
  · cases h
    exact known
  · obtain ⟨members, assembled, posted⟩ := bind_eq_ok.mp h
    exact known.trans (postToInstances_sends switches (posts members assembled) posted)

end HyperionWebos.RequestTraces
