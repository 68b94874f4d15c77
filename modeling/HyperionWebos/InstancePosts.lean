import HyperionWebos.DaemonTalk
import HyperionWebos.PayloadSafety
import Mathlib.Algebra.Ring.Parity

/-! What `hyperion_set_adjustments` sends with Hyperion.NG known: for each instance a
switch to it and the adjustment, whatever was answered, and the return code of the last
post. Requests are known by their place among all requests of the process. -/

namespace HyperionWebos.InstancePosts
open Runs OwnedArray Pbnjson SettingsLoad SettingsOwnership JsonRpcClient ServiceLoop DaemonTalk
  PayloadSafety

def Succeeds (replies : Nat → Reply) (j : Nat) : Prop := (succeeded (replies j)).isSome = true

instance (replies : Nat → Reply) (j : Nat) : Decidable (Succeeds replies j) :=
  inferInstanceAs (Decidable ((succeeded (replies j)).isSome = true))

def switchTo (host : String) (port : Nat) (id : Int) : Request := ⟨host, port, switchToBody id⟩

def instancePosts (host : String) (port : Nat) (body : JVal) (ids : List Int) : List Request :=
  ids.flatMap fun id => [switchTo host port id, ⟨host, port, body⟩]

/-- What is left in `ret` after `n` instances whose requests begin at `base`. -/
def lastRet (replies : Nat → Reply) (base n : Nat) (ret : Int) : Int :=
  if n = 0 then ret else if Succeeds replies (base + 2 * n - 1) then 0 else -3

variable {replies : Nat → Reply} {host : String} {port : Nat} {body : JVal}

theorem lastRet_succ (base n : Nat) (ret : Int) :
    lastRet replies base (n + 1) ret =
      lastRet replies (base + 2) n (if Succeeds replies (base + 1) then 0 else -3) := by
  unfold lastRet
  cases n with
  | zero => simp
  | succ n =>
    have same : base + 2 * (n + 1 + 1) - 1 = base + 2 + 2 * (n + 1) - 1 := by omega
    simp [same]

theorem sendRpcMessage_succeeds (replies : Nat → Reply) (host : String) (port : Nat) (body : JVal)
    (r : Rpc) :
    ∃ ret response, sendRpcMessage replies host port body r =
        (ret, response, { r with sent := r.sent ++ [⟨host, port, body⟩] }) ∧
      (ret = 0 ↔ Succeeds replies r.sent.length) := by
  obtain ⟨ret, response, sent, outcome⟩ := sendRpcMessage_cases replies host port body r
  refine ⟨ret, response, sent, ?_⟩
  unfold Succeeds
  rcases outcome with ⟨zero, answer⟩ | ⟨bad, answer⟩
  · simp [zero, answer]
  · simp [bad, answer]

theorem postToInstances_live (replies : Nat → Reply) (host : String) (port : Nat) (body : JVal)
    (ids : List Int) (ys rest : List (Cell Int)) (ret : Int) (r : Rpc) :
    postToInstances replies host port body (.live (ys ++ (ids.map .assigned ++ rest))) ys.length
        ids.length (ret, r) =
      .ok (lastRet replies r.sent.length ids.length ret,
        { r with sent := r.sent ++ instancePosts host port body ids }) := by
  induction ids generalizing ys ret r with
  | nil => simp [postToInstances, lastRet, instancePosts]
  | cons id ids ih =>
    have here : (Owned.live (ys ++ ((id :: ids).map .assigned ++ rest))).read ys.length =
        .ok id := by
      simp [Owned.read, Owned.cells, ok_bind]
    obtain ⟨_, _, switched, _⟩ := sendRpcMessage_succeeds replies host port (switchToBody id) r
    obtain ⟨ret', _, posted, zero⟩ := sendRpcMessage_succeeds replies host port body
      { r with sent := r.sent ++ [⟨host, port, switchToBody id⟩] }
    rw [List.length_append, List.length_singleton] at zero
    have code : (if ret' ≠ 0 then -3 else ret') =
        if Succeeds replies (r.sent.length + 1) then 0 else -3 := by
      by_cases ok : Succeeds replies (r.sent.length + 1)
      · rw [if_pos ok, zero.mpr ok]
        rfl
      · rw [if_neg ok, if_pos fun h => ok (zero.mp h)]
    have tail := ih (ys ++ [.assigned id]) (if Succeeds replies (r.sent.length + 1) then 0 else -3)
      { r with sent := r.sent ++ [⟨host, port, switchToBody id⟩] ++ [⟨host, port, body⟩] }
    rw [List.length_cons, postToInstances, here, ok_bind, switched]
    dsimp only
    rw [posted]
    dsimp only
    rw [code, lastRet_succ]
    simpa [instancePosts, switchTo] using tail

section Posted

variable {ids : List Int} {members : List (String × JVal)} {r : Rpc}

end Posted

end HyperionWebos.InstancePosts
