import HyperionWebos.RequestTraces
import HyperionWebos.ShellWords

/-! What the shell makes of the command line of a request. The URL stands bare in it and the
body between single quotes, neither of them escaped: the shell reads the intended words exactly
when the address has no character that means something to it and the body no single quote. -/

namespace HyperionWebos.RpcQuoting
open JsonRpcClient OwnedArray Pbnjson RequestTraces Runs SettingsLoad ShellWords TraceMonitor

/-- The line that is handed to `popen`. -/
def rpcCommand (jvalueTostringSimple : JVal → String) (q : Request) : String :=
  curlCommand (rpcUrl q.host q.port) (jvalueTostringSimple q.body)

/-- The shell reads one simple command with these words. -/
def KeepsWords (jvalueTostringSimple : JVal → String) (q : Request) : Prop :=
  shellWords (rpcCommand jvalueTostringSimple q) =
    some ["curl", "--silent", "-X", "POST", rpcUrl q.host q.port, "-d", jvalueTostringSimple q.body]

def PlainHost (host : String) : Prop := ∀ c ∈ host.toList, isSpecial c = false

def curlWords : List (List Char) := ["curl", "--silent", "-X", "POST"].map String.toList

def curlOpening : List Char := "curl --silent -X POST ".toList ++ "http://".toList

theorem curlOpening_read :
    shell.after curlOpening = some ⟨curlWords, some "http://".toList, .bare, false⟩ := by
  decide

variable (host : String) (port : Nat)

theorem rpcUrl_toList :
    (rpcUrl host port).toList = "http://".toList ++
      (host.toList ++ (':' :: (toString port).toList ++ "/json-rpc".toList)) := by
  have colon : ":".toList = [':'] := rfl
  simp only [rpcUrl, String.toList_append, colon, List.append_assoc, List.cons_append,
    List.nil_append]

theorem append_regroup {α : Type} (a b c d e f : List α) :
    a ++ (b ++ c) ++ d ++ e ++ f = a ++ b ++ (c ++ (d ++ (e ++ f))) := by
  simp only [List.append_assoc]

theorem curlCommand_toList (body : String) :
    (curlCommand (rpcUrl host port) body).toList = curlOpening ++
      (host.toList ++ (':' :: (toString port).toList ++ "/json-rpc".toList) ++
        ' ' :: ("-d '".toList ++ (body.toList ++ ['\'']))) := by
  unfold curlCommand
  rw [String.toList_append, String.toList_append, String.toList_append, String.toList_append,
    rpcUrl_toList]
  exact append_regroup _ _ _ _ _ _

theorem url_read {host : String} (plain : PlainHost host) (text : List Char) :
    shell.readFrom ⟨curlWords, some "http://".toList, .bare, false⟩
      (host.toList ++ (':' :: (toString port).toList ++ "/json-rpc".toList) ++
        ' ' :: ("-d '".toList ++ text)) =
    shell.readFrom
      ⟨curlWords ++ [(rpcUrl host port).toList, "-d".toList], some [], .single, false⟩ text := by
  rw [Monitor.readFrom_append, read_plain, ← rpcUrl_toList]
  · rfl
  · have path : "/json-rpc".toList.all (fun c => !isSpecial c) = true := by decide
    intro c member
    rw [List.mem_append, List.mem_append, List.mem_cons] at member
    rcases member with member | (rfl | member) | member
    · exact plain c member
    · rfl
    · exact toString_plain port c member
    · exact (Bool.not_eq_true' _).mp (List.all_eq_true.mp path c member)

theorem plain_of_url {body : String} {s : Scan}
    (h : shell.readFrom ⟨curlWords, some "http://".toList, .bare, false⟩
      (host.toList ++ (':' :: (toString port).toList ++ "/json-rpc".toList) ++
        ' ' :: ("-d '".toList ++ (body.toList ++ ['\'']))) = some s)
    (finished : s.finish =
      some (curlWords ++ [(rpcUrl host port).toList, "-d".toList] ++ [body.toList])) :
    PlainHost host := by
  refine plain_of_read h finished ⟨["-d".toList, body.toList], ?_⟩ (by decide) ?_
  · rw [← rpcUrl_toList, List.append_assoc, List.append_assoc]
    rfl
  · rw [rpcUrl_toList]
    simp
    omega

theorem curlCommand_words (body : String) :
    shellWords (curlCommand (rpcUrl host port) body) =
        some ["curl", "--silent", "-X", "POST", rpcUrl host port, "-d", body] ↔
      PlainHost host ∧ '\'' ∉ body.toList := by
  have listed : ["curl", "--silent", "-X", "POST", rpcUrl host port, "-d", body].map
      String.toList = curlWords ++ [(rpcUrl host port).toList, "-d".toList] ++ [body.toList] := rfl
  rw [shellWords_eq_some, curlCommand_toList, Monitor.after_append _ curlOpening_read, listed]
  constructor
  · rintro ⟨s, h, finished⟩
    have plain := plain_of_url host port h finished
    rw [url_read port plain] at h
    exact ⟨plain, text_of_read h finished⟩
  · rintro ⟨plain, text⟩
    rw [url_read port plain, Monitor.readFrom_append, read_single text]
    exact ⟨_, rfl, rfl⟩

/-- For any address and whatever text the body has. -/
theorem rpcCommand_words (jvalueTostringSimple : JVal → String) (q : Request) :
    KeepsWords jvalueTostringSimple q ↔
      PlainHost q.host ∧ '\'' ∉ (jvalueTostringSimple q.body).toList :=
  curlCommand_words q.host q.port (jvalueTostringSimple q.body)

/-- An address with a command in it, and a gain whose name leaves the quotes. -/
theorem rpcCommand_broken :
    ¬ KeepsWords (fun _ => "\x7b\"command\":\"sysinfo\"\x7d")
      ⟨"10.0.0.2;reboot", rpcPort, .object [("command", .string "sysinfo")]⟩ ∧
    ¬ KeepsWords
      (fun _ => "\x7b\"command\":\"adjustment\",\"adjustment\":\x7b\"';reboot;'\":1\x7d\x7d")
      ⟨"10.0.0.2", rpcPort, adjustmentBody [("';reboot;'", .number ⟨1, 0x3FF0000000000000⟩)]⟩ := by
  unfold KeepsWords
  decide

/-- A request whose words come out, as long as the JSON text has no quote of its own. -/
def Clean (q : Request) : Prop := PlainHost q.host ∧ ∀ s ∈ jstrings q.body, '\'' ∉ s.toList

theorem clean_words {jvalueTostringSimple : JVal → String}
    (verbatim : ∀ v, '\'' ∈ (jvalueTostringSimple v).toList → ∃ s ∈ jstrings v, '\'' ∈ s.toList)
    {q : Request} (clean : Clean q) : KeepsWords jvalueTostringSimple q := by
  refine (rpcCommand_words jvalueTostringSimple q).mpr ⟨clean.1, fun quote => ?_⟩
  obtain ⟨s, member, within⟩ := verbatim q.body quote
  exact clean.2 s member within

variable {host : String} {port : Nat} {replies : Nat → Reply} {r r' : Rpc}

def AllClean (r : Rpc) : Prop := ∀ q ∈ r.sent, Clean q

theorem sysinfo_clean (plain : PlainHost host) :
    Clean ⟨host, port, .object [("command", .string "sysinfo")]⟩ := by
  have fixed : ∀ s ∈ jstrings (.object [("command", .string "sysinfo")]), '\'' ∉ s.toList := by
    decide
  exact ⟨plain, fixed⟩

theorem switchTo_clean (plain : PlainHost host) (instanceId : Int) :
    Clean ⟨host, port, switchToBody instanceId⟩ := by
  have fixed : ∀ s ∈ ["instance", "subcommand", "switchTo", "command", "instance"],
      '\'' ∉ s.toList := by decide
  exact ⟨plain, fixed⟩

theorem setHdrState_clean (plain : PlainHost host) (hdrActive : Bool) (before : AllClean r) :
    AllClean (setHdrState replies host port hdrActive r).2 := by
  have body : ∀ s ∈ jstrings (hdrStateBody hdrActive), '\'' ∉ s.toList := by
    cases hdrActive <;> decide
  exact (setHdrState_sends (sysinfo_clean plain) ⟨plain, body⟩ r).all before

def CleanMembers (members : List (String × JVal)) : Prop :=
  ∀ m ∈ members, '\'' ∉ m.1.toList ∧ jstrings m.2 = []

theorem jstringsMembers_clean {members : List (String × JVal)} (clean : CleanMembers members) :
    ∀ s ∈ jstringsMembers members, '\'' ∉ s.toList := by
  induction members with
  | nil => nofun
  | cons m rest ih =>
    have first := clean m List.mem_cons_self
    rw [jstringsMembers, first.2]
    intro s member
    rcases List.mem_cons.mp member with rfl | member
    · exact first.1
    · exact ih (fun m later => clean m (List.mem_cons_of_mem _ later)) s member

theorem adjustmentBody_clean {members : List (String × JVal)} (clean : CleanMembers members) :
    ∀ s ∈ jstrings (adjustmentBody members), '\'' ∉ s.toList := by
  have fixed : ∀ s ∈ ["command", "adjustment"], '\'' ∉ s.toList := by decide
  intro s member
  simp only [adjustmentBody, jstrings, jstringsMembers, List.cons_append, List.nil_append,
    List.append_nil, List.mem_cons] at member
  rcases member with rfl | rfl | rfl | member
  · exact fixed _ (by simp)
  · exact fixed _ (by simp)
  · exact fixed _ (by simp)
  · exact jstringsMembers_clean clean s member

theorem adjustmentMembers_clean {adjustments : Owned HyperionAdjustment} {n : Nat}
    (names : ∀ i a, adjustments.read i = .ok a → '\'' ∉ a.name.toList) {i : Nat}
    {members members' : List (String × JVal)} (before : CleanMembers members)
    (h : adjustmentMembers adjustments i n members = .ok members') : CleanMembers members' := by
  induction n generalizing i members with
  | zero =>
    cases h
    exact before
  | succ n ih =>
    obtain ⟨a, read, rest⟩ := bind_eq_ok.mp h
    refine ih ?_ rest
    intro m member
    rw [List.mem_append, List.mem_singleton] at member
    rcases member with member | rfl
    · exact before m (List.mem_of_mem_filter member)
    · exact ⟨names i a read, rfl⟩

theorem hyperionSetAdjustments_clean {adjustments : HyperionAdjustments} {instances : Owned Int}
    {instanceCount : Nat} {ret : Int} (plain : PlainHost host)
    (names : ∀ i a, adjustments.adjustments.read i = .ok a → '\'' ∉ a.name.toList)
    (before : AllClean r) (h : hyperionSetAdjustments replies host port adjustments instances
      instanceCount r = .ok (ret, r')) : AllClean r' := by
  refine (hyperionSetAdjustments_sends (sysinfo_clean plain) (switchTo_clean plain) ?_ h).all before
  intro members assembled
  have clean := adjustmentMembers_clean names (List.forall_mem_nil _) assembled
  exact ⟨plain, adjustmentBody_clean clean⟩

end HyperionWebos.RpcQuoting
