import HyperionWebos.ServiceSteps

/-! Which adjustment `hdr_callback` uses. Its one pass over the adjustments is a fold with
a sentinel: an entry for the HDR type itself always replaces what was found, an entry for
the generic class only the sentinel. -/

namespace HyperionWebos.HdrChoice
open Runs OwnedArray Pbnjson SettingsLoad Unicapture JsonRpcClient ServiceLoop ServiceSteps

section Override

variable {α : Type} (exact generic : α → Bool)

/-- One entry of a search in which exact entries override and generic ones only fill in. -/
def override (found : Option α) (a : α) : Option α :=
  let found := if found.isNone && generic a then some a else found
  if exact a then some a else found

theorem foldl_override (xs : List α) (found : Option α) :
    xs.foldl (override exact generic) found =
      (xs.reverse.find? exact).or (found.or (xs.find? generic)) := by
  induction xs generalizing found with
  | nil => simp
  | cons a xs ih =>
    rw [List.foldl_cons, ih, List.reverse_cons, List.find?_append, List.find?_cons]
    cases isExact : exact a <;> cases isGeneric : generic a <;> cases found <;>
      cases xs.reverse.find? exact <;> simp [override, isExact, isGeneric]

end Override

def sHdrType (hdrEnabled : Bool) : String := if hdrEnabled then "hdr" else "sdr"

def isEntryFor (hdrType : String) (a : HyperionAdjustments) : Bool :=
  strcasecmpEq hdrType a.hdrType

/-- The last entry for the HDR type, else the first one for the generic class. -/
def intended (hdrType : String) (hdrEnabled : Bool) (entries : List HyperionAdjustments) :
    Option HyperionAdjustments :=
  (entries.reverse.find? (isEntryFor hdrType)).or
    (entries.find? (isEntryFor (sHdrType hdrEnabled)))

/-- What the search finds: the generic class is looked at only while HDR is on. -/
def chosen (hdrType : String) (hdrEnabled : Bool) (entries : List HyperionAdjustments) :
    Option HyperionAdjustments :=
  (entries.reverse.find? (isEntryFor hdrType)).or
    (if hdrEnabled then entries.find? (isEntryFor (sHdrType hdrEnabled)) else none)

theorem pickAdjustment_live (hdrType : String) (hdrEnabled : Bool)
    (xs : List HyperionAdjustments) (ys rest : List (Cell HyperionAdjustments))
    (found : Option HyperionAdjustments) :
    pickAdjustment hdrType (sHdrType hdrEnabled) hdrEnabled
        (.live (ys ++ (xs.map .assigned ++ rest))) ys.length xs.length found =
      .ok (xs.foldl (override (isEntryFor hdrType)
        fun a => hdrEnabled && isEntryFor (sHdrType hdrEnabled) a) found) := by
  induction xs generalizing ys found with
  | nil => rfl
  | cons a xs ih =>
    have here : (Owned.live (ys ++ ((a :: xs).map .assigned ++ rest))).read ys.length = .ok a := by
      simp [Owned.read, Owned.cells, ok_bind]
    have tail := ih (ys ++ [.assigned a]) (override (isEntryFor hdrType)
      (fun a => hdrEnabled && isEntryFor (sHdrType hdrEnabled) a) found a)
    rw [List.length_cons, pickAdjustment, here, ok_bind, List.foldl_cons, ← tail]
    simp [override, isEntryFor, Bool.and_assoc, Bool.and_left_comm]

theorem pickAdjustment_holds (hdrType : String) (hdrEnabled : Bool)
    {adjustments : Owned HyperionAdjustments} {entries : List HyperionAdjustments}
    (held : adjustments.Holds entries) :
    pickAdjustment hdrType (sHdrType hdrEnabled) hdrEnabled adjustments 0 entries.length none =
      .ok (chosen hdrType hdrEnabled entries) := by
  obtain ⟨rest, rfl⟩ := held
  have found := pickAdjustment_live hdrType hdrEnabled entries [] rest none
  rw [foldl_override] at found
  rw [List.nil_append, List.length_nil] at found
  rw [found, chosen]
  cases hdrEnabled with
  | true => simp
  | false =>
    have nothing_generic : entries.find? (fun _ => false) = none :=
      List.find?_eq_none.mpr fun _ _ => Bool.false_ne_true
    simp [nothing_generic]

/-- The rest of `hdr_callback` once an entry is chosen: post it, or skip. -/
def useAdjustment (hdrEnabled : Bool) (env : Env) (s : Service)
    (choice : Option HyperionAdjustments) : Except MemoryFault Service := do
  let address := if s.settings.unixSocket then "127.0.0.1" else s.settings.address
  let (_, rpc) := setHdrState env.replies address rpcPort hdrEnabled s.rpc
  match choice with
  | some defAdj =>
    let (_, rpc) ← hyperionSetAdjustments env.replies address rpcPort defAdj
      s.settings.hyperion.instances s.settings.hyperion.instancesCount rpc
    return { s with rpc := rpc }
  | none => return { s with rpc := rpc }

theorem hdrCallback_uses (hdrType : String) (hdrEnabled : Bool) (env : Env) {s : Service}
    {entries : List HyperionAdjustments} (on : s.settings.hyperion.hyperionAdjustments = true)
    (held : s.settings.hyperion.adjustments.Holds entries)
    (count : s.settings.hyperion.adjustmentsCount = entries.length) :
    hdrCallback hdrType hdrEnabled env s =
      useAdjustment hdrEnabled env s (chosen hdrType hdrEnabled entries) := by
  have found := pickAdjustment_holds hdrType hdrEnabled held
  unfold hdrCallback useAdjustment
  dsimp only
  rw [if_pos on, count, ← sHdrType, found]
  cases chosen hdrType hdrEnabled entries with
  | none => rfl
  | some a => rfl

theorem chosen_eq_intended_iff (hdrType : String) (hdrEnabled : Bool)
    (entries : List HyperionAdjustments) :
    chosen hdrType hdrEnabled entries = intended hdrType hdrEnabled entries ↔
      hdrEnabled = true ∨ (∃ a ∈ entries, isEntryFor hdrType a = true) ∨
        ∀ a ∈ entries, isEntryFor "sdr" a = false := by
  unfold chosen intended
  cases hdrEnabled with
  | true => simp
  | false =>
    cases last : entries.reverse.find? (isEntryFor hdrType) with
    | some a =>
      have member := List.mem_reverse.mp (List.mem_of_find?_eq_some last)
      simp only [Option.some_or, true_iff]
      exact Or.inr (Or.inl ⟨a, member, List.find?_some last⟩)
    | none =>
      have without : ¬ ∃ a ∈ entries, isEntryFor hdrType a = true := by
        rintro ⟨a, member, entry⟩
        exact List.find?_eq_none.mp last a (List.mem_reverse.mpr member) entry
      simp [without, sHdrType, eq_comm (a := none)]

/-- `hdr_callback` uses one entry, and which one is as intended but for that case. -/
theorem hdr_choice_iff (hdrType : String) (hdrEnabled : Bool) (s : Service)
    (entries : List HyperionAdjustments) (on : s.settings.hyperion.hyperionAdjustments = true)
    (held : s.settings.hyperion.adjustments.Holds entries)
    (count : s.settings.hyperion.adjustmentsCount = entries.length) :
    ∃ choice, (∀ env, hdrCallback hdrType hdrEnabled env s =
        useAdjustment hdrEnabled env s choice) ∧
      (choice = intended hdrType hdrEnabled entries ↔
        hdrEnabled = true ∨ (∃ a ∈ entries, isEntryFor hdrType a = true) ∨
          ∀ a ∈ entries, isEntryFor "sdr" a = false) :=
  ⟨chosen hdrType hdrEnabled entries, fun env => hdrCallback_uses hdrType hdrEnabled env on held
    count, chosen_eq_intended_iff hdrType hdrEnabled entries⟩

def sdrEntry : HyperionAdjustments := ⟨"SDR", .null, 0⟩

def sdrService : Service := { zeroed none none { settingsInit with
    hyperion := ⟨true, .partly [sdrEntry] 0, 1, .partly [0] 0, 1⟩ } with
  rpc := ⟨.hyperionNg, []⟩ }

theorem hdr_choice_sdr :
    ∃ choice, (∀ env, hdrCallback "none" false env sdrService =
        useAdjustment false env sdrService choice) ∧
      (choice = intended "none" false [sdrEntry] ↔
        false = true ∨ (∃ a ∈ [sdrEntry], isEntryFor "none" a = true) ∨
          ∀ a ∈ [sdrEntry], isEntryFor "sdr" a = false) :=
  hdr_choice_iff "none" false sdrService [sdrEntry] rfl (Owned.partly_holds _ _) rfl

/-- Video without HDR: the entry is there, the instance is never told of it. -/
theorem hdr_choice_skipped : intended "none" false [sdrEntry] = some sdrEntry ∧
    hdrCallback "none" false calm sdrService = .ok sdrService ∧
    hdrCallback "none" false calm sdrService ≠
      useAdjustment false calm sdrService (intended "none" false [sdrEntry]) := by
  have entry : intended "none" false [sdrEntry] = some sdrEntry := by decide +kernel
  have skipped : hdrCallback "none" false calm sdrService = .ok sdrService := by
    have unseen : chosen "none" false [sdrEntry] = none := by decide +kernel
    rw [hdrCallback_uses "none" false calm rfl (Owned.partly_holds _ _) rfl, unseen]
    rfl
  refine ⟨entry, skipped, ?_⟩
  rw [skipped, entry]
  intro same
  have told : (useAdjustment false calm sdrService (some sdrEntry)).toOption.map
      (fun s => s.rpc.sent.length) = some 2 := rfl
  rw [← same] at told
  cases told

end HyperionWebos.HdrChoice
