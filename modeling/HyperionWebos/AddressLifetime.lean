import HyperionWebos.ConnectionThread

/-! How long `settings->address` lives. The main loop frees it in `settings_load_json`,
before it stops and joins the connection thread, which may be inside `hyperion_client`
with the pointer. Runs in which no load frees the address there, and the thread does not
evaluate it between free and replacement, never use a freed string; any other step can be
continued to such a use. -/

namespace HyperionWebos.AddressLifetime
open Runs OwnedArray Pbnjson SettingsLoad ConnectionThread

/-- The host name that a connection attempt under way may still use. -/
def host : ThreadPhase → Option Nat
  | .socket h _ | .parse h | .copy h | .connect h | .warn h => some h
  | _ => none

def aboutToFree : MainPhase → Bool
  | .loadAddress payload => jisString (jobjectGet payload "address")
  | _ => false

def betweenFreeAndDup : MainPhase → Bool
  | .dupAddress _ => true
  | _ => false

def Clear (s : Link) : Event → Prop
  | .main _ => aboutToFree s.main = true → host s.thread = none
  | .thread _ => s.thread = .evaluate → betweenFreeAndDup s.main = false
  | .request _ => True

def UsesFreed (r : Except Fault Link) : Prop := r = .error .addressReleased

/-- Blocks freed or held were allocated, and the address is freed only between its free
and its replacement. -/
structure Numbered (s : Link) : Prop where
  released_lt : ∀ b ∈ s.released, b < s.blocks
  address_lt : s.address < s.blocks
  freed_iff : s.address ∈ s.released ↔ betweenFreeAndDup s.main = true
  host_from : ∀ h, host s.thread = some h → h = s.address ∨ h ∈ s.released

theorem useHost_ok {h : Nat} {s t : Link} {next : ThreadPhase} (used : useHost h s next = .ok t) :
    t = { s with thread := next } := by
  unfold useHost at used
  split at used
  · simp at used
  · exact (Except.ok.inj used).symm

theorem useHost_error {h : Nat} {s : Link} {next : ThreadPhase} {f : Fault} :
    useHost h s next = .error f ↔ f = .addressReleased ∧ h ∈ s.released := by
  unfold useHost
  split
  · rename_i freed
    simp [freed, eq_comm]
  · rename_i live
    simp [live]

theorem threadStep_ok {answer : Bool} {s t : Link} (h : threadStep answer s = .ok t) :
    ∃ next, t = { s with thread := next } ∧
      ∀ b, host next = some b → host s.thread = some b ∨ s.thread = .evaluate ∧ b = s.address := by
  unfold threadStep at h
  split at h
  all_goals rename_i here
  · exact ⟨s.thread, (Except.ok.inj h).symm, fun b held => Or.inl held⟩
  · exact ⟨s.thread, (Except.ok.inj h).symm, fun b held => Or.inl held⟩
  · refine ⟨_, (Except.ok.inj h).symm, fun b held => ?_⟩
    split at held <;> simp [host] at held
  · refine ⟨_, (Except.ok.inj h).symm, fun b held => ?_⟩
    split at held <;> simp [host] at held
  · refine ⟨_, (Except.ok.inj h).symm, fun b held => Or.inr ⟨here, ?_⟩⟩
    exact (Option.some.inj held).symm
  · refine ⟨_, (Except.ok.inj h).symm, fun b held => Or.inl ?_⟩
    rw [here]
    split at held
    · split at held <;> exact held
    · simp [host] at held
  · refine ⟨_, useHost_ok h, fun b held => Or.inl ?_⟩
    rw [here]
    split at held <;> exact held
  · refine ⟨_, useHost_ok h, fun b held => Or.inl ?_⟩
    rw [here]
    exact held
  · refine ⟨_, (Except.ok.inj h).symm, fun b held => Or.inl ?_⟩
    rw [here]
    split at held
    · simp [host] at held
    · exact held
  · exact ⟨_, useHost_ok h, fun b held => by simp [host] at held⟩
  · refine ⟨_, (Except.ok.inj h).symm, fun b held => ?_⟩
    split at held <;> simp [host] at held
  · exact ⟨_, (Except.ok.inj h).symm, fun b held => by simp [host] at held⟩

theorem threadStep_error {answer : Bool} {s : Link} {f : Fault}
    (h : threadStep answer s = .error f) :
    f = .addressReleased ∧ ∃ b, host s.thread = some b ∧ b ∈ s.released := by
  unfold threadStep at h
  split at h
  all_goals rename_i here
  case h_7 b =>
    obtain ⟨fault, freed⟩ := useHost_error.mp h
    exact ⟨fault, b, by rw [here, host], freed⟩
  case h_8 b =>
    obtain ⟨fault, freed⟩ := useHost_error.mp h
    exact ⟨fault, b, by rw [here, host], freed⟩
  case h_10 b =>
    obtain ⟨fault, freed⟩ := useHost_error.mp h
    exact ⟨fault, b, by rw [here, host], freed⟩
  all_goals simp at h

structure SameBlocks (s t : Link) : Prop where
  address : t.address = s.address
  blocks : t.blocks = s.blocks
  released : t.released = s.released
  dup : betweenFreeAndDup s.main = false ∧ betweenFreeAndDup t.main = false
  host : ∀ b, host t.thread = some b → host s.thread = some b

theorem takeRequest_same (r : Request) (s : Link) :
    takeRequest r s = s ∨ SameBlocks s (takeRequest r s) := by
  unfold takeRequest
  split
  · rename_i idle
    cases r with
    | start => exact Or.inr ⟨rfl, rfl, rfl, ⟨by rw [idle]; rfl, rfl⟩, fun b held => held⟩
    | stop => exact Or.inr ⟨rfl, rfl, rfl, ⟨by rw [idle]; rfl, rfl⟩, fun b held => held⟩
    | setSettings payload =>
      dsimp only
      split
      · exact Or.inl rfl
      · exact Or.inr ⟨rfl, rfl, rfl, ⟨by rw [idle]; rfl, rfl⟩, fun b held => held⟩
  · exact Or.inl rfl

theorem mainStep_ok {created : Bool} {s t : Link} (h : mainStep created s = .ok t) :
    (aboutToFree s.main = true ∧ ∃ payload,
      t = { s with released := s.address :: s.released, main := .dupAddress payload }) ∨
    (betweenFreeAndDup s.main = true ∧ ∃ payload,
      t = { s with address := s.blocks, blocks := s.blocks + 1, main := .loadRest payload }) ∨
    aboutToFree s.main = false ∧ SameBlocks s t := by
  unfold mainStep at h
  split at h
  all_goals rename_i here
  all_goals
    have dup : betweenFreeAndDup s.main = betweenFreeAndDup _ := congrArg _ here
    rw [here]
  case h_1 =>
    cases h
    exact Or.inr (Or.inr ⟨rfl, rfl, rfl, rfl, ⟨dup, dup⟩, fun b held => held⟩)
  case h_2 payload =>
    split at h
    · rename_i isString
      cases h
      exact Or.inl ⟨isString, payload, rfl⟩
    · rename_i notString
      cases h
      exact Or.inr (Or.inr ⟨by simpa [aboutToFree] using notString, rfl, rfl, rfl, ⟨dup, rfl⟩,
        fun b held => held⟩)
  case h_3 payload =>
    cases h
    exact Or.inr (Or.inl ⟨rfl, payload, rfl⟩)
  case h_4 payload =>
    split at h
    · cases h
      exact Or.inr (Or.inr ⟨rfl, rfl, rfl, rfl, ⟨dup, rfl⟩, fun b held => held⟩)
    · simp at h
  case h_5 =>
    cases h
    exact Or.inr (Or.inr ⟨rfl, rfl, rfl, rfl, ⟨dup, rfl⟩, fun b held => held⟩)
  case h_6 destroy =>
    split at h
    · cases h
      exact Or.inr (Or.inr ⟨rfl, rfl, rfl, rfl, ⟨dup, rfl⟩, fun b held => held⟩)
    · cases h
      exact Or.inr (Or.inr ⟨rfl, rfl, rfl, rfl, ⟨dup, by split <;> rfl⟩, fun b held => held⟩)
  case h_7 destroy =>
    split at h
    · cases h
      exact Or.inr (Or.inr ⟨rfl, rfl, rfl, rfl, ⟨dup, by dsimp only; split <;> rfl⟩,
        fun b held => by simp [host] at held⟩)
    · cases h
      exact Or.inr (Or.inr ⟨rfl, rfl, rfl, rfl, ⟨dup, dup⟩, fun b held => held⟩)
  case h_8 start =>
    cases h
    exact Or.inr (Or.inr ⟨rfl, rfl, rfl, rfl, ⟨dup, by dsimp only; split <;> rfl⟩,
      fun b held => held⟩)
  case h_9 =>
    split at h
    · cases h
      exact Or.inr (Or.inr ⟨rfl, rfl, rfl, rfl, ⟨dup, rfl⟩, fun b held => held⟩)
    · split at h
      · cases h
        exact Or.inr (Or.inr ⟨rfl, rfl, rfl, rfl, ⟨dup, rfl⟩, fun b held => by simp [host] at held⟩)
      · cases h
        exact Or.inr (Or.inr ⟨rfl, rfl, rfl, rfl, ⟨dup, rfl⟩, fun b held => held⟩)

theorem mainStep_error {created : Bool} {s : Link} {f : Fault}
    (h : mainStep created s = .error f) : f ≠ .addressReleased := by
  unfold mainStep at h
  split at h
  case h_4 payload =>
    split at h
    · simp at h
    · cases h
      simp
  all_goals repeat' split at h
  all_goals simp at h

theorem Numbered.same {s t : Link} (numbered : Numbered s) (same : SameBlocks s t) :
    Numbered t := by
  have absent : s.address ∉ s.released := by
    rw [numbered.freed_iff, same.dup.1]
    exact Bool.false_ne_true
  refine ⟨?_, ?_, ?_, ?_⟩
  · rw [same.released, same.blocks]
    exact numbered.released_lt
  · rw [same.address, same.blocks]
    exact numbered.address_lt
  · rw [same.address, same.released, same.dup.2]
    simp [absent]
  · intro b held
    rw [same.address, same.released]
    exact numbered.host_from b (same.host b held)

theorem step_numbered {s t : Link} {e : Event} (numbered : Numbered s) (h : step s e = .ok t) :
    Numbered t := by
  cases e with
  | request r =>
    cases h
    rcases takeRequest_same r s with unchanged | same
    · rw [unchanged]
      exact numbered
    · exact numbered.same same
  | main created =>
    rcases mainStep_ok h with ⟨_, payload, rfl⟩ | ⟨dup, payload, rfl⟩ | ⟨_, same⟩
    · refine ⟨?_, numbered.address_lt, by simp [betweenFreeAndDup], ?_⟩
      · intro b freed
        rcases List.mem_cons.mp freed with rfl | before
        · exact numbered.address_lt
        · exact numbered.released_lt b before
      · intro b held
        rcases numbered.host_from b held with rfl | freed
        · exact Or.inl rfl
        · exact Or.inr (List.mem_cons_of_mem _ freed)
    · have freed := numbered.freed_iff.mpr dup
      refine ⟨fun b before => Nat.lt_succ_of_lt (numbered.released_lt b before),
        Nat.lt_succ_self _, ?_, ?_⟩
      · have fresh : s.blocks ∉ s.released := fun old =>
          Nat.lt_irrefl _ (numbered.released_lt _ old)
        simp [fresh, betweenFreeAndDup]
      · intro b held
        rcases numbered.host_from b held with rfl | before
        · exact Or.inr freed
        · exact Or.inr before
    · exact numbered.same same
  | thread answer =>
    obtain ⟨next, rfl, holds⟩ := threadStep_ok h
    refine ⟨numbered.released_lt, numbered.address_lt, numbered.freed_iff, ?_⟩
    intro b held
    rcases holds b held with before | ⟨_, rfl⟩
    · exact numbered.host_from b before
    · exact Or.inl rfl

theorem numbered_boot (settings : Settings) : Numbered (boot settings) :=
  ⟨by simp [boot], Nat.zero_lt_one, by simp [boot, betweenFreeAndDup], by simp [boot, host]⟩

def Sheltered (s : Link) : Prop := ∀ h, host s.thread = some h → h ∉ s.released

theorem Sheltered.same {s t : Link} (sheltered : Sheltered s) (same : SameBlocks s t) :
    Sheltered t := by
  intro b held
  rw [same.released]
  exact sheltered b (same.host b held)

theorem step_sheltered {s t : Link} {e : Event} (numbered : Numbered s) (sheltered : Sheltered s)
    (clear : Clear s e) (h : step s e = .ok t) : Sheltered t := by
  cases e with
  | request r =>
    cases h
    rcases takeRequest_same r s with unchanged | same
    · rw [unchanged]
      exact sheltered
    · exact sheltered.same same
  | main created =>
    rcases mainStep_ok h with ⟨frees, payload, rfl⟩ | ⟨_, payload, rfl⟩ | ⟨_, same⟩
    · intro b held
      rw [clear frees] at held
      cases held
    · exact sheltered
    · exact sheltered.same same
  | thread answer =>
    obtain ⟨next, rfl, holds⟩ := threadStep_ok h
    intro b held
    rcases holds b held with before | ⟨evaluates, rfl⟩
    · exact sheltered b before
    · rw [numbered.freed_iff, clear evaluates]
      exact Bool.false_ne_true

theorem step_safe {s : Link} {e : Event} (sheltered : Sheltered s) :
    step s e ≠ .error .addressReleased := by
  intro h
  cases e with
  | request r => exact ok_ne_error _ _ h
  | main created => exact mainStep_error h rfl
  | thread answer =>
    obtain ⟨_, b, held, freed⟩ := threadStep_error h
    exact sheltered b held freed

theorem doomed_use {s : Link} (answer : Bool) {h : Nat} {next : ThreadPhase}
    (uses : threadStep answer s = useHost h s next) (freed : h ∈ s.released) :
    Doomed step Clear UsesFreed s :=
  doomed_error (e := .thread answer) (uses.trans (useHost_error.mpr ⟨rfl, freed⟩)) rfl

theorem clear_thread {s : Link} {answer : Bool} (here : s.thread ≠ .evaluate) :
    Clear s (.thread answer) :=
  fun evaluates => absurd evaluates here

theorem doomed_of_held {s : Link} {h : Nat} (held : host s.thread = some h)
    (freed : h ∈ s.released) : Doomed step Clear UsesFreed s := by
  cases here : s.thread with
  | socket b unixSocket =>
    rw [here] at held
    cases held
    have taken : step s (.thread true) =
        .ok { s with thread := if unixSocket then .copy h else .parse h } := by
      simp [step, threadStep, here]
    refine doomed_step (clear_thread (by simp [here])) taken ?_
    cases unixSocket with
    | false => exact doomed_use true rfl freed
    | true => exact doomed_use true rfl freed
  | parse b =>
    rw [here] at held
    cases held
    exact doomed_use true (by rw [threadStep, here]) freed
  | copy b =>
    rw [here] at held
    cases held
    exact doomed_use true (by rw [threadStep, here]) freed
  | connect b =>
    rw [here] at held
    cases held
    have taken : step s (.thread false) = .ok { s with thread := .warn h } := by
      simp [step, threadStep, here]
    exact doomed_step (clear_thread (by simp [here])) taken (doomed_use true rfl freed)
  | warn b =>
    rw [here] at held
    cases held
    exact doomed_use true (by rw [threadStep, here]) freed
  | _ =>
    rw [here] at held
    simp [host] at held

theorem doomed_of_unclear {s t : Link} {e : Event} (numbered : Numbered s) (unclear : ¬ Clear s e)
    (h : step s e = .ok t) : Doomed step Clear UsesFreed t := by
  cases e with
  | request r => exact absurd trivial unclear
  | main created =>
    unfold Clear at unclear
    rw [Classical.not_imp] at unclear
    obtain ⟨frees, holds⟩ := unclear
    rw [← ne_eq, Option.ne_none_iff_exists'] at holds
    obtain ⟨b, held⟩ := holds
    rcases mainStep_ok h with ⟨_, payload, rfl⟩ | ⟨dup, _⟩ | ⟨other, _⟩
    · refine doomed_of_held held ?_
      rcases numbered.host_from b held with rfl | freed
      · exact List.mem_cons_self
      · exact List.mem_cons_of_mem _ freed
    · cases phase : s.main <;> simp_all [aboutToFree, betweenFreeAndDup]
    · rw [other] at frees
      cases frees
  | thread answer =>
    unfold Clear at unclear
    rw [Classical.not_imp, Bool.not_eq_false] at unclear
    obtain ⟨evaluates, dup⟩ := unclear
    have taken : step s (.thread answer) =
        .ok { s with thread := .socket s.address s.settings.unixSocket } := by
      rw [step, threadStep, evaluates]
    rw [taken] at h
    cases h
    exact doomed_of_held rfl (numbered.freed_iff.mpr dup)

/-- A run of clear steps never uses a freed address; and the steps of a run are clear
exactly when no state it reaches can be continued by clear steps to such a use. -/
theorem address_outlives_users_iff (settings : Settings) (es : List Event) :
    (Careful step Clear (boot settings) es → ¬ UsesFreed (run step (boot settings) es)) ∧
      (Throughout step (fun _ _ t => ¬ Doomed step Clear UsesFreed t) (boot settings) es ↔
        Careful step Clear (boot settings) es) := by
  have keeps : ∀ s e t, Numbered s ∧ Sheltered s → Clear s e → step s e = .ok t →
      Numbered t ∧ Sheltered t := fun s e t here clear taken =>
    ⟨step_numbered here.1 taken, step_sheltered here.1 here.2 clear taken⟩
  have fine : ∀ s, Numbered s ∧ Sheltered s → ¬ UsesFreed (.ok s) := fun s _ => ok_ne_error s _
  have fails : ∀ s e f, Numbered s ∧ Sheltered s → step s e = .error f → ¬ UsesFreed (.error f) :=
    fun s e f here fault uses => step_safe here.2 (fault.trans uses)
  have start : Numbered (boot settings) ∧ Sheltered (boot settings) :=
    ⟨numbered_boot settings, by simp [Sheltered, boot, host]⟩
  exact ⟨careful_safe keeps fine fails start, undoomed_iff keeps fine fails
    (fun s e t here unclear taken => doomed_of_unclear here.1 unclear taken) start⟩

/-- `setSettings` frees the address while the connection thread waits in `connect`, whose
failure is then logged with the host name. -/
theorem address_outlives_users_reconfigured :
    UsesFreed (run step (boot settingsInit)
      [.request .start, .main true, .thread true, .thread true, .thread true, .thread true,
        .thread true, .request (.setSettings (.object [("address", .string "192.168.0.3")])),
        .main true, .thread false, .thread true]) := rfl

end HyperionWebos.AddressLifetime
