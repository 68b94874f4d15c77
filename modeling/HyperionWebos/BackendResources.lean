import HyperionWebos.CaptureBackends
import Mathlib.Logic.Relation

/-! What a backend's `capture_init` takes and whether it comes back. Init is to be all or
nothing, and cleanup to undo it after any rounds of start and terminate; the books are the
measure, whatever stood in them before. -/

namespace HyperionWebos.BackendResources
open ResourceLedger NativeCalls CaptureBackends
open Unicapture (CapBackendConfig)

abbrev Books := List (Entry (Resource Kind))

/-- If init succeeds `*state_p` is live; if it fails all it took is back, and `*state_p`
names no block that was freed. -/
def AllOrNothing (b : Backend) (config : CapBackendConfig) (o : b.Outcomes) : Prop :=
  ∀ books ret stored after, b.captureInit config o books = ((ret, stored), after) →
    (ret = 0 → ∃ state, stored = some state ∧ Held after ⟨.block, b.block state⟩) ∧
    (ret ≠ 0 → ReleasedOnce (after.drop books.length) ∧
      ∀ state, stored = some state →
        .release ⟨.block, b.block state⟩ ∉ after.drop books.length)

/-- One `capture_start` that succeeds, and its `capture_terminate`. -/
def Round (b : Backend) (before after : b.State × Books) : Prop :=
  ∃ outcome state books, b.captureStart outcome before.1 before.2 = ((0, state), books) ∧
    b.captureTerminate state books = ((0, after.1), after.2)

def CleanupUndoes (b : Backend) (config : CapBackendConfig) (o : b.Outcomes) : Prop :=
  ∀ books stored opened, b.captureInit config o books = ((0, stored), opened) →
    ∃ state, stored = some state ∧
      ∀ final, Relation.ReflTransGen (Round b) (state, opened) final →
        Restores books (b.captureCleanup final.1 final.2).2

def Balanced (b : Backend) (config : CapBackendConfig) (o : b.Outcomes) : Prop :=
  AllOrNothing b config o ∧ CleanupUndoes b config o

/-- The outcomes after which a shipped backend keeps its books. -/
def KeepsBooks : (b : Shipped) → CapBackendConfig → b.backend.Outcomes → Prop
  | .libdileVt, config, o => LibDileVt.createsContext config o = false
  | .libvtcapture, _, create => create ≠ LibVtCapture.Create.runtimeError
  | .libgm, _, _ => True
  | .libhalgal, _, o => LibHalGal.Outcomes.getuid o = 0

def Undone {σ : Type} (books : Books) (result : (Int × Option σ) × Books) : Prop :=
  result.1.1 ≠ 0 ∧ result.1.2 = none ∧ ReleasedOnce (result.2.drop books.length)

def Opened {σ : Type} (owned : σ → List (Resource Kind)) (books : Books)
    (result : (Int × Option σ) × Books) : Prop :=
  result.1.1 = 0 ∧ ∃ state, result.1.2 = some state ∧
    result.2 = books ++ (owned state).map .acquire

section Owned

variable {b : Backend} {config : CapBackendConfig} {o : b.Outcomes}
  (owned : b.State → List (Resource Kind))

theorem rounds_restore (round : ∀ before after, Round b before after →
      Restores before.2 after.2 ∧ owned after.1 = owned before.1)
    {first last : b.State × Books} (rounds : Relation.ReflTransGen (Round b) first last) :
    Restores first.2 last.2 ∧ owned last.1 = owned first.1 := by
  induction rounds with
  | refl => exact ⟨restores_refl first.2, rfl⟩
  | tail _ next ih =>
    obtain ⟨restores, same⟩ := round _ _ next
    exact ⟨ih.1.trans restores, same.trans ih.2⟩

theorem balanced_of_owned (names : ∀ state, ⟨.block, b.block state⟩ ∈ owned state)
    (init : ∀ books, Undone books (b.captureInit config o books) ∨
      Opened owned books (b.captureInit config o books))
    (round : ∀ before after, Round b before after →
      Restores before.2 after.2 ∧ owned after.1 = owned before.1)
    (closes : ∀ state books r, Held (b.captureCleanup state books).2 r →
      Held books r ∧ r ∉ owned state) : Balanced b config o := by
  constructor
  · intro books ret stored after run
    have outcome := init books
    rw [run] at outcome
    dsimp only [Undone, Opened] at outcome
    rcases outcome with ⟨fails, unset, once⟩ | ⟨succeeds, state, names', opens⟩
    · refine ⟨fun zero => absurd zero fails, fun _ => ⟨once, ?_⟩⟩
      intro state names'
      exact absurd (unset.symm.trans names') (by simp)
    · refine ⟨fun _ => ⟨state, names', ?_⟩, fun fails => absurd succeeds fails⟩
      rw [opens, held_acquires]
      exact Or.inr (names state)
  · intro books stored opened run
    have outcome := init books
    rw [run] at outcome
    dsimp only [Undone, Opened] at outcome
    rcases outcome with ⟨fails, _⟩ | ⟨_, state, names', opens⟩
    · exact absurd rfl fails
    · refine ⟨state, names', ?_⟩
      intro final rounds r held
      obtain ⟨kept, same⟩ := rounds_restore owned round rounds
      obtain ⟨held, other⟩ := closes final.1 final.2 r held
      have before : Held opened r := kept r held
      rw [opens, held_acquires] at before
      rw [same] at other
      exact before.resolve_right other

end Owned

namespace LibGm
open CaptureBackends.LibGm

def owned (state : State) : List (Resource Kind) :=
  [⟨.block, state.block⟩, ⟨.surface, state.surfaceInfo⟩]

theorem captureInit_undone_or_opened (config : CapBackendConfig) (outcome : Int)
    (books : Books) : Undone books (captureInit config outcome books) ∨
      Opened owned books (captureInit config outcome books) := by
  unfold captureInit
  by_cases succeeds : outcome = 0
  · simp [succeeds, Opened, owned]
  · simp [succeeds, Undone, ReleasedOnce]

theorem captureCleanup_closes (state : State) (books : Books) (r : Resource Kind)
    (held : Held (captureCleanup state books).2 r) : Held books r ∧ r ∉ owned state := by
  simp only [captureCleanup, bind_apply, release_apply, pure_apply, held_release] at held
  simp [owned, held]

theorem balanced (config : CapBackendConfig) (outcome : Int) :
    Balanced Shipped.libgm.backend config outcome := by
  apply balanced_of_owned owned
  · intro state
    exact List.mem_cons_self
  · exact captureInit_undone_or_opened config outcome
  · rintro before ⟨state, books⟩ ⟨_, _, _, starts, terminates⟩
    cases starts
    cases terminates
    exact ⟨restores_refl _, rfl⟩
  · exact captureCleanup_closes

end LibGm

namespace LibHalGal
open CaptureBackends.LibHalGal

def owned (this : State) : List (Resource Kind) :=
  [⟨.block, this.block⟩, ⟨.surface, this.surfaceInfo⟩, ⟨.descriptor, this.memFd⟩,
    ⟨.mapping, this.memAddr⟩]

theorem captureInit_undone_or_opened (config : CapBackendConfig) (o : Outcomes)
    (books : Books) (root : o.getuid = 0) : Undone books (captureInit config o books) ∨
      Opened owned books (captureInit config o books) := by
  unfold captureInit errMmap errDestroy
  by_cases init : o.init = 0
  · by_cases surface : o.createSurface = 0
    · by_cases buffer : o.captureFrameBuffer = 0
      · by_cases gfx : o.openGfx = true
        · by_cases mapped : o.mmap = true
          · simp [root, init, surface, buffer, gfx, mapped, Opened, owned]
          · simp [root, init, surface, buffer, gfx, mapped, Undone, ReleasedOnce]
        · simp [root, init, surface, buffer, gfx, Undone, ReleasedOnce]
      · simp [root, init, surface, buffer, Undone, ReleasedOnce]
    · simp [root, init, surface, Undone, ReleasedOnce]
  · simp [root, init, Undone, ReleasedOnce]

theorem captureInit_leaks (config : CapBackendConfig) (o : Outcomes) (books : Books)
    (unprivileged : o.getuid ≠ 0) : captureInit config o books =
      ((-1, none), books ++ [.acquire ⟨.block, fresh books⟩]) := by
  simp [captureInit, unprivileged]

theorem captureCleanup_closes (this : State) (books : Books) (r : Resource Kind)
    (held : Held (captureCleanup this books).2 r) : Held books r ∧ r ∉ owned this := by
  simp only [captureCleanup, bind_apply, release_apply, pure_apply, held_release] at held
  simp [owned, held]

theorem balanced_iff (config : CapBackendConfig) (o : Outcomes) :
    Balanced Shipped.libhalgal.backend config o ↔ o.getuid = 0 := by
  constructor
  · intro balanced
    by_contra unprivileged
    obtain ⟨_, undone⟩ := balanced.1 [] _ _ _ (captureInit_leaks config o [] unprivileged)
    have once := (undone (by decide)).1 ⟨.block, fresh ([] : Books)⟩ (by simp)
    simp at once
  · intro root
    apply balanced_of_owned owned
    · intro this
      exact List.mem_cons_self
    · intro books
      exact captureInit_undone_or_opened config o books root
    · rintro before ⟨this, books⟩ ⟨_, _, _, starts, terminates⟩
      cases starts
      cases terminates
      exact ⟨restores_refl _, rfl⟩
    · exact captureCleanup_closes

end LibHalGal

namespace LibVtCapture
open CaptureBackends.LibVtCapture

def owned (self : State) : List (Resource Kind) :=
  [⟨.block, self.block⟩, ⟨.driver, self.driver⟩]

theorem captureInit_undone_or_opened (config : CapBackendConfig) (create : Create)
    (books : Books) (returns : create ≠ .runtimeError) :
    Undone books (captureInit config create books) ∨
      Opened owned books (captureInit config create books) := by
  unfold captureInit errDestroy
  cases create with
  | runtimeError => exact absurd rfl returns
  | null => simp [Undone, ReleasedOnce]
  | driver => simp [Opened, owned]

theorem captureStart_succeeds {o : StartOutcomes} {self started : State} {books after : Books}
    (starts : captureStart o self books = ((0, started), after)) :
    owned started = owned self ∧ after = books ++ [.acquire ⟨.client, started.client⟩] ++
      [.acquire ⟨.preprocess, started.client⟩] ++ [.acquire ⟨.process, started.client⟩] := by
  unfold captureStart at starts
  by_cases busy : o.init = 17
  · simp [busy] at starts
  by_cases denied : o.init = 11
  · simp [denied] at starts
  by_cases init : o.init = 0
  · by_cases preprocess : o.preprocess = 0
    · by_cases planeInfo : o.planeInfo = 0
      · by_cases process : o.process = 0
        · simp [init, preprocess, planeInfo, process] at starts
          obtain ⟨rfl, rfl⟩ := starts
          simp [owned]
        · simp [init, preprocess, planeInfo, process] at starts
      · simp [init, preprocess, planeInfo] at starts
    · simp [init, preprocess] at starts
      split at starts <;> simp at starts
  · simp [busy, denied, init] at starts

theorem captureTerminate_closes {self after : State} {books final : Books}
    (terminates : captureTerminate self books = ((0, after), final)) :
    owned after = owned self ∧ final = books ++ [.release ⟨.process, self.client⟩] ++
      [.release ⟨.preprocess, self.client⟩] ++ [.release ⟨.client, self.client⟩] := by
  cases terminates
  exact ⟨rfl, rfl⟩

theorem round_restores {before after : State × Books}
    (round : Round Shipped.libvtcapture.backend before after) :
    Restores before.2 after.2 ∧ owned after.1 = owned before.1 := by
  obtain ⟨_, started, books, starts, terminates⟩ := round
  obtain ⟨kept, took⟩ := captureStart_succeeds starts
  obtain ⟨same, gave⟩ := captureTerminate_closes terminates
  refine ⟨?_, same.trans kept⟩
  intro r held
  rw [gave, took] at held
  simp only [held_release, held_acquire] at held
  obtain ⟨client, preprocess, process, eq | eq | eq | held⟩ := held
  · exact absurd eq process
  · exact absurd eq preprocess
  · exact absurd eq client
  · exact held

theorem captureCleanup_closes (self : State) (books : Books) (r : Resource Kind)
    (held : Held (captureCleanup self books).2 r) : Held books r ∧ r ∉ owned self := by
  simp only [captureCleanup, bind_apply, release_apply, pure_apply, held_release] at held
  simp [owned, held]

theorem balanced_iff (config : CapBackendConfig) (create : Create) :
    Balanced Shipped.libvtcapture.backend config create ↔ create ≠ .runtimeError := by
  constructor
  · rintro balanced rfl
    obtain ⟨live, _⟩ := balanced.1 [] 0 none _ rfl
    obtain ⟨state, names, _⟩ := live rfl
    simp at names
  · intro returns
    apply balanced_of_owned owned
    · intro self
      exact List.mem_cons_self
    · intro books
      exact captureInit_undone_or_opened config create books returns
    · intro before after round
      exact round_restores round
    · exact captureCleanup_closes

end LibVtCapture

namespace LibDileVt
open CaptureBackends.LibDileVt

theorem gathers_callocRows (vfbs : Nat) : Gathers (callocRows vfbs) := by
  induction vfbs with
  | zero => exact gathers_pure ()
  | succ vfbs ih => exact (gathers_acquire .block).bind fun _ => ih

theorem gathers_mapPlanes (mmap : Nat → Bool) (planes : List Nat) :
    Gathers (mapPlanes mmap planes) := by
  induction planes with
  | nil => exact gathers_pure true
  | cons plane planes ih =>
    rw [mapPlanes]
    split
    · exact (gathers_acquire .mapping).bind fun _ => ih
    · exact gathers_pure false

theorem gathers_mapVfbs (mmap : Nat → Nat → Bool) (planes vfbs : List Nat) :
    Gathers (mapVfbs mmap planes vfbs) := by
  induction vfbs with
  | nil => exact gathers_pure true
  | cons vfb vfbs ih =>
    rw [mapVfbs]
    refine (gathers_acquire Kind.block).bind fun _ => ?_
    refine (gathers_mapPlanes (mmap vfb) planes).bind fun mapped => ?_
    cases mapped
    · exact gathers_pure false
    · exact ih

/-- A failed init whose `*state_p` names the block it freed. -/
def Dangles (books : Books) (result : (Int × Option State) × Books) : Prop :=
  result.1.1 ≠ 0 ∧ ∃ this, result.1.2 = some this ∧
    .release ⟨.block, this.block⟩ ∈ result.2.drop books.length

def OpenedMem (books : Books) (result : (Int × Option State) × Books) : Prop :=
  result.1.1 = 0 ∧ ∃ this, result.1.2 = some this ∧ fresh books ≤ this.memFd ∧
    Held result.2 ⟨.descriptor, this.memFd⟩

theorem errDestroy_dangles (this : State) {ret : Int} {books reached : Books}
    (before : books <+: reached) (fails : ret ≠ 0) :
    Dangles books (errDestroy this ret reached) := by
  obtain ⟨during, rfl⟩ := before
  refine ⟨fails, this, rfl, ?_⟩
  simp [errDestroy]

theorem errMmap_dangles (this : State) {ret : Int} {books reached : Books}
    (before : books <+: reached) (fails : ret ≠ 0) :
    Dangles books (errMmap this ret reached) :=
  errDestroy_dangles this (before.trans (List.prefix_append _ _)) fails

def Loses (books : Books) (result : (Int × Option State) × Books) : Prop :=
  Dangles books result ∨ OpenedMem books result

theorem captureInit_loses (config : CapBackendConfig) (o : Outcomes) (books : Books)
    (created : createsContext config o = true) :
    Loses books (captureInit config o books) := by
  unfold captureInit
  rw [created, if_neg (by decide)]
  dsimp only
  apply acquire_elim
  intro vth opened context _ _
  apply acquire_elim
  intro block allocated grown _ _
  have toBlock : Grown books allocated := context.trans grown
  rw [ite_run]
  split
  · exact Or.inl (errDestroy_dangles _ toBlock.isPrefix ‹_›)
  apply acquire_elim
  intro ptr table grown _ _
  have toTable : Grown books table := toBlock.trans grown
  apply (gathers_callocRows o.numVfbs).elim
  intro _ rows grown
  have toRows : Grown books rows := toTable.trans grown
  rw [ite_run]
  split
  · exact Or.inl (errDestroy_dangles _ toRows.isPrefix (by decide))
  rw [ite_run]
  split
  · exact Or.inl (errDestroy_dangles _ toRows.isPrefix (by decide))
  apply acquire_elim
  intro memFd mem toMem new held
  apply acquire_elim
  intro vfbs buffers toBuffers _ _
  apply (gathers_mapVfbs o.mmap (List.range o.numPlanes) (List.range o.numVfbs)).elim
  intro mapped final toFinal
  rw [ite_run]
  split
  · refine Or.inl (errMmap_dangles _ ?_ (by decide))
    exact (toRows.trans (toMem.trans (toBuffers.trans toFinal))).isPrefix
  · refine Or.inr ⟨rfl, _, rfl, Nat.le_trans toRows.fresh_le new, ?_⟩
    exact toFinal.held (toBuffers.held held)

theorem captureCleanup_keepsMem (this : State) (books : Books)
    (held : Held books ⟨.descriptor, this.memFd⟩) :
    Held (captureCleanup this books).2 ⟨.descriptor, this.memFd⟩ := by
  simp only [captureCleanup, bind_apply, release_apply, pure_apply, held_release]
  exact ⟨by simp, by simp, held⟩

theorem balanced_iff (config : CapBackendConfig) (o : Outcomes) :
    Balanced Shipped.libdileVt.backend config o ↔ createsContext config o = false := by
  constructor
  · rintro ⟨allOrNothing, undoes⟩
    by_contra created
    rw [Bool.not_eq_false] at created
    rcases captureInit_loses config o [] created with dangles | opened
    · obtain ⟨fails, this, names, released⟩ := dangles
      obtain ⟨_, clean⟩ := allOrNothing [] _ _ _ rfl
      exact (clean fails).2 this names released
    · obtain ⟨succeeds, this, names, new, held⟩ := opened
      obtain ⟨state, names', restores⟩ :=
        undoes [] _ _ (Prod.ext (Prod.ext succeeds rfl) rfl)
      cases names.symm.trans names'
      have back : Held ([] : Books) ⟨.descriptor, this.memFd⟩ :=
        restores _ .refl _ (captureCleanup_keepsMem this _ held)
      exact not_held_fresh _ new back
  · intro absent
    have untouched : ∀ books, captureInit config o books = ((-1, none), books) := by
      intro books
      rw [captureInit, if_pos absent]
      rfl
    constructor
    · intro books ret stored after run
      cases (untouched books).symm.trans run
      refine ⟨fun zero => absurd zero (by decide), fun _ => ⟨?_, by simp⟩⟩
      simp [ReleasedOnce]
    · intro books stored opened run
      have fails : (-1 : Int) = 0 :=
        congrArg (fun result => result.1.1) ((untouched books).symm.trans run)
      exact absurd fails (by decide)

end LibDileVt

/-- Whatever its native calls answer, a shipped backend is all or nothing and undone by its
cleanup exactly on these outcomes. -/
theorem init_and_cleanup_balanced_iff (b : Shipped) (config : CapBackendConfig)
    (o : b.backend.Outcomes) : Balanced b.backend config o ↔ KeepsBooks b config o := by
  cases b with
  | libdileVt => exact LibDileVt.balanced_iff config o
  | libvtcapture => exact LibVtCapture.balanced_iff config o
  | libgm => exact iff_of_true (LibGm.balanced config o) trivial
  | libhalgal => exact LibHalGal.balanced_iff config o

/-- The device refuses its limitation: `*state_p` is left at the freed block. -/
def limitationRefused : LibDileVt.Outcomes where
  create := true
  createEx := true
  limitation := -1
  dumpLocation _ := 0
  outputRegion _ := 0
  framerateDivide := 0
  freezed := 0
  capability := 0
  numVfbs := 3
  numPlanes := 2
  allProperties := 0
  openMem := true
  mmap _ _ := true

theorem init_leaves_freed_state :
    ¬ Balanced Shipped.libdileVt.backend ⟨360, 180, 30, 0⟩ limitationRefused := by
  rintro ⟨allOrNothing, _⟩
  obtain ⟨_, clean⟩ := allOrNothing [] (-11) _ _ rfl
  obtain ⟨_, kept⟩ := clean (by decide)
  exact kept _ rfl (by decide)

end HyperionWebos.BackendResources
