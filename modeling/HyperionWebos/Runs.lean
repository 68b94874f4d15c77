import Mathlib.Data.List.Basic

/-! Runs of a deterministic system whose steps may fail. A failing step ends the
run, so a law about "every state reached" is a law about the steps that succeed.
`Throughout` is that law along one given list of inputs; an exact condition for it
is proved step by step, under an invariant that the law itself may re-establish. -/

namespace HyperionWebos.Runs

variable {σ ε φ τ α β : Type}

theorem bind_eq_ok {x : Except φ α} {f : α → Except φ β} {b : β} :
    x >>= f = .ok b ↔ ∃ a, x = .ok a ∧ f a = .ok b := by
  cases x with
  | error e => simp [bind, Except.bind]
  | ok a => simp [bind, Except.bind]

theorem ok_bind (a : α) (f : α → Except φ β) :
    (Except.ok a : Except φ α) >>= f = f a := rfl

theorem error_bind (e : φ) (f : α → Except φ β) :
    (Except.error e : Except φ α) >>= f = .error e := rfl

theorem ok_ne_error (a : α) (e : φ) : (Except.ok a : Except φ α) ≠ .error e := by simp

def run (step : σ → ε → Except φ σ) : σ → List ε → Except φ σ
  | s, [] => .ok s
  | s, e :: es => step s e >>= fun s' => run step s' es

@[simp] theorem run_nil (step : σ → ε → Except φ σ) (s : σ) : run step s [] = .ok s := rfl

theorem run_cons_ok {step : σ → ε → Except φ σ} {s t : σ} {e : ε} {es : List ε} :
    run step s (e :: es) = .ok t ↔ ∃ s', step s e = .ok s' ∧ run step s' es = .ok t := by
  rw [run, bind_eq_ok]

theorem run_map {step : σ → ε → Except φ σ} (f : α → ε) (s : σ) (es : List α) :
    run step s (es.map f) = run (fun s e => step s (f e)) s es := by
  induction es generalizing s with
  | nil => rfl
  | cons e es ih => simp only [List.map_cons, run, ih]

/-- What every step preserves, every run preserves. -/
theorem run_invariant {step : σ → ε → Except φ σ} {I : σ → Prop}
    (keeps : ∀ s e s', I s → step s e = .ok s' → I s') {s t : σ} {es : List ε}
    (start : I s) (h : run step s es = .ok t) : I t := by
  induction es generalizing s with
  | nil =>
    cases h
    exact start
  | cons e es ih =>
    obtain ⟨s', first, rest⟩ := run_cons_ok.mp h
    exact ih (keeps s e s' start first) rest

theorem run_error {step : σ → ε → Except φ σ} {P : φ → Prop}
    (fails : ∀ s e f, step s e = .error f → P f) {s : σ} {es : List ε} {f : φ}
    (h : run step s es = .error f) : P f := by
  induction es generalizing s with
  | nil => cases h
  | cons e es ih =>
    rw [run] at h
    cases first : step s e with
    | error g =>
      rw [first, error_bind] at h
      cases h
      exact fails s e f first
    | ok t =>
      rw [first, ok_bind] at h
      exact ih h

section Reaches

variable {step : σ → ε → Except φ σ} {s t u : σ}

def Reaches (step : σ → ε → Except φ σ) (s t : σ) : Prop := ∃ es, run step s es = .ok t

theorem reaches_refl : Reaches step s s := ⟨[], rfl⟩

theorem reaches_step {e : ε} (taken : step s e = .ok t) (later : Reaches step t u) :
    Reaches step s u := by
  obtain ⟨es, ends⟩ := later
  exact ⟨e :: es, run_cons_ok.mpr ⟨t, taken, ends⟩⟩

theorem Reaches.trans (first : Reaches step s t) (later : Reaches step t u) :
    Reaches step s u := by
  obtain ⟨es, ends⟩ := first
  induction es generalizing s with
  | nil =>
    cases ends
    exact later
  | cons e es ih =>
    obtain ⟨s', taken, rest⟩ := run_cons_ok.mp ends
    exact reaches_step taken (ih rest)

end Reaches

def Throughout (step : σ → ε → Except φ σ) (R : σ → ε → σ → Prop) : σ → List ε → Prop
  | _, [] => True
  | s, e :: es => ∀ s', step s e = .ok s' → R s e s' ∧ Throughout step R s' es

theorem throughout_iff {step : σ → ε → Except φ σ} {R : σ → ε → σ → Prop} {s : σ} {es : List ε} :
    Throughout step R s es ↔ ∀ pre e post s₁ s₂, es = pre ++ e :: post →
      run step s pre = .ok s₁ → step s₁ e = .ok s₂ → R s₁ e s₂ := by
  induction es generalizing s with
  | nil => simp [Throughout]
  | cons x xs ih =>
    constructor
    · intro law pre e post s₁ s₂ split reach last
      cases pre with
      | nil =>
        obtain ⟨rfl, rfl⟩ := List.cons.inj split
        cases reach
        exact (law s₂ last).1
      | cons y pre =>
        obtain ⟨rfl, rest⟩ := List.cons.inj split
        obtain ⟨m, first, reach⟩ := run_cons_ok.mp reach
        exact ih.mp (law m first).2 pre e post s₁ s₂ rest reach last
    · intro law s' first
      refine ⟨law [] x xs s s' rfl rfl first, ih.mpr ?_⟩
      intro pre e post s₁ s₂ split reach last
      exact law (x :: pre) e post s₁ s₂ (by rw [split]; rfl)
        (run_cons_ok.mpr ⟨s', first, reach⟩) last

theorem throughout_cons {step : σ → ε → Except φ σ} {R : σ → ε → σ → Prop} {s s' : σ} {e : ε}
    {es : List ε} (taken : step s e = .ok s') :
    Throughout step R s (e :: es) ↔ R s e s' ∧ Throughout step R s' es := by
  rw [Throughout, taken]
  simp

/-- Exactness of a stepwise condition: where `C` decides the law `R` from every state
of the invariant and the law gives the invariant back, `C` decides it along every run. -/
theorem throughout_congr {step : σ → ε → Except φ σ} {R C : σ → ε → σ → Prop} {I : σ → Prop}
    (exact_step : ∀ s e s', I s → step s e = .ok s' → (R s e s' ↔ C s e s'))
    (keeps : ∀ s e s', I s → step s e = .ok s' → R s e s' → I s')
    {s : σ} {es : List ε} (start : I s) :
    Throughout step R s es ↔ Throughout step C s es := by
  induction es generalizing s with
  | nil => rfl
  | cons e es ih =>
    refine forall_congr' fun s' => forall_congr' fun first => ?_
    have decided := exact_step s e s' start first
    constructor
    · rintro ⟨law, rest⟩
      exact ⟨decided.mp law, (ih (keeps s e s' start first law)).mp rest⟩
    · rintro ⟨cond, rest⟩
      have law := decided.mpr cond
      exact ⟨law, (ih (keeps s e s' start first law)).mpr rest⟩

theorem throughout_end {step : σ → ε → Except φ σ} {R : σ → ε → σ → Prop} {I : σ → Prop}
    (leads : ∀ s e s', R s e s' → I s') {s t : σ} {es : List ε} (law : Throughout step R s es)
    (start : I s) (h : run step s es = .ok t) : I t := by
  induction es generalizing s with
  | nil =>
    cases h
    exact start
  | cons e es ih =>
    obtain ⟨s', first, rest⟩ := run_cons_ok.mp h
    obtain ⟨here, later⟩ := law s' first
    exact ih later (leads s e s' here) rest

/-- What every step under the law preserves, every run under the law preserves. -/
theorem throughout_invariant {step : σ → ε → Except φ σ} {R : σ → ε → σ → Prop} {I : σ → Prop}
    (keeps : ∀ s e s', I s → R s e s' → step s e = .ok s' → I s') {s t : σ} {es : List ε}
    (law : Throughout step R s es) (start : I s) (h : run step s es = .ok t) : I t := by
  induction es generalizing s with
  | nil =>
    cases h
    exact start
  | cons e es ih =>
    obtain ⟨s', first, rest⟩ := run_cons_ok.mp h
    obtain ⟨here, later⟩ := law s' first
    exact ih later (keeps s e s' start here first) rest

theorem throughout_inputs {step : σ → ε → Except φ σ} {P : ε → Prop} {s : σ} {es : List ε}
    (good : ∀ e ∈ es, P e) : Throughout step (fun _ e _ => P e) s es := by
  induction es generalizing s with
  | nil => trivial
  | cons e es ih =>
    rw [List.forall_mem_cons] at good
    exact fun s' _ => ⟨good.1, ih good.2⟩

theorem run_succeeds {step : σ → ε → Except φ σ} {R : σ → ε → σ → Prop} {I : σ → Prop}
    {P : ε → Prop} (steps : ∀ s e, I s → P e → ∃ s', step s e = .ok s' ∧ R s e s' ∧ I s')
    {s : σ} {es : List ε} (start : I s) (good : ∀ e ∈ es, P e) :
    ∃ t, run step s es = .ok t ∧ Throughout step R s es ∧ I t := by
  induction es generalizing s with
  | nil => exact ⟨s, rfl, trivial, start⟩
  | cons e es ih =>
    obtain ⟨s', taken, law, kept⟩ := steps s e start (good e List.mem_cons_self)
    obtain ⟨t, ends, laws, last⟩ := ih kept fun e' later => good e' (List.mem_cons_of_mem e later)
    refine ⟨t, run_cons_ok.mpr ⟨s', taken, ends⟩, fun s'' taken' => ?_, last⟩
    rw [taken] at taken'
    cases taken'
    exact ⟨law, laws⟩

theorem run_total {step : σ → ε → Except φ σ} (total : ∀ s e, ∃ s', step s e = .ok s') (s : σ)
    (es : List ε) : ∃ t, run step s es = .ok t := by
  induction es generalizing s with
  | nil => exact ⟨s, rfl⟩
  | cons e es ih =>
    obtain ⟨s', taken⟩ := total s e
    obtain ⟨t, ends⟩ := ih s'
    exact ⟨t, run_cons_ok.mpr ⟨s', taken, ends⟩⟩

def Ready (step : σ → ε → Except φ σ) (C : σ → ε → Prop) : σ → List ε → Prop
  | _, [] => True
  | s, e :: es => C s e ∧ ∀ s', step s e = .ok s' → Ready step C s' es

theorem ready_cons {step : σ → ε → Except φ σ} {C : σ → ε → Prop} {s s' : σ} {e : ε} {es : List ε}
    (taken : step s e = .ok s') : Ready step C s (e :: es) ↔ C s e ∧ Ready step C s' es := by
  rw [Ready, taken]
  simp

def Careful (step : σ → ε → Except φ σ) (C : σ → ε → Prop) (s : σ) (es : List ε) : Prop :=
  Throughout step (fun s e _ => C s e) s es

/-- Some careful continuation ends badly. -/
def Doomed (step : σ → ε → Except φ σ) (C : σ → ε → Prop) (Bad : Except φ σ → Prop) (s : σ) :
    Prop :=
  ∃ later, Careful step C s later ∧ Bad (run step s later)

section Hazards

variable {step : σ → ε → Except φ σ} {C : σ → ε → Prop} {Bad : Except φ σ → Prop} {I : σ → Prop}

theorem doomed_now {s : σ} (bad : Bad (.ok s)) : Doomed step C Bad s := ⟨[], trivial, bad⟩

theorem doomed_error {s : σ} {e : ε} {f : φ} (fails : step s e = .error f) (bad : Bad (.error f)) :
    Doomed step C Bad s := by
  refine ⟨[e], ?_, ?_⟩
  · intro t taken
    rw [fails] at taken
    cases taken
  · rw [run, fails, error_bind]
    exact bad

theorem doomed_step {s t : σ} {e : ε} (cond : C s e) (taken : step s e = .ok t)
    (doomed : Doomed step C Bad t) : Doomed step C Bad s := by
  obtain ⟨later, careful, bad⟩ := doomed
  refine ⟨e :: later, ?_, ?_⟩
  · intro t' first
    rw [taken] at first
    cases first
    exact ⟨cond, careful⟩
  · rw [run, taken, ok_bind]
    exact bad

theorem careful_safe (keeps : ∀ s e t, I s → C s e → step s e = .ok t → I t)
    (fine : ∀ s, I s → ¬ Bad (.ok s))
    (fails : ∀ s e f, I s → step s e = .error f → ¬ Bad (.error f))
    {s : σ} {es : List ε} (start : I s) (careful : Careful step C s es) :
    ¬ Bad (run step s es) := by
  induction es generalizing s with
  | nil => exact fine s start
  | cons e es ih =>
    rw [run]
    cases first : step s e with
    | error f => exact fails s e f start first
    | ok t =>
      obtain ⟨cond, rest⟩ := careful t first
      exact ih (keeps s e t start cond first) rest

/-- A condition that keeps runs from ending badly is exact when every step that breaks it
leads to a state some careful continuation of which ends badly. -/
theorem undoomed_iff (keeps : ∀ s e t, I s → C s e → step s e = .ok t → I t)
    (fine : ∀ s, I s → ¬ Bad (.ok s))
    (fails : ∀ s e f, I s → step s e = .error f → ¬ Bad (.error f))
    (trap : ∀ s e t, I s → ¬ C s e → step s e = .ok t → Doomed step C Bad t)
    {s : σ} {es : List ε} (start : I s) :
    Throughout step (fun _ _ t => ¬ Doomed step C Bad t) s es ↔ Careful step C s es := by
  have decided : ∀ s e t, I s → step s e = .ok t → (¬ Doomed step C Bad t ↔ C s e) := by
    intro s e t here taken
    constructor
    · intro safe
      by_contra breaks
      exact safe (trap s e t here breaks taken)
    · rintro cond ⟨later, careful, bad⟩
      exact careful_safe keeps fine fails (keeps s e t here cond taken) careful bad
  exact throughout_congr decided
    (fun s e t here taken safe => keeps s e t here ((decided s e t here taken).mp safe) taken) start

end Hazards

def tracked (step : σ → ε → Except φ σ) (observe : τ → ε → τ) (p : σ × τ) (e : ε) :
    Except φ (σ × τ) :=
  (step p.1 e).map fun s => (s, observe p.2 e)

theorem tracked_ok {step : σ → ε → Except φ σ} {observe : τ → ε → τ} {p q : σ × τ} {e : ε} :
    tracked step observe p e = .ok q ↔ step p.1 e = .ok q.1 ∧ q.2 = observe p.2 e := by
  rcases q with ⟨s, o⟩
  cases h : step p.1 e with
  | error f => simp [tracked, h, Except.map]
  | ok t =>
    simp only [tracked, h, Except.map, Except.ok.injEq, Prod.mk.injEq]
    exact and_congr_right fun _ => eq_comm

theorem run_tracked {step : σ → ε → Except φ σ} {observe : τ → ε → τ} {s t : σ} {o o' : τ}
    {es : List ε} :
    run (tracked step observe) (s, o) es = .ok (t, o') ↔
      run step s es = .ok t ∧ o' = es.foldl observe o := by
  induction es generalizing s o with
  | nil =>
    simp only [run_nil, Except.ok.injEq, Prod.mk.injEq, List.foldl_nil]
    exact and_congr_right fun _ => eq_comm
  | cons e es ih =>
    rw [run_cons_ok, run_cons_ok, List.foldl_cons]
    constructor
    · rintro ⟨⟨m, o₁⟩, first, rest⟩
      obtain ⟨step_ok, rfl⟩ := tracked_ok.mp first
      obtain ⟨reach, rfl⟩ := ih.mp rest
      exact ⟨⟨m, step_ok, reach⟩, rfl⟩
    · rintro ⟨⟨m, step_ok, reach⟩, rfl⟩
      exact ⟨(m, observe o e), tracked_ok.mpr ⟨step_ok, rfl⟩, ih.mpr ⟨reach, rfl⟩⟩

def watched (step : σ → ε → Except φ σ) (observe : τ → σ → ε → σ → τ) (p : σ × τ) (e : ε) :
    Except φ (σ × τ) :=
  (step p.1 e).map fun s => (s, observe p.2 p.1 e s)

theorem watched_ok {step : σ → ε → Except φ σ} {observe : τ → σ → ε → σ → τ} {p q : σ × τ}
    {e : ε} :
    watched step observe p e = .ok q ↔ step p.1 e = .ok q.1 ∧ q.2 = observe p.2 p.1 e q.1 := by
  rcases q with ⟨s, o⟩
  unfold watched
  cases step p.1 e with
  | error f => simp [Except.map]
  | ok t =>
    simp only [Except.map, Except.ok.injEq, Prod.mk.injEq]
    constructor
    · rintro ⟨rfl, seen⟩
      exact ⟨rfl, seen.symm⟩
    · rintro ⟨rfl, seen⟩
      exact ⟨rfl, seen.symm⟩

theorem run_watched {step : σ → ε → Except φ σ} {observe : τ → σ → ε → σ → τ} {p q : σ × τ}
    {es : List ε} (ran : run (watched step observe) p es = .ok q) : run step p.1 es = .ok q.1 := by
  induction es generalizing p with
  | nil =>
    cases ran
    rfl
  | cons e es ih =>
    obtain ⟨p', taken, rest⟩ := run_cons_ok.mp ran
    exact run_cons_ok.mpr ⟨p'.1, (watched_ok.mp taken).1, ih rest⟩

theorem watched_of_run {step : σ → ε → Except φ σ} (observe : τ → σ → ε → σ → τ) {s t : σ}
    {es : List ε} (o : τ) (ran : run step s es = .ok t) :
    ∃ o', run (watched step observe) (s, o) es = .ok (t, o') := by
  induction es generalizing s o with
  | nil =>
    cases ran
    exact ⟨o, rfl⟩
  | cons e es ih =>
    obtain ⟨m, taken, rest⟩ := run_cons_ok.mp ran
    obtain ⟨o', ends⟩ := ih (observe o s e m) rest
    exact ⟨o', run_cons_ok.mpr ⟨(m, observe o s e m), watched_ok.mpr ⟨taken, rfl⟩, ends⟩⟩

end HyperionWebos.Runs
