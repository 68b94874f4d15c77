import HyperionWebos.FrameAccounting
import HyperionWebos.LastWriter

/-! The dumps of frames under /tmp. With `dump_frames` the capture thread writes every
thirtieth frame it sends to one of ten files in turn, before the callback gets it. The files
then hold the last ten frames dumped; a file that cannot be opened ends the process. -/

namespace HyperionWebos.FrameDumps
open Runs Unicapture ByteBlocks FrameConversion FrameBlend CaptureLoop LastWriter
open FrameAccounting

/-- `snprintf` with `%03d`. -/
def padded (n : Int) : String :=
  let sign := if n < 0 then "-" else ""
  let digits := toString n.natAbs
  sign ++ String.ofList (List.replicate (3 - sign.length - digits.length) '0') ++ digits

/-- `(int)(framecounter / 30) % 10`. -/
def dumpNumber (framecounter : UInt64) : Int := (wrap (framecounter / 30).toNat).tmod 10

def filename (framecounter : UInt64) : String :=
  "/tmp/hyperion-webos-dump." ++ padded (dumpNumber framecounter) ++ ".data"

/-- What `fopen` and `fwrite` make of a dump; nobody looks at what they return. -/
inductive DumpOutcome where
  | unopened
  | cut (count : Nat)
  | whole
deriving DecidableEq, Repr

/-- A cut dump misses at least its last byte. -/
def DumpOutcome.written (bytes : List UInt8) : DumpOutcome → Option (List UInt8)
  | .unopened => none
  | .cut count => some (bytes.take (min count (bytes.length - 1)))
  | .whole => some bytes

structure Dumping where
  loop : Loop
  files : String → Option (List UInt8)

structure DumpIteration where
  frames : FrameIteration
  outcome : DumpOutcome

inductive Crash where
  | memory (f : Fault)
  | nullStream
deriving DecidableEq, Repr

/-- The frame that an iteration has got when it comes to the dump. -/
def frameOf (yuv : Libyuv) (lutTable : Option Memory) (l : Loop) (it : FrameIteration) :
    Except Fault (Option Delivery) := do
  let (lastStart, c) := attemptStart it.toIteration .ui l.lastStart l.capture
  let (_, c) := attemptStart it.toIteration .video lastStart c
  let (uiFormat, c) := acquireUi it.toIteration c
  let (videoFormat, _) := acquireVideo it.toIteration c
  let (_, delivery) ← processFramesOver yuv lutTable it.beyond l.buffers
    { it.frame .ui with pixelFormat := uiFormat }
    { it.frame .video with pixelFormat := videoFormat }
  .ok delivery

/-- The `3 * width * height` bytes of `final_frame`. -/
def frameBytes (frame : Delivery) : List UInt8 :=
  (List.range (wrap (wrap (3 * frame.width) * frame.height)).toNat).map frame.rgbData.bytes

def dump (dumpFrames : Bool) (framecounter : UInt64) (delivery : Option Delivery)
    (outcome : DumpOutcome) (files : String → Option (List UInt8)) :
    Except Crash (String → Option (List UInt8)) :=
  match delivery with
  | none => .ok files
  | some frame =>
    if dumpFrames ∧ framecounter % 30 = 0 then
      match outcome.written (frameBytes frame) with
      | none => .error .nullStream
      | some bytes => .ok (Function.update files (filename framecounter) (some bytes))
    else .ok files

/-- An iteration with its dump; what it does after the dump stands in `loopIteration`. -/
def dumpIteration (yuv : Libyuv) (lutTable : Option Memory) (dumpFrames : Bool) (d : Dumping)
    (it : DumpIteration) : Except Crash Dumping := do
  let delivery ← (frameOf yuv lutTable d.loop it.frames).mapError .memory
  let files ← dump dumpFrames d.loop.framecounter delivery it.outcome d.files
  let loop ← (loopIteration yuv lutTable true d.loop it.frames).mapError .memory
  .ok ⟨loop, files⟩

/-! ### One iteration -/

section Iteration

variable {yuv : Libyuv} {lutTable : Option Memory} {dumpFrames : Bool} {d d' : Dumping}
  {it : DumpIteration} {l l' : Loop}

theorem mapError_eq_ok {ε ε' α : Type} {f : ε → ε'} {x : Except ε α} {a : α} :
    x.mapError f = .ok a ↔ x = .ok a := by
  cases x <;> simp [Except.mapError]

theorem written_eq_none {bytes : List UInt8} {o : DumpOutcome} :
    o.written bytes = none ↔ o = .unopened := by
  cases o <;> simp [DumpOutcome.written]

theorem loopIteration_sends {frames : FrameIteration} {delivery : Option Delivery}
    (got : frameOf yuv lutTable l frames = .ok delivery)
    (ran : loopIteration yuv lutTable true l frames = .ok l') :
    l'.sent = l.sent ++ delivery.toList ∧
      l'.framecounter = if delivery.isSome then l.framecounter + 1 else l.framecounter := by
  unfold frameOf at got
  unfold loopIteration at ran
  obtain ⟨r, processed, same⟩ := bind_eq_ok.mp got
  obtain ⟨r', processed', done⟩ := bind_eq_ok.mp ran
  rw [processed] at processed'
  cases processed'
  cases same
  cases done
  exact ⟨rfl, rfl⟩

theorem frameOf_runs {frames : FrameIteration}
    (ran : loopIteration yuv lutTable true l frames = .ok l') :
    ∃ delivery, frameOf yuv lutTable l frames = .ok delivery := by
  unfold loopIteration at ran
  obtain ⟨r, processed, -⟩ := bind_eq_ok.mp ran
  exact ⟨r.2, bind_eq_ok.mpr ⟨r, processed, rfl⟩⟩

theorem dump_runs (dumpFrames : Bool) (framecounter : UInt64) (delivery : Option Delivery)
    (outcome : DumpOutcome) (files : String → Option (List UInt8)) :
    (∃ files', dump dumpFrames framecounter delivery outcome files = .ok files') ∨
      outcome = .unopened ∧
        dump dumpFrames framecounter delivery outcome files = .error .nullStream := by
  unfold dump
  cases delivery with
  | none => exact Or.inl ⟨_, rfl⟩
  | some frame =>
    dsimp only
    split
    · cases made : outcome.written (frameBytes frame) with
      | none => exact Or.inr ⟨written_eq_none.mp made, rfl⟩
      | some bytes => exact Or.inl ⟨_, rfl⟩
    · exact Or.inl ⟨_, rfl⟩

theorem dumpIteration_eq_ok : dumpIteration yuv lutTable dumpFrames d it = .ok d' ↔
    ∃ delivery, frameOf yuv lutTable d.loop it.frames = .ok delivery ∧
      dump dumpFrames d.loop.framecounter delivery it.outcome d.files = .ok d'.files ∧
      loopIteration yuv lutTable true d.loop it.frames = .ok d'.loop := by
  simp only [dumpIteration, bind_eq_ok, mapError_eq_ok]
  constructor
  · rintro ⟨delivery, got, files, dumped, loop, ran, done⟩
    cases done
    exact ⟨delivery, got, dumped, ran⟩
  · rintro ⟨delivery, got, dumped, ran⟩
    exact ⟨delivery, got, d'.files, dumped, d'.loop, ran, rfl⟩

theorem dumpIteration_runs (ran : loopIteration yuv lutTable true d.loop it.frames = .ok l') :
    (∃ files', dumpIteration yuv lutTable dumpFrames d it = .ok ⟨l', files'⟩) ∨
      it.outcome = .unopened ∧ dumpIteration yuv lutTable dumpFrames d it = .error .nullStream := by
  obtain ⟨delivery, got⟩ := frameOf_runs ran
  rcases dump_runs dumpFrames d.loop.framecounter delivery it.outcome d.files with
    ⟨files', dumped⟩ | ⟨refused, failed⟩
  · exact Or.inl ⟨files', dumpIteration_eq_ok.mpr ⟨delivery, got, dumped, ran⟩⟩
  · refine Or.inr ⟨refused, ?_⟩
    rw [dumpIteration, mapError_eq_ok.mpr got, ok_bind, failed, error_bind]

theorem dumps_run (dumpFrames : Bool) (d : Dumping) {its : List DumpIteration}
    (ran : run (loopIteration yuv lutTable true) d.loop (its.map (·.frames)) = .ok l') :
    (∃ files', run (dumpIteration yuv lutTable dumpFrames) d its = .ok ⟨l', files'⟩) ∨
      (∃ it ∈ its, it.outcome = .unopened) ∧
        run (dumpIteration yuv lutTable dumpFrames) d its = .error .nullStream := by
  induction its generalizing d with
  | nil =>
    cases ran
    exact Or.inl ⟨d.files, rfl⟩
  | cons it its ih =>
    rw [List.map_cons] at ran
    obtain ⟨l₁, taken, rest⟩ := run_cons_ok.mp ran
    rcases dumpIteration_runs taken with ⟨files', first⟩ | ⟨refused, failed⟩
    · rw [run, first, ok_bind]
      rcases ih ⟨l₁, files'⟩ rest with ends | ⟨⟨it', member, refused⟩, failed⟩
      · exact Or.inl ends
      · exact Or.inr ⟨⟨it', List.mem_cons_of_mem it member, refused⟩, failed⟩
    · refine Or.inr ⟨⟨it, List.mem_cons_self, refused⟩, ?_⟩
      rw [run, failed, error_bind]

end Iteration

/-! ### The bytes -/

theorem wrap_triple (width height : Int) :
    wrap (wrap (3 * width) * height) = wrap (wrap (width * height) * 3) := by
  unfold wrap
  rw [Int.bmod_mul_bmod, Int.bmod_mul_bmod]
  congr 1
  ring

def Whole (frame : Delivery) : Prop := (frameBytes frame).length = frame.rgbData.size

section Sizes

variable {yuv : Libyuv} {lutTable : Option Memory} {s s' : Buffers} {frame : Delivery}

theorem whole_of_size
    (size : frame.rgbData.size = (wrap (wrap (frame.width * frame.height) * 3)).toNat) :
    Whole frame := by
  rw [Whole, frameBytes, List.length_map, List.length_range, wrap_triple, size]

theorem sendOne_whole {output : FrameInfo Block}
    (ran : sendOne yuv s output = .ok (s', some frame)) : Whole frame := by
  obtain ⟨final₀, given, ran⟩ := bind_eq_ok.mp ran
  obtain ⟨final, packed, done⟩ := bind_eq_ok.mp ran
  cases done
  refine whole_of_size ?_
  rw [draw_size packed, ← Block.realloc_size given, Int.toNat_natCast]

theorem processFramesOver_whole {beyond : Beyond} {ui video : FrameInfo Memory}
    (ran : processFramesOver yuv lutTable beyond s ui video = .ok (s', some frame)) :
    Whole frame := by
  obtain ⟨cu, -, ran⟩ := bind_eq_ok.mp ran
  obtain ⟨cv, -, sent⟩ := bind_eq_ok.mp ran
  unfold sendFramesOver at sent
  split at sent
  · obtain ⟨blended₀, -, sent⟩ := bind_eq_ok.mp sent
    obtain ⟨final₀, given, sent⟩ := bind_eq_ok.mp sent
    obtain ⟨blended, -, sent⟩ := bind_eq_ok.mp sent
    obtain ⟨final, packed, done⟩ := bind_eq_ok.mp sent
    cases done
    refine whole_of_size ?_
    rw [draw_size packed, ← Block.realloc_size given, Int.toNat_natCast]
  · next notBoth =>
    unfold sendFrames at sent
    rw [if_neg notBoth] at sent
    split at sent
    · exact sendOne_whole sent
    · split at sent
      · exact sendOne_whole sent
      · cases sent

theorem frameOf_whole {l : Loop} {it : FrameIteration}
    (got : frameOf yuv lutTable l it = .ok (some frame)) : Whole frame := by
  obtain ⟨⟨s', delivery⟩, processed, same⟩ := bind_eq_ok.mp got
  cases same
  exact processFramesOver_whole processed

end Sizes

/-! ### The files of a run -/

/-- The frames sent, each with what became of a dump in its iteration. -/
def outcomes (sent : List (Delivery × DumpOutcome)) (d : Dumping) (it : DumpIteration)
    (d' : Dumping) : List (Delivery × DumpOutcome) :=
  sent ++ (d'.loop.sent.drop d.loop.sent.length).map fun frame => (frame, it.outcome)

def Due (dumpFrames : Bool) (n : Nat) : Prop := dumpFrames ∧ UInt64.ofNat n % 30 = 0

instance (dumpFrames : Bool) (n : Nat) : Decidable (Due dumpFrames n) :=
  inferInstanceAs (Decidable (_ ∧ _))

def writes (dumpFrames : Bool) (f : String) (sent : (Delivery × DumpOutcome) × Nat) :
    Option (List UInt8) :=
  if Due dumpFrames sent.2 ∧ filename (UInt64.ofNat sent.2) = f then
    sent.1.2.written (frameBytes sent.1.1)
  else none

/-- The counter is the number of frames sent, and each file holds what was written last. -/
structure Written (dumpFrames : Bool) (before : String → Option (List UInt8))
    (p : Dumping × List (Delivery × DumpOutcome)) : Prop where
  sent : p.2.map Prod.fst = p.1.loop.sent
  counted : p.1.loop.framecounter = UInt64.ofNat p.2.length
  whole : ∀ frame ∈ p.1.loop.sent, Whole frame
  opened : ∀ u ∈ p.2.zipIdx, Due dumpFrames u.2 → u.1.2 ≠ .unopened
  files : ∀ f, p.1.files f = (lastWrite (writes dumpFrames f) p.2.zipIdx).or (before f)

theorem dump_files {dumpFrames : Bool} {outcome : DumpOutcome} {framecounter : UInt64}
    {frame : Delivery} {n : Nat} {files files' : String → Option (List UInt8)}
    (counted : framecounter = UInt64.ofNat n)
    (dumped : dump dumpFrames framecounter (some frame) outcome files = .ok files') :
    (Due dumpFrames n → outcome ≠ .unopened) ∧
      ∀ f, files' f = (writes dumpFrames f ((frame, outcome), n)).or (files f) := by
  subst counted
  unfold dump at dumped
  unfold writes
  dsimp only at dumped ⊢
  split at dumped
  · next due =>
    cases made : outcome.written (frameBytes frame) with
    | none =>
      rw [made] at dumped
      cases dumped
    | some bytes =>
      rw [made] at dumped
      cases dumped
      refine ⟨fun _ closed => ?_, fun f => ?_⟩
      · rw [written_eq_none.mpr closed] at made
        cases made
      · by_cases same : filename (UInt64.ofNat n) = f
        · rw [if_pos ⟨due, same⟩, ← same, Function.update_self, Option.some_or]
        · rw [if_neg fun all => same all.2, Function.update_of_ne (Ne.symm same), Option.none_or]
  · next idle =>
    cases dumped
    refine ⟨fun due => absurd due idle, fun f => ?_⟩
    rw [if_neg fun all => idle all.1, Option.none_or]

theorem dumpIteration_written {yuv : Libyuv} {lutTable : Option Memory} {dumpFrames : Bool}
    {before : String → Option (List UInt8)} {p q : Dumping × List (Delivery × DumpOutcome)}
    {it : DumpIteration}
    (ran : watched (dumpIteration yuv lutTable dumpFrames) outcomes p it = .ok q)
    (here : Written dumpFrames before p) : Written dumpFrames before q := by
  obtain ⟨d, sent⟩ := p
  obtain ⟨d', sent'⟩ := q
  obtain ⟨ran, seen⟩ := watched_ok.mp ran
  obtain ⟨delivery, got, dumped, looped⟩ := dumpIteration_eq_ok.mp ran
  obtain ⟨more, counted⟩ := loopIteration_sends got looped
  dsimp only at seen more counted dumped
  rw [outcomes, more, List.drop_left] at seen
  cases delivery with
  | none =>
    have kept : d.files = d'.files := Except.ok.inj dumped
    rw [Option.toList_none, List.map_nil, List.append_nil] at seen
    rw [Option.toList_none, List.append_nil] at more
    subst seen
    refine ⟨?_, ?_, ?_, here.opened, fun f => ?_⟩
    · rw [more]
      exact here.sent
    · rw [counted]
      exact here.counted
    · rw [more]
      exact here.whole
    · rw [← kept]
      exact here.files f
  | some frame =>
    obtain ⟨opens, files⟩ := dump_files here.counted dumped
    rw [Option.toList_some, List.map_singleton] at seen
    rw [Option.toList_some] at more
    subst seen
    refine ⟨?_, ?_, ?_, ?_, fun f => ?_⟩
    · rw [List.map_append, more, here.sent]
      rfl
    · rw [counted, List.length_append, List.length_singleton, UInt64.ofNat_add, ← here.counted]
      rfl
    · rw [more]
      intro frame' member
      rcases List.mem_append.mp member with old | new
      · exact here.whole frame' old
      · rw [List.mem_singleton.mp new]
        exact frameOf_whole got
    · rw [List.zipIdx_append, Nat.zero_add, List.zipIdx_singleton]
      intro u member
      rcases List.mem_append.mp member with old | new
      · exact here.opened u old
      · rw [List.mem_singleton.mp new]
        exact opens
    · rw [files f, here.files f, List.zipIdx_append, lastWrite_append, Nat.zero_add,
        List.zipIdx_singleton, Option.or_assoc]
      rfl

/-! ### The names -/

theorem dumpNumber_range (framecounter : UInt64) :
    -10 < dumpNumber framecounter ∧ dumpNumber framecounter < 10 := by
  unfold dumpNumber
  constructor
  · exact Int.lt_tmod_of_pos _ (by decide)
  · exact Int.tmod_lt_of_pos _ (by decide)

theorem padded_nodup : ((List.range 19).map fun n : Nat => padded (n - 9)).Nodup := by decide

theorem padded_inj {m n : Int} (first : -10 < m ∧ m < 10) (second : -10 < n ∧ n < 10)
    (same : padded m = padded n) : m = n := by
  have injective := List.inj_on_of_nodup_map padded_nodup
  have place {k : Int} (range : -10 < k ∧ k < 10) : (k + 9).toNat ∈ List.range 19 := by
    rw [List.mem_range]
    omega
  have shifted {k : Int} (range : -10 < k ∧ k < 10) : ((k + 9).toNat : Int) - 9 = k := by omega
  have equal := injective (place first) (place second) (by
    rw [shifted first, shifted second]
    exact same)
  omega

theorem filename_inj {i j : UInt64} (same : filename i = filename j) :
    dumpNumber i = dumpNumber j := by
  unfold filename at same
  rw [String.append_left_inj, String.append_right_inj] at same
  exact padded_inj (dumpNumber_range i) (dumpNumber_range j) same

/-- Ten numbers in a row are told apart, also where the cast to `int` turns negative. -/
theorem tmod_apart {i j : Nat} (less : i < j) (near : j < i + 10) :
    (wrap i).tmod 10 ≠ (wrap j).tmod 10 := by
  rw [Int.tmod_eq_emod, Int.tmod_eq_emod, wrap_eq, wrap_eq]
  -- between them the cast turns over once at most
  have turns : ((j : Int) + 2147483648) / 4294967296 = (i + 2147483648) / 4294967296 ∨
      ((j : Int) + 2147483648) / 4294967296 = (i + 2147483648) / 4294967296 + 1 := by omega
  rcases turns with same | next
  · rw [same]
    split <;> split <;> omega
  · rw [next]
    split <;> split <;> omega

theorem filename_apart {i j : Nat} (less : i < j) (near : j < i + 10)
    (counts : 30 * j < 18446744073709551616) :
    filename (UInt64.ofNat (30 * i)) ≠ filename (UInt64.ofNat (30 * j)) := by
  have number {k : Nat} (small : 30 * k < 18446744073709551616) :
      dumpNumber (UInt64.ofNat (30 * k)) = (wrap k).tmod 10 := by
    have place : (UInt64.ofNat (30 * k) / 30).toNat = k := by
      rw [UInt64.toNat_div, UInt64.toNat_ofNat_of_lt' small]
      exact Nat.mul_div_cancel_left k (by decide)
    rw [dumpNumber, place]
  intro same
  have numbers := filename_inj same
  rw [number (by omega), number counts] at numbers
  exact tmod_apart less near numbers

/-! ### What is left of a run -/

theorem writes_off (f : String) (sent : (Delivery × DumpOutcome) × Nat) :
    writes false f sent = none :=
  if_neg fun all => Bool.false_ne_true all.1.1

theorem due_multiple {j : Nat} (counts : 30 * j < 18446744073709551616) : Due true (30 * j) := by
  refine ⟨rfl, ?_⟩
  rw [← UInt64.toNat_inj, UInt64.toNat_mod, UInt64.toNat_ofNat_of_lt' counts]
  exact Nat.mul_mod_right 30 j

theorem writes_later {u : Delivery × DumpOutcome} {j k n : Nat} (later : 30 * j < k)
    (inside : k < n) (recent : n ≤ 30 * (j + 10)) (counts : n < 18446744073709551616) :
    writes true (filename (UInt64.ofNat (30 * j))) (u, k) = none := by
  refine if_neg ?_
  rintro ⟨⟨-, multiple⟩, same⟩
  dsimp only at multiple same
  rw [← UInt64.toNat_inj, UInt64.toNat_mod, UInt64.toNat_ofNat_of_lt' (inside.trans counts)]
    at multiple
  have place : k = 30 * (k / 30) := (Nat.mul_div_cancel' (Nat.dvd_of_mod_eq_zero multiple)).symm
  rw [place] at same
  exact filename_apart (by omega) (by omega) (by omega) same.symm

section Files

variable {before : String → Option (List UInt8)}
  {p : Dumping × List (Delivery × DumpOutcome)}

theorem Written.silent (here : Written false before p) : p.1.files = before := by
  funext f
  rw [here.files f, lastWrite_silent (writes_off f), Option.none_or]

/-- A file holds what the last dump that went to it has made of its frame. -/
theorem Written.recent (here : Written true before p)
    (counts : p.2.length < 18446744073709551616) {j : Nat} {u : Delivery × DumpOutcome}
    (there : p.2[30 * j]? = some u) (recent : p.2.length ≤ 30 * (j + 10)) :
    u.2 ≠ .unopened ∧
      p.1.files (filename (UInt64.ofNat (30 * j))) = u.2.written (frameBytes u.1) := by
  obtain ⟨inside, -⟩ := List.getElem?_eq_some_iff.mp there
  have due : Due true (30 * j) := due_multiple (inside.trans counts)
  have place : p.2.zipIdx[30 * j]? = some (u, 30 * j) := by
    rw [List.getElem?_zipIdx, there, Nat.zero_add]
    rfl
  have opened : u.2 ≠ .unopened := here.opened (u, 30 * j) (List.mem_of_getElem? place) due
  obtain ⟨bytes, made⟩ : ∃ bytes, u.2.written (frameBytes u.1) = some bytes :=
    Option.ne_none_iff_exists'.mp (mt written_eq_none.mp opened)
  refine ⟨opened, ?_⟩
  rw [here.files, made, lastWrite_of_last place ((if_pos ⟨due, rfl⟩).trans made), Option.some_or]
  rintro k ⟨u', k'⟩ later found
  rw [List.getElem?_zipIdx, Option.map_eq_some_iff] at found
  obtain ⟨_, found, same⟩ := found
  cases same
  rw [Nat.zero_add]
  exact writes_later later (List.getElem?_eq_some_iff.mp found).1 recent counts

end Files

/-- With the dumps the thread sends what it sends without them, unless a file cannot be opened.
Each of the last ten frames dumped has a file of its own, and stands there whole where the disk
took it. -/
theorem dumps_kept (yuv : Libyuv) (lutTable : Option Memory) (dumpFrames : Bool) (c : Capture)
    (files : String → Option (List UInt8)) (its : List DumpIteration) (l : Loop)
    (ran : run (loopIteration yuv lutTable true) (Loop.start c) (its.map (·.frames)) = .ok l) :
    (∃ files' sent, run (watched (dumpIteration yuv lutTable dumpFrames) outcomes)
        (⟨Loop.start c, files⟩, []) its = .ok (⟨l, files'⟩, sent) ∧
      sent.map Prod.fst = l.sent ∧ (∀ frame ∈ l.sent, Whole frame) ∧
      (dumpFrames = false → files' = files) ∧
      (dumpFrames = true → l.sent.length < 18446744073709551616 →
        ∀ j frame o, sent[30 * j]? = some (frame, o) → l.sent.length ≤ 30 * (j + 10) →
          o ≠ .unopened ∧
            files' (filename (UInt64.ofNat (30 * j))) = o.written (frameBytes frame))) ∨
    (∃ it ∈ its, it.outcome = .unopened) ∧
      run (dumpIteration yuv lutTable dumpFrames) ⟨Loop.start c, files⟩ its =
        .error .nullStream := by
  rcases dumps_run dumpFrames ⟨Loop.start c, files⟩ ran with ⟨files', ends⟩ | failed
  · obtain ⟨sent, seen⟩ := watched_of_run outcomes [] ends
    have written : Written dumpFrames files (⟨l, files'⟩, sent) :=
      run_invariant (fun _ _ _ here taken => dumpIteration_written taken here)
        ⟨rfl, rfl, fun _ none => absurd none List.not_mem_nil,
          fun _ none => absurd none List.not_mem_nil, fun _ => rfl⟩ seen
    have count : l.sent.length = sent.length := by
      rw [← written.sent, List.length_map]
    refine Or.inl ⟨files', sent, seen, written.sent, written.whole, fun off => ?_,
      fun on counts j frame o there recent => ?_⟩
    · subst off
      exact written.silent
    · subst on
      rw [count] at counts recent
      exact written.recent counts there recent
  · exact Or.inr failed

/-- The first and the third dump are whole, the second is cut. -/
def dots : List DumpIteration :=
  List.replicate 30 ⟨dot, .whole⟩ ++ List.replicate 30 ⟨dot, .cut 1⟩ ++ [⟨dot, .whole⟩]

theorem dumps_kept_dots : ∃ l files' sent,
    run (watched (dumpIteration greyYuv none true) outcomes)
      (⟨Loop.start bothSides, fun _ => none⟩, []) dots = .ok (⟨l, files'⟩, sent) ∧
    sent.map Prod.snd = dots.map (·.outcome) ∧
    ∀ j < 3, ∃ frame o, sent[30 * j]? = some (frame, o) ∧ (frameBytes frame).length = 3 ∧
      files' (filename (UInt64.ofNat (30 * j))) = o.written (frameBytes frame) := by
  obtain ⟨l, plain, sizes⟩ : ∃ l,
      run (loopIteration greyYuv none true) (Loop.start bothSides) (dots.map (·.frames)) =
        .ok l ∧ l.sent.map (·.rgbData.size) = List.replicate 61 3 :=
    ⟨_, by with_unfolding_all rfl, by with_unfolding_all rfl⟩
  obtain ⟨⟨d, sent⟩, ran, made⟩ : ∃ p : Dumping × List (Delivery × DumpOutcome),
      run (watched (dumpIteration greyYuv none true) outcomes)
        (⟨Loop.start bothSides, fun _ => none⟩, []) dots = .ok p ∧
      p.2.map Prod.snd = dots.map (·.outcome) :=
    ⟨_, by with_unfolding_all rfl, by with_unfolding_all rfl⟩
  have plays := run_watched ran
  rcases dumps_kept greyYuv none true bothSides (fun _ => none) dots l plain with
    ⟨files', _, ends, told, whole, -, kept⟩ | ⟨-, failed⟩
  · rw [ran] at ends
    cases ends
    refine ⟨l, files', sent, ran, made, fun j small => ?_⟩
    have count : l.sent.length = 61 := by
      rw [← List.length_map (·.rgbData.size), sizes, List.length_replicate]
    have inside : 30 * j < sent.length := by
      rw [← List.length_map Prod.fst, told, count]
      omega
    have there : sent[30 * j]? = some sent[30 * j] := List.getElem?_eq_getElem inside
    have member : sent[30 * j].1 ∈ l.sent := told ▸ List.mem_map_of_mem (List.getElem_mem inside)
    refine ⟨sent[30 * j].1, sent[30 * j].2, there, ?_,
      (kept rfl (by omega) j _ _ there (by omega)).2⟩
    rw [whole _ member]
    have size : sent[30 * j].1.rgbData.size ∈ List.replicate 61 3 :=
      sizes ▸ List.mem_map_of_mem member
    exact List.eq_of_mem_replicate size
  · rw [plays] at failed
    cases failed

end HyperionWebos.FrameDumps
