import HyperionWebos.FrameDelivery

/-! The books of the capture loop. Whatever the backends answer, an iteration releases the
frames it acquired and no other, and calls back once if a frame was converted, with a
buffer in which no byte is older than the iteration. -/

namespace HyperionWebos.FrameAccounting
open Runs Unicapture ByteBlocks FrameConversion FrameBlend Overreads CaptureLoop
  FrameDelivery

/-! ### Calls -/

def frameCalls (side : Side) (calls : List (Side × BackendCall)) : List BackendCall :=
  calls.filterMap fun
    | (s, .acquireFrame ret) => if s = side then some (.acquireFrame ret) else none
    | (s, .releaseFrame) => if s = side then some .releaseFrame else none
    | _ => none

/-- Nothing acquired and nothing released, or one frame acquired and then released. -/
def FramesBalanced (calls : List BackendCall) : Prop :=
  calls = [] ∨ (∃ ret ≠ 0, calls = [.acquireFrame ret]) ∨ calls = [.acquireFrame 0, .releaseFrame]

/-- The format of a side's frame after the calls that may have acquired one. -/
inductive Acquired (it : Iteration) (side : Side) : PixelFormat → List BackendCall → Prop
  | idle : Acquired it side .invalid []
  | failed (error : it.acquire side ≠ 0) :
      Acquired it side .invalid [.acquireFrame (it.acquire side)]
  | held (success : it.acquire side = 0) : Acquired it side (it.format side) [.acquireFrame 0]

section Calls

variable {it : Iteration} {side : Side} {format : PixelFormat} {lastStart : Side → UInt64}
  {c : Capture} {calls later : List (Side × BackendCall)} {calls' : List BackendCall}

theorem frameCalls_append :
    frameCalls side (calls ++ later) = frameCalls side calls ++ frameCalls side later :=
  List.filterMap_append

theorem attemptStart_calls (it : Iteration) (side : Side) (lastStart : Side → UInt64)
    (c : Capture) :
    ∃ during, (attemptStart it side lastStart c).2.calls = c.calls ++ during ∧
      ∀ s, frameCalls s during = [] := by
  unfold attemptStart
  split
  · refine ⟨[(side, .start (it.start side))], ?_, fun s => rfl⟩
    dsimp only
    split <;> rfl
  · exact ⟨[], (List.append_nil _).symm, fun s => rfl⟩

theorem acquireUi_calls (it : Iteration) (c : Capture) :
    ∃ during, (acquireUi it c).2.calls = c.calls ++ during ∧
      Acquired it .ui (acquireUi it c).1 (frameCalls .ui during) ∧
      frameCalls .video during = [] := by
  unfold acquireUi
  split
  · refine ⟨[(.ui, .acquireFrame (it.acquire .ui))], ?_, ?_, rfl⟩
    · dsimp only
      split <;> rfl
    · dsimp only
      split
      · rename_i error
        exact .failed error
      · rename_i success
        have success := not_not.mp success
        rw [success]
        exact .held success
  · exact ⟨[], (List.append_nil _).symm, .idle, rfl⟩

theorem acquireVideo_calls (it : Iteration) (c : Capture) :
    ∃ during, (acquireVideo it c).2.calls = c.calls ++ during ∧
      Acquired it .video (acquireVideo it c).1 (frameCalls .video during) ∧
      frameCalls .ui during = [] := by
  unfold acquireVideo
  split
  · by_cases success : it.acquire .video = 0
    · refine ⟨[(.video, .acquireFrame 0)], ?_, ?_, rfl⟩
      · rw [success]
        rfl
      · rw [if_neg (not_not_intro success)]
        exact .held success
    · have failed := Acquired.failed success
      rw [if_pos success]
      split
      · rename_i stop
        exact ⟨[(.video, .acquireFrame (it.acquire .video)), (.video, .terminate)],
          List.append_assoc _ _ _, failed, rfl⟩
      · exact ⟨[(.video, .acquireFrame (it.acquire .video))], rfl, failed, rfl⟩
  · exact ⟨[], (List.append_nil _).symm, .idle, rfl⟩

theorem release_calls (side : Side) (format : PixelFormat) (c : Capture) :
    ∃ during, (release side format c).calls = c.calls ++ during ∧
      (∀ s ≠ side, frameCalls s during = []) ∧
      frameCalls side during = if format = .invalid then [] else [.releaseFrame] := by
  unfold release
  split
  · rename_i valid
    refine ⟨[(side, .releaseFrame)], rfl, fun s other => ?_, ?_⟩
    · simp only [frameCalls, List.filterMap_cons, List.filterMap_nil, if_neg other.symm]
    · simp only [frameCalls, List.filterMap_cons, List.filterMap_nil, if_pos]
  · rename_i invalid
    rw [if_pos (not_not.mp invalid)]
    exact ⟨[], (List.append_nil _).symm, fun _ _ => rfl, rfl⟩

theorem Acquired.balanced (acquired : Acquired it side format calls')
    (sane : it.acquire side = 0 → it.format side ≠ .invalid) :
    FramesBalanced (calls' ++ if format = .invalid then [] else [.releaseFrame]) := by
  cases acquired with
  | idle => exact .inl rfl
  | failed error => exact .inr (.inl ⟨_, error, rfl⟩)
  | held success =>
    rw [if_neg (sane success)]
    exact .inr (.inr rfl)

end Calls

/-! ### One iteration -/

/-- An iteration up to its frames: the times of the last attempts to start, the formats of
what was acquired, and the capture state. -/
structure Held where
  lastStart : Side → UInt64
  format : Side → PixelFormat
  capture : Capture

def acquireBoth (it : Iteration) (lastStart : Side → UInt64) (c : Capture) : Held :=
  let started := attemptStart it .ui lastStart c
  let started := attemptStart it .video started.1 started.2
  let ui := acquireUi it started.2
  let video := acquireVideo it ui.2
  ⟨started.1, fun | .ui => ui.1 | .video => video.1, video.2⟩

def Held.frame (held : Held) (it : FrameIteration) (side : Side) : FrameInfo Memory :=
  { it.frame side with pixelFormat := held.format side }

def Held.settle (held : Held) (l : Loop) (r : Buffers × Option Delivery) : Loop :=
  ⟨release .video (held.format .video) (release .ui (held.format .ui) held.capture),
    held.lastStart, r.1, if r.2.isSome then l.framecounter + 1 else l.framecounter,
    l.sent ++ r.2.toList⟩

section Iterations

variable {yuv : Libyuv} {lutTable : Option Memory} {l : Loop} {it : FrameIteration}

theorem loopIteration_eq (yuv : Libyuv) (lutTable : Option Memory) (l : Loop)
    (it : FrameIteration) :
    loopIteration yuv lutTable true l it =
      let held := acquireBoth it.toIteration l.lastStart l.capture
      processFramesOver yuv lutTable it.beyond l.buffers (held.frame it .ui)
        (held.frame it .video) >>= fun r => .ok (held.settle l r) := rfl

theorem acquireBoth_calls (it : Iteration) (lastStart : Side → UInt64) (c : Capture) :
    ∃ during, (acquireBoth it lastStart c).capture.calls = c.calls ++ during ∧
      ∀ side, Acquired it side ((acquireBoth it lastStart c).format side)
        (frameCalls side during) := by
  obtain ⟨d₁, calls₁, none₁⟩ := attemptStart_calls it .ui lastStart c
  obtain ⟨d₂, calls₂, none₂⟩ := attemptStart_calls it .video
    (attemptStart it .ui lastStart c).1 (attemptStart it .ui lastStart c).2
  obtain ⟨d₃, calls₃, ui, noVideo⟩ := acquireUi_calls it (attemptStart it .video
    (attemptStart it .ui lastStart c).1 (attemptStart it .ui lastStart c).2).2
  obtain ⟨d₄, calls₄, video, noUi⟩ := acquireVideo_calls it (acquireUi it (attemptStart it .video
    (attemptStart it .ui lastStart c).1 (attemptStart it .ui lastStart c).2).2).2
  refine ⟨d₁ ++ (d₂ ++ (d₃ ++ d₄)), ?_, fun side => ?_⟩
  · rw [calls₃, calls₂, calls₁] at calls₄
    simp only [List.append_assoc] at calls₄
    exact calls₄
  · simp only [frameCalls_append, none₁, none₂, List.nil_append]
    cases side with
    | ui =>
      rw [noUi, List.append_nil]
      exact ui
    | video =>
      rw [noVideo, List.nil_append]
      exact video

theorem settle_calls (held : Held) (l : Loop) (r : Buffers × Option Delivery) :
    ∃ during, (held.settle l r).capture.calls = held.capture.calls ++ during ∧
      ∀ side, frameCalls side during =
        if held.format side = .invalid then [] else [.releaseFrame] := by
  obtain ⟨d₁, calls₁, other₁, ui⟩ := release_calls .ui (held.format .ui) held.capture
  obtain ⟨d₂, calls₂, other₂, video⟩ := release_calls .video (held.format .video)
    (release .ui (held.format .ui) held.capture)
  refine ⟨d₁ ++ d₂, ?_, fun side => ?_⟩
  · rw [calls₁, List.append_assoc] at calls₂
    exact calls₂
  · rw [frameCalls_append]
    cases side with
    | ui => rw [other₂ .ui (by decide), List.append_nil, ui]
    | video => rw [other₁ .video (by decide), List.nil_append, video]

end Iterations

/-! ### The books -/

/-- What the backends fill in when they return 0: a valid format, and a frame whose image
in ARGB has a size that fits in an int. -/
structure Sane (it : FrameIteration) : Prop where
  format : ∀ side, it.acquire side = 0 → (it.frame side).pixelFormat ≠ .invalid
  size : ∀ side, it.acquire side = 0 → 0 ≤ (it.frame side).width ∧ 0 ≤ (it.frame side).height ∧
    4 * ((it.frame side).width * (it.frame side).height) < 2147483648

def conversion (yuv : Libyuv) (l : Loop) (it : FrameIteration) : Side → Except Fault Conversion
  | .ui => converterRunOver yuv it.beyond.ui l.buffers.uiConverter (it.frame .ui) blankFrame .argb
  | .video =>
    converterRunOver yuv it.beyond.video l.buffers.videoConverter (it.frame .video) blankFrame .argb

def Converted (yuv : Libyuv) (l : Loop) (it : FrameIteration)
    (during : List (Side × BackendCall)) (side : Side) : Prop :=
  .acquireFrame 0 ∈ frameCalls side during ∧ ∃ r, conversion yuv l it side = .ok r ∧ r.ret = 0

/-- One call of the callback, with the size of `frame` and a buffer that holds so many
pixels. Whatever the buffers held before the iteration, the call would show the same. -/
def SentOnce (yuv : Libyuv) (lutTable : Option Memory) (l : Loop) (it : FrameIteration)
    (frame : FrameInfo Memory) (sent : List Delivery) : Prop :=
  ∃ d, sent = [d] ∧ d.width = frame.width ∧ d.height = frame.height ∧
    (d.rgbData.size : Int) = 3 * frame.width * frame.height ∧
    ∀ stale : Buffers, ∃ l' d', loopIteration yuv lutTable true { l with buffers := stale } it =
      .ok l' ∧ l'.sent = l.sent ++ [d'] ∧ d'.width = d.width ∧ d'.height = d.height ∧
      d'.rgbData.Same d.rgbData

structure Accounted (yuv : Libyuv) (lutTable : Option Memory) (l : Loop) (it : FrameIteration)
    (l' : Loop) (during : List (Side × BackendCall)) (sent : List Delivery) : Prop where
  calls : l'.capture.calls = l.capture.calls ++ during
  sends : l'.sent = l.sent ++ sent
  balanced : ∀ side, FramesBalanced (frameCalls side during)
  silent : (∀ side, ¬ Converted yuv l it during side) → sent = []
  video : Converted yuv l it during .video → SentOnce yuv lutTable l it (it.frame .video) sent
  ui : Converted yuv l it during .ui → ¬ Converted yuv l it during .video →
    SentOnce yuv lutTable l it (it.frame .ui) sent
  counted : l'.framecounter = l.framecounter + UInt64.ofNat sent.length

section Books

variable {yuv : Libyuv} {lutTable : Option Memory} {l : Loop} {it : FrameIteration}
  {during : List (Side × BackendCall)}

theorem sane_size (sane : Sane it) {side : Side} (acquired : it.acquire side = 0) :
    HasSize (it.frame side) (it.frame side).width.toNat (it.frame side).height.toNat := by
  obtain ⟨columns, rows, fits⟩ := sane.size side acquired
  refine ⟨(Int.toNat_of_nonneg columns).symm, (Int.toNat_of_nonneg rows).symm, ?_⟩
  rw [Int.toNat_of_nonneg columns, Int.toNat_of_nonneg rows]
  exact fits

theorem supported_of_succeeds {whatever : Nat → Nat → Pixel 4} {this : Converter}
    {frame : FrameInfo Memory} {r : Conversion}
    (ran : converterRunOver yuv whatever this frame blankFrame .argb = .ok r)
    (success : r.ret = 0) : Supported frame.pixelFormat := by
  by_cases split : frame.pixelFormat = .yuv422SemiPlanar
  · exact .inr (.inr (.inr split))
  · rw [converterRunOver_eq split] at ran
    exact supported_of_success ran success

theorem conversion_succeeds_iff (sane : Sane it) {side : Side}
    (acquired : it.acquire side = 0) :
    (∃ r, conversion yuv l it side = .ok r ∧ r.ret = 0) ↔
      Supported (it.frame side).pixelFormat := by
  obtain ⟨width, height, fits⟩ := sane_size sane acquired
  constructor
  · rintro ⟨r, ran, success⟩
    cases side with
    | ui => exact supported_of_succeeds ran success
    | video => exact supported_of_succeeds ran success
  · intro supported
    have runs (whatever : Nat → Nat → Pixel 4) (this : Converter) : ∃ r,
        converterRunOver yuv whatever this (it.frame side) blankFrame .argb = .ok r ∧
          r.ret = 0 := by
      obtain ⟨r, ran, success, -⟩ := @converterRunOver_drawn yuv whatever this (it.frame side)
        blankFrame _ _ supported width height fits
      exact ⟨r, ran, success⟩
    cases side with
    | ui => exact runs _ _
    | video => exact runs _ _

theorem converted_iff (sane : Sane it) {side : Side} {format : PixelFormat}
    {acquires : List BackendCall} (acquired : Acquired it.toIteration side format acquires)
    (calls : frameCalls side during =
      acquires ++ if format = .invalid then [] else [.releaseFrame]) :
    Converted yuv l it during side ↔ Supported format := by
  unfold Converted
  rw [calls]
  cases acquired with
  | idle => exact iff_of_false (fun c => absurd c.1 List.not_mem_nil) (by decide)
  | failed error =>
    refine iff_of_false (fun c => error ?_) (by decide)
    have same := List.mem_singleton.mp c.1
    exact (BackendCall.acquireFrame.inj same).symm
  | held success =>
    rw [conversion_succeeds_iff sane success]
    exact and_iff_right List.mem_cons_self

theorem frame_sized (sane : Sane it) {side : Side} {held : Held}
    {acquires : List BackendCall}
    (acquired : Acquired it.toIteration side (held.format side) acquires)
    (valid : (held.frame it side).pixelFormat ≠ .invalid) :
    ∃ w h, HasSize (held.frame it side) w h := by
  replace valid : held.format side ≠ .invalid := valid
  generalize held.format side = format at acquired valid
  cases acquired with
  | idle => exact absurd rfl valid
  | failed error => exact absurd rfl valid
  | held success =>
    obtain ⟨width, height, fits⟩ := sane_size sane success
    exact ⟨_, _, width, height, fits⟩

theorem sentOnce_of_sends {side : Side} {held : Held}
    (same : acquireBoth it.toIteration l.lastStart l.capture = held)
    (sends : Sends (held.frame it side) fun s =>
      processFramesOver yuv lutTable it.beyond s (held.frame it .ui) (held.frame it .video)) :
    ∃ s' d, processFramesOver yuv lutTable it.beyond l.buffers (held.frame it .ui)
        (held.frame it .video) = .ok (s', some d) ∧
      SentOnce yuv lutTable l it (it.frame side) [d] := by
  obtain ⟨w, h, rgb, ⟨width, height, -⟩, size, delivers⟩ := sends
  replace width : (it.frame side).width = w := width
  replace height : (it.frame side).height = h := height
  obtain ⟨s', final, ran, shows⟩ := delivers l.buffers
  refine ⟨s', ⟨w, h, final⟩, ran, _, rfl, width.symm, height.symm, ?_, fun stale => ?_⟩
  · rw [width, height, shows.size, size, Int.mul_assoc]
    rfl
  · obtain ⟨s'', final', ran', shows'⟩ := delivers stale
    refine ⟨held.settle l (s'', some ⟨w, h, final'⟩), ⟨w, h, final'⟩, ?_, rfl, rfl, rfl,
      shows'.trans shows.symm⟩
    subst same
    exact bind_eq_ok.mpr ⟨_, ran', rfl⟩

theorem accounted_of_sent (sane : Sane it) {held : Held} {d₁ : List (Side × BackendCall)}
    (calls₁ : held.capture.calls = l.capture.calls ++ d₁)
    (acquired : ∀ side, Acquired it.toIteration side (held.format side) (frameCalls side d₁))
    (r : Buffers × Option Delivery)
    (silent : (∀ side, ¬ Supported (held.format side)) → r.2.toList = [])
    (video : Supported (held.format .video) →
      SentOnce yuv lutTable l it (it.frame .video) r.2.toList)
    (ui : Supported (held.format .ui) → ¬ Supported (held.format .video) →
      SentOnce yuv lutTable l it (it.frame .ui) r.2.toList) :
    ∃ during, Accounted yuv lutTable l it (held.settle l r) during r.2.toList := by
  obtain ⟨d₂, calls₂, released⟩ := settle_calls held l r
  have calls (side : Side) : frameCalls side (d₁ ++ d₂) = frameCalls side d₁ ++
      if held.format side = .invalid then [] else [.releaseFrame] := by
    rw [frameCalls_append, released]
  have converted (side : Side) : Converted yuv l it (d₁ ++ d₂) side ↔
      Supported (held.format side) := converted_iff sane (acquired side) (calls side)
  refine ⟨d₁ ++ d₂, ?_, rfl, fun side => ?_, ?_, ?_, ?_, ?_⟩
  · rw [calls₂, calls₁, List.append_assoc]
  · rw [calls]
    exact (acquired side).balanced (sane.format side)
  · simp only [converted]
    exact silent
  · rw [converted]
    exact video
  · rw [converted, converted]
    exact ui
  · obtain ⟨buffers, _ | d⟩ := r
    · exact (UInt64.add_zero _).symm
    · rfl

/-- The step lemma. -/
theorem loopIteration_accounted (yuv : Libyuv) (lutTable : Option Memory) (l : Loop)
    (sane : Sane it) :
    ∃ l' during sent, loopIteration yuv lutTable true l it = .ok l' ∧
      Accounted yuv lutTable l it l' during sent := by
  obtain ⟨d₁, calls₁, acquired⟩ := acquireBoth_calls it.toIteration l.lastStart l.capture
  rw [loopIteration_eq]
  generalize same : acquireBoth it.toIteration l.lastStart l.capture = held at calls₁ acquired ⊢
  have uiSized := frame_sized sane (acquired .ui)
  have videoSized := frame_sized sane (acquired .video)
  have books := @accounted_of_sent yuv lutTable l it sane held d₁ calls₁ acquired
  by_cases video : Supported (held.format .video)
  · obtain ⟨s', d, ran, once⟩ :=
      sentOnce_of_sends same (processFramesOver_video uiSized videoSized video)
    obtain ⟨during, accounted⟩ := books (s', some d) (fun none => absurd video (none .video))
      (fun _ => once) fun _ noVideo => absurd video noVideo
    exact ⟨_, during, _, bind_eq_ok.mpr ⟨_, ran, rfl⟩, accounted⟩
  · by_cases ui : Supported (held.format .ui)
    · obtain ⟨s', d, ran, once⟩ :=
        sentOnce_of_sends same (processFramesOver_ui uiSized videoSized ui video)
      obtain ⟨during, accounted⟩ := books (s', some d) (fun none => absurd ui (none .ui))
        (fun some => absurd some video) fun _ _ => once
      exact ⟨_, during, _, bind_eq_ok.mpr ⟨_, ran, rfl⟩, accounted⟩
    · obtain ⟨s', ran⟩ := processFramesOver_silent uiSized videoSized ui video l.buffers
      obtain ⟨during, accounted⟩ := books (s', none) (fun _ => rfl)
        (fun some => absurd some video) fun some => absurd some ui
      exact ⟨_, during, _, bind_eq_ok.mpr ⟨_, ran, rfl⟩, accounted⟩

end Books

/-- Over any number of iterations the books of each balance, and the counter is the number
of calls of the callback. -/
theorem frame_accounting (yuv : Libyuv) (lutTable : Option Memory) (c : Capture)
    (its : List FrameIteration) (sane : ∀ it ∈ its, Sane it) :
    ∃ l, run (loopIteration yuv lutTable true) (.start c) its = .ok l ∧
      Throughout (loopIteration yuv lutTable true)
        (fun l it l' => ∃ during sent, Accounted yuv lutTable l it l' during sent) (.start c) its ∧
      l.framecounter = UInt64.ofNat l.sent.length := by
  refine run_succeeds (fun l it counted sane => ?_) rfl sane
  obtain ⟨l', during, sent, ran, accounted⟩ := loopIteration_accounted yuv lutTable l sane
  refine ⟨l', ran, ⟨during, sent, accounted⟩, ?_⟩
  rw [accounted.counted, accounted.sends, counted, List.length_append, UInt64.ofNat_add]

/-- Both backends start and deliver one pixel, the video's in no supported format. -/
def dot : FrameIteration where
  now := 2000000
  start := fun _ => 0
  acquire := fun _ => 0
  frame
    | .ui => greyFrame .abgr 4 1 1
    | .video => greyFrame .argb 4 1 1
  beyond := ⟨fun _ _ _ => 0, fun _ _ _ => 0, fun _ _ _ => 0⟩

def bothSides : Capture :=
  { zeroCapture with state := { zeroState with capture := fun _ => true } }

theorem frame_accounting_dot :
    ∃ l, run (loopIteration greyYuv none true) (.start bothSides) [dot] = .ok l ∧
      l.sent.length = 1 ∧
      Throughout (loopIteration greyYuv none true)
        (fun l it l' => ∃ during sent, Accounted greyYuv none l it l' during sent)
        (.start bothSides) [dot] ∧
      l.framecounter = UInt64.ofNat 1 := by
  obtain ⟨l, ran, one⟩ : ∃ l, run (loopIteration greyYuv none true) (.start bothSides) [dot] =
      .ok l ∧ l.sent.length = 1 :=
    ⟨_, by with_unfolding_all rfl, by with_unfolding_all rfl⟩
  obtain ⟨l', ran', accounted, counted⟩ := frame_accounting greyYuv none bothSides [dot]
    fun it one => by
      rw [List.mem_singleton.mp one]
      constructor <;> intro side <;> cases side <;> decide
  rw [ran] at ran'
  cases ran'
  refine ⟨l, ran, one, accounted, ?_⟩
  rw [counted, one]

end HyperionWebos.FrameAccounting
