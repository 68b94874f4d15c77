import HyperionWebos.CaptureLoop

/-! What an iteration of `unicapture_run` hands to its callback. With frames whose size
fits, no conversion, blend or packing writes past an end, and what is sent depends on the
frames of the iteration alone: it looks the same whatever the reused buffers held. -/

namespace HyperionWebos.FrameDelivery
open Runs Unicapture ByteBlocks FrameConversion FrameBlend Overreads CaptureLoop

/-- A packed ARGB frame that shows what `shown` does. -/
structure Argb (w h : Nat) (shown : Block) (f : FrameInfo Block) : Prop where
  format : f.pixelFormat = .argb
  width : f.width = w
  height : f.height = h
  stride : f.plane0.stride = wrap (w * 4)
  same : f.plane0.buffer.Same shown

structure HasSize (frame : FrameInfo Memory) (w h : Nat) : Prop where
  width : frame.width = w
  height : frame.height = h
  fits : 4 * (w * h : Int) < 2147483648

/-- A run that hands over `w` times `h` pixels which show what `rgb` does. -/
def Delivers (w h : Nat) (rgb : Block) (ran : Except Fault (Buffers × Option Delivery)) : Prop :=
  ∃ s' final, ran = .ok (s', some ⟨w, h, final⟩) ∧ final.Same rgb

def Sends (frame : FrameInfo Memory)
    (process : Buffers → Except Fault (Buffers × Option Delivery)) : Prop :=
  ∃ (w h : Nat) (rgb : Block), HasSize frame w h ∧ (rgb.size : Int) = (3 : Nat) * (w * h) ∧
    ∀ s, Delivers w h rgb (process s)

section Frames

variable {yuv : Libyuv} {whatever : Nat → Nat → Pixel 4} {lutTable : Option Memory}
  {frame ui video : FrameInfo Memory} {w h uw uh vw vh : Nat} {shown : Block}

theorem argb_stride (fits : 4 * (w * h : Int) < 2147483648) :
    PackedStride 4 w h (wrap (w * 4)) ∧ PackedStride 4 w h (wrap (4 * w)) := by
  refine ⟨fun someRow => argb_stride_of_fits someRow fits, fun someRow => ?_⟩
  rw [Int.mul_comm]
  exact argb_stride_of_fits someRow fits

theorem rgb_sizes (fits : 4 * (w * h : Int) < 2147483648) :
    wrap (wrap (w * h) * 3) = (3 : Nat) * (w * h) ∧ PackedStride 3 w h (wrap (3 * w)) := by
  have area := area_nonneg w h
  have pixels : wrap (w * h) = w * h := wrap_of_small area (by omega)
  refine ⟨?_, fun someRow => (sendSizes_of_fits someRow fits).rgbStride⟩
  rw [pixels, Int.mul_comm _ 3]
  exact wrap_of_small (by omega) (by omega)

theorem lutLoop_shows (table : Memory) (size : (shown.size : Int) = (4 : Nat) * (w * h))
    (fits : 4 * (w * h : Int) < 2147483648) :
    ∃ shown' : Block, shown'.size = shown.size ∧ ∀ b : Block, b.Same shown →
      ∃ plane, lutLoop table b (wrap (wrap (w * h) * 4)) = .ok plane ∧ plane.Same shown' := by
  have area : ((w * h : Nat) : Int) = w * h := Nat.cast_mul w h
  have pixels : shown.size = 4 * (w * h) := by omega
  have rounds : ((wrap (wrap (w * h) * 4) + 3) / 4).toNat = w * h := by
    rw [argb_size_of_fits fits]
    omega
  obtain ⟨shown', -, size', graded'⟩ := @lutLoop_rounds table shown (w * h) pixels.ge
  refine ⟨shown', size', fun b same => ?_⟩
  obtain ⟨plane, ran, sizeB, graded⟩ :=
    @lutLoop_rounds table b (w * h) (by rw [same.size, pixels])
  refine ⟨plane, ?_, Block.same_of_pixels (n := 4) (by decide)
    (sizeB.trans (same.size.trans pixels)) (size'.trans pixels) fun k inside => ?_⟩
  · unfold lutLoop
    rw [rounds]
    exact ran
  · have holds : b.Holds 4 (4 * k) := ⟨by omega, by rw [same.size, pixels]; omega⟩
    rw [Nat.cast_mul, Nat.cast_ofNat, graded k, graded' k, if_pos inside, if_pos inside,
      same.pixelAt holds]

theorem convertOver_argb (supported : Supported frame.pixelFormat) (sized : HasSize frame w h) :
    ∃ shown : Block, (shown.size : Int) = (4 : Nat) * (w * h) ∧ ∀ this, ∃ r,
      convertOver yuv whatever lutTable this frame = .ok r ∧ Argb w h shown r.2 := by
  obtain ⟨r₀, -, -, drawn₀⟩ := @converterRunOver_drawn yuv whatever converterInit frame
    blankFrame w h supported sized.width sized.height sized.fits
  have converted (this : Converter) : ∃ r,
      converterRunOver yuv whatever this frame blankFrame .argb = .ok r ∧
        Argb w h r₀.output.plane0.buffer r.output := by
    obtain ⟨r, ran, -, drawn⟩ := @converterRunOver_drawn yuv whatever this frame blankFrame w h
      supported sized.width sized.height sized.fits
    exact ⟨r, ran, drawn.format, drawn.width, drawn.height, drawn.stride,
      drawn.same drawn₀ sized.fits⟩
  simp only [convertOver, if_pos (valid_of_supported supported)]
  cases lutTable with
  | none =>
    refine ⟨_, drawn₀.size, fun this => ?_⟩
    obtain ⟨r, ran, argb⟩ := converted this
    exact ⟨(r.this, r.output), bind_eq_ok.mpr ⟨r, ran, rfl⟩, argb⟩
  | some table =>
    obtain ⟨shown, size, graded⟩ := lutLoop_shows table drawn₀.size sized.fits
    refine ⟨shown, (congrArg _ size).trans drawn₀.size, fun this => ?_⟩
    obtain ⟨r, ran, argb⟩ := converted this
    obtain ⟨plane, looped, same⟩ := graded _ argb.same
    rw [← argb.width, ← argb.height] at looped
    exact ⟨_, bind_eq_ok.mpr ⟨r, ran, bind_eq_ok.mpr ⟨plane, looped, rfl⟩⟩,
      argb.format, argb.width, argb.height, argb.stride, same⟩

theorem convertPlanes_unsupported (unsupported : ¬ Supported frame.pixelFormat)
    (this : Converter) (output : FrameInfo Block) :
    convertPlanes yuv this frame output = .ok ⟨-2, this, output⟩ := by
  unfold convertPlanes
  split
  · rename_i format
    exact absurd (.inl format) unsupported
  · rename_i format
    exact absurd (.inr (.inl format)) unsupported
  · rename_i format
    exact absurd (.inr (.inr (.inl format))) unsupported
  · rename_i format
    exact absurd (.inr (.inr (.inr format))) unsupported
  · rfl

theorem convertOver_unsupported (unsupported : ¬ Supported frame.pixelFormat)
    (valid : frame.pixelFormat ≠ .invalid) (sized : HasSize frame w h) (this : Converter) :
    ∃ r, convertOver yuv whatever lutTable this frame = .ok r ∧ r.2.pixelFormat = .invalid := by
  have area := area_nonneg w h
  have fits := sized.fits
  obtain ⟨plane, granted⟩ := Block.realloc_of_nonneg (this.buffers 0)
    (show 0 ≤ wrap (wrap (w * h) * 4) by rw [argb_size_of_fits fits]; omega)
  have size := Block.realloc_size granted
  rw [argb_size_of_fits fits] at size
  have ran : converterRunOver yuv whatever this frame blankFrame .argb =
      .ok ⟨-2, this.setImage plane, { blankFrame with
        width := (w : Int), height := h, plane0 := ⟨plane, wrap (w * 4)⟩ }⟩ := by
    rw [converterRunOver_eq fun format => unsupported (.inr (.inr (.inr format)))]
    refine converterRun_argb.mpr ⟨plane, by rw [sized.width, sized.height, granted], ?_⟩
    rw [sized.width, sized.height]
    exact convertPlanes_unsupported unsupported _ _
  simp only [convertOver, if_pos valid, ran, ok_bind]
  cases lutTable with
  | none => exact ⟨_, rfl, rfl⟩
  | some table =>
    obtain ⟨shown, -, graded⟩ := lutLoop_shows table size fits
    obtain ⟨plane', looped, -⟩ := graded plane (.refl plane)
    exact ⟨_, bind_eq_ok.mpr ⟨plane', looped, rfl⟩, rfl⟩

theorem convertOver_blank (unsupported : ¬ Supported frame.pixelFormat)
    (sized : frame.pixelFormat ≠ .invalid → ∃ w h, HasSize frame w h) (this : Converter) :
    ∃ r, convertOver yuv whatever lutTable this frame = .ok r ∧ r.2.pixelFormat = .invalid := by
  by_cases valid : frame.pixelFormat = .invalid
  · unfold convertOver
    rw [if_neg (not_not_intro valid)]
    exact ⟨_, rfl, rfl⟩
  · obtain ⟨w, h, size⟩ := sized valid
    exact convertOver_unsupported unsupported valid size this

theorem rgb24_shows (yuv : Libyuv) (size : (shown.size : Int) = (4 : Nat) * (w * h))
    (fits : 4 * (w * h : Int) < 2147483648) {stride : Int} (packed : PackedStride 4 w h stride) :
    ∃ rgb : Block, (rgb.size : Int) = (3 : Nat) * (w * h) ∧ ∀ b src : Block, src.Same shown →
      ∃ f₀ final, b.realloc (wrap (wrap (w * h) * 3)) = .ok f₀ ∧
        draw f₀ (wrap (3 * w)) w h (rgb24Pixel yuv ⟨src, stride⟩) = .ok final ∧
        final.Same rgb := by
  obtain ⟨rgbSize, rgbStride⟩ := rgb_sizes fits
  have reads : ∀ y < h, ∀ x < w, ∃ p, rgb24Pixel yuv ⟨shown, stride⟩ x y = .ok p := by
    intro y row x column
    have read := Block.load_of_holds (packed_rows_held size y row x column)
    rw [← packed (Nat.zero_lt_of_lt row)] at read
    exact ⟨_, rgb24Pixel_eq_ok.mpr ⟨_, read, rfl⟩⟩
  obtain ⟨rgb, sizeRgb, shows⟩ := packed_shows (by decide) rgbStride rgbSize reads
  refine ⟨rgb, sizeRgb, fun b src same => ?_⟩
  have pixels : rgb24Pixel yuv ⟨src, stride⟩ = rgb24Pixel yuv ⟨shown, stride⟩ := by
    funext x y
    unfold rgb24Pixel loadPixel
    rw [same.load]
  rw [pixels]
  exact shows b

theorem sendOne_delivers (yuv : Libyuv) (size : (shown.size : Int) = (4 : Nat) * (w * h))
    (fits : 4 * (w * h : Int) < 2147483648) :
    ∃ rgb : Block, (rgb.size : Int) = (3 : Nat) * (w * h) ∧ ∀ s f, Argb w h shown f →
      Delivers w h rgb (sendOne yuv s f) := by
  obtain ⟨rgb, rgbSize, shows⟩ := rgb24_shows yuv size fits (argb_stride fits).1
  refine ⟨rgb, rgbSize, fun s f argb => ?_⟩
  obtain ⟨f₀, final, granted, drawn, same⟩ := shows s.finalFrame f.plane0.buffer argb.same
  rw [← argb.stride] at drawn
  refine ⟨{ s with finalFrame := final }, final, ?_, same⟩
  simp only [sendOne, argb.width, argb.height, Int.toNat_natCast, bind_eq_ok]
  exact ⟨f₀, granted, final, drawn, rfl⟩

theorem blendPixel_same {f g : FrameInfo Block} {uiShown : Block} (ui : Argb uw uh uiShown f)
    (video : Argb vw vh shown g) :
    blendPixel yuv f.plane0 g.plane0 =
      blendPixel yuv ⟨uiShown, wrap (uw * 4)⟩ ⟨shown, wrap (vw * 4)⟩ := by
  funext x y
  unfold blendPixel loadPixel
  rw [ui.stride, video.stride, ui.same.load, video.same.load]

theorem sendBlendedOver_delivers (yuv : Libyuv) (whatever : Nat → Nat → Pixel 4)
    (uiShown shown : Block) (fits : 4 * (vw * vh : Int) < 2147483648) :
    ∃ rgb : Block, (rgb.size : Int) = (3 : Nat) * (vw * vh) ∧ ∀ s f g, Argb uw uh uiShown f →
      Argb vw vh shown g → Delivers vw vh rgb (sendBlendedOver yuv whatever s f g) := by
  obtain ⟨-, stride⟩ := argb_stride fits
  have blended : ∀ y < vh, ∀ x < vw, ∃ p, settle whatever
      (blendPixel yuv ⟨uiShown, wrap (uw * 4)⟩ ⟨shown, wrap (vw * 4)⟩) x y = .ok p :=
    fun y _ x _ => settle_runs x y
  obtain ⟨blended₀, size, blends⟩ :=
    packed_shows (by decide) stride (argb_size_of_fits fits) blended
  obtain ⟨rgb, rgbSize, shows⟩ := rgb24_shows yuv size fits stride
  refine ⟨rgb, rgbSize, fun s f g ui video => ?_⟩
  obtain ⟨b₀, blended, granted, drawn, same⟩ := blends s.blendedFrame
  obtain ⟨f₀, final, granted', packed, same'⟩ := shows s.finalFrame blended same
  rw [← blendPixel_same ui video] at drawn
  refine ⟨{ s with blendedFrame := blended, finalFrame := final }, final, ?_, same'⟩
  simp only [sendBlendedOver, video.width, video.height, Int.toNat_natCast, bind_eq_ok]
  exact ⟨b₀, granted, f₀, granted', blended, drawn, final, packed, rfl⟩

theorem processFramesOver_eq {beyond : Beyond} {s : Buffers} {cu cv : Converter × FrameInfo Block}
    (uiRan : convertOver yuv beyond.ui none s.uiConverter ui = .ok cu)
    (videoRan : convertOver yuv beyond.video lutTable s.videoConverter video = .ok cv) :
    processFramesOver yuv lutTable beyond s ui video =
      sendFramesOver yuv beyond.blended { s with uiConverter := cu.1, videoConverter := cv.1 }
        cu.2 cv.2 := by
  rw [processFramesOver, uiRan, ok_bind, videoRan, ok_bind]

section Sent

variable {beyond : Beyond} (uiSized : ui.pixelFormat ≠ .invalid → ∃ w h, HasSize ui w h)
  (videoSized : video.pixelFormat ≠ .invalid → ∃ w h, HasSize video w h)

include uiSized videoSized

theorem processFramesOver_silent (noUi : ¬ Supported ui.pixelFormat)
    (noVideo : ¬ Supported video.pixelFormat) (s : Buffers) :
    ∃ s', processFramesOver yuv lutTable beyond s ui video = .ok (s', none) := by
  obtain ⟨cu, uiRan, uiBlank⟩ := convertOver_blank noUi uiSized s.uiConverter
  obtain ⟨cv, videoRan, videoBlank⟩ := convertOver_blank noVideo videoSized s.videoConverter
  rw [processFramesOver_eq uiRan videoRan, sendFramesOver, uiBlank, videoBlank]
  unfold sendFrames
  rw [uiBlank, videoBlank]
  exact ⟨_, rfl⟩

theorem processFramesOver_video (supported : Supported video.pixelFormat) :
    Sends video (processFramesOver yuv lutTable beyond · ui video) := by
  obtain ⟨vw, vh, vsize⟩ := videoSized (valid_of_supported supported)
  obtain ⟨vshown, vdrawn, videoRuns⟩ :=
    @convertOver_argb yuv beyond.video lutTable video vw vh supported vsize
  by_cases uiSupported : Supported ui.pixelFormat
  · obtain ⟨uw, uh, usize⟩ := uiSized (valid_of_supported uiSupported)
    obtain ⟨ushown, -, uiRuns⟩ := @convertOver_argb yuv beyond.ui none ui uw uh uiSupported usize
    obtain ⟨rgb, size, delivers⟩ :=
      @sendBlendedOver_delivers uw uh vw vh yuv beyond.blended ushown vshown vsize.fits
    refine ⟨vw, vh, rgb, vsize, size, fun s => ?_⟩
    obtain ⟨cu, uiRan, uiArgb⟩ := uiRuns s.uiConverter
    obtain ⟨cv, videoRan, videoArgb⟩ := videoRuns s.videoConverter
    dsimp only
    rw [processFramesOver_eq uiRan videoRan, sendFramesOver, uiArgb.format, videoArgb.format,
      if_pos (by decide)]
    exact delivers _ _ _ uiArgb videoArgb
  · obtain ⟨rgb, size, delivers⟩ := sendOne_delivers yuv vdrawn vsize.fits
    refine ⟨vw, vh, rgb, vsize, size, fun s => ?_⟩
    obtain ⟨cu, uiRan, uiBlank⟩ := convertOver_blank uiSupported uiSized s.uiConverter
    obtain ⟨cv, videoRan, videoArgb⟩ := videoRuns s.videoConverter
    dsimp only
    rw [processFramesOver_eq uiRan videoRan, sendFramesOver, uiBlank, videoArgb.format,
      if_neg (by decide), sendFrames, uiBlank, videoArgb.format, if_neg (by decide),
      if_neg (by decide), if_pos (by decide)]
    exact delivers _ _ videoArgb

theorem processFramesOver_ui (supported : Supported ui.pixelFormat)
    (noVideo : ¬ Supported video.pixelFormat) :
    Sends ui (processFramesOver yuv lutTable beyond · ui video) := by
  obtain ⟨w, h, usize⟩ := uiSized (valid_of_supported supported)
  obtain ⟨shown, drawn, uiRuns⟩ := @convertOver_argb yuv beyond.ui none ui w h supported usize
  obtain ⟨rgb, size, delivers⟩ := sendOne_delivers yuv drawn usize.fits
  refine ⟨w, h, rgb, usize, size, fun s => ?_⟩
  obtain ⟨cu, uiRan, uiArgb⟩ := uiRuns s.uiConverter
  obtain ⟨cv, videoRan, videoBlank⟩ := convertOver_blank noVideo videoSized s.videoConverter
  dsimp only
  rw [processFramesOver_eq uiRan videoRan, sendFramesOver, uiArgb.format, videoBlank,
    if_neg (by decide), sendFrames, uiArgb.format, videoBlank, if_neg (by decide),
    if_pos (by decide)]
  exact delivers _ _ uiArgb

end Sent

end Frames

end HyperionWebos.FrameDelivery
