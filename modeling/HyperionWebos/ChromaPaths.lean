import HyperionWebos.Overreads

/-! The two semi-planar paths of `converter_run`. One hands the interleaved chroma plane to
libyuv as it is, the other splits it into two planes of half the width and joins them in
the other order; on a 4:2:2 frame with the samples of a 4:2:0 frame they draw the same
pixels. -/

namespace HyperionWebos.ChromaPaths
open Runs Unicapture ByteBlocks FrameConversion Overreads

/-- `f422` has the luma of `f420`, and in chroma row `y` its row `y / 2`. -/
structure SameSamples (w h : Nat) (f420 f422 : FrameInfo Memory) : Prop where
  format420 : f420.pixelFormat = .yuv420SemiPlanar
  format422 : f422.pixelFormat = .yuv422SemiPlanar
  width420 : f420.width = w
  height420 : f420.height = h
  width422 : f422.width = w
  height422 : f422.height = h
  luma : ∀ x < w, ∀ y < h, pixelOf 1 f422.plane0 x y = pixelOf 1 f420.plane0 x y
  chroma : ∀ c < w / 2, ∀ y < h, pixelOf 2 f422.plane1 c y = pixelOf 2 f420.plane1 c (y / 2)

/-- NV21 and I422 images are made by one function of the samples of a pixel. -/
def OnePixelFunction (yuv : Libyuv) : Prop :=
  ∀ y u v, yuv.nv21ToArgb y v u = yuv.i422ToArgb y u v

def PathsAgree
    (convert : Converter → FrameInfo Memory → FrameInfo Block → PixelFormat →
      Except Fault Conversion)
    (w h : Nat) (f420 f422 : FrameInfo Memory) : Prop :=
  ∀ (this420 this422 : Converter) (output420 output422 : FrameInfo Block),
    ∃ r420 r422, convert this420 f420 output420 .argb = .ok r420 ∧ r420.ret = 0 ∧
      convert this422 f422 output422 .argb = .ok r422 ∧ r422.ret = 0 ∧
      ∀ y < h, ∀ x < 2 * (w / 2), ∃ p,
        r420.output.plane0.buffer.load 4 (y * r420.output.plane0.stride + 4 * x) = .ok p ∧
        r422.output.plane0.buffer.load 4 (y * r422.output.plane0.stride + 4 * x) = .ok p

section Paths

variable {yuv : Libyuv} {whatever : Nat → Nat → Pixel 4} {w h : Nat}
  {f420 f422 : FrameInfo Memory}

theorem overPixel_agree (one : OnePixelFunction yuv) (samples : SameSamples w h f420 f422)
    {x y : Nat} (column : x < 2 * (w / 2)) (row : y < h) :
    overPixel yuv whatever f420 x y = overPixel yuv whatever f422 x y := by
  have chromaColumn : x / 2 < w / 2 := by omega
  have remainder : (y * (w / 2) + x / 2) % (w / 2) = x / 2 := by
    rw [Nat.mul_add_mod_self_right, Nat.mod_eq_of_lt chromaColumn]
  have quotient : (y * (w / 2) + x / 2) / (w / 2) = y := by
    rw [Nat.mul_comm, Nat.mul_add_div (by omega), Nat.div_eq_of_lt chromaColumn, Nat.add_zero]
  have inside : y * (w / 2) + x / 2 < w / 2 * h := by
    have nextRow : (y + 1) * (w / 2) ≤ h * (w / 2) := Nat.mul_le_mul_right (w / 2) row
    have : (y + 1) * (w / 2) = y * (w / 2) + w / 2 := Nat.succ_mul y (w / 2)
    have : h * (w / 2) = w / 2 * h := Nat.mul_comm h (w / 2)
    omega
  simp only [overPixel, samples.format420, samples.format422, samples.width422,
    samples.height422, Int.toNat_natCast, if_pos inside, remainder, quotient]
  rw [samples.luma x (by omega) y row, samples.chroma (x / 2) chromaColumn y row]
  exact one _ _ _

theorem drawn_load {pixel : Nat → Nat → Pixel 4} {f : FrameInfo Block}
    (drawn : Drawn pixel w h f) (fits : 4 * (w * h : Int) < 2147483648) {x y : Nat}
    (column : x < w) (row : y < h) :
    f.plane0.buffer.load 4 (y * f.plane0.stride + 4 * x) = .ok (pixel x y) := by
  have held := packed_rows_held drawn.size y row x column
  rw [drawn.stride, argb_stride_of_fits (Nat.zero_lt_of_lt row) fits,
    ← drawn.pixelAt fits column row]
  exact Block.load_of_holds held

theorem pathsAgree_of_fits (one : OnePixelFunction yuv) (samples : SameSamples w h f420 f422)
    (fits : 4 * (w * h : Int) < 2147483648) :
    PathsAgree (converterRunOver yuv whatever) w h f420 f422 := by
  intro this420 this422 output420 output422
  obtain ⟨r420, ran420, success420, drawn420⟩ :=
    @converterRunOver_drawn yuv whatever this420 f420 output420 w h
      (.inr (.inr (.inl samples.format420))) samples.width420 samples.height420 fits
  obtain ⟨r422, ran422, success422, drawn422⟩ :=
    @converterRunOver_drawn yuv whatever this422 f422 output422 w h
      (.inr (.inr (.inr samples.format422))) samples.width422 samples.height422 fits
  refine ⟨r420, r422, ran420, success420, ran422, success422, fun y row x column => ?_⟩
  refine ⟨_, drawn_load drawn420 fits (by omega) row, ?_⟩
  rw [overPixel_agree one samples column row]
  exact drawn_load drawn422 fits (by omega) row

theorem fits_of_converted420 {this : Converter} {output : FrameInfo Block} {r : Conversion}
    (samples : SameSamples w h f420 f422)
    (ran : converterRunOver yuv whatever this f420 output .argb = .ok r) :
    4 * (w * h : Int) < 2147483648 := by
  rcases Nat.eq_zero_or_pos w with none | someColumn
  · rw [none]
    simp
  · rcases Nat.eq_zero_or_pos h with none | someRow
    · rw [none]
      simp
    · rw [converterRunOver_eq (by rw [samples.format420]; decide)] at ran
      have fits := fits_of_converterRun (.inr (.inr (.inl samples.format420)))
        (by rw [samples.width420]; omega) (by rw [samples.height420]; omega) ran
      rw [← samples.width420, ← samples.height420]
      exact fits.1

theorem pathsAgree_over_iff (one : OnePixelFunction yuv) (samples : SameSamples w h f420 f422) :
    PathsAgree (converterRunOver yuv whatever) w h f420 f422 ↔
      4 * (w * h : Int) < 2147483648 := by
  constructor
  · intro agree
    obtain ⟨r420, -, ran, -⟩ := agree converterInit converterInit blankFrame blankFrame
    exact fits_of_converted420 samples ran
  · exact pathsAgree_of_fits one samples

theorem pathsAgree_inside_iff (one : OnePixelFunction yuv) (samples : SameSamples w h f420 f422)
    (someColumn : 0 < w) (someRow : 0 < h) :
    PathsAgree (converterRun yuv) w h f420 f422 ↔
      4 * (w * h : Int) < 2147483648 ∧ w % 2 = 0 := by
  have supported420 : Supported f420.pixelFormat := .inr (.inr (.inl samples.format420))
  have supported422 : Supported f422.pixelFormat := .inr (.inr (.inr samples.format422))
  have columns420 : 0 < f420.width := by rw [samples.width420]; omega
  have columns422 : 0 < f422.width := by rw [samples.width422]; omega
  have rows420 : 0 < f420.height := by rw [samples.height420]; omega
  have rows422 : 0 < f422.height := by rw [samples.height422]; omega
  constructor
  · intro agree
    obtain ⟨-, r422, -, -, ran, -⟩ := agree converterInit converterInit blankFrame blankFrame
    obtain ⟨small, even⟩ := fits_of_converterRun supported422 columns422 rows422 ran
    have even := even samples.format422
    rw [samples.width422, samples.height422] at small
    rw [samples.width422] at even
    exact ⟨small, by omega⟩
  · rintro ⟨fits, even⟩ this420 this422 output420 output422
    have fits420 : Fits f420 := ⟨by rw [samples.width420, samples.height420]; exact fits,
      fun format => absurd format (by rw [samples.format420]; decide)⟩
    have fits422 : Fits f422 := ⟨by rw [samples.width422, samples.height422]; exact fits,
      fun _ => by rw [samples.width422]; omega⟩
    obtain ⟨r420, ran420, success420⟩ := @converterRun_succeeds yuv this420 f420 output420
      supported420 columns420 rows420 fits420
    obtain ⟨r422, ran422, success422⟩ := @converterRun_succeeds yuv this422 f422 output422
      supported422 columns422 rows422 fits422
    have agree : PathsAgree (converterRunOver yuv fun _ _ _ => 0) w h f420 f422 :=
      pathsAgree_of_fits one samples fits
    obtain ⟨o420, o422, over420, -, over422, -, pixels⟩ :=
      agree this420 this422 output420 output422
    rw [converterRunOver_of_ok ran420] at over420
    rw [converterRunOver_of_ok ran422] at over422
    cases over420
    cases over422
    exact ⟨r420, r422, ran420, success420, ran422, success422, pixels⟩

end Paths

/-- The two paths draw the same pixels exactly as long as the image has fewer than 2³¹
bytes, and read nothing past an end exactly if the width is even too. -/
theorem chroma_paths_agree_iff (yuv : Libyuv) (whatever : Nat → Nat → Pixel 4) (w h : Nat)
    (f420 f422 : FrameInfo Memory) (one : OnePixelFunction yuv)
    (samples : SameSamples w h f420 f422) :
    (PathsAgree (converterRunOver yuv whatever) w h f420 f422 ↔
      4 * (w * h : Int) < 2147483648) ∧
    (0 < w → 0 < h → (PathsAgree (converterRun yuv) w h f420 f422 ↔
      4 * (w * h : Int) < 2147483648 ∧ w % 2 = 0)) :=
  ⟨pathsAgree_over_iff one samples, pathsAgree_inside_iff one samples⟩

theorem greySamples (w h : Nat) :
    SameSamples w h (greyFrame .yuv420SemiPlanar 1 w h) (greyFrame .yuv422SemiPlanar 1 w h) :=
  ⟨rfl, rfl, rfl, rfl, rfl, rfl, fun _ _ _ _ => rfl, fun _ _ _ _ => rfl⟩

/-- An odd width, whose last column is not compared. -/
theorem chroma_paths_agree_odd :
    PathsAgree (converterRunOver greyYuv fun _ _ _ => 0) 321 180
      (greyFrame .yuv420SemiPlanar 1 (321 : Nat) (180 : Nat))
      (greyFrame .yuv422SemiPlanar 1 (321 : Nat) (180 : Nat)) :=
  (chroma_paths_agree_iff greyYuv (fun _ _ _ => 0) 321 180 _ _ (fun _ _ _ => rfl)
    (greySamples 321 180)).1.mpr (by decide)

/-- An image of 2³¹ bytes. -/
theorem chroma_paths_overflow :
    ¬ ∀ (yuv : Libyuv) (whatever : Nat → Nat → Pixel 4) (w h : Nat) (f420 f422 : FrameInfo Memory),
      OnePixelFunction yuv → SameSamples w h f420 f422 →
      PathsAgree (converterRunOver yuv whatever) w h f420 f422 := by
  intro always
  have agree := always greyYuv (fun _ _ _ => 0) 32768 16384 _ _ (fun _ _ _ => rfl)
    (greySamples 32768 16384)
  exact absurd ((pathsAgree_over_iff (fun _ _ _ => rfl) (greySamples 32768 16384)).mp agree)
    (by decide)

end HyperionWebos.ChromaPaths
