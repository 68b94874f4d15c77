import HyperionWebos.ByteBlocks
import HyperionWebos.Unicapture
import Mathlib.Data.Fin.VecNotation
import Mathlib.Logic.Function.Basic

/-! `converter_run`. The planes of a captured frame lie in memory of the driver, whose end
nobody here knows; the converted frame and the split chroma planes lie in blocks whose size
the converter computes in `int`. libyuv is a function for each pixel with the row geometry
of the call around it. -/

namespace HyperionWebos.FrameConversion
open Runs Unicapture ByteBlocks

abbrev Memory := Int → UInt8

/-- What libyuv makes of one pixel, samples in the order they stand in memory. -/
structure Libyuv where
  rgb24ToArgb : Pixel 3 → Pixel 4
  abgrToArgb : Pixel 4 → Pixel 4
  nv21ToArgb : (y v u : UInt8) → Pixel 4
  i422ToArgb : (y u v : UInt8) → Pixel 4
  argbBlend : (foreground background : Pixel 4) → Pixel 4
  argbToRgb24 : Pixel 4 → Pixel 3

structure Converter where
  buffers : Fin 4 → Block

def Converter.set (this : Converter) (i : Fin 4) (b : Block) : Converter :=
  { this with buffers := Function.update this.buffers i b }

/-- The block of the converted image is `buffers[0]`. -/
def Converter.setImage (this : Converter) (b : Block) : Converter := this.set 0 b

def Converter.image (this : Converter) : Block := this.buffers 0

/-- The blocks of the split chroma planes are `buffers[1]` and `buffers[2]`. -/
def Converter.chroma (this : Converter) : Block × Block := (this.buffers 1, this.buffers 2)

def Converter.setChroma (this : Converter) (planes : Block × Block) : Converter :=
  (this.set 1 planes.1).set 2 planes.2

def null : Block := ⟨0, fun _ => 0⟩

def converterInit : Converter := ⟨fun _ => null⟩

/-- `frame_info_t frame = { PIXFMT_INVALID }`. -/
def blankFrame : FrameInfo Block := ⟨.invalid, 0, 0, ⟨null, 0⟩, ⟨null, 0⟩⟩

def pixelOf (n : Nat) (p : Plane Memory) (x y : Nat) : Pixel n :=
  fun c => p.buffer (y * p.stride + n * x + c)

/-- `SplitUVPlane`, both planes with the same stride. -/
def splitUvPlane (src : Plane Memory) (dstU dstV : Block) (stride : Int) (width height : Nat) :
    Except Fault (Block × Block) := do
  let u ← draw dstU stride width height fun x y => .ok fun _ : Fin 1 => pixelOf 2 src x y 0
  let v ← draw dstV stride width height fun x y => .ok fun _ : Fin 1 => pixelOf 2 src x y 1
  .ok (u, v)

/-- The sample a pixel of an `I422` image shares with its neighbour. -/
def chromaOf (src : Block) (stride : Int) (x y : Nat) : Except Fault (Pixel 1) :=
  src.load 1 (y * stride + (1 : Nat) * (x / 2 : Nat))

/-- `I422ToARGB` at one pixel. -/
def i422Pixel (yuv : Libyuv) (srcY : Plane Memory) (srcU srcV : Block) (stride : Int)
    (x y : Nat) : Except Fault (Pixel 4) := do
  let u ← chromaOf srcU stride x y
  let v ← chromaOf srcV stride x y
  .ok (yuv.i422ToArgb (pixelOf 1 srcY x y 0) (u 0) (v 0))

structure Conversion where
  ret : Int
  this : Converter
  output : FrameInfo Block

/-- One libyuv call into the output plane, the end of every conversion. -/
def toArgb (this : Converter) (output : FrameInfo Block) (width height : Nat)
    (pixel : Nat → Nat → Except Fault (Pixel 4)) : Except Fault Conversion := do
  let argb ← draw output.plane0.buffer output.plane0.stride width height pixel
  .ok ⟨0, this.setImage argb,
    { output with pixelFormat := .argb, plane0 := { output.plane0 with buffer := argb } }⟩

/-- The conversions to ARGB, the output plane in place. -/
def convertPlanes (yuv : Libyuv) (this : Converter) (input : FrameInfo Memory)
    (output : FrameInfo Block) : Except Fault Conversion :=
  let width := input.width.toNat
  let height := input.height.toNat
  match input.pixelFormat with
  | .rgb =>
    toArgb this output width height fun x y =>
      .ok (yuv.rgb24ToArgb (pixelOf 3 input.plane0 x y))
  | .abgr =>
    toArgb this output width height fun x y =>
      .ok (yuv.abgrToArgb (pixelOf 4 input.plane0 x y))
  | .yuv420SemiPlanar =>
    toArgb this output width height fun x y =>
      let vu := pixelOf 2 input.plane1 (x / 2) (y / 2)
      .ok (yuv.nv21ToArgb (pixelOf 1 input.plane0 x y 0) (vu 0) (vu 1))
  | .yuv422SemiPlanar => do
    let half := input.width.tdiv 2
    let buffer1 ← (this.buffers 1).realloc (wrap (half * input.height))
    let buffer2 ← (this.buffers 2).realloc (wrap (half * input.height))
    let planes ← splitUvPlane input.plane1 buffer1 buffer2 half half.toNat height
    toArgb ((this.set 1 planes.1).set 2 planes.2) output width height
      (i422Pixel yuv input.plane0 planes.2 planes.1 half)
  | _ => .ok ⟨-2, this, output⟩

def converterRun (yuv : Libyuv) (this : Converter) (input : FrameInfo Memory)
    (output : FrameInfo Block) (targetFormat : PixelFormat) : Except Fault Conversion :=
  if targetFormat = .argb then do
    let plane ← (this.buffers 0).realloc (wrap (wrap (input.width * input.height) * 4))
    convertPlanes yuv (this.setImage plane) input { output with
      width := input.width
      height := input.height
      plane0 := ⟨plane, wrap (input.width * 4)⟩ }
  else .ok ⟨-1, this, output⟩

/-! ### The image of a frame -/

def argbAt (yuv : Libyuv) (f : FrameInfo Memory) (x y : Nat) : Option (Pixel 4) :=
  if (x : Int) < f.width ∧ (y : Int) < f.height then
    match f.pixelFormat with
    | .rgb => some (yuv.rgb24ToArgb (pixelOf 3 f.plane0 x y))
    | .abgr => some (yuv.abgrToArgb (pixelOf 4 f.plane0 x y))
    | .yuv420SemiPlanar =>
      let vu := pixelOf 2 f.plane1 (x / 2) (y / 2)
      some (yuv.nv21ToArgb (pixelOf 1 f.plane0 x y 0) (vu 0) (vu 1))
    | .yuv422SemiPlanar =>
      let vu := pixelOf 2 f.plane1 (x / 2) y
      some (yuv.i422ToArgb (pixelOf 1 f.plane0 x y 0) (vu 1) (vu 0))
    | _ => none
  else none

def Supported (format : PixelFormat) : Prop :=
  format = .rgb ∨ format = .abgr ∨ format = .yuv420SemiPlanar ∨ format = .yuv422SemiPlanar

instance (format : PixelFormat) : Decidable (Supported format) :=
  inferInstanceAs (Decidable (_ ∨ _))

/-- The converted image in bytes, and both columns of every chroma sample. -/
def Fits (f : FrameInfo Memory) : Prop :=
  4 * (f.width * f.height) < 2147483648 ∧
    (f.pixelFormat = .yuv422SemiPlanar → f.width % 2 = 0)

instance (f : FrameInfo Memory) : Decidable (Fits f) := inferInstanceAs (Decidable (_ ∧ _))

section Sizes

variable {w h : Nat}

theorem area_nonneg (w h : Nat) : (0 : Int) ≤ w * h := by positivity

theorem argb_size_of_fits (fits : 4 * (w * h : Int) < 2147483648) :
    wrap (wrap (w * h) * 4) = 4 * (w * h) := by
  have positive := area_nonneg w h
  have pixels : wrap (w * h) = w * h := wrap_of_small positive (by omega)
  rw [pixels, Int.mul_comm _ 4]
  exact wrap_of_small (by omega) fits

theorem argb_stride_of_fits (someRow : 0 < h) (fits : 4 * (w * h : Int) < 2147483648) :
    wrap (w * 4) = 4 * w := by
  have : (w : Int) ≤ w * h := by exact_mod_cast Nat.le_mul_of_pos_right w someRow
  rw [Int.mul_comm _ 4]
  exact wrap_of_small (by omega) (by omega)

theorem argb_rows_held_iff {b plane : Block} (someColumn : 0 < w) (someRow : 0 < h)
    (granted : b.realloc (wrap (wrap (w * h) * 4)) = .ok plane) :
    (∀ y < h, ∀ x < w, plane.Holds 4 (y * wrap (w * 4) + (4 : Nat) * x)) ↔
      4 * (w * h : Int) < 2147483648 := by
  have size := Block.realloc_size granted
  constructor
  · intro held
    have small := wrap_lt (wrap (w * h) * 4)
    have firstRow := (held 0 someRow (w - 1) (by omega)).2
    have stride : wrap (w * 4) = 4 * w := by
      rw [Int.mul_comm _ 4]
      exact wrap_of_small (by positivity) (by omega)
    have whole : (h - 1 : Int) * (4 * w) + (4 : Nat) * w = 4 * (w * h) := by push_cast; ring
    rw [stride] at held
    have last := (rows_held_iff (by positivity) someColumn someRow).mp held
    rw [whole] at last
    linarith
  · intro fits
    rw [argb_size_of_fits fits] at size
    rw [argb_stride_of_fits someRow fits]
    exact packed_rows_held size

theorem chroma_size_of_fits (fits : 4 * (w * h : Int) < 2147483648) :
    wrap ((w / 2 : Nat) * h) = (w / 2 : Nat) * h := by
  have below : ((w / 2 : Nat) * h : Int) ≤ w * h := by
    exact_mod_cast Nat.mul_le_mul_right h (Nat.div_le_self w 2)
  exact wrap_of_small (area_nonneg (w / 2) h) (by omega)

theorem half_of_width : (w : Int).tdiv 2 = (w / 2 : Nat) := (Int.ofNat_tdiv w 2).symm

theorem chroma_rows_held {b : Block} (size : (b.size : Int) = (w / 2 : Nat) * h) :
    ∀ y < h, ∀ c < w / 2, b.Holds 1 (y * (w / 2 : Nat) + (1 : Nat) * c) := by
  intro y row c column
  refine (rows_held_iff (by omega) (by omega) (Nat.zero_lt_of_lt row)).mpr ?_ y row c column
  rw [size]
  exact le_of_eq (by push_cast; ring)

theorem chroma_samples_held_iff {b : Block} (someColumn : 0 < w) (someRow : 0 < h)
    (size : (b.size : Int) = (w / 2 : Nat) * h) :
    (∀ y < h, ∀ x < w, b.Holds 1 (y * (w / 2 : Nat) + (1 : Nat) * (x / 2 : Nat))) ↔
      w % 2 = 0 := by
  constructor
  · intro held
    have last := (held (h - 1) (by omega) (w - 1) (by omega)).2
    have rowBefore : ((h - 1 : Nat) : Int) = h - 1 := by omega
    have whole : (h - 1 : Int) * (w / 2 : Nat) = (w / 2 : Nat) * h - (w / 2 : Nat) := by ring
    rw [rowBefore, whole, size] at last
    omega
  · intro even y row x column
    exact chroma_rows_held size y row (x / 2) (by omega)

end Sizes

/-! ### What a conversion leaves -/

structure ArgbFrame (image : Nat → Nat → Option (Pixel 4)) (w h : Int)
    (output : FrameInfo Block) : Prop where
  format : output.pixelFormat = .argb
  width : output.width = w
  height : output.height = h
  stride : output.plane0.stride = 4 * w
  size : (output.plane0.buffer.size : Int) = 4 * (w * h)
  small : 4 * (w * h) < 2147483648
  shows : ∀ x y : Nat, (x : Int) < w → (y : Int) < h →
    image x y = some (output.plane0.buffer.pixelAt 4 (y * (4 * w) + 4 * x))

def Converted (yuv : Libyuv) (input : FrameInfo Memory) (output : FrameInfo Block) : Prop :=
  ArgbFrame (argbAt yuv input) input.width input.height output

section Runs

variable {yuv : Libyuv} {this : Converter} {input : FrameInfo Memory} {output : FrameInfo Block}
  {w h : Nat} {b plane : Block} {r : Conversion} {pixel : Nat → Nat → Except Fault (Pixel 4)}

theorem toArgb_runs_iff (someColumn : 0 < w) (someRow : 0 < h)
    (granted : b.realloc (wrap (wrap (w * h) * 4)) = .ok plane)
    (here : output.plane0 = ⟨plane, wrap (w * 4)⟩) :
    (∃ r, toArgb this output w h pixel = .ok r) ↔
      4 * (w * h : Int) < 2147483648 ∧ ∀ y < h, ∀ x < w, ∃ p, pixel x y = .ok p := by
  have drawn : (∃ r, toArgb this output w h pixel = .ok r) ↔
      ∃ argb, draw plane (wrap (w * 4)) w h pixel = .ok argb := by
    unfold toArgb
    rw [here]
    constructor
    · rintro ⟨r, ran⟩
      obtain ⟨argb, drawn, -⟩ := bind_eq_ok.mp ran
      exact ⟨argb, drawn⟩
    · rintro ⟨argb, drawn⟩
      exact ⟨_, bind_eq_ok.mpr ⟨argb, drawn, rfl⟩⟩
  rw [drawn, draw_runs_iff, ← argb_rows_held_iff someColumn someRow granted]
  exact ⟨fun runs => ⟨fun y row x column => (runs y row x column).1,
      fun y row x column => (runs y row x column).2⟩,
    fun ⟨held, readable⟩ y row x column => ⟨held y row x column, readable y row x column⟩⟩

theorem toArgb_converted (someColumn : 0 < w) (someRow : 0 < h)
    (granted : b.realloc (wrap (wrap (w * h) * 4)) = .ok plane)
    (here : output.plane0 = ⟨plane, wrap (w * 4)⟩) (width : input.width = w)
    (height : input.height = h) (sameWidth : output.width = w) (sameHeight : output.height = h)
    (shows : ∀ y < h, ∀ x < w, ∀ p, pixel x y = .ok p → argbAt yuv input x y = some p)
    (ran : toArgb this output w h pixel = .ok r) : r.ret = 0 ∧ Converted yuv input r.output := by
  have fits := ((toArgb_runs_iff someColumn someRow granted here).mp ⟨r, ran⟩).1
  obtain ⟨argb, drawn, done⟩ := bind_eq_ok.mp ran
  cases done
  rw [here] at drawn
  have stride := argb_stride_of_fits someRow fits
  refine ⟨rfl, ⟨rfl, sameWidth.trans width.symm, sameHeight.trans height.symm, ?_, ?_, ?_, ?_⟩⟩
  · rw [here, width]
    exact stride
  · rw [width, height, ← argb_size_of_fits fits, ← Block.realloc_size granted]
    exact congrArg _ (draw_size drawn)
  · rw [width, height]
    exact fits
  · intro x y column row
    rw [width] at column ⊢
    rw [height] at row
    rw [stride] at drawn
    exact shows y (by omega) x (by omega) _
      (draw_pixelAt drawn (by simp) (by omega) (by omega))

theorem splitUvPlane_runs {src : Plane Memory} {b₁ b₂ : Block}
    (size₁ : (b₁.size : Int) = (w / 2 : Nat) * h) (size₂ : (b₂.size : Int) = (w / 2 : Nat) * h) :
    ∃ planes, splitUvPlane src b₁ b₂ (w / 2 : Nat) (w / 2) h = .ok planes := by
  obtain ⟨u, drawnU⟩ := draw_runs_iff.mpr fun y row c column =>
    ⟨chroma_rows_held size₁ y row c column, _, rfl⟩
  obtain ⟨v, drawnV⟩ := draw_runs_iff.mpr fun y row c column =>
    ⟨chroma_rows_held size₂ y row c column, _, rfl⟩
  exact ⟨(u, v), bind_eq_ok.mpr ⟨u, drawnU, bind_eq_ok.mpr ⟨v, drawnV, rfl⟩⟩⟩

theorem splitUvPlane_draws {src : Plane Memory} {b₁ b₂ : Block} {planes : Block × Block}
    (ran : splitUvPlane src b₁ b₂ (w / 2 : Nat) (w / 2) h = .ok planes) :
    draw b₁ (w / 2 : Nat) (w / 2) h (fun c y => .ok fun _ : Fin 1 => pixelOf 2 src c y 0) =
        .ok planes.1 ∧
      draw b₂ (w / 2 : Nat) (w / 2) h (fun c y => .ok fun _ : Fin 1 => pixelOf 2 src c y 1) =
        .ok planes.2 := by
  obtain ⟨u, drawnU, rest⟩ := bind_eq_ok.mp ran
  obtain ⟨v, drawnV, done⟩ := bind_eq_ok.mp rest
  cases done
  exact ⟨drawnU, drawnV⟩

theorem i422Pixel_eq_ok {srcY : Plane Memory} {u v : Block} {stride : Int} {x y : Nat}
    {p : Pixel 4} :
    i422Pixel yuv srcY u v stride x y = .ok p ↔
      ∃ su, chromaOf u stride x y = .ok su ∧ ∃ sv, chromaOf v stride x y = .ok sv ∧
        yuv.i422ToArgb (pixelOf 1 srcY x y 0) (su 0) (sv 0) = p := by
  simp only [i422Pixel, bind_eq_ok, Except.ok.injEq]

theorem i422Pixel_readable_iff {srcY : Plane Memory} {u v : Block} (someColumn : 0 < w)
    (someRow : 0 < h) (sizeU : (u.size : Int) = (w / 2 : Nat) * h)
    (sizeV : (v.size : Int) = (w / 2 : Nat) * h) :
    (∀ y < h, ∀ x < w, ∃ p, i422Pixel yuv srcY u v (w / 2 : Nat) x y = .ok p) ↔ w % 2 = 0 := by
  constructor
  · intro readable
    refine (chroma_samples_held_iff someColumn someRow sizeU).mp fun y row x column => ?_
    obtain ⟨p, read⟩ := readable y row x column
    obtain ⟨su, read, -⟩ := i422Pixel_eq_ok.mp read
    exact (Block.load_eq_ok.mp read).1
  · intro even y row x column
    have inU := (chroma_samples_held_iff someColumn someRow sizeU).mpr even y row x column
    have inV := (chroma_samples_held_iff someColumn someRow sizeV).mpr even y row x column
    exact ⟨_, i422Pixel_eq_ok.mpr
      ⟨_, Block.load_of_holds inU, _, Block.load_of_holds inV, rfl⟩⟩

theorem convertPlanes_yuv422 (format : input.pixelFormat = .yuv422SemiPlanar)
    (width : input.width = w) (height : input.height = h) :
    convertPlanes yuv this input output = .ok r ↔
      ∃ b₁, (this.buffers 1).realloc (wrap ((w / 2 : Nat) * h)) = .ok b₁ ∧
        ∃ b₂, (this.buffers 2).realloc (wrap ((w / 2 : Nat) * h)) = .ok b₂ ∧
        ∃ planes, splitUvPlane input.plane1 b₁ b₂ (w / 2 : Nat) (w / 2) h = .ok planes ∧
        toArgb ((this.set 1 planes.1).set 2 planes.2) output w h
          (i422Pixel yuv input.plane0 planes.2 planes.1 (w / 2 : Nat)) = .ok r := by
  unfold convertPlanes
  simp only [format, width, height, half_of_width, Int.toNat_natCast, bind_eq_ok]

theorem planes_size {src : Plane Memory} {c₁ c₂ b₁ b₂ : Block} {planes : Block × Block}
    (fits : 4 * (w * h : Int) < 2147483648)
    (granted₁ : c₁.realloc (wrap ((w / 2 : Nat) * h)) = .ok b₁)
    (granted₂ : c₂.realloc (wrap ((w / 2 : Nat) * h)) = .ok b₂)
    (split : splitUvPlane src b₁ b₂ (w / 2 : Nat) (w / 2) h = .ok planes) :
    (planes.1.size : Int) = (w / 2 : Nat) * h ∧ (planes.2.size : Int) = (w / 2 : Nat) * h := by
  obtain ⟨drawn₁, drawn₂⟩ := splitUvPlane_draws split
  rw [draw_size drawn₁, draw_size drawn₂, Block.realloc_size granted₁,
    Block.realloc_size granted₂, chroma_size_of_fits fits]
  exact ⟨rfl, rfl⟩

theorem convertPlanes_runs_iff (supported : Supported input.pixelFormat) (someColumn : 0 < w)
    (someRow : 0 < h) (granted : b.realloc (wrap (wrap (w * h) * 4)) = .ok plane)
    (here : output.plane0 = ⟨plane, wrap (w * 4)⟩) (width : input.width = w)
    (height : input.height = h) :
    (∃ r, convertPlanes yuv this input output = .ok r) ↔ Fits input := by
  have total : ∀ f : Nat → Nat → Pixel 4, input.pixelFormat ≠ .yuv422SemiPlanar →
      ((∃ r, toArgb this output w h (fun x y => .ok (f x y)) = .ok r) ↔ Fits input) := by
    intro f other
    rw [toArgb_runs_iff someColumn someRow granted here]
    unfold Fits
    rw [width, height]
    exact ⟨fun runs => ⟨runs.1, fun same => absurd same other⟩,
      fun fits => ⟨fits.1, fun y _ x _ => ⟨f x y, rfl⟩⟩⟩
  rcases supported with format | format | format | format
  · simp only [convertPlanes, format, width, height, Int.toNat_natCast]
    exact total _ (by simp [format])
  · simp only [convertPlanes, format, width, height, Int.toNat_natCast]
    exact total _ (by simp [format])
  · simp only [convertPlanes, format, width, height, Int.toNat_natCast]
    exact total _ (by simp [format])
  · simp only [convertPlanes_yuv422 format width height]
    unfold Fits
    rw [width, height]
    constructor
    · rintro ⟨r, b₁, granted₁, b₂, granted₂, planes, split, ran⟩
      obtain ⟨fits, readable⟩ := (toArgb_runs_iff someColumn someRow granted here).mp ⟨r, ran⟩
      obtain ⟨sizeV, sizeU⟩ := planes_size fits granted₁ granted₂ split
      have even := (i422Pixel_readable_iff someColumn someRow sizeU sizeV).mp readable
      exact ⟨fits, fun _ => by omega⟩
    · rintro ⟨fits, even⟩
      have even := even format
      have positive : 0 ≤ wrap ((w / 2 : Nat) * h) := by
        rw [chroma_size_of_fits fits]
        exact area_nonneg (w / 2) h
      obtain ⟨b₁, granted₁⟩ := Block.realloc_of_nonneg (this.buffers 1) positive
      obtain ⟨b₂, granted₂⟩ := Block.realloc_of_nonneg (this.buffers 2) positive
      have whole := chroma_size_of_fits fits
      obtain ⟨planes, split⟩ :
          ∃ planes, splitUvPlane input.plane1 b₁ b₂ (w / 2 : Nat) (w / 2) h = .ok planes :=
        splitUvPlane_runs ((Block.realloc_size granted₁).trans whole)
          ((Block.realloc_size granted₂).trans whole)
      obtain ⟨sizeV, sizeU⟩ := planes_size fits granted₁ granted₂ split
      obtain ⟨r, ran⟩ : ∃ r, toArgb ((this.set 1 planes.1).set 2 planes.2) output w h
          (i422Pixel yuv input.plane0 planes.2 planes.1 (w / 2 : Nat)) = .ok r :=
        (toArgb_runs_iff someColumn someRow granted here).mpr
          ⟨fits, (i422Pixel_readable_iff someColumn someRow sizeU sizeV).mpr (by omega)⟩
      exact ⟨r, b₁, granted₁, b₂, granted₂, planes, split, ran⟩

theorem i422Pixel_split {src srcY : Plane Memory} {b₁ b₂ : Block} {planes : Block × Block}
    {x y : Nat} {p : Pixel 4}
    (split : splitUvPlane src b₁ b₂ (w / 2 : Nat) (w / 2) h = .ok planes)
    (column : x / 2 < w / 2) (row : y < h)
    (read : i422Pixel yuv srcY planes.2 planes.1 (w / 2 : Nat) x y = .ok p) :
    yuv.i422ToArgb (pixelOf 1 srcY x y 0) (pixelOf 2 src (x / 2) y 1)
      (pixelOf 2 src (x / 2) y 0) = p := by
  obtain ⟨drawnV, drawnU⟩ := splitUvPlane_draws split
  have sampleV := draw_pixelAt drawnV (by simp) column row
  have sampleU := draw_pixelAt drawnU (by simp) column row
  obtain ⟨su, readU, sv, readV, same⟩ := i422Pixel_eq_ok.mp read
  rw [← same, ← (Block.load_eq_ok.mp readU).2, ← (Block.load_eq_ok.mp readV).2,
    ← Except.ok.inj sampleU, ← Except.ok.inj sampleV]

theorem argbAt_inside {x y : Nat} (width : input.width = w) (height : input.height = h)
    (column : x < w) (row : y < h) : (x : Int) < input.width ∧ (y : Int) < input.height := by
  rw [width, height]
  exact ⟨by omega, by omega⟩

theorem convertPlanes_converted (supported : Supported input.pixelFormat) (someColumn : 0 < w)
    (someRow : 0 < h) (granted : b.realloc (wrap (wrap (w * h) * 4)) = .ok plane)
    (here : output.plane0 = ⟨plane, wrap (w * 4)⟩) (width : input.width = w)
    (height : input.height = h) (sameWidth : output.width = w) (sameHeight : output.height = h)
    (ran : convertPlanes yuv this input output = .ok r) :
    r.ret = 0 ∧ Converted yuv input r.output := by
  have drawn : ∀ {this : Converter} {pixel : Nat → Nat → Except Fault (Pixel 4)},
      (∀ y < h, ∀ x < w, ∀ p, pixel x y = .ok p → argbAt yuv input x y = some p) →
      toArgb this output w h pixel = .ok r → r.ret = 0 ∧ Converted yuv input r.output :=
    toArgb_converted someColumn someRow granted here width height sameWidth sameHeight
  have fits := (convertPlanes_runs_iff supported someColumn someRow granted here width
    height).mp ⟨r, ran⟩
  rcases supported with format | format | format | format
  · simp only [convertPlanes, format, width, height, Int.toNat_natCast] at ran
    refine drawn (fun y row x column p read => ?_) ran
    simp only [argbAt, if_pos (argbAt_inside width height column row), format]
    exact congrArg some (Except.ok.inj read)
  · simp only [convertPlanes, format, width, height, Int.toNat_natCast] at ran
    refine drawn (fun y row x column p read => ?_) ran
    simp only [argbAt, if_pos (argbAt_inside width height column row), format]
    exact congrArg some (Except.ok.inj read)
  · simp only [convertPlanes, format, width, height, Int.toNat_natCast] at ran
    refine drawn (fun y row x column p read => ?_) ran
    simp only [argbAt, if_pos (argbAt_inside width height column row), format]
    exact congrArg some (Except.ok.inj read)
  · obtain ⟨b₁, -, b₂, -, planes, split, ran⟩ :=
      (convertPlanes_yuv422 format width height).mp ran
    refine drawn (fun y row x column p read => ?_) ran
    have even := fits.2 format
    rw [width] at even
    simp only [argbAt, if_pos (argbAt_inside width height column row), format]
    exact congrArg some (i422Pixel_split split (by omega) row read)

theorem converterRun_argb :
    converterRun yuv this input output .argb = .ok r ↔
      ∃ plane, (this.buffers 0).realloc (wrap (wrap (input.width * input.height) * 4)) =
          .ok plane ∧
        convertPlanes yuv (this.setImage plane) input { output with
          width := input.width
          height := input.height
          plane0 := ⟨plane, wrap (input.width * 4)⟩ } = .ok r := by
  unfold converterRun
  rw [if_pos rfl, bind_eq_ok]

theorem converterRun_unsupported (unsupported : ¬ Supported input.pixelFormat)
    (ran : converterRun yuv this input output .argb = .ok r) : r.ret = -2 := by
  obtain ⟨plane, -, ran⟩ := converterRun_argb.mp ran
  unfold Supported at unsupported
  unfold convertPlanes at ran
  split at ran <;> simp_all
  exact ran ▸ rfl

theorem supported_of_success (ran : converterRun yuv this input output .argb = .ok r)
    (success : r.ret = 0) : Supported input.pixelFormat := by
  by_contra unsupported
  have := converterRun_unsupported unsupported ran
  omega

theorem converterRun_converted (supported : Supported input.pixelFormat)
    (someColumn : 0 < input.width) (someRow : 0 < input.height)
    (ran : converterRun yuv this input output .argb = .ok r) :
    r.ret = 0 ∧ Converted yuv input r.output := by
  obtain ⟨w, width⟩ := Int.eq_ofNat_of_zero_le someColumn.le
  obtain ⟨h, height⟩ := Int.eq_ofNat_of_zero_le someRow.le
  obtain ⟨plane, granted, ran⟩ := converterRun_argb.mp ran
  rw [width, height] at granted
  exact convertPlanes_converted supported (by omega) (by omega) granted
    (by rw [width]) width height width height ran

theorem fits_of_converterRun (supported : Supported input.pixelFormat)
    (someColumn : 0 < input.width) (someRow : 0 < input.height)
    (ran : converterRun yuv this input output .argb = .ok r) : Fits input := by
  obtain ⟨w, width⟩ := Int.eq_ofNat_of_zero_le someColumn.le
  obtain ⟨h, height⟩ := Int.eq_ofNat_of_zero_le someRow.le
  obtain ⟨plane, granted, ran⟩ := converterRun_argb.mp ran
  rw [width, height] at granted
  exact (convertPlanes_runs_iff supported (by omega) (by omega) granted (by rw [width])
    width height).mp ⟨r, ran⟩

theorem converterRun_runs (supported : Supported input.pixelFormat)
    (someColumn : 0 < input.width) (someRow : 0 < input.height) (fits : Fits input) :
    ∃ r, converterRun yuv this input output .argb = .ok r := by
  obtain ⟨w, width⟩ := Int.eq_ofNat_of_zero_le someColumn.le
  obtain ⟨h, height⟩ := Int.eq_ofNat_of_zero_le someRow.le
  have small := fits.1
  rw [width, height] at small
  have positive : 0 ≤ wrap (wrap (input.width * input.height) * 4) := by
    rw [width, height, argb_size_of_fits small]
    have := area_nonneg w h
    omega
  obtain ⟨plane, granted⟩ := Block.realloc_of_nonneg (this.buffers 0) positive
  have here : (⟨plane, wrap (input.width * 4)⟩ : Plane Block) = ⟨plane, wrap (w * 4)⟩ := by
    rw [width]
  have inNat : (this.buffers 0).realloc (wrap (wrap (w * h) * 4)) = .ok plane := by
    rw [← width, ← height]
    exact granted
  obtain ⟨r, ran⟩ : ∃ r, convertPlanes yuv (this.setImage plane) input { output with
      width := input.width
      height := input.height
      plane0 := ⟨plane, wrap (input.width * 4)⟩ } = .ok r :=
    (convertPlanes_runs_iff supported (by omega) (by omega) inNat here width height).mpr fits
  exact ⟨r, converterRun_argb.mpr ⟨plane, granted, ran⟩⟩

theorem converterRun_succeeds (supported : Supported input.pixelFormat)
    (someColumn : 0 < input.width) (someRow : 0 < input.height) (fits : Fits input) :
    ∃ r, converterRun yuv this input output .argb = .ok r ∧ r.ret = 0 := by
  obtain ⟨r, ran⟩ := converterRun_runs supported someColumn someRow fits
  exact ⟨r, ran, (converterRun_converted supported someColumn someRow ran).1⟩

end Runs

/-- For a supported format every size the converter asks for is non-negative and every byte
a libyuv call touches lies in its block exactly when the converted image has fewer than
2³¹ bytes and a 4:2:2 frame has an even width. -/
theorem conversion_buffers_iff (yuv : Libyuv) (this : Converter) (input : FrameInfo Memory)
    (output : FrameInfo Block) (supported : Supported input.pixelFormat)
    (someColumn : 0 < input.width) (someRow : 0 < input.height) :
    (∃ r, converterRun yuv this input output .argb = .ok r) ↔
      4 * (input.width * input.height) < 2147483648 ∧
        (input.pixelFormat = .yuv422SemiPlanar → input.width % 2 = 0) :=
  ⟨fun ⟨_, ran⟩ => fits_of_converterRun supported someColumn someRow ran,
    converterRun_runs supported someColumn someRow⟩

/-! ### Frames to try -/

/-- libyuv in C, for chroma samples of 128. -/
def greyYuv : Libyuv :=
  let grey := fun y : UInt8 =>
    let value := ((y.toNat * 257 * 18997 / 65536 : Int) - 1160) / 64
    let level := UInt8.ofNat (min 255 value.toNat)
    (![level, level, level, 255] : Pixel 4)
  { rgb24ToArgb := fun p => ![p 0, p 1, p 2, 255]
    abgrToArgb := fun p => ![p 2, p 1, p 0, p 3]
    nv21ToArgb := fun y _ _ => grey y
    i422ToArgb := fun y _ _ => grey y
    argbBlend := fun f b =>
      let blend := fun c =>
        UInt8.ofNat (min 255 ((256 - (f 3).toNat) * (b c).toNat / 256 + (f c).toNat))
      ![blend 0, blend 1, blend 2, 255]
    argbToRgb24 := fun p => ![p 0, p 1, p 2] }

def greyFrame (format : PixelFormat) (bytes width height : Int) : FrameInfo Memory :=
  ⟨format, width, height, ⟨fun _ => 128, bytes * width⟩, ⟨fun _ => 128, width⟩⟩

theorem conversion_buffers_abgr :
    ∃ r, converterRun greyYuv converterInit (greyFrame .abgr 4 321 180) blankFrame .argb =
      .ok r :=
  (conversion_buffers_iff greyYuv converterInit (greyFrame .abgr 4 321 180) blankFrame
    (by decide) (by decide) (by decide)).mpr ⟨by decide, by decide⟩

theorem conversion_buffers_odd :
    ¬ ∀ (yuv : Libyuv) (this : Converter) (input : FrameInfo Memory)
      (output : FrameInfo Block), Supported input.pixelFormat → 0 < input.width →
      0 < input.height → ∃ r, converterRun yuv this input output .argb = .ok r := by
  intro inside
  obtain ⟨r, ran⟩ := inside greyYuv converterInit (greyFrame .yuv422SemiPlanar 1 321 180)
    blankFrame (by decide) (by decide) (by decide)
  have fits := fits_of_converterRun (by decide) (by decide) (by decide) ran
  exact absurd (fits.2 rfl) (by decide)

end HyperionWebos.FrameConversion
