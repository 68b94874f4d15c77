import HyperionWebos.FrameConversion

/-! The middle of `unicapture_run`'s loop, from the acquired frames to the frame handed to
the callback: both frames converted, the video frame graded with the lookup table, the two
blended, the result packed as RGB. The table is memory whose end is its file's. -/

namespace HyperionWebos.FrameBlend
open Runs Unicapture ByteBlocks FrameConversion

/-- The locals of `unicapture_run` that outlive an iteration. -/
structure Buffers where
  uiConverter : Converter
  videoConverter : Converter
  blendedFrame : Block
  finalFrame : Block

def initialBuffers : Buffers := ⟨converterInit, converterInit, null, null⟩

/-- The arguments of the image callback. -/
structure Delivery where
  width : Int
  height : Int
  rgbData : Block

def lutIndex (y u v : UInt8) : Nat := (y.toNat + u.toNat * 256 + v.toNat * 65536) * 3

def lutColor (table : Memory) (r g b : UInt8) : Pixel 3 :=
  fun c => table (lutIndex r g b + c.val : Nat)

/-- The body of the grading loop. -/
def applyLut (table : Memory) (b : Block) (i : Int) : Except Fault Block := do
  let p ← b.load 3 i
  b.store i (lutColor table (byte p 0) (byte p 1) (byte p 2))

/-- `for (int i = 0; i < bytes; i += 4)`. -/
def lutLoop (table : Memory) (b : Block) (bytes : Int) : Except Fault Block :=
  (List.range ((bytes + 3) / 4).toNat).foldlM (fun b j => applyLut table b (4 * (j : Nat))) b

def convertUi (yuv : Libyuv) (this : Converter) (frame : FrameInfo Memory) :
    Except Fault (Converter × FrameInfo Block) :=
  if frame.pixelFormat ≠ .invalid then do
    let r ← converterRun yuv this frame blankFrame .argb
    .ok (r.this, r.output)
  else .ok (this, blankFrame)

def convertVideo (yuv : Libyuv) (lutTable : Option Memory) (this : Converter)
    (frame : FrameInfo Memory) : Except Fault (Converter × FrameInfo Block) :=
  if frame.pixelFormat ≠ .invalid then do
    let r ← converterRun yuv this frame blankFrame .argb
    match lutTable with
    | none => .ok (r.this, r.output)
    | some table =>
      let plane ← lutLoop table r.output.plane0.buffer
        (wrap (wrap (r.output.width * r.output.height) * 4))
      .ok (r.this.setImage plane,
        { r.output with plane0 := { r.output.plane0 with buffer := plane } })
  else .ok (this, blankFrame)

def loadPixel (n : Nat) (p : Plane Block) (x y : Nat) : Except Fault (Pixel n) :=
  p.buffer.load n (y * p.stride + n * x)

/-- `ARGBBlend` at one pixel. -/
def blendPixel (yuv : Libyuv) (foreground background : Plane Block) (x y : Nat) :
    Except Fault (Pixel 4) := do
  let f ← loadPixel 4 foreground x y
  let b ← loadPixel 4 background x y
  .ok (yuv.argbBlend f b)

/-- `ARGBToRGB24` at one pixel. -/
def rgb24Pixel (yuv : Libyuv) (src : Plane Block) (x y : Nat) : Except Fault (Pixel 3) := do
  let p ← loadPixel 4 src x y
  .ok (yuv.argbToRgb24 p)

def sendOne (yuv : Libyuv) (s : Buffers) (frame : FrameInfo Block) :
    Except Fault (Buffers × Option Delivery) := do
  let width := frame.width
  let height := frame.height
  let final ← s.finalFrame.realloc (wrap (wrap (width * height) * 3))
  let final ← draw final (wrap (3 * width)) width.toNat height.toNat (rgb24Pixel yuv frame.plane0)
  .ok ({ s with finalFrame := final }, some ⟨width, height, final⟩)

def sendBlended (yuv : Libyuv) (s : Buffers) (ui video : FrameInfo Block) :
    Except Fault (Buffers × Option Delivery) := do
  let width := video.width
  let height := video.height
  let blended ← s.blendedFrame.realloc (wrap (wrap (width * height) * 4))
  let final ← s.finalFrame.realloc (wrap (wrap (width * height) * 3))
  let blended ← draw blended (wrap (4 * width)) width.toNat height.toNat
    (blendPixel yuv ui.plane0 video.plane0)
  let final ← draw final (wrap (3 * width)) width.toNat height.toNat
    (rgb24Pixel yuv ⟨blended, wrap (4 * width)⟩)
  .ok ({ s with blendedFrame := blended, finalFrame := final }, some ⟨width, height, final⟩)

def sendFrames (yuv : Libyuv) (s : Buffers) (ui video : FrameInfo Block) :
    Except Fault (Buffers × Option Delivery) :=
  if video.pixelFormat ≠ .invalid ∧ ui.pixelFormat ≠ .invalid then sendBlended yuv s ui video
  else if ui.pixelFormat ≠ .invalid then sendOne yuv s ui
  else if video.pixelFormat ≠ .invalid then sendOne yuv s video
  else .ok (s, none)

/-- One iteration of `unicapture_run` with the frames the backends acquired. -/
def processFrames (yuv : Libyuv) (lutTable : Option Memory) (s : Buffers)
    (ui video : FrameInfo Memory) : Except Fault (Buffers × Option Delivery) := do
  let ui ← convertUi yuv s.uiConverter ui
  let video ← convertVideo yuv lutTable s.videoConverter video
  sendFrames yuv { s with uiConverter := ui.1, videoConverter := video.1 } ui.2 video.2

/-! ### Grading -/

/-- A pixel of the converted video frame after the loop, its last byte as it was. -/
def graded (lutTable : Option Memory) (p : Pixel 4) : Pixel 4 :=
  match lutTable with
  | none => p
  | some table => fun c =>
    if color : c.val < 3 then lutColor table (byte p 0) (byte p 1) (byte p 2) ⟨c, color⟩ else p c

theorem graded_none : graded none = id := rfl

theorem graded_color (table : Memory) (p : Pixel 4) {c : Fin 4} (color : c.val < 3) :
    graded (some table) p c =
      lutColor table (byte p 0) (byte p 1) (byte p 2) ⟨c, color⟩ :=
  dif_pos color

theorem graded_last (table : Memory) (p : Pixel 4) {c : Fin 4} (last : ¬ c.val < 3) :
    graded (some table) p c = p c :=
  dif_neg last

section Grading

variable {table : Memory} {b b' : Block} {o : Int}

theorem applyLut_runs (holds : b.Holds 4 o) : ∃ b', applyLut table b o = .ok b' := by
  have inside : b.Holds 3 o := ⟨holds.1, by have := holds.2; omega⟩
  obtain ⟨b', stored⟩ := Block.store_of_holds (lutColor table (byte (b.pixelAt 3 o) 0)
    (byte (b.pixelAt 3 o) 1) (byte (b.pixelAt 3 o) 2)) inside
  exact ⟨b', bind_eq_ok.mpr ⟨_, Block.load_of_holds inside, stored⟩⟩

theorem applyLut_store (ran : applyLut table b o = .ok b') :
    b.store o (lutColor table (byte (b.pixelAt 3 o) 0) (byte (b.pixelAt 3 o) 1)
      (byte (b.pixelAt 3 o) 2)) = .ok b' := by
  obtain ⟨p, read, stored⟩ := bind_eq_ok.mp ran
  rw [(Block.load_eq_ok.mp read).2]
  exact stored

theorem applyLut_here (ran : applyLut table b o = .ok b') :
    b'.pixelAt 4 o = graded (some table) (b.pixelAt 4 o) := by
  have stored := applyLut_store ran
  have here := (Block.store_holds stored).1
  have last : b'.pixelAt 1 (o + 3) = b.pixelAt 1 (o + 3) :=
    Block.store_pixelAt_of_apart stored (by omega) (.inr (by omega))
  funext c
  by_cases color : c.val < 3
  · have colored := congrFun (Block.store_pixelAt stored) ⟨c, color⟩
    rw [graded_color _ _ color]
    exact colored
  · have place : (o + 3).toNat = o.toNat + c := by omega
    have same := congrFun last 0
    simp only [Block.pixelAt, place] at same
    rw [graded_last _ _ color]
    exact same

theorem lutLoop_rounds (n : Nat) (fits : 4 * n ≤ b.size) :
    ∃ b', (List.range n).foldlM (fun b j => applyLut table b (4 * (j : Nat))) b = .ok b' ∧
      b'.size = b.size ∧ ∀ j : Nat, b'.pixelAt 4 (4 * j) =
        if j < n then graded (some table) (b.pixelAt 4 (4 * j)) else b.pixelAt 4 (4 * j) := by
  induction n with
  | zero => exact ⟨b, rfl, rfl, fun j => (if_neg (Nat.not_lt_zero j)).symm⟩
  | succ n ih =>
    obtain ⟨b₁, ran, size, pixels⟩ := ih (by omega)
    obtain ⟨b', last⟩ : ∃ b', applyLut table b₁ (4 * n) = .ok b' :=
      applyLut_runs ⟨by omega, by omega⟩
    have stored := applyLut_store last
    refine ⟨b', ?_, (Block.store_size stored).trans size, fun j => ?_⟩
    · rw [List.range_succ, List.foldlM_append, bind_eq_ok]
      exact ⟨b₁, ran, bind_eq_ok.mpr ⟨b', last, rfl⟩⟩
    · rcases Nat.lt_trichotomy j n with before | rfl | after
      · rw [Block.store_pixelAt_of_apart stored (by omega) (.inl (by omega)), pixels j,
          if_pos before, if_pos (by omega)]
      · rw [applyLut_here last, pixels j, if_neg (by omega), if_pos (by omega)]
      · rw [Block.store_pixelAt_of_apart stored (by omega) (.inr (by omega)), pixels j,
          if_neg (by omega), if_neg (by omega)]

end Grading

/-! ### The converted frames -/

section Converting

variable {yuv : Libyuv} {this : Converter} {frame : FrameInfo Memory} {r : Conversion}

theorem valid_of_supported {format : PixelFormat} (supported : Supported format) :
    format ≠ .invalid := by
  rintro rfl
  exact absurd supported (by decide)

theorem convertUi_converted (someColumn : 0 < frame.width) (someRow : 0 < frame.height)
    (ran : converterRun yuv this frame blankFrame .argb = .ok r) (success : r.ret = 0) :
    ∃ converted, convertUi yuv this frame = .ok converted ∧
      ArgbFrame (argbAt yuv frame) frame.width frame.height converted.2 := by
  have supported := supported_of_success ran success
  refine ⟨(r.this, r.output), ?_, (converterRun_converted supported someColumn someRow ran).2⟩
  unfold convertUi
  rw [if_pos (valid_of_supported supported), bind_eq_ok]
  exact ⟨r, ran, rfl⟩

theorem lutLoop_graded {image : Nat → Nat → Option (Pixel 4)} {w h : Int}
    {output : FrameInfo Block} (table : Memory) (someColumn : 0 ≤ w) (someRow : 0 ≤ h)
    (argb : ArgbFrame image w h output) :
    ∃ plane, lutLoop table output.plane0.buffer
        (wrap (wrap (output.width * output.height) * 4)) = .ok plane ∧
      ArgbFrame (fun x y => (image x y).map (graded (some table))) w h
        { output with plane0 := { output.plane0 with buffer := plane } } := by
  obtain ⟨w, rfl⟩ := Int.eq_ofNat_of_zero_le someColumn
  obtain ⟨h, rfl⟩ := Int.eq_ofNat_of_zero_le someRow
  have size := argb.size
  have rounds : ((4 * (w * h) + 3 : Int) / 4).toNat = w * h := by
    have : ((w * h : Nat) : Int) = w * h := Nat.cast_mul w h
    omega
  have fits : 4 * (w * h) ≤ output.plane0.buffer.size := by
    have : ((w * h : Nat) : Int) = w * h := Nat.cast_mul w h
    omega
  obtain ⟨plane, ran, sameSize, pixels⟩ := lutLoop_rounds (w * h) fits
  refine ⟨plane, ?_, ?_⟩
  · unfold lutLoop
    rw [argb.width, argb.height, argb_size_of_fits argb.small, rounds]
    exact ran
  · refine ⟨argb.format, argb.width, argb.height, argb.stride, ?_, argb.small, ?_⟩
    · rw [← size]
      exact congrArg _ sameSize
    · intro x y column row
      have place : (y * (4 * w) + 4 * x : Int) = 4 * (y * w + x : Nat) := by push_cast; ring
      have inside : y * w + x < w * h := by
        have nextRow : (y + 1) * w ≤ h * w := Nat.mul_le_mul_right w (by omega)
        have : w * h = h * w := Nat.mul_comm w h
        have : (y + 1) * w = y * w + w := Nat.succ_mul y w
        omega
      have pixel := pixels (y * w + x)
      rw [if_pos inside, ← place] at pixel
      exact (congrArg _ (argb.shows x y column row)).trans (congrArg some pixel.symm)

theorem convertVideo_converted (lutTable : Option Memory) (someColumn : 0 < frame.width)
    (someRow : 0 < frame.height)
    (ran : converterRun yuv this frame blankFrame .argb = .ok r) (success : r.ret = 0) :
    ∃ converted, convertVideo yuv lutTable this frame = .ok converted ∧
      ArgbFrame (fun x y => (argbAt yuv frame x y).map (graded lutTable)) frame.width
        frame.height converted.2 := by
  have supported := supported_of_success ran success
  have argb : ArgbFrame (argbAt yuv frame) frame.width frame.height r.output :=
    (converterRun_converted supported someColumn someRow ran).2
  unfold convertVideo
  rw [if_pos (valid_of_supported supported)]
  cases lutTable with
  | none =>
    refine ⟨(r.this, r.output), bind_eq_ok.mpr ⟨r, ran, rfl⟩, ?_⟩
    simpa only [graded_none, Option.map_id, id_eq] using argb
  | some table =>
    obtain ⟨plane, looped, gradedFrame⟩ := lutLoop_graded table someColumn.le someRow.le argb
    exact ⟨_, bind_eq_ok.mpr ⟨r, ran, bind_eq_ok.mpr ⟨plane, looped, rfl⟩⟩, gradedFrame⟩

end Converting

/-! ### Blending -/

section Blending

variable {yuv : Libyuv} {s : Buffers} {ui video : FrameInfo Block} {r : Buffers × Option Delivery}
  {uiImage videoImage : Nat → Nat → Option (Pixel 4)} {uw uh vw vh : Nat}

theorem blendPixel_eq_ok {f b : Plane Block} {x y : Nat} {p : Pixel 4} :
    blendPixel yuv f b x y = .ok p ↔
      ∃ pf, loadPixel 4 f x y = .ok pf ∧ ∃ pb, loadPixel 4 b x y = .ok pb ∧
        yuv.argbBlend pf pb = p := by
  simp only [blendPixel, bind_eq_ok, Except.ok.injEq]

theorem rgb24Pixel_eq_ok {src : Plane Block} {x y : Nat} {p : Pixel 3} :
    rgb24Pixel yuv src x y = .ok p ↔
      ∃ q, loadPixel 4 src x y = .ok q ∧ yuv.argbToRgb24 q = p := by
  simp only [rgb24Pixel, bind_eq_ok, Except.ok.injEq]

theorem sendBlended_eq_ok :
    sendBlended yuv s ui video = .ok r ↔
      ∃ b₀, s.blendedFrame.realloc (wrap (wrap (video.width * video.height) * 4)) = .ok b₀ ∧
      ∃ f₀, s.finalFrame.realloc (wrap (wrap (video.width * video.height) * 3)) = .ok f₀ ∧
      ∃ blended, draw b₀ (wrap (4 * video.width)) video.width.toNat video.height.toNat
          (blendPixel yuv ui.plane0 video.plane0) = .ok blended ∧
      ∃ final, draw f₀ (wrap (3 * video.width)) video.width.toNat video.height.toNat
          (rgb24Pixel yuv ⟨blended, wrap (4 * video.width)⟩) = .ok final ∧
        ({ s with blendedFrame := blended, finalFrame := final },
          some ⟨video.width, video.height, final⟩) = r := by
  simp only [sendBlended, bind_eq_ok, Except.ok.injEq]

theorem loadPixel_argb {f : FrameInfo Block} {image : Nat → Nat → Option (Pixel 4)} {w h : Int}
    (argb : ArgbFrame image w h f) (x y : Nat) :
    loadPixel 4 f.plane0 x y = f.plane0.buffer.load 4 (y * ((4 : Nat) * w) + (4 : Nat) * x) := by
  unfold loadPixel
  rw [argb.stride]
  rfl

/-- Blending reads past the UI frame unless the last pixel it takes from it, counted at
the UI frame's own width, is one of its pixels. -/
theorem blend_runs_iff {b : Block} (someColumn : 0 < vw) (someRow : 0 < vh)
    (uiFrame : ArgbFrame uiImage uw uh ui) (videoFrame : ArgbFrame videoImage vw vh video)
    (size : (b.size : Int) = (4 : Nat) * (vw * vh)) :
    (∃ blended, draw b ((4 : Nat) * vw) vw vh (blendPixel yuv ui.plane0 video.plane0) =
      .ok blended) ↔ (vh - 1 : Int) * uw + vw ≤ uw * uh := by
  rw [← packed_rows_held_iff (by decide) someColumn someRow uiFrame.size, draw_runs_iff]
  constructor
  · intro runs y row x column
    obtain ⟨-, p, read⟩ := runs y row x column
    obtain ⟨pf, readUi, -⟩ := blendPixel_eq_ok.mp read
    rw [loadPixel_argb uiFrame] at readUi
    exact (Block.load_eq_ok.mp readUi).1
  · intro held y row x column
    have readUi := Block.load_of_holds (held y row x column)
    have readVideo := Block.load_of_holds (packed_rows_held videoFrame.size y row x column)
    rw [← loadPixel_argb uiFrame] at readUi
    rw [← loadPixel_argb videoFrame] at readVideo
    exact ⟨packed_rows_held size y row x column, _,
      blendPixel_eq_ok.mpr ⟨_, readUi, _, readVideo, rfl⟩⟩

theorem rgb24_runs {b src : Block} {w h : Nat} (size : (b.size : Int) = (3 : Nat) * (w * h))
    (sizeSrc : (src.size : Int) = (4 : Nat) * (w * h)) :
    ∃ final, draw b ((3 : Nat) * w) w h (rgb24Pixel yuv ⟨src, (4 : Nat) * w⟩) = .ok final := by
  refine draw_runs_iff.mpr fun y row x column => ?_
  have read := Block.load_of_holds (packed_rows_held sizeSrc y row x column)
  exact ⟨packed_rows_held size y row x column, _, rgb24Pixel_eq_ok.mpr ⟨_, read, rfl⟩⟩

theorem rgb24_load {b src final : Block} {w h x y : Nat} {p : Pixel 4}
    (drawn : draw b ((3 : Nat) * w) w h (rgb24Pixel yuv ⟨src, (4 : Nat) * w⟩) = .ok final)
    (column : x < w) (row : y < h)
    (read : src.load 4 (y * ((4 : Nat) * w) + (4 : Nat) * x) = .ok p) :
    final.load 3 (y * ((3 : Nat) * w) + (3 : Nat) * x) = .ok (yuv.argbToRgb24 p) := by
  rw [draw_load drawn le_rfl column row]
  exact rgb24Pixel_eq_ok.mpr ⟨p, read, rfl⟩

structure SendSizes (w h : Nat) : Prop where
  argbSize : wrap (wrap (w * h) * 4) = (4 : Nat) * (w * h)
  rgbSize : wrap (wrap (w * h) * 3) = (3 : Nat) * (w * h)
  argbStride : wrap (4 * w) = (4 : Nat) * w
  rgbStride : wrap (3 * w) = (3 : Nat) * w

theorem sendSizes_of_fits (someRow : 0 < vh) (fits : 4 * (vw * vh : Int) < 2147483648) :
    SendSizes vw vh := by
  have area := area_nonneg vw vh
  have pixels : wrap (vw * vh) = vw * vh := wrap_of_small area (by omega)
  have row : (vw : Int) ≤ vw * vh := by exact_mod_cast Nat.le_mul_of_pos_right vw someRow
  refine ⟨?_, ?_, ?_, ?_⟩
  · exact argb_size_of_fits fits
  · rw [pixels, Int.mul_comm _ 3]
    exact wrap_of_small (by omega) (by omega)
  · exact wrap_of_small (by omega) (by omega)
  · exact wrap_of_small (by omega) (by omega)

theorem sendBlended_runs_iff (someColumn : 0 < vw) (someRow : 0 < vh)
    (uiFrame : ArgbFrame uiImage uw uh ui) (videoFrame : ArgbFrame videoImage vw vh video) :
    (∃ r, sendBlended yuv s ui video = .ok r) ↔ (vh - 1 : Int) * uw + vw ≤ uw * uh := by
  have sizes := sendSizes_of_fits someRow videoFrame.small
  have area := area_nonneg vw vh
  simp only [sendBlended_eq_ok, videoFrame.width, videoFrame.height, Int.toNat_natCast,
    sizes.argbSize, sizes.rgbSize, sizes.argbStride, sizes.rgbStride]
  constructor
  · rintro ⟨r, b₀, granted, f₀, -, blended, drawn, -⟩
    exact (blend_runs_iff someColumn someRow uiFrame videoFrame
      (Block.realloc_size granted)).mp ⟨blended, drawn⟩
  · intro inside
    obtain ⟨b₀, grantedB⟩ := Block.realloc_of_nonneg s.blendedFrame
      (show 0 ≤ ((4 : Nat) : Int) * (vw * vh) by omega)
    obtain ⟨f₀, grantedF⟩ := Block.realloc_of_nonneg s.finalFrame
      (show 0 ≤ ((3 : Nat) : Int) * (vw * vh) by omega)
    have sizeB := Block.realloc_size grantedB
    obtain ⟨blended, drawn⟩ :=
      (blend_runs_iff someColumn someRow uiFrame videoFrame sizeB).mpr inside
    have sizeBlended : (blended.size : Int) = (4 : Nat) * (vw * vh) := by
      rw [draw_size drawn]
      exact sizeB
    obtain ⟨final, packed⟩ := rgb24_runs (Block.realloc_size grantedF) sizeBlended
    exact ⟨_, b₀, grantedB, f₀, grantedF, blended, drawn, final, packed, rfl⟩

theorem sendBlended_pixel (someRow : 0 < vh) (uiFrame : ArgbFrame uiImage uw uh ui)
    (videoFrame : ArgbFrame videoImage vw vh video) (ran : sendBlended yuv s ui video = .ok r) :
    ∃ d, r.2 = some d ∧ d.width = vw ∧ d.height = vh ∧
      (d.rgbData.size : Int) = (3 : Nat) * (vw * vh) ∧
      ∀ x < vw, ∀ y < vh, ∀ f b, uiImage x y = some f → x < uw → y < uh →
        videoImage x y = some b →
        d.rgbData.load 3 (y * ((3 : Nat) * vw) + (3 : Nat) * x) =
          .ok (yuv.argbToRgb24 (yuv.argbBlend f b)) := by
  have sizes := sendSizes_of_fits someRow videoFrame.small
  simp only [sendBlended_eq_ok, videoFrame.width, videoFrame.height, Int.toNat_natCast,
    sizes.argbSize, sizes.rgbSize, sizes.argbStride, sizes.rgbStride] at ran
  obtain ⟨b₀, grantedB, f₀, grantedF, blended, drawn, final, packed, rfl⟩ := ran
  refine ⟨_, rfl, rfl, rfl, ?_, ?_⟩
  · rw [draw_size packed]
    exact Block.realloc_size grantedF
  · intro x column y row f b atUi columnUi rowUi atVideo
    have readUi := Block.load_of_holds (packed_rows_held uiFrame.size y rowUi x columnUi)
    have readVideo := Block.load_of_holds (packed_rows_held videoFrame.size y row x column)
    have sameUi := (uiFrame.shows x y (by omega) (by omega)).symm.trans atUi
    have sameVideo := (videoFrame.shows x y (by omega) (by omega)).symm.trans atVideo
    rw [← loadPixel_argb uiFrame] at readUi
    rw [← loadPixel_argb videoFrame] at readVideo
    refine rgb24_load packed column row ?_
    rw [draw_load drawn le_rfl column row]
    refine blendPixel_eq_ok.mpr ⟨_, readUi, _, readVideo, ?_⟩
    exact congrArg₂ yuv.argbBlend (Option.some.inj sameUi) (Option.some.inj sameVideo)

theorem sendOne_pixel {f : FrameInfo Block} {image : Nat → Nat → Option (Pixel 4)} {w h : Int}
    (someColumn : 0 < w) (someRow : 0 < h) (frame : ArgbFrame image w h f) :
    ∃ r d, sendOne yuv s f = .ok r ∧ r.2 = some d ∧ d.width = w ∧ d.height = h ∧
      ∀ x y : Nat, (x : Int) < w → (y : Int) < h → ∃ p, image x y = some p ∧
        d.rgbData.load 3 (y * (3 * w) + 3 * x) = .ok (yuv.argbToRgb24 p) := by
  obtain ⟨w, rfl⟩ := Int.eq_ofNat_of_zero_le someColumn.le
  obtain ⟨h, rfl⟩ := Int.eq_ofNat_of_zero_le someRow.le
  have sizes := sendSizes_of_fits (by omega) frame.small
  have area := area_nonneg w h
  have plane : f.plane0 = ⟨f.plane0.buffer, (4 : Nat) * w⟩ :=
    congrArg (Plane.mk f.plane0.buffer) frame.stride
  obtain ⟨f₀, granted⟩ := Block.realloc_of_nonneg s.finalFrame
    (show 0 ≤ ((3 : Nat) : Int) * (w * h) by omega)
  obtain ⟨final, packed⟩ : ∃ final, draw f₀ ((3 : Nat) * w) w h
      (rgb24Pixel yuv ⟨f.plane0.buffer, (4 : Nat) * w⟩) = .ok final :=
    rgb24_runs (Block.realloc_size granted) frame.size
  refine ⟨({ s with finalFrame := final }, some ⟨w, h, final⟩), ⟨w, h, final⟩, ?_, rfl, rfl, rfl,
    fun x y column row => ⟨_, frame.shows x y column row, ?_⟩⟩
  · rw [← plane] at packed
    simp only [sendOne, frame.width, frame.height, sizes.rgbSize, sizes.rgbStride,
      Int.toNat_natCast, bind_eq_ok]
    exact ⟨f₀, granted, final, packed, rfl⟩
  · have held := packed_rows_held frame.size y (by omega) x (by omega)
    exact rgb24_load packed (by omega) (by omega) (Block.load_of_holds held)

end Blending

/-! ### One iteration -/

/-- What is promised of an iteration with two frames: no access outside a block, and a
frame as large as the video frame, each pixel the blend of the two at its place. -/
def BlendedInside (yuv : Libyuv) (lutTable : Option Memory) (s : Buffers)
    (ui video : FrameInfo Memory) : Prop :=
  ∃ r d, processFrames yuv lutTable s ui video = .ok r ∧ r.2 = some d ∧
    d.width = video.width ∧ d.height = video.height ∧
    (d.rgbData.size : Int) = 3 * (video.width * video.height) ∧
    ∀ x y : Nat, (x : Int) < video.width → (y : Int) < video.height →
      ∃ f b, argbAt yuv ui x y = some f ∧ argbAt yuv video x y = some b ∧
        d.rgbData.load 3 (y * (3 * video.width) + 3 * x) =
          .ok (yuv.argbToRgb24 (yuv.argbBlend f (graded lutTable b)))

section Iterations

variable {yuv : Libyuv} {lutTable : Option Memory} {s : Buffers} {ui video : FrameInfo Memory}

theorem inside_of_argbAt {f : FrameInfo Memory} {x y : Nat} {p : Pixel 4}
    (here : argbAt yuv f x y = some p) : (x : Int) < f.width ∧ (y : Int) < f.height := by
  by_contra outside
  unfold argbAt at here
  rw [if_neg outside] at here
  exact absurd here.symm (Option.some_ne_none p)

theorem covers_of_blendedInside (someColumn : 0 < video.width) (someRow : 0 < video.height)
    (blended : BlendedInside yuv lutTable s ui video) :
    video.width ≤ ui.width ∧ video.height ≤ ui.height := by
  obtain ⟨r, d, -, -, -, -, -, pixels⟩ := blended
  have nonneg := Int.toNat_of_nonneg (show 0 ≤ video.width - 1 by omega)
  have nonneg' := Int.toNat_of_nonneg (show 0 ≤ video.height - 1 by omega)
  obtain ⟨f, -, lastColumn, -⟩ := pixels (video.width - 1).toNat 0 (by omega) (by omega)
  obtain ⟨g, -, lastRow, -⟩ := pixels 0 (video.height - 1).toNat (by omega) (by omega)
  have inColumn := (inside_of_argbAt lastColumn).1
  have inRow := (inside_of_argbAt lastRow).2
  exact ⟨by omega, by omega⟩

theorem processFrames_both {cu cv : Converter × FrameInfo Block}
    {uiImage videoImage : Nat → Nat → Option (Pixel 4)} {uw uh vw vh : Int}
    (uiRan : convertUi yuv s.uiConverter ui = .ok cu)
    (videoRan : convertVideo yuv lutTable s.videoConverter video = .ok cv)
    (uiFrame : ArgbFrame uiImage uw uh cu.2) (videoFrame : ArgbFrame videoImage vw vh cv.2) :
    processFrames yuv lutTable s ui video =
      sendBlended yuv { s with uiConverter := cu.1, videoConverter := cv.1 } cu.2 cv.2 := by
  unfold processFrames
  rw [uiRan, ok_bind, videoRan, ok_bind, sendFrames, uiFrame.format, videoFrame.format]
  rfl

theorem processFrames_ui (someColumn : 0 < ui.width) (someRow : 0 < ui.height)
    (uiConverted : ∃ r, converterRun yuv s.uiConverter ui blankFrame .argb = .ok r ∧ r.ret = 0)
    (noVideo : video.pixelFormat = .invalid) :
    ∃ r d, processFrames yuv lutTable s ui video = .ok r ∧ r.2 = some d ∧ d.width = ui.width ∧
      d.height = ui.height ∧ ∀ x y : Nat, (x : Int) < ui.width → (y : Int) < ui.height →
        ∃ p, argbAt yuv ui x y = some p ∧
          d.rgbData.load 3 (y * (3 * ui.width) + 3 * x) = .ok (yuv.argbToRgb24 p) := by
  obtain ⟨ru, uiRan, success⟩ := uiConverted
  obtain ⟨cu, uiDone, uiFrame⟩ := convertUi_converted someColumn someRow uiRan success
  have videoDone : convertVideo yuv lutTable s.videoConverter video =
      .ok (s.videoConverter, blankFrame) := by
    unfold convertVideo
    rw [noVideo]
    rfl
  obtain ⟨r, d, sent, delivered⟩ := sendOne_pixel someColumn someRow uiFrame
  refine ⟨r, d, ?_, delivered⟩
  unfold processFrames
  rw [uiDone, ok_bind, videoDone, ok_bind, sendFrames, uiFrame.format]
  exact sent

theorem processFrames_video (someColumn : 0 < video.width) (someRow : 0 < video.height)
    (videoConverted : ∃ r, converterRun yuv s.videoConverter video blankFrame .argb = .ok r ∧
      r.ret = 0) (noUi : ui.pixelFormat = .invalid) :
    ∃ r d, processFrames yuv lutTable s ui video = .ok r ∧ r.2 = some d ∧
      d.width = video.width ∧ d.height = video.height ∧
      ∀ x y : Nat, (x : Int) < video.width → (y : Int) < video.height →
        ∃ p, argbAt yuv video x y = some p ∧
          d.rgbData.load 3 (y * (3 * video.width) + 3 * x) =
            .ok (yuv.argbToRgb24 (graded lutTable p)) := by
  obtain ⟨rv, videoRan, success⟩ := videoConverted
  obtain ⟨cv, videoDone, videoFrame⟩ :=
    convertVideo_converted lutTable someColumn someRow videoRan success
  have uiDone : convertUi yuv s.uiConverter ui = .ok (s.uiConverter, blankFrame) := by
    unfold convertUi
    rw [noUi]
    rfl
  obtain ⟨r, d, sent, delivered, width, height, pixels⟩ :=
    sendOne_pixel someColumn someRow videoFrame
  refine ⟨r, d, ?_, delivered, width, height, fun x y column row => ?_⟩
  · unfold processFrames
    rw [uiDone, ok_bind, videoDone, ok_bind, sendFrames, videoFrame.format]
    exact sent
  · obtain ⟨q, here, packed⟩ := pixels x y column row
    obtain ⟨p, bare, rfl⟩ := Option.map_eq_some_iff.mp here
    exact ⟨p, bare, packed⟩

theorem covered {uw uh vw vh : Nat} (narrow : vw ≤ uw) (low : vh ≤ uh) :
    (vh - 1 : Int) * uw + vw ≤ uw * uh := by
  have rows : (vh - 1 : Int) * uw ≤ (uh - 1) * uw :=
    mul_le_mul_of_nonneg_right (by omega) (by omega)
  have whole : (uh - 1 : Int) * uw = uw * uh - uw := by ring
  omega

end Iterations

/-- Both frames converted, an iteration stays inside its blocks exactly when the last pixel
blended lies in the UI frame, and sends what is promised exactly when the UI frame is at
least as wide and as high as the video frame. -/
theorem blend_inside_iff (yuv : Libyuv) (lutTable : Option Memory) (s : Buffers)
    (ui video : FrameInfo Memory) (uiColumn : 0 < ui.width) (uiRow : 0 < ui.height)
    (videoColumn : 0 < video.width) (videoRow : 0 < video.height)
    (uiConverted : ∃ r, converterRun yuv s.uiConverter ui blankFrame .argb = .ok r ∧ r.ret = 0)
    (videoConverted : ∃ r, converterRun yuv s.videoConverter video blankFrame .argb = .ok r ∧
      r.ret = 0) :
    ((∃ r, processFrames yuv lutTable s ui video = .ok r) ↔
      (video.height - 1) * ui.width + video.width ≤ ui.width * ui.height) ∧
    (BlendedInside yuv lutTable s ui video ↔
      video.width ≤ ui.width ∧ video.height ≤ ui.height) := by
  obtain ⟨ru, uiRan, uiSuccess⟩ := uiConverted
  obtain ⟨rv, videoRan, videoSuccess⟩ := videoConverted
  obtain ⟨cu, uiDone, uiFrame⟩ := convertUi_converted uiColumn uiRow uiRan uiSuccess
  obtain ⟨cv, videoDone, videoFrame⟩ :=
    convertVideo_converted lutTable videoColumn videoRow videoRan videoSuccess
  have both := processFrames_both uiDone videoDone uiFrame videoFrame
  obtain ⟨uw, uwEq⟩ := Int.eq_ofNat_of_zero_le uiColumn.le
  obtain ⟨uh, uhEq⟩ := Int.eq_ofNat_of_zero_le uiRow.le
  obtain ⟨vw, vwEq⟩ := Int.eq_ofNat_of_zero_le videoColumn.le
  obtain ⟨vh, vhEq⟩ := Int.eq_ofNat_of_zero_le videoRow.le
  rw [uwEq, uhEq] at uiFrame
  rw [vwEq, vhEq] at videoFrame
  refine ⟨?_, covers_of_blendedInside videoColumn videoRow, ?_⟩
  · rw [both, uwEq, uhEq, vwEq, vhEq]
    exact sendBlended_runs_iff (by omega) (by omega) uiFrame videoFrame
  · rintro ⟨narrow, low⟩
    unfold BlendedInside
    rw [both, vwEq, vhEq]
    have inside : (vh - 1 : Int) * uw + vw ≤ uw * uh := covered (by omega) (by omega)
    obtain ⟨r, ran⟩ :=
      (sendBlended_runs_iff (by omega) (by omega) uiFrame videoFrame).mpr inside
    obtain ⟨d, delivered, width, height, size, pixels⟩ :=
      sendBlended_pixel (by omega) uiFrame videoFrame ran
    refine ⟨r, d, ran, delivered, width, height, size, fun x y column row => ?_⟩
    have atUi := uiFrame.shows x y (by omega) (by omega)
    have atVideo := videoFrame.shows x y column row
    obtain ⟨b, bare, same⟩ := Option.map_eq_some_iff.mp atVideo
    refine ⟨_, b, atUi, bare, ?_⟩
    rw [same]
    exact pixels x (by omega) y (by omega) _ _ atUi (by omega) (by omega) atVideo

/-- libhalgal's surface and libvtcapture's plane of the same size. -/
theorem blend_inside_equal : BlendedInside greyYuv none initialBuffers
    (greyFrame .abgr 4 320 180) (greyFrame .yuv420SemiPlanar 1 320 180) :=
  (blend_inside_iff greyYuv none initialBuffers (greyFrame .abgr 4 320 180)
    (greyFrame .yuv420SemiPlanar 1 320 180) (by decide) (by decide) (by decide) (by decide)
    (converterRun_succeeds (by decide) (by decide) (by decide) (by decide))
    (converterRun_succeeds (by decide) (by decide) (by decide) (by decide))).2.mpr
    ⟨by decide, by decide⟩

/-- A video plane whose width is its stride, 1152 bytes, over three: 384 columns of which
the UI frame has 320. -/
theorem blend_past_ui_frame :
    ¬ ∀ (yuv : Libyuv) (lutTable : Option Memory) (s : Buffers) (ui video : FrameInfo Memory),
      0 < ui.width → 0 < ui.height → 0 < video.width → 0 < video.height →
      (∃ r, converterRun yuv s.uiConverter ui blankFrame .argb = .ok r ∧ r.ret = 0) →
      (∃ r, converterRun yuv s.videoConverter video blankFrame .argb = .ok r ∧ r.ret = 0) →
      BlendedInside yuv lutTable s ui video := by
  intro inside
  have blended := inside greyYuv none initialBuffers (greyFrame .abgr 4 320 180)
    (greyFrame .rgb 3 384 180) (by decide) (by decide) (by decide) (by decide)
    (converterRun_succeeds (by decide) (by decide) (by decide) (by decide))
    (converterRun_succeeds (by decide) (by decide) (by decide) (by decide))
  exact absurd (covers_of_blendedInside (by decide) (by decide) blended).1 (by decide)

end HyperionWebos.FrameBlend
