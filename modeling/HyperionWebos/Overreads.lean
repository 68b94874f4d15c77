import HyperionWebos.FrameConversion

/-! `converter_run` where a read past the end of a chroma plane takes whatever lies there,
as it does on the target. Every image of fewer than 2³¹ bytes is then converted, and
`overPixel` says what each of its pixels is; where nothing is read past an end this is
the conversion of the faulting model. -/

namespace HyperionWebos.Overreads
open Runs Unicapture ByteBlocks FrameConversion

def convertPlanesOver (yuv : Libyuv) (whatever : Nat → Nat → Pixel 4) (this : Converter)
    (input : FrameInfo Memory) (output : FrameInfo Block) : Except Fault Conversion :=
  match input.pixelFormat with
  | .yuv422SemiPlanar => do
    let half := input.width.tdiv 2
    let buffer1 ← this.chroma.1.realloc (wrap (half * input.height))
    let buffer2 ← this.chroma.2.realloc (wrap (half * input.height))
    let planes ← splitUvPlane input.plane1 buffer1 buffer2 half half.toNat input.height.toNat
    toArgb (this.setChroma planes) output input.width.toNat input.height.toNat
      (settle whatever (i422Pixel yuv input.plane0 planes.2 planes.1 half))
  | _ => convertPlanes yuv this input output

def converterRunOver (yuv : Libyuv) (whatever : Nat → Nat → Pixel 4) (this : Converter)
    (input : FrameInfo Memory) (output : FrameInfo Block) (targetFormat : PixelFormat) :
    Except Fault Conversion :=
  if targetFormat = .argb then do
    let plane ← this.image.realloc (wrap (wrap (input.width * input.height) * 4))
    convertPlanesOver yuv whatever (this.setImage plane) input { output with
      width := input.width
      height := input.height
      plane0 := ⟨plane, wrap (input.width * 4)⟩ }
  else .ok ⟨-1, this, output⟩

/-- One pixel of the converted frame. The last pixel of an odd 4:2:2 row takes the first
chroma sample of the next row, and has none in the last row. -/
def overPixel (yuv : Libyuv) (whatever : Nat → Nat → Pixel 4) (f : FrameInfo Memory)
    (x y : Nat) : Pixel 4 :=
  match f.pixelFormat with
  | .rgb => yuv.rgb24ToArgb (pixelOf 3 f.plane0 x y)
  | .abgr => yuv.abgrToArgb (pixelOf 4 f.plane0 x y)
  | .yuv420SemiPlanar =>
    let vu := pixelOf 2 f.plane1 (x / 2) (y / 2)
    yuv.nv21ToArgb (byte (pixelOf 1 f.plane0 x y) 0) (byte vu 0) (byte vu 1)
  | .yuv422SemiPlanar =>
    let half := f.width.toNat / 2
    let sample := y * half + x / 2
    if sample < half * f.height.toNat then
      let vu := pixelOf 2 f.plane1 (sample % half) (sample / half)
      yuv.i422ToArgb (byte (pixelOf 1 f.plane0 x y) 0) (byte vu 1) (byte vu 0)
    else whatever x y
  | _ => whatever x y

structure Drawn (pixel : Nat → Nat → Pixel 4) (w h : Nat) (f : FrameInfo Block) : Prop where
  format : f.pixelFormat = .argb
  width : f.width = w
  height : f.height = h
  stride : f.plane0.stride = wrap (w * 4)
  drawn : ∃ b : Block, (b.size : Int) = (4 : Nat) * (w * h) ∧
    draw b (wrap (w * 4)) w h (fun x y => .ok (pixel x y)) = .ok f.plane0.buffer

section Drawing

variable {pixel : Nat → Nat → Pixel 4} {w h : Nat} {f f' : FrameInfo Block}

theorem Drawn.size (drawn : Drawn pixel w h f) :
    (f.plane0.buffer.size : Int) = (4 : Nat) * (w * h) := by
  obtain ⟨b, size, ran⟩ := drawn.drawn
  rw [draw_size ran]
  exact size

theorem Drawn.pixelAt (drawn : Drawn pixel w h f) (fits : 4 * (w * h : Int) < 2147483648)
    {x y : Nat} (column : x < w) (row : y < h) :
    f.plane0.buffer.pixelAt 4 (y * ((4 : Nat) * w) + (4 : Nat) * x) = pixel x y := by
  obtain ⟨b, -, ran⟩ := drawn.drawn
  rw [argb_stride_of_fits (Nat.zero_lt_of_lt row) fits] at ran
  exact (Except.ok.inj (draw_pixelAt ran le_rfl column row)).symm

theorem Drawn.same (drawn : Drawn pixel w h f) (drawn' : Drawn pixel w h f')
    (fits : 4 * (w * h : Int) < 2147483648) : f.plane0.buffer.Same f'.plane0.buffer := by
  obtain ⟨b, size, ran⟩ := drawn.drawn
  obtain ⟨b', size', ran'⟩ := drawn'.drawn
  exact packed_same (by decide) (fun someRow => argb_stride_of_fits someRow fits) size size'
    (fun _ _ _ _ => rfl) ran ran'

end Drawing

section Runs

variable {yuv : Libyuv} {whatever : Nat → Nat → Pixel 4} {this : Converter}
  {input : FrameInfo Memory} {output : FrameInfo Block} {w h : Nat} {b plane : Block}
  {r : Conversion}

/-- Nothing read past an end: the two models agree. -/
theorem converterRunOver_of_ok {targetFormat : PixelFormat}
    (ran : converterRun yuv this input output targetFormat = .ok r) :
    converterRunOver yuv whatever this input output targetFormat = .ok r := by
  unfold converterRun at ran
  unfold converterRunOver
  split
  · rename_i argb
    rw [if_pos argb] at ran
    obtain ⟨plane, granted, ran⟩ := bind_eq_ok.mp ran
    refine bind_eq_ok.mpr ⟨plane, granted, ?_⟩
    unfold convertPlanesOver
    split
    · rename_i format
      simp only [convertPlanes, format] at ran
      obtain ⟨b₁, granted₁, ran⟩ := bind_eq_ok.mp ran
      obtain ⟨b₂, granted₂, ran⟩ := bind_eq_ok.mp ran
      obtain ⟨planes, split, ran⟩ := bind_eq_ok.mp ran
      obtain ⟨argb, drawn, done⟩ := bind_eq_ok.mp ran
      exact bind_eq_ok.mpr ⟨b₁, granted₁, bind_eq_ok.mpr ⟨b₂, granted₂, bind_eq_ok.mpr
        ⟨planes, split, bind_eq_ok.mpr ⟨argb, draw_settle drawn, done⟩⟩⟩⟩
    · exact ran
  · rename_i other
    rw [if_neg other] at ran
    exact ran

theorem split_sample {src : Plane Memory} {b₁ plane : Block} {half : Nat} {c : Fin 2} {k : Nat}
    (drawn : draw b₁ half half h (fun x y => .ok fun _ : Fin 1 => pixelOf 2 src x y c) =
      .ok plane) (inside : k < half * h) :
    plane.load 1 k = .ok fun _ => pixelOf 2 src (k % half) (k / half) c := by
  have row : k / half < h := Nat.div_lt_of_lt_mul inside
  have column : k % half < half := Nat.mod_lt k (by
    rcases Nat.eq_zero_or_pos half with none | some
    · rw [none, Nat.zero_mul] at inside
      omega
    · exact some)
  have place : ((k / half : Nat) * half + (1 : Nat) * (k % half : Nat) : Int) = k := by
    have parts := Nat.div_add_mod k half
    exact_mod_cast show (k / half) * half + 1 * (k % half) = k by
      rw [Nat.one_mul, Nat.mul_comm, parts]
  rw [← place]
  exact draw_load drawn (by simp) column row

theorem settle_i422Pixel {b₁ b₂ : Block} {planes : Block × Block} {x y : Nat}
    (split : splitUvPlane input.plane1 b₁ b₂ (w / 2 : Nat) (w / 2) h = .ok planes)
    (sizeU : (planes.2.size : Int) = (w / 2 : Nat) * h)
    (format : input.pixelFormat = .yuv422SemiPlanar) (width : input.width = w)
    (height : input.height = h) :
    settle whatever (i422Pixel yuv input.plane0 planes.2 planes.1 (w / 2 : Nat)) x y =
      .ok (overPixel yuv whatever input x y) := by
  obtain ⟨drawnV, drawnU⟩ := splitUvPlane_draws split
  have place : (y * (w / 2 : Nat) + (1 : Nat) * (x / 2 : Nat) : Int) =
      (y * (w / 2) + x / 2 : Nat) := by push_cast; ring
  simp only [overPixel, format, width, height, Int.toNat_natCast]
  by_cases inside : y * (w / 2) + x / 2 < w / 2 * h
  · have readU := split_sample drawnU inside
    have readV := split_sample drawnV inside
    rw [← place] at readU readV
    rw [if_pos inside]
    exact settle_of_ok (i422Pixel_eq_ok.mpr ⟨_, readU, _, readV, rfl⟩)
  · have outside : ¬ planes.2.Holds 1 (y * (w / 2 : Nat) + (1 : Nat) * (x / 2 : Nat)) := by
      rintro ⟨-, fits⟩
      rw [place, sizeU] at fits
      exact inside (by exact_mod_cast fits)
    rw [if_neg inside]
    unfold settle i422Pixel chromaOf Block.load
    rw [if_neg outside]
    rfl

theorem toArgb_drawn {pixel : Nat → Nat → Pixel 4}
    {computed : Nat → Nat → Except Fault (Pixel 4)} (fits : 4 * (w * h : Int) < 2147483648)
    (granted : b.realloc (wrap (wrap (w * h) * 4)) = .ok plane)
    (here : output.plane0 = ⟨plane, wrap (w * 4)⟩) (width : output.width = w)
    (height : output.height = h)
    (computes : ∀ y < h, ∀ x < w, computed x y = .ok (pixel x y)) :
    ∃ r, toArgb this output w h computed = .ok r ∧ r.ret = 0 ∧ Drawn pixel w h r.output := by
  have size := Block.realloc_size granted
  rw [argb_size_of_fits fits] at size
  obtain ⟨argb, drawn⟩ : ∃ argb, draw plane (wrap (w * 4)) w h computed = .ok argb :=
    packed_draw (fun someRow => argb_stride_of_fits someRow fits) size
      fun y row x column => ⟨_, computes y row x column⟩
  have pixels : draw plane (wrap (w * 4)) w h (fun x y => .ok (pixel x y)) = .ok argb := by
    rw [← drawn]
    exact draw_congr fun y row x column => (computes y row x column).symm
  refine ⟨_, bind_eq_ok.mpr ⟨argb, ?_, rfl⟩, rfl, rfl, width, height, ?_, plane, size, pixels⟩
  · rw [here]
    exact drawn
  · rw [here]

theorem toArgb_shape {computed : Nat → Nat → Except Fault (Pixel 4)}
    (ran : toArgb this output w h computed = .ok r) :
    r.output.width = output.width ∧ r.output.height = output.height ∧
      r.output.plane0.buffer.size = output.plane0.buffer.size := by
  obtain ⟨argb, drawn, done⟩ := bind_eq_ok.mp ran
  cases done
  exact ⟨rfl, rfl, draw_size drawn⟩

theorem convertPlanesOver_shape (ran : convertPlanesOver yuv whatever this input output = .ok r) :
    r.output.width = output.width ∧ r.output.height = output.height ∧
      r.output.plane0.buffer.size = output.plane0.buffer.size := by
  unfold convertPlanesOver at ran
  split at ran
  · obtain ⟨b₁, -, ran⟩ := bind_eq_ok.mp ran
    obtain ⟨b₂, -, ran⟩ := bind_eq_ok.mp ran
    obtain ⟨planes, -, ran⟩ := bind_eq_ok.mp ran
    exact toArgb_shape ran
  · unfold convertPlanes at ran
    split at ran
    · exact toArgb_shape ran
    · exact toArgb_shape ran
    · exact toArgb_shape ran
    · rename_i _ other _ format
      exact absurd format other
    · cases ran
      exact ⟨rfl, rfl, rfl⟩

theorem converterRunOver_shape
    (ran : converterRunOver yuv whatever this input output .argb = .ok r) :
    r.output.width = input.width ∧ r.output.height = input.height ∧
      (r.output.plane0.buffer.size : Int) = wrap (wrap (input.width * input.height) * 4) := by
  unfold converterRunOver at ran
  rw [if_pos rfl] at ran
  obtain ⟨plane, granted, ran⟩ := bind_eq_ok.mp ran
  obtain ⟨width, height, size⟩ := convertPlanesOver_shape ran
  refine ⟨width, height, ?_⟩
  rw [size]
  exact Block.realloc_size granted

theorem converterRunOver_eq {targetFormat : PixelFormat}
    (other : input.pixelFormat ≠ .yuv422SemiPlanar) :
    converterRunOver yuv whatever this input output targetFormat =
      converterRun yuv this input output targetFormat := by
  unfold converterRunOver converterRun convertPlanesOver
  split
  · exact bind_congr fun plane => by
      split
      · rename_i format
        exact absurd format other
      · rfl
  · rfl

theorem converterRunOver_drawn (supported : Supported input.pixelFormat)
    (width : input.width = w) (height : input.height = h)
    (fits : 4 * (w * h : Int) < 2147483648) :
    ∃ r, converterRunOver yuv whatever this input output .argb = .ok r ∧ r.ret = 0 ∧
      Drawn (overPixel yuv whatever input) w h r.output := by
  have nonneg := area_nonneg w h
  obtain ⟨plane, granted⟩ := Block.realloc_of_nonneg (this.buffers 0)
    (show 0 ≤ wrap (wrap (w * h) * 4) by rw [argb_size_of_fits fits]; omega)
  have drawn (this' : Converter) {computed : Nat → Nat → Except Fault (Pixel 4)}
      (computes : ∀ y < h, ∀ x < w, computed x y = .ok (overPixel yuv whatever input x y)) :
      ∃ r, toArgb this'
          { output with width := (w : Int), height := h, plane0 := ⟨plane, wrap (w * 4)⟩ } w h
          computed = .ok r ∧ r.ret = 0 ∧ Drawn (overPixel yuv whatever input) w h r.output :=
    toArgb_drawn fits granted rfl rfl rfl computes
  suffices converted : ∃ r, convertPlanesOver yuv whatever (this.setImage plane) input
      { output with width := (w : Int), height := h, plane0 := ⟨plane, wrap (w * 4)⟩ } = .ok r ∧
        r.ret = 0 ∧ Drawn (overPixel yuv whatever input) w h r.output by
    obtain ⟨r, ran, success⟩ := converted
    refine ⟨r, ?_, success⟩
    unfold converterRunOver
    rw [if_pos rfl, bind_eq_ok, width, height]
    exact ⟨plane, granted, ran⟩
  rcases supported with format | format | format | format
  · simp only [convertPlanesOver, convertPlanes, format, width, height, Int.toNat_natCast]
    exact drawn _ fun y _ x _ => by simp only [overPixel, format]
  · simp only [convertPlanesOver, convertPlanes, format, width, height, Int.toNat_natCast]
    exact drawn _ fun y _ x _ => by simp only [overPixel, format]
  · simp only [convertPlanesOver, convertPlanes, format, width, height, Int.toNat_natCast]
    exact drawn _ fun y _ x _ => by
      simp only [overPixel, format]
      rfl
  · have positive : 0 ≤ wrap ((w / 2 : Nat) * h) := by
      rw [chroma_size_of_fits fits]
      exact area_nonneg (w / 2) h
    obtain ⟨b₁, granted₁⟩ := Block.realloc_of_nonneg ((this.setImage plane).buffers 1) positive
    obtain ⟨b₂, granted₂⟩ := Block.realloc_of_nonneg ((this.setImage plane).buffers 2) positive
    have whole := chroma_size_of_fits fits
    obtain ⟨planes, split⟩ :
        ∃ planes, splitUvPlane input.plane1 b₁ b₂ (w / 2 : Nat) (w / 2) h = .ok planes :=
      splitUvPlane_runs ((Block.realloc_size granted₁).trans whole)
        ((Block.realloc_size granted₂).trans whole)
    have sizeU := (planes_size fits granted₁ granted₂ split).2
    obtain ⟨r, ran, success⟩ := drawn (((this.setImage plane).set 1 planes.1).set 2 planes.2)
      fun y _ x _ => settle_i422Pixel split sizeU format width height
    refine ⟨r, ?_, success⟩
    simp only [convertPlanesOver, format, width, height, half_of_width, Int.toNat_natCast,
      bind_eq_ok]
    exact ⟨b₁, granted₁, b₂, granted₂, planes, split, ran⟩

end Runs

end HyperionWebos.Overreads
