import HyperionWebos.FrameBlend
import HyperionWebos.Overreads

/-! The grading loop of `unicapture_run` with the table in a block of its own: 2²⁴ colours
of three bytes, looked up under the 24 bits of a pixel's colour. No look-up leaves the
table, so the loop is the one of the table as memory; it grades each pixel once, and two
tables in turn grade as one. -/

namespace HyperionWebos.LutGrading
open Runs Unicapture ByteBlocks FrameConversion FrameBlend Overreads

/-- What `unicapture_load_lut_table` read, all of it. -/
structure LutTable where
  block : Block
  loaded : block.size = lutFileSize

def LutTable.memory (table : LutTable) : Memory := fun a => table.block.bytes a.toNat

/-- The body of the loop, its `memcpy` reading from the table's block. -/
def applyTable (table : LutTable) (b : Block) (i : Int) : Except Fault Block := do
  let p ← b.load 3 i
  let color ← table.block.load 3 (lutIndex (byte p 0) (byte p 1) (byte p 2) : Nat)
  b.store i color

def tableLoop (table : LutTable) (b : Block) (bytes : Int) : Except Fault Block :=
  (List.range ((bytes + 3) / 4).toNat).foldlM (fun b j => applyTable table b (4 * (j : Nat))) b

/-- The two converted frames of an iteration, graded where there is a table. -/
def gradeFrames (lutTable : Option LutTable) (frames : Side → FrameInfo Block) :
    Except Fault (Side → FrameInfo Block) :=
  match lutTable with
  | none => .ok frames
  | some table => do
    let video := frames .video
    let plane ← tableLoop table video.plane0.buffer
      (wrap (wrap (video.width * video.height) * 4))
    .ok (Function.update frames .video
      { video with plane0 := { video.plane0 with buffer := plane } })

def LutTable.color (table : LutTable) (p : Pixel 3) : Pixel 3 :=
  lutColor table.memory (byte p 0) (byte p 1) (byte p 2)

/-! ### Tables of colours -/

def colorOf (i : Nat) : Pixel 3 := fun c => UInt8.ofNat (i / 256 ^ c.val % 256)

def LutTable.ofColors (f : Pixel 3 → Pixel 3) : LutTable :=
  ⟨⟨lutFileSize, fun a => byte (f (colorOf (a / 3))) (a % 3)⟩, rfl⟩

def identityTable : LutTable := .ofColors id

def LutTable.andThen (table table' : LutTable) : LutTable :=
  .ofColors (table'.color ∘ table.color)

section Tables

variable {table table' : LutTable}

theorem lutIndex_fits (y u v : UInt8) : lutIndex y u v + 3 ≤ lutFileSize := by
  have := y.toNat_lt
  have := u.toNat_lt
  have := v.toNat_lt
  have size : lutFileSize = 50331648 := rfl
  rw [size]
  unfold lutIndex
  omega

theorem table_load (table : LutTable) (r g b : UInt8) :
    table.block.load 3 (lutIndex r g b : Nat) = .ok (lutColor table.memory r g b) := by
  have holds : table.block.Holds 3 (lutIndex r g b : Nat) := by
    have := lutIndex_fits r g b
    have := table.loaded
    exact ⟨by omega, by omega⟩
  rw [Block.load_of_holds holds]
  rfl

theorem tableLoop_eq (table : LutTable) (b : Block) (bytes : Int) :
    tableLoop table b bytes = lutLoop table.memory b bytes := by
  have step : applyTable table = applyLut table.memory := by
    funext b i
    unfold applyTable applyLut
    simp only [table_load, ok_bind]
  unfold tableLoop lutLoop
  rw [step]

theorem lutIndex_number (y u v : UInt8) :
    lutIndex y u v / 3 = y.toNat + u.toNat * 256 + v.toNat * 65536 :=
  Nat.mul_div_cancel _ (by decide)

theorem colorOf_lutIndex (p : Pixel 3) :
    colorOf (lutIndex (byte p 0) (byte p 1) (byte p 2) / 3) = p := by
  have := (byte p 0).toNat_lt
  have := (byte p 1).toNat_lt
  have := (byte p 2).toNat_lt
  rw [lutIndex_number]
  funext c
  obtain ⟨c, inside⟩ := c
  have here : byte p c = p ⟨c, inside⟩ := dif_pos inside
  rw [← here]
  apply UInt8.toNat_inj.mp
  have cases : c = 0 ∨ c = 1 ∨ c = 2 := by omega
  rcases cases with rfl | rfl | rfl
  · simp only [colorOf, UInt8.toNat_ofNat']
    omega
  · simp only [colorOf, UInt8.toNat_ofNat']
    omega
  · simp only [colorOf, UInt8.toNat_ofNat']
    omega

@[simp] theorem color_ofColors (f : Pixel 3 → Pixel 3) (p : Pixel 3) :
    (LutTable.ofColors f).color p = f p := by
  have place : ∀ c < 3, (lutIndex (byte p 0) (byte p 1) (byte p 2) + c) / 3 =
      lutIndex (byte p 0) (byte p 1) (byte p 2) / 3 ∧
      (lutIndex (byte p 0) (byte p 1) (byte p 2) + c) % 3 = c := by
    intro c inside
    unfold lutIndex
    omega
  funext c
  obtain ⟨entry, offset⟩ := place c c.isLt
  have looked : (LutTable.ofColors f).color p c =
      byte (f (colorOf ((lutIndex (byte p 0) (byte p 1) (byte p 2) + c) / 3)))
        ((lutIndex (byte p 0) (byte p 1) (byte p 2) + c) % 3) := rfl
  rw [looked, entry, offset, colorOf_lutIndex]
  exact dif_pos c.isLt

@[simp] theorem color_identityTable (p : Pixel 3) : identityTable.color p = p :=
  color_ofColors id p

@[simp] theorem color_andThen (p : Pixel 3) :
    (table.andThen table').color p = table'.color (table.color p) :=
  color_ofColors _ p

/-- The colour of a pixel, without its last byte. -/
def colorPart (p : Pixel 4) : Pixel 3 := fun c => byte p c

theorem graded_colorPart (p : Pixel 4) :
    colorPart (graded (some table.memory) p) = table.color (colorPart p) := by
  funext c
  have inside : c.val < 4 := by have := c.isLt; omega
  have here : colorPart (graded (some table.memory) p) c =
      graded (some table.memory) p ⟨c, inside⟩ := dif_pos inside
  rw [here, graded_color table.memory p (c := ⟨c, inside⟩) c.isLt]
  rfl

theorem graded_ext {p q : Pixel 4} (color : colorPart p = colorPart q)
    (last : p (Fin.last 3) = q (Fin.last 3)) : p = q := by
  funext c
  by_cases inside : c.val < 3
  · have here := congrFun color ⟨c, inside⟩
    have left : colorPart p ⟨c, inside⟩ = p c := dif_pos c.isLt
    have right : colorPart q ⟨c, inside⟩ = q c := dif_pos c.isLt
    rwa [left, right] at here
  · have here : c = Fin.last 3 := by
      apply Fin.ext
      have := c.isLt
      have : (Fin.last 3).val = 3 := rfl
      omega
    rw [here]
    exact last

theorem graded_last_byte (p : Pixel 4) :
    graded (some table.memory) p (Fin.last 3) = p (Fin.last 3) :=
  graded_last table.memory p (by decide)

theorem graded_identity (identity : ∀ p, table.color p = p) (p : Pixel 4) :
    graded (some table.memory) p = p :=
  graded_ext ((graded_colorPart p).trans (identity _)) (graded_last_byte p)

theorem graded_andThen (p : Pixel 4) :
    graded (some table'.memory) (graded (some table.memory) p) =
      graded (some (table.andThen table').memory) p := by
  refine graded_ext ?_ ?_
  · rw [graded_colorPart, graded_colorPart, graded_colorPart, color_andThen]
  · rw [graded_last_byte, graded_last_byte, graded_last_byte]

end Tables

/-! ### Grading a frame -/

def withPlane (frames : Side → FrameInfo Block) (plane : Block) : Side → FrameInfo Block :=
  Function.update frames .video
    { frames .video with plane0 := { (frames .video).plane0 with buffer := plane } }

/-- Every pixel of the video frame is looked up, its last byte kept; nothing else changes. -/
structure Graded (table : LutTable) (frames frames' : Side → FrameInfo Block) : Prop where
  ui : frames' .ui = frames .ui
  video : frames' = withPlane frames (frames' .video).plane0.buffer
  size : (frames' .video).plane0.buffer.size = (frames .video).plane0.buffer.size
  color : ∀ k c : Nat, (k : Int) < (frames .video).width * (frames .video).height → c < 3 →
    (frames' .video).plane0.buffer.bytes (4 * k + c) =
      table.block.bytes
        ((((frames .video).plane0.buffer.bytes (4 * k)).toNat +
          256 * ((frames .video).plane0.buffer.bytes (4 * k + 1)).toNat +
          65536 * ((frames .video).plane0.buffer.bytes (4 * k + 2)).toNat) * 3 + c)
  alpha : ∀ k : Nat, (k : Int) < (frames .video).width * (frames .video).height →
    (frames' .video).plane0.buffer.bytes (4 * k + 3) =
      (frames .video).plane0.buffer.bytes (4 * k + 3)

/-- The video frame has a block of four bytes a pixel, whose size is an `int`. -/
structure Sized (frames : Side → FrameInfo Block) (pixels : Nat) : Prop where
  area : (frames .video).width * (frames .video).height = pixels
  small : 4 * (pixels : Int) < 2147483648
  size : (frames .video).plane0.buffer.size = 4 * pixels

section Frames

variable {table table' : LutTable} {frames : Side → FrameInfo Block} {pixels : Nat}

theorem withPlane_video (frames : Side → FrameInfo Block) (plane : Block) :
    (withPlane frames plane .video).plane0.buffer = plane := by
  unfold withPlane
  rw [Function.update_self]

theorem withPlane_ui (frames : Side → FrameInfo Block) (plane : Block) :
    withPlane frames plane .ui = frames .ui :=
  Function.update_of_ne (by decide) _ _

theorem withPlane_self (frames : Side → FrameInfo Block) :
    withPlane frames (frames .video).plane0.buffer = frames := by
  unfold withPlane
  exact Function.update_eq_self Side.video frames

theorem withPlane_withPlane (frames : Side → FrameInfo Block) (plane plane' : Block) :
    withPlane (withPlane frames plane) plane' = withPlane frames plane' := by
  unfold withPlane
  rw [Function.update_self, Function.update_idem]

theorem Sized.withPlane {plane : Block} (sized : Sized frames pixels)
    (size : plane.size = 4 * pixels) : Sized (withPlane frames plane) pixels := by
  refine ⟨?_, sized.small, ?_⟩
  · unfold LutGrading.withPlane
    rw [Function.update_self]
    exact sized.area
  · rw [withPlane_video]
    exact size

theorem gradeFrames_ok (table : LutTable) (sized : Sized frames pixels) :
    ∃ plane, gradeFrames (some table) frames = .ok (withPlane frames plane) ∧
      plane.size = 4 * pixels ∧ ∀ k : Nat, plane.pixelAt 4 (4 * k) =
        if k < pixels then
          graded (some table.memory) ((frames .video).plane0.buffer.pixelAt 4 (4 * k))
        else (frames .video).plane0.buffer.pixelAt 4 (4 * k) := by
  have small := sized.small
  have bytes : wrap (wrap ((frames .video).width * (frames .video).height) * 4) = 4 * pixels := by
    have area : wrap pixels = pixels := wrap_of_small (by omega) (by omega)
    rw [sized.area, area, Int.mul_comm]
    exact wrap_of_small (by omega) small
  have rounds : ((4 * pixels + 3 : Int) / 4).toNat = pixels := by omega
  obtain ⟨plane, ran, size, graded⟩ :=
    @lutLoop_rounds table.memory (frames .video).plane0.buffer pixels (le_of_eq sized.size.symm)
  refine ⟨plane, ?_, size.trans sized.size, graded⟩
  have looped : tableLoop table (frames .video).plane0.buffer (4 * pixels) = .ok plane := by
    rw [tableLoop_eq]
    unfold lutLoop
    rw [rounds]
    exact ran
  unfold gradeFrames
  dsimp only
  rw [bytes, looped]
  rfl

theorem pixelAt_byte (b : Block) {c : Nat} (inside : c < 4) (k : Nat) :
    byte (b.pixelAt 4 (4 * k)) c = b.bytes (4 * k + c) := by
  have place : (4 * k : Int).toNat = 4 * k := by omega
  have here : byte (b.pixelAt 4 (4 * k)) c = b.pixelAt 4 (4 * k) ⟨c, inside⟩ := dif_pos inside
  rw [here]
  unfold Block.pixelAt
  rw [place]

theorem graded_byte (p : Pixel 4) {c : Nat} (inside : c < 3) :
    byte (graded (some table.memory) p) c =
      table.block.bytes (((byte p 0).toNat + 256 * (byte p 1).toNat + 65536 * (byte p 2).toNat) *
        3 + c) := by
  have inPixel : c < 4 := by omega
  have here : byte (graded (some table.memory) p) c = graded (some table.memory) p ⟨c, inPixel⟩ :=
    dif_pos inPixel
  have index : lutIndex (byte p 0) (byte p 1) (byte p 2) =
      ((byte p 0).toNat + 256 * (byte p 1).toNat + 65536 * (byte p 2).toNat) * 3 := by
    unfold lutIndex
    ring
  rw [here, graded_color table.memory p (c := ⟨c, inPixel⟩) inside, ← index]
  rfl

theorem gradeFrames_graded (table : LutTable) (sized : Sized frames pixels) :
    ∃ frames', gradeFrames (some table) frames = .ok frames' ∧ Graded table frames frames' := by
  obtain ⟨plane, ran, size, graded⟩ := gradeFrames_ok table sized
  have each : ∀ k : Nat, (k : Int) < (frames .video).width * (frames .video).height →
      ∀ c < 4, plane.bytes (4 * k + c) =
        byte (FrameBlend.graded (some table.memory)
          ((frames .video).plane0.buffer.pixelAt 4 (4 * k))) c := by
    intro k inside c inPixel
    rw [sized.area] at inside
    have here := graded k
    rw [if_pos (by omega)] at here
    rw [← here, pixelAt_byte plane inPixel]
  refine ⟨_, ran, withPlane_ui frames plane, ?_, ?_, ?_, ?_⟩
  · rw [withPlane_video]
  · rw [withPlane_video, size, sized.size]
  · intro k c inside color
    rw [withPlane_video, each k inside c (by omega), graded_byte _ color, pixelAt_byte _ (by omega),
      pixelAt_byte _ (by omega), pixelAt_byte _ (by omega)]
    rfl
  · intro k inside
    rw [withPlane_video, each k inside 3 (by decide), ← pixelAt_byte _ (by decide)]
    exact @graded_last_byte table _

theorem gradeFrames_identity (identity : ∀ p, table.color p = p) (sized : Sized frames pixels) :
    gradeFrames (some table) frames = .ok frames := by
  obtain ⟨plane, ran, size, graded⟩ := gradeFrames_ok table sized
  have same : plane = (frames .video).plane0.buffer := by
    refine Block.eq_of_pixels (n := 4) (by decide) (size.trans sized.size.symm) fun k => ?_
    rw [Nat.cast_mul, Nat.cast_ofNat, graded k, graded_identity identity, ite_self]
  rw [ran, same, withPlane_self]

theorem gradeFrames_andThen (table table' : LutTable) (sized : Sized frames pixels) :
    gradeFrames (some table) frames >>= gradeFrames (some table') =
      gradeFrames (some (table.andThen table')) frames := by
  obtain ⟨plane, ran, size, graded⟩ := gradeFrames_ok table sized
  obtain ⟨plane', ran', size', graded'⟩ := gradeFrames_ok table' (sized.withPlane size)
  obtain ⟨both, ranBoth, sizeBoth, gradedBoth⟩ := gradeFrames_ok (table.andThen table') sized
  have same : plane' = both := by
    refine Block.eq_of_pixels (n := 4) (by decide) (size'.trans sizeBoth.symm) fun k => ?_
    rw [Nat.cast_mul, Nat.cast_ofNat, graded' k, gradedBoth k, withPlane_video, graded k]
    split
    · exact graded_andThen _
    · rfl
  rw [ran, ok_bind, ran', ranBoth, withPlane_withPlane, same]

end Frames

theorem sized_of_converted {yuv : Libyuv} {whatever : Nat → Nat → Pixel 4} {this : Converter}
    {input : FrameInfo Memory} {r : Conversion} {frames : Side → FrameInfo Block}
    (ran : converterRunOver yuv whatever this input blankFrame .argb = .ok r)
    (fits : -2147483648 ≤ input.width * input.height * 4 ∧
      input.width * input.height * 4 < 2147483648)
    (video : frames .video = r.output) :
    Sized frames (input.width * input.height).toNat := by
  obtain ⟨width, height, size⟩ := converterRunOver_shape ran
  have bytes : wrap (wrap (input.width * input.height) * 4) = input.width * input.height * 4 := by
    rw [wrap_eq, wrap_eq]
    omega
  rw [bytes] at size
  refine ⟨?_, by omega, ?_⟩
  · rw [video, width, height]
    omega
  · rw [video]
    omega

theorem convertVideo_gradeFrames {yuv : Libyuv} {this : Converter} {frame : FrameInfo Memory}
    {r : Conversion} {table : LutTable} {frames frames' : Side → FrameInfo Block}
    (valid : frame.pixelFormat ≠ .invalid)
    (ran : converterRun yuv this frame blankFrame .argb = .ok r)
    (video : frames .video = r.output) (done : gradeFrames (some table) frames = .ok frames') :
    ∃ this', convertVideo yuv (some table.memory) this frame = .ok (this', frames' .video) := by
  obtain ⟨plane, looped, same⟩ := bind_eq_ok.mp done
  cases same
  rw [tableLoop_eq, video] at looped
  unfold convertVideo
  rw [if_pos valid, Function.update_self, video]
  exact ⟨_, bind_eq_ok.mpr ⟨r, ran, bind_eq_ok.mpr ⟨plane, looped, rfl⟩⟩⟩

/-- After the loop each pixel of a converted video frame has the table's colour for its
own; the table of every colour itself changes nothing, and tables compose. -/
theorem lut_pointwise (yuv : Libyuv) (whatever : Nat → Nat → Pixel 4) (this : Converter)
    (input : FrameInfo Memory) (r : Conversion) (frames : Side → FrameInfo Block)
    (ran : converterRunOver yuv whatever this input blankFrame .argb = .ok r)
    (fits : -2147483648 ≤ input.width * input.height * 4 ∧
      input.width * input.height * 4 < 2147483648)
    (video : frames .video = r.output) (table : LutTable) :
    (∃ frames', gradeFrames (some table) frames = .ok frames' ∧ Graded table frames frames') ∧
    ((∀ p, table.color p = p) → gradeFrames (some table) frames = .ok frames) ∧
    ∀ table', gradeFrames (some table) frames >>= gradeFrames (some table') =
      gradeFrames (some (table.andThen table')) frames := by
  have sized := sized_of_converted ran fits video
  exact ⟨gradeFrames_graded table sized, fun identity => gradeFrames_identity identity sized,
    fun table' => gradeFrames_andThen table table' sized⟩

/-- A converted grey frame under the table of every colour itself. -/
theorem lut_pointwise_grey :
    ∃ r, converterRunOver greyYuv (fun _ _ _ => 0) converterInit (greyFrame .abgr 4 320 180)
        blankFrame .argb = .ok r ∧
      gradeFrames (some identityTable) (fun _ => r.output) = .ok fun _ => r.output := by
  obtain ⟨r, ran, -⟩ := @converterRunOver_drawn greyYuv (fun _ _ _ => 0) converterInit
    (greyFrame .abgr 4 320 180) blankFrame 320 180 (by decide) rfl rfl (by decide)
  exact ⟨r, ran, (lut_pointwise greyYuv (fun _ _ _ => 0) converterInit
    (greyFrame .abgr 4 320 180) r (fun _ => r.output) ran (by decide) rfl
    identityTable).2.1 color_identityTable⟩

end HyperionWebos.LutGrading
