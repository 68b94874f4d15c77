import HyperionWebos.FrameDelivery
import HyperionWebos.HeapPointers

/-! The heap blocks of the capture thread. Both converters and the two frames of the loop
keep their blocks from one iteration to the next, resize them before they are drawn into
and free them when the thread ends, whatever frames come and whatever `realloc` refuses. -/

namespace HyperionWebos.PixelBuffers
open Runs Unicapture ByteBlocks FrameConversion FrameBlend Overreads CaptureLoop
open FrameDelivery HeapPointers

/-- `converter_t.buffers`. -/
inductive ConverterBuffer where
  | first
  | second
  | third
  | fourth
deriving DecidableEq, Repr

inductive Buffer where
  | converter (side : Side) (b : ConverterBuffer)
  | blended
  | final
deriving DecidableEq, Repr

def image (side : Side) : Buffer := .converter side .first

/-- The frames of an iteration, and what `realloc` grants in it. -/
structure BlockIteration where
  ui : FrameInfo Memory
  video : FrameInfo Memory
  granted : Buffer → Bool

/-- A call that goes over an image and looks through these pointers. A negative height turns
the image over. -/
def touch (width height : Int) (bs : List Buffer) : List (Op Buffer) :=
  if 0 < width ∧ height ≠ 0 then bs.map .access else []

/-- `converter_run` on a valid frame. -/
def convertOps (granted : Buffer → Bool) (side : Side) (frame : FrameInfo Memory) :
    List (Op Buffer) :=
  if frame.pixelFormat = .invalid then []
  else
    let argb : Op Buffer := .realloc (image side)
      (wrap (wrap (frame.width * frame.height) * 4)) (granted (image side))
    match frame.pixelFormat with
    | .rgb | .abgr | .yuv420SemiPlanar => argb :: touch frame.width frame.height [image side]
    | .yuv422SemiPlanar =>
      let half := frame.width.tdiv 2
      let buffer1 : Buffer := .converter side .second
      let buffer2 : Buffer := .converter side .third
      argb :: .realloc buffer1 (wrap (half * frame.height)) (granted buffer1) ::
        .realloc buffer2 (wrap (half * frame.height)) (granted buffer2) ::
        (touch half frame.height [buffer1, buffer2] ++
          touch frame.width frame.height [buffer2, buffer1, image side])
    | _ => [argb]

/-- The grading loop runs on every valid video frame, converted or not. -/
def gradeOps (lut : Bool) (frame : FrameInfo Memory) : List (Op Buffer) :=
  if lut ∧ frame.pixelFormat ≠ .invalid ∧ 0 < wrap (wrap (frame.width * frame.height) * 4) then
    [.access (image .video)]
  else []

def sendOneOps (granted : Buffer → Bool) (side : Side) (frame : FrameInfo Memory) :
    List (Op Buffer) :=
  .realloc .final (wrap (wrap (frame.width * frame.height) * 3)) (granted .final) ::
    touch frame.width frame.height [image side, .final, .final]

def sendBlendedOps (granted : Buffer → Bool) (video : FrameInfo Memory) : List (Op Buffer) :=
  .realloc .blended (wrap (wrap (video.width * video.height) * 4)) (granted .blended) ::
    .realloc .final (wrap (wrap (video.width * video.height) * 3)) (granted .final) ::
    (touch video.width video.height [image .ui, image .video, .blended] ++
      touch video.width video.height [.blended, .final, .final])

def sendOps (granted : Buffer → Bool) (ui video : FrameInfo Memory) : List (Op Buffer) :=
  if Supported video.pixelFormat ∧ Supported ui.pixelFormat then sendBlendedOps granted video
  else if Supported ui.pixelFormat then sendOneOps granted .ui ui
  else if Supported video.pixelFormat then sendOneOps granted .video video
  else []

/-- What an iteration of `unicapture_run` does with its blocks. -/
def iterationOps (lut : Bool) (it : BlockIteration) : List (Op Buffer) :=
  convertOps it.granted .ui it.ui ++ (convertOps it.granted .video it.video ++
    (gradeOps lut it.video ++ sendOps it.granted it.ui it.video))

def converterRelease (side : Side) : List Buffer :=
  [.converter side .first, .converter side .second, .converter side .third,
    .converter side .fourth]

/-- The end of the thread. -/
def released : List Buffer :=
  [.final, .blended] ++ converterRelease .ui ++ converterRelease .video

def session (lut : Bool) (its : List BlockIteration) : Except HeapFault (Heap Buffer) := do
  let h ← run Heap.step Heap.empty (its.flatMap (iterationOps lut))
  run Heap.freeUnlessNull h released

theorem released_once : released.Nodup := by decide

theorem mem_released (b : Buffer) : b ∈ released := by
  cases b with
  | converter side b => cases side <;> cases b <;> decide
  | blended => decide
  | final => decide

/-! ### Frames that fit -/

/-- A frame whose image has some pixels and fewer than 2³¹ bytes, and whose chroma planes
have some samples. -/
structure Roomy (frame : FrameInfo Memory) : Prop where
  width : 0 < frame.width
  height : 0 < frame.height
  fits : 4 * (frame.width * frame.height) < 2147483648
  chroma : frame.pixelFormat = .yuv422SemiPlanar → 2 ≤ frame.width

structure Provided (it : BlockIteration) : Prop where
  granted : ∀ b, it.granted b = true
  ui : it.ui.pixelFormat ≠ .invalid → Roomy it.ui
  video : it.video.pixelFormat ≠ .invalid → Roomy it.video

section Sizes

variable {frame : FrameInfo Memory}

theorem Roomy.dims (roomy : Roomy frame) : ∃ w h : Nat, frame.width = w ∧ frame.height = h ∧
    0 < w ∧ 0 < h ∧ 4 * (w * h : Int) < 2147483648 := by
  obtain ⟨w, width⟩ := Int.eq_ofNat_of_zero_le roomy.width.le
  obtain ⟨h, height⟩ := Int.eq_ofNat_of_zero_le roomy.height.le
  have positive := roomy.width
  have positive' := roomy.height
  have fits := roomy.fits
  rw [width] at positive fits
  rw [height] at positive' fits
  exact ⟨w, h, width, height, by omega, by omega, fits⟩

theorem Roomy.argb_size (roomy : Roomy frame) :
    wrap (wrap (frame.width * frame.height) * 4) ≠ 0 := by
  obtain ⟨w, h, width, height, someColumn, someRow, fits⟩ := roomy.dims
  have area : 0 < w * h := Nat.mul_pos someColumn someRow
  rw [width, height, argb_size_of_fits fits]
  exact_mod_cast (by omega : 4 * (w * h) ≠ 0)

theorem Roomy.rgb_size (roomy : Roomy frame) :
    wrap (wrap (frame.width * frame.height) * 3) ≠ 0 := by
  obtain ⟨w, h, width, height, someColumn, someRow, fits⟩ := roomy.dims
  have area : 0 < w * h := Nat.mul_pos someColumn someRow
  have pixels : wrap (w * h) = w * h := wrap_of_small (area_nonneg w h) (by omega)
  rw [width, height, pixels, wrap_of_small (by positivity) (by omega)]
  exact_mod_cast (by omega : w * h * 3 ≠ 0)

theorem Roomy.chroma_size (roomy : Roomy frame) (format : frame.pixelFormat = .yuv422SemiPlanar) :
    wrap (frame.width.tdiv 2 * frame.height) ≠ 0 := by
  have two := roomy.chroma format
  obtain ⟨w, h, width, height, someColumn, someRow, fits⟩ := roomy.dims
  rw [width] at two
  have some : 0 < w / 2 * h := Nat.mul_pos (Nat.div_pos (by omega) (by decide)) someRow
  rw [width, height, half_of_width, chroma_size_of_fits fits]
  exact_mod_cast some.ne'

end Sizes

section Guards

variable {known : List Buffer} {granted : Buffer → Bool} {frame ui video : FrameInfo Memory}

theorem guarded_accesses {bs : List Buffer} (all : ∀ b ∈ bs, b ∈ known) :
    Guarded known (bs.map .access) := by
  induction bs with
  | nil => trivial
  | cons b bs ih =>
    rw [List.forall_mem_cons] at all
    exact ⟨all.1, ih all.2⟩

theorem guarded_touch (width height : Int) {bs : List Buffer} (all : ∀ b ∈ bs, b ∈ known) :
    Guarded known (touch width height bs) := by
  unfold touch
  split
  · exact guarded_accesses all
  · trivial

theorem convertOps_guarded (all : ∀ b, granted b = true) (side : Side)
    (roomy : frame.pixelFormat ≠ .invalid → Roomy frame) :
    Guarded known (convertOps granted side frame) := by
  unfold convertOps
  split
  · trivial
  · next valid =>
    have size := (roomy valid).argb_size
    have drawn : Guarded (image side :: known) (touch frame.width frame.height [image side]) :=
      guarded_touch _ _ (by simp)
    dsimp only
    split
    · exact ⟨all _, size, drawn⟩
    · exact ⟨all _, size, drawn⟩
    · exact ⟨all _, size, drawn⟩
    · next format =>
      have half := (roomy valid).chroma_size format
      refine ⟨all _, size, all _, half, all _, half, ?_⟩
      exact (guarded_touch _ _ (by simp)).append (guarded_touch _ _ (by simp))
    · exact ⟨all _, size, trivial⟩

theorem image_resized (valid : frame.pixelFormat ≠ .invalid) (side : Side) :
    image side ∈ resized (convertOps granted side frame) := by
  unfold convertOps
  rw [if_neg valid]
  dsimp only
  split <;> exact List.mem_cons_self

theorem gradeOps_guarded (lut : Bool)
    (given : frame.pixelFormat ≠ .invalid → image .video ∈ known) :
    Guarded known (gradeOps lut frame) := by
  unfold gradeOps
  split
  · next graded => exact ⟨given graded.2.1, trivial⟩
  · trivial

theorem sendOneOps_guarded (all : ∀ b, granted b = true) {side : Side} (roomy : Roomy frame)
    (given : image side ∈ known) : Guarded known (sendOneOps granted side frame) :=
  ⟨all _, roomy.rgb_size, guarded_touch _ _ (by simp [given])⟩

theorem sendOps_guarded (all : ∀ b, granted b = true)
    (uiRoomy : ui.pixelFormat ≠ .invalid → Roomy ui)
    (videoRoomy : video.pixelFormat ≠ .invalid → Roomy video)
    (uiGiven : ui.pixelFormat ≠ .invalid → image .ui ∈ known)
    (videoGiven : video.pixelFormat ≠ .invalid → image .video ∈ known) :
    Guarded known (sendOps granted ui video) := by
  unfold sendOps
  split
  · next both =>
    have uiValid := valid_of_supported both.2
    have videoValid := valid_of_supported both.1
    have roomy := videoRoomy videoValid
    refine ⟨all _, roomy.argb_size, all _, roomy.rgb_size, ?_⟩
    exact (guarded_touch _ _ (by simp [uiGiven uiValid, videoGiven videoValid])).append
      (guarded_touch _ _ (by simp))
  · split
    · next supported =>
      have valid := valid_of_supported supported
      exact sendOneOps_guarded all (uiRoomy valid) (uiGiven valid)
    · split
      · next supported =>
        have valid := valid_of_supported supported
        exact sendOneOps_guarded all (videoRoomy valid) (videoGiven valid)
      · trivial

theorem iterationOps_guarded (lut : Bool) {it : BlockIteration} (provided : Provided it) :
    Guarded [] (iterationOps lut it) := by
  have all := provided.granted
  refine (convertOps_guarded all .ui provided.ui).append
    ((convertOps_guarded all .video provided.video).append
      ((gradeOps_guarded lut fun valid => ?_).append
        (sendOps_guarded all provided.ui provided.video (fun valid => ?_) fun valid => ?_)))
  · simp [image_resized valid]
  · simp [image_resized valid]
  · simp [image_resized valid]

theorem iterations_guarded (lut : Bool) {its : List BlockIteration}
    (provided : ∀ it ∈ its, Provided it) : Guarded [] (its.flatMap (iterationOps lut)) := by
  induction its with
  | nil => trivial
  | cons it its ih =>
    rw [List.forall_mem_cons] at provided
    rw [List.flatMap_cons]
    exact (iterationOps_guarded lut provided.1).append
      ((ih provided.2).mono (List.nil_subset _))

end Guards

/-! ### Against the pixels -/

def converterSize (this : Converter) : ConverterBuffer → Nat
  | .first => this.image.size
  | .second => this.chroma.1.size
  | .third => this.chroma.2.size
  | .fourth => (this.buffers ⟨3, by decide⟩).size

def sizes (s : Buffers) : Buffer → Nat
  | .converter .ui b => converterSize s.uiConverter b
  | .converter .video b => converterSize s.videoConverter b
  | .blended => s.blendedFrame.size
  | .final => s.finalFrame.size

def resize (sizes : Buffer → Nat) : Op Buffer → Buffer → Nat
  | .realloc b size _ => Function.update sizes b size.toNat
  | .access _ => sizes

def converterOf (s : Buffers) : Side → Converter
  | .ui => s.uiConverter
  | .video => s.videoConverter

def setConverter (s : Buffers) : Side → Converter → Buffers
  | .ui, this => { s with uiConverter := this }
  | .video, this => { s with videoConverter := this }

section Resizing

variable {yuv : Libyuv} {whatever : Nat → Nat → Pixel 4} {lutTable : Option Memory}
  {granted : Buffer → Bool} {s : Buffers} {side : Side} {frame : FrameInfo Memory}
  {this : Converter}

theorem foldl_touch (before : Buffer → Nat) (width height : Int) (bs : List Buffer) :
    (touch width height bs).foldl resize before = before := by
  unfold touch
  split
  · induction bs with
    | nil => rfl
    | cons b bs ih => exact ih
  · rfl

theorem lutLoop_size {table : Memory} {b b' : Block} {bytes : Int}
    (ran : lutLoop table b bytes = .ok b') : b'.size = b.size := by
  unfold lutLoop at ran
  generalize List.range ((bytes + 3) / 4).toNat = rounds at ran
  induction rounds generalizing b with
  | nil =>
    cases ran
    rfl
  | cons j rounds ih =>
    obtain ⟨b₁, graded, rest⟩ := bind_eq_ok.mp ran
    obtain ⟨p, -, stored⟩ := bind_eq_ok.mp graded
    exact (ih rest).trans (Block.store_size stored)

/-- What a conversion leaves: the sizes of its blocks, and where the output stands. -/
structure Leaves (frame : FrameInfo Memory) (this : Converter) (r : Conversion) : Prop where
  image : r.this.image.size = (wrap (wrap (frame.width * frame.height) * 4)).toNat
  buffer : r.output.plane0.buffer.size = r.this.image.size
  chroma : frame.pixelFormat = .yuv422SemiPlanar →
    r.this.chroma.1.size = (wrap (frame.width.tdiv 2 * frame.height)).toNat ∧
    r.this.chroma.2.size = (wrap (frame.width.tdiv 2 * frame.height)).toNat
  others : frame.pixelFormat ≠ .yuv422SemiPlanar → r.this.chroma = this.chroma
  fourth : r.this.buffers ⟨3, by decide⟩ = this.buffers ⟨3, by decide⟩
  width : r.output.width = frame.width
  height : r.output.height = frame.height
  format : r.output.pixelFormat ≠ .invalid ↔ Supported frame.pixelFormat

theorem realloc_toNat {b b' : Block} {size : Int} (given : b.realloc size = .ok b') :
    b'.size = size.toNat := by
  rw [← Block.realloc_size given, Int.toNat_natCast]

theorem toArgb_leaves {output : FrameInfo Block} {w h : Nat}
    {pixel : Nat → Nat → Except Fault (Pixel 4)} {r : Conversion}
    (ran : toArgb this output w h pixel = .ok r) :
    ∃ argb : Block, argb.size = output.plane0.buffer.size ∧
      r = ⟨0, this.setImage argb,
        { output with pixelFormat := .argb, plane0 := { output.plane0 with buffer := argb } }⟩ := by
  obtain ⟨argb, drawn, done⟩ := bind_eq_ok.mp ran
  cases done
  exact ⟨argb, draw_size drawn, rfl⟩

theorem converterRunOver_leaves {r : Conversion}
    (ran : converterRunOver yuv whatever this frame blankFrame .argb = .ok r) :
    Leaves frame this r := by
  unfold converterRunOver at ran
  rw [if_pos rfl] at ran
  obtain ⟨plane, given, ran⟩ := bind_eq_ok.mp ran
  have size := realloc_toNat given
  by_cases format : frame.pixelFormat = .yuv422SemiPlanar
  · simp only [convertPlanesOver, format] at ran
    obtain ⟨b₁, given₁, ran⟩ := bind_eq_ok.mp ran
    obtain ⟨b₂, given₂, ran⟩ := bind_eq_ok.mp ran
    obtain ⟨planes, split, ran⟩ := bind_eq_ok.mp ran
    obtain ⟨u, drawnU, split⟩ := bind_eq_ok.mp split
    obtain ⟨v, drawnV, done⟩ := bind_eq_ok.mp split
    cases done
    obtain ⟨argb, drawn, rfl⟩ := toArgb_leaves ran
    refine ⟨drawn.trans size, rfl, fun _ => ⟨?_, ?_⟩, fun other => absurd format other, rfl, rfl,
      rfl, ?_⟩
    · exact (draw_size drawnU).trans (realloc_toNat given₁)
    · exact (draw_size drawnV).trans (realloc_toNat given₂)
    · simp [Supported, format]
  · have plain : ∀ argb : Block, argb.size = plane.size →
        Supported frame.pixelFormat → Leaves frame this ⟨0, (this.setImage plane).setImage argb,
          { blankFrame with
            pixelFormat := .argb
            width := frame.width
            height := frame.height
            plane0 := ⟨argb, wrap (frame.width * 4)⟩ }⟩ := fun argb same supported =>
      ⟨same.trans size, rfl, fun other => absurd other format, fun _ => rfl, rfl, rfl, rfl,
        by simp [supported]⟩
    by_cases supported : Supported frame.pixelFormat
    · rcases id supported with format' | format' | format' | format'
      · simp only [convertPlanesOver, convertPlanes, format'] at ran
        obtain ⟨argb, drawn, rfl⟩ := toArgb_leaves ran
        exact plain argb drawn supported
      · simp only [convertPlanesOver, convertPlanes, format'] at ran
        obtain ⟨argb, drawn, rfl⟩ := toArgb_leaves ran
        exact plain argb drawn supported
      · simp only [convertPlanesOver, convertPlanes, format'] at ran
        obtain ⟨argb, drawn, rfl⟩ := toArgb_leaves ran
        exact plain argb drawn supported
      · exact absurd format' format
    · have kept : convertPlanesOver yuv whatever (this.setImage plane) frame { blankFrame with
          width := frame.width
          height := frame.height
          plane0 := ⟨plane, wrap (frame.width * 4)⟩ } = .ok ⟨-2, this.setImage plane,
          { blankFrame with
            width := frame.width
            height := frame.height
            plane0 := ⟨plane, wrap (frame.width * 4)⟩ }⟩ := by
        unfold convertPlanesOver
        split
        · exact absurd ‹_› format
        · exact convertPlanes_unsupported supported _ _
      rw [kept] at ran
      cases ran
      exact ⟨size, rfl, fun other => absurd other format, fun _ => rfl, rfl, rfl, rfl,
        by simp [blankFrame, supported]⟩

theorem sizes_setConverter (this : Converter) {i c₁ c₂ : Nat} (image' : this.image.size = i)
    (second : this.chroma.1.size = c₁) (third : this.chroma.2.size = c₂)
    (fourth : this.buffers ⟨3, by decide⟩ = (converterOf s side).buffers ⟨3, by decide⟩) :
    sizes (setConverter s side this) =
      Function.update (Function.update (Function.update (sizes s) (image side) i)
        (.converter side .second) c₁) (.converter side .third) c₂ := by
  funext b
  rcases b with ⟨other, b⟩ | _ | _
  · cases side <;> cases other <;> cases b <;>
      simp_all [sizes, setConverter, converterOf, converterSize, Function.update, image]
  · cases side <;> simp [sizes, setConverter, Function.update, image]
  · cases side <;> simp [sizes, setConverter, Function.update, image]

theorem convertOps_sizes {r : Conversion} {shown : Block} (valid : frame.pixelFormat ≠ .invalid)
    (leaves : Leaves frame (converterOf s side) r) (same : shown.size = r.this.image.size) :
    sizes (setConverter s side (r.this.setImage shown)) =
      (convertOps granted side frame).foldl resize (sizes s) := by
  have second : (r.this.setImage shown).chroma.1.size = r.this.chroma.1.size := rfl
  have third : (r.this.setImage shown).chroma.2.size = r.this.chroma.2.size := rfl
  rw [sizes_setConverter (r.this.setImage shown) (same.trans leaves.image) second third
    leaves.fourth]
  unfold convertOps
  rw [if_neg valid]
  by_cases format : frame.pixelFormat = .yuv422SemiPlanar
  · obtain ⟨first', second'⟩ := leaves.chroma format
    simp only [first', second', format, List.foldl_cons, List.foldl_append, foldl_touch, resize]
  · rw [leaves.others format, Function.update_eq_self_iff.mpr, Function.update_eq_self_iff.mpr]
    · dsimp only
      split
      · simp only [List.foldl_cons, foldl_touch, resize]
      · simp only [List.foldl_cons, foldl_touch, resize]
      · simp only [List.foldl_cons, foldl_touch, resize]
      · exact absurd ‹_› format
      · rfl
    · cases side <;> rfl
    · cases side <;> rfl

theorem convertOver_sizes (granted : Buffer → Bool) (s : Buffers) (side : Side)
    {r : Converter × FrameInfo Block}
    (ran : convertOver yuv whatever lutTable (converterOf s side) frame = .ok r) :
    sizes (setConverter s side r.1) = (convertOps granted side frame).foldl resize (sizes s) ∧
      (r.2.pixelFormat ≠ .invalid ↔ Supported frame.pixelFormat) ∧
      (frame.pixelFormat ≠ .invalid → r.2.width = frame.width ∧ r.2.height = frame.height) := by
  unfold convertOver at ran
  split at ran
  · next valid =>
    obtain ⟨c, converted, ran⟩ := bind_eq_ok.mp ran
    have leaves := converterRunOver_leaves converted
    cases lutTable with
    | none =>
      cases ran
      have own : c.this.setImage c.this.image = c.this := by simp [Converter.setImage,
        Converter.set, Converter.image]
      refine ⟨?_, leaves.format, fun _ => ⟨leaves.width, leaves.height⟩⟩
      rw [← own]
      exact convertOps_sizes valid leaves rfl
    | some table =>
      obtain ⟨plane, graded, done⟩ := bind_eq_ok.mp ran
      cases done
      exact ⟨convertOps_sizes valid leaves ((lutLoop_size graded).trans leaves.buffer),
        leaves.format, fun _ => ⟨leaves.width, leaves.height⟩⟩
  · next invalid =>
    cases ran
    have invalid := not_not.mp invalid
    refine ⟨?_, by simp [blankFrame, invalid, Supported], fun valid => absurd invalid valid⟩
    unfold convertOps
    rw [if_pos invalid]
    cases side <;> rfl

theorem gradeOps_sizes (lut : Bool) (frame : FrameInfo Memory) (before : Buffer → Nat) :
    (gradeOps lut frame).foldl resize before = before := by
  unfold gradeOps
  split <;> rfl

theorem sendOne_sizes {output : FrameInfo Block} {r : Buffers × Option Delivery}
    (width : output.width = frame.width) (height : output.height = frame.height)
    (ran : sendOne yuv s output = .ok r) :
    sizes r.1 = (sendOneOps granted side frame).foldl resize (sizes s) := by
  obtain ⟨final₀, given, ran⟩ := bind_eq_ok.mp ran
  obtain ⟨final, packed, done⟩ := bind_eq_ok.mp ran
  cases done
  have size := (draw_size packed).trans (realloc_toNat given)
  rw [width, height] at size
  simp only [sendOneOps, List.foldl_cons, foldl_touch, resize]
  funext b
  rcases b with ⟨side', b⟩ | _ | _
  · cases side' <;> rfl
  · rfl
  · simpa [sizes] using size

theorem sendBlendedOver_sizes {ui output : FrameInfo Block} {r : Buffers × Option Delivery}
    (width : output.width = frame.width) (height : output.height = frame.height)
    (ran : sendBlendedOver yuv whatever s ui output = .ok r) :
    sizes r.1 = (sendBlendedOps granted frame).foldl resize (sizes s) := by
  obtain ⟨blended₀, given, ran⟩ := bind_eq_ok.mp ran
  obtain ⟨final₀, given', ran⟩ := bind_eq_ok.mp ran
  obtain ⟨blended, drawn, ran⟩ := bind_eq_ok.mp ran
  obtain ⟨final, packed, done⟩ := bind_eq_ok.mp ran
  cases done
  have size := (draw_size drawn).trans (realloc_toNat given)
  have size' := (draw_size packed).trans (realloc_toNat given')
  rw [width, height] at size size'
  simp only [sendBlendedOps, List.foldl_cons, List.foldl_append, foldl_touch, resize]
  funext b
  rcases b with ⟨side', b⟩ | _ | _
  · cases side' <;> rfl
  · simpa [sizes, Function.update] using size
  · simpa [sizes] using size'

theorem processFramesOver_sizes {beyond : Beyond} {ui video : FrameInfo Memory}
    {r : Buffers × Option Delivery}
    (ran : processFramesOver yuv lutTable beyond s ui video = .ok r) :
    sizes r.1 = (iterationOps lutTable.isSome ⟨ui, video, granted⟩).foldl resize (sizes s) := by
  obtain ⟨cu, uiRan, ran⟩ := bind_eq_ok.mp ran
  obtain ⟨cv, videoRan, sent⟩ := bind_eq_ok.mp ran
  obtain ⟨uiSizes, uiFormat, uiDims⟩ := convertOver_sizes granted s .ui uiRan
  obtain ⟨videoSizes, videoFormat, videoDims⟩ :=
    convertOver_sizes granted (setConverter s .ui cu.1) .video videoRan
  rw [iterationOps, List.foldl_append, List.foldl_append, List.foldl_append, gradeOps_sizes,
    ← uiSizes, ← videoSizes]
  unfold sendOps
  unfold sendFramesOver at sent
  simp only [videoFormat, uiFormat] at sent
  split at sent
  · next both =>
    rw [if_pos both]
    obtain ⟨width, height⟩ := videoDims (valid_of_supported both.1)
    exact sendBlendedOver_sizes width height sent
  · next notBoth =>
    unfold sendFrames at sent
    simp only [videoFormat, uiFormat, if_neg notBoth] at sent
    rw [if_neg notBoth]
    split at sent
    · next supported =>
      rw [if_pos supported]
      obtain ⟨width, height⟩ := uiDims (valid_of_supported supported)
      exact sendOne_sizes width height sent
    · next noUi =>
      rw [if_neg noUi]
      split at sent
      · next supported =>
        rw [if_pos supported]
        obtain ⟨width, height⟩ := videoDims (valid_of_supported supported)
        exact sendOne_sizes width height sent
      · next noVideo =>
        rw [if_neg noVideo]
        cases sent
        rfl

/-- The frames an iteration of the loop goes on with: those filled in, or none. -/
structure Acquired (it : FrameIteration) (it' : BlockIteration) : Prop where
  ui : ∃ format, it'.ui = { it.frame .ui with pixelFormat := format }
  video : ∃ format, it'.video = { it.frame .video with pixelFormat := format }
  granted : ∀ b, it'.granted b = true

theorem loopIteration_sizes {callback : Bool} {l l' : Loop} {it : FrameIteration}
    (ran : loopIteration yuv lutTable callback l it = .ok l') :
    ∃ it', Acquired it it' ∧ sizes l'.buffers =
      (iterationOps lutTable.isSome it').foldl resize (sizes l.buffers) := by
  unfold loopIteration at ran
  obtain ⟨⟨buffers, delivery⟩, processed, done⟩ := bind_eq_ok.mp ran
  cases done
  exact ⟨⟨_, _, fun _ => true⟩, ⟨⟨_, rfl⟩, ⟨_, rfl⟩, fun _ => rfl⟩,
    processFramesOver_sizes processed⟩

/-- Along the loop of the pixel model every block has the size its operations gave it. -/
theorem loop_sizes {callback : Bool} {l l' : Loop} {its : List FrameIteration}
    (ran : run (loopIteration yuv lutTable callback) l its = .ok l') :
    ∃ its', List.Forall₂ Acquired its its' ∧ sizes l'.buffers =
      (its'.flatMap (iterationOps lutTable.isSome)).foldl resize (sizes l.buffers) := by
  induction its generalizing l with
  | nil =>
    cases ran
    exact ⟨[], .nil, rfl⟩
  | cons it its ih =>
    obtain ⟨l₁, taken, rest⟩ := run_cons_ok.mp ran
    obtain ⟨it', acquired, first⟩ := loopIteration_sizes taken
    obtain ⟨its', all, others⟩ := ih rest
    refine ⟨it' :: its', .cons acquired all, ?_⟩
    rw [List.flatMap_cons, List.foldl_append, ← first, others]

end Resizing

/-- Whatever frames come and whatever `realloc` refuses, the thread looks at no block that is
not allocated, frees none twice, and leaves behind those that a refused `realloc` has lost.
With frames that fit and nothing refused it ends, and leaves none. -/
theorem session_sound (lut : Bool) (its : List BlockIteration) :
    (match session lut its with
      | .ok h => h.live = h.lost
      | .error f => f = .nullAccess) ∧
    ((∀ it ∈ its, Provided it) → ∃ h, session lut its = .ok h ∧ h.live = ∅) := by
  have ends {h : Heap Buffer} (owned : Owned [] h) :
      ∃ h', run Heap.freeUnlessNull h released = .ok h' ∧ h'.live = h'.lost ∧ h'.lost = h.lost :=
    freeAll_owned owned released_once (fun b _ => List.not_mem_nil)
      fun b => Or.inl (mem_released b)
  constructor
  · unfold session
    rcases run_owned owned_empty (its.flatMap (iterationOps lut)) with ⟨h, ran, owned⟩ | fault
    · obtain ⟨h', freed, live, _⟩ := ends owned
      rw [ran, ok_bind, freed]
      exact live
    · rw [fault, error_bind]
  · intro provided
    obtain ⟨h, ran, owned, lost⟩ := run_guarded owned_empty (fun b member => by cases member)
      (iterations_guarded lut provided)
    obtain ⟨h', freed, live, kept⟩ := ends owned
    exact ⟨h', bind_eq_ok.mpr ⟨h, ran, freed⟩, live.trans (kept.trans lost)⟩

def noLines : Plane Memory := ⟨fun _ => 0, 0⟩

def watching : BlockIteration :=
  ⟨⟨.invalid, 0, 0, noLines, noLines⟩, ⟨.yuv422SemiPlanar, 4, 2, noLines, noLines⟩, fun _ => true⟩

theorem watching_provided : Provided watching where
  granted _ := rfl
  ui valid := absurd rfl valid
  video _ := ⟨by decide, by decide, by decide, fun _ => by decide⟩

theorem session_sound_watching : ∃ h, session true [watching, watching] = .ok h ∧ h.live = ∅ :=
  (session_sound true [watching, watching]).2 (by
    intro it member
    have same : it = watching := by simpa using member
    exact same ▸ watching_provided)

end HyperionWebos.PixelBuffers
