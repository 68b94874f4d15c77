import HyperionWebos.MappedReads

/-! The frames that `libdile_vt`, `libgm` and `libhalgal` hand out, over the memory that
their `capture_init` has mapped or was given. What the vendor libraries answer comes with
the call. -/

namespace HyperionWebos.BackendFrames
open Runs Unicapture ByteBlocks FrameConversion MappedReads

namespace LibDileVt

inductive VfbFormat where
  | rgb
  | yuv420SemiPlanar
  | yuv422SemiPlanar
  | other (code : Nat)
deriving DecidableEq, Repr

structure Vfbprop where
  pixelFormat : VfbFormat
  width : UInt32
  height : UInt32
  stride : UInt32
deriving DecidableEq, Repr

/-- `deviceFreezed` is what the output device does, `freezed` what was last written for it. -/
structure State (β : Type) where
  vfbprop : Vfbprop
  vfbs : List (List β)
  freezed : Bool
  noFreezeToAcquireFrame : Bool
  deviceFreezed : Bool

variable {β : Type}

/-- `DILE_VT_SetVideoFrameOutputDeviceState`, whose failure nobody looks at. -/
def setFreezed (obeys : Bool) (freezed : Bool) (this : State β) : State β :=
  { this with
    freezed := freezed
    deviceFreezed := if obeys then freezed else this.deviceFreezed }

/-- `vfbs[idx][plane]`. -/
def vfb (idx plane : Nat) (this : State β) : Except Fault β :=
  match this.vfbs[idx]? with
  | none => .error (.outside idx this.vfbs.length)
  | some planes => match planes[plane]? with
    | none => .error (.outside plane planes.length)
    | some buffer => .ok buffer

/-- `idx` is the buffer that `DILE_VT_GetCurrentVideoFrameBufferProperty` names. -/
def captureAcquireFrame (obeys : Bool) (idx : Nat) (frame : FrameInfo β) (this : State β) :
    Except Fault (Int × FrameInfo β × State β) := do
  let this := if !this.noFreezeToAcquireFrame then setFreezed obeys true this else this
  let stride := wrap this.vfbprop.stride.toNat
  let frame := { frame with
    width := wrap this.vfbprop.width.toNat
    height := wrap this.vfbprop.height.toNat }
  match this.vfbprop.pixelFormat with
  | .rgb =>
    let buffer ← vfb idx 0 this
    return (0, { frame with
      pixelFormat := .rgb
      width := wrap (this.vfbprop.stride / 3).toNat
      plane0 := ⟨buffer, stride⟩ }, this)
  | .yuv420SemiPlanar =>
    let luma ← vfb idx 0 this
    let chroma ← vfb idx 1 this
    return (0, { frame with
      pixelFormat := .yuv420SemiPlanar, plane0 := ⟨luma, stride⟩, plane1 := ⟨chroma, stride⟩ },
      this)
  | .yuv422SemiPlanar =>
    let luma ← vfb idx 0 this
    let chroma ← vfb idx 1 this
    return (0, { frame with
      pixelFormat := .yuv422SemiPlanar, plane0 := ⟨luma, stride⟩, plane1 := ⟨chroma, stride⟩ },
      this)
  | .other _ => return (-1, frame, this)

def captureReleaseFrame (obeys : Bool) (this : State β) : Int × State β :=
  (0, if !this.noFreezeToAcquireFrame then setFreezed obeys false this else this)

/-- What `capture_init` maps of each buffer. -/
def mapped (this : State β) : Nat := this.vfbprop.stride.toNat * this.vfbprop.height.toNat

end LibDileVt

namespace LibGm

structure State (β : Type) where
  width : UInt32
  height : UInt32
  framebuffer : β

/-- `ret`, `width` and `height` are what `GM_CaptureGraphicScreen` leaves. -/
def captureAcquireFrame {β : Type} (ret : Int) (width height : UInt32) (frame : FrameInfo β)
    (this : State β) : Int × FrameInfo β :=
  if ret ≠ 0 then (ret, frame)
  else (0, { frame with
    pixelFormat := .abgr
    width := wrap width.toNat
    height := wrap height.toNat
    plane0 := ⟨this.framebuffer, wrap (width * 4).toNat⟩ })

end LibGm

namespace LibHalGal

structure State (β : Type) where
  width : Int
  height : Int
  pitch : Int
  memAddr : β

/-- `HAL_GAL_CaptureFrameBuffer` returns `ret` and may fill in another pitch. -/
def captureAcquireFrame {β : Type} (ret pitch : Int) (frame : FrameInfo β) (this : State β) :
    Int × FrameInfo β × State β :=
  let this := { this with pitch := pitch }
  if ret ≠ 0 then (ret, frame, this)
  else (0, { frame with
    pixelFormat := .abgr
    width := this.width
    height := this.height
    plane0 := ⟨this.memAddr, this.pitch⟩ }, this)

end LibHalGal

/-! ### Inside the mapping -/

section Lines

variable (chroma : Bool) {n m : Nat} {stride : Int}

theorem samples_within_iff (someByte : 0 < n) (x y : Nat) :
    (∀ p ∈ samples chroma n stride x y, 0 ≤ p.index ∧ p.index < m) ↔
      (⟨m, fun _ => 0⟩ : Block).Holds n (y * stride + n * x) := by
  unfold samples Block.Holds
  rw [List.forall_mem_map]
  constructor
  · intro within
    have first := within 0 (List.mem_range.mpr someByte)
    have last := within (n - 1) (List.mem_range.mpr (by omega))
    dsimp only at first last
    exact ⟨by omega, by dsimp only; omega⟩
  · rintro ⟨low, high⟩ c inside
    have inside := List.mem_range.mp inside
    dsimp only at high ⊢
    omega

theorem lines_within_iff (someByte : 0 < n) (positive : 0 ≤ stride) {w h : Nat}
    (someColumn : 0 < w) (someRow : 0 < h) :
    (∀ y < h, ∀ x < w, ∀ p ∈ samples chroma n stride x y, 0 ≤ p.index ∧ p.index < m) ↔
      (h - 1 : Int) * stride + n * w ≤ m := by
  simp only [samples_within_iff chroma someByte]
  exact rows_held_iff positive someColumn someRow

end Lines

section Formats

variable {f : FrameInfo Memory} {w h m : Nat}

theorem within_packed {n : Nat} (someByte : 0 < n)
    (places : ∀ x y, placesAt f x y = samples false n f.plane0.stride x y) (width : f.width = w)
    (height : f.height = h) (someColumn : 0 < w) (someRow : 0 < h)
    (positive : 0 ≤ f.plane0.stride) :
    SampledWithin m f ↔ (h - 1 : Int) * f.plane0.stride + n * w ≤ m := by
  rw [← lines_within_iff false someByte positive someColumn someRow]
  unfold SampledWithin
  simp only [width, height, places]
  exact ⟨fun all y row x column => all x y (by omega) (by omega),
    fun all x y column row => all y (by omega) x (by omega)⟩

theorem within_semiPlanar (chromaRow : Nat → Nat) (rows : Nat)
    (places : ∀ x y, placesAt f x y = samples false 1 f.plane0.stride x y ++
      samples true 2 f.plane1.stride (x / 2) (chromaRow y))
    (below : ∀ y < h, chromaRow y < rows) (onto : ∀ c < rows, ∃ y < h, chromaRow y = c)
    (width : f.width = w) (height : f.height = h) (someColumn : 0 < w) (someRow : 0 < h)
    (positive : 0 ≤ f.plane0.stride) (positive' : 0 ≤ f.plane1.stride) :
    SampledWithin m f ↔ (h - 1 : Int) * f.plane0.stride + (1 : Nat) * w ≤ m ∧
      (rows - 1 : Int) * f.plane1.stride + (2 : Nat) * ((w + 1) / 2 : Nat) ≤ m := by
  have someChroma : 0 < rows := Nat.zero_lt_of_lt (below 0 someRow)
  rw [← lines_within_iff false (by decide) positive someColumn someRow,
    ← lines_within_iff true (by decide) positive' (by omega) someChroma]
  unfold SampledWithin
  simp only [width, height, places, List.forall_mem_append]
  constructor
  · intro all
    refine ⟨fun y row x column => (all x y (by omega) (by omega)).1, fun c row x column => ?_⟩
    obtain ⟨y, inside, rfl⟩ := onto c row
    have here := (all (2 * x) y (by omega) (by omega)).2
    rwa [Nat.mul_div_cancel_left x (by decide)] at here
  · rintro ⟨luma, chroma⟩ x y column row
    exact ⟨luma y (by omega) x (by omega),
      chroma (chromaRow y) (below y (by omega)) (x / 2) (by omega)⟩

theorem last_line_iff {s w h : Nat} :
    (h - 1 : Int) * s + w ≤ (s * h : Nat) ↔ w ≤ s := by
  have whole : ((s * h : Nat) : Int) = (h - 1 : Int) * s + s := by push_cast; ring
  rw [whole]
  omega

theorem last_chroma_iff {s w h : Nat} (someRow : 0 < h) (narrow : w ≤ s) :
    (((h + 1) / 2 : Nat) - 1 : Int) * s + (2 : Nat) * ((w + 1) / 2 : Nat) ≤ (s * h : Nat) ↔
      (h = 1 → w % 2 = 1 → w < s) := by
  rcases Nat.lt_or_ge 1 h with more | one
  · refine iff_of_true ?_ fun one => absurd one (by omega)
    have rows : (((h + 1) / 2 : Nat) - 1 : Int) ≤ h - 2 := by omega
    have above : (((h + 1) / 2 : Nat) - 1 : Int) * s ≤ (h - 2) * s :=
      mul_le_mul_of_nonneg_right rows (by positivity)
    have whole : ((s * h : Nat) : Int) = (h - 2 : Int) * s + 2 * s := by push_cast; ring
    rw [whole]
    omega
  · have single : h = 1 := by omega
    rw [single]
    norm_num
    omega

variable {s : Nat}

theorem within_rgb (format : f.pixelFormat = .rgb) (width : f.width = (s / 3 : Nat))
    (height : f.height = h) (stride : f.plane0.stride = s) (someColumn : 0 < s / 3)
    (someRow : 0 < h) : SampledWithin (s * h) f := by
  have places : ∀ x y, placesAt f x y = samples false 3 f.plane0.stride x y := by
    intro x y
    rw [placesAt, format]
  refine (within_packed (by decide) places width height someColumn someRow (by omega)).mpr ?_
  rw [stride]
  have last := last_line_iff (h := h).mpr (Nat.mul_div_le s 3)
  push_cast at last ⊢
  exact last

theorem within_yuv420_iff (format : f.pixelFormat = .yuv420SemiPlanar) (width : f.width = w)
    (height : f.height = h) (stride : f.plane0.stride = s) (stride' : f.plane1.stride = s)
    (someColumn : 0 < w) (someRow : 0 < h) :
    SampledWithin (s * h) f ↔ w ≤ s ∧ (h = 1 → w % 2 = 1 → w < s) := by
  have places : ∀ x y, placesAt f x y = samples false 1 f.plane0.stride x y ++
      samples true 2 f.plane1.stride (x / 2) (y / 2) := by
    intro x y
    rw [placesAt, format]
  rw [within_semiPlanar (· / 2) ((h + 1) / 2) places (fun y row => by omega)
    (fun c inside => ⟨2 * c, by omega, by omega⟩) width height someColumn someRow (by omega)
    (by omega), stride, stride', Nat.cast_one, one_mul, last_line_iff]
  exact and_congr_right fun narrow => last_chroma_iff someRow narrow

theorem within_yuv422_iff (format : f.pixelFormat = .yuv422SemiPlanar) (width : f.width = w)
    (height : f.height = h) (stride : f.plane0.stride = s) (stride' : f.plane1.stride = s)
    (someColumn : 0 < w) (someRow : 0 < h) (even : w % 2 = 0) :
    SampledWithin (s * h) f ↔ w ≤ s := by
  have places : ∀ x y, placesAt f x y = samples false 1 f.plane0.stride x y ++
      samples true 2 f.plane1.stride (x / 2) y := by
    intro x y
    rw [placesAt, format]
  have pairs : 2 * ((w + 1) / 2) = w := by omega
  rw [within_semiPlanar id h places (fun y row => row) (fun c inside => ⟨c, inside, rfl⟩) width
    height someColumn someRow (by omega) (by omega), stride, stride', Nat.cast_one, one_mul,
    ← Nat.cast_mul, pairs, last_line_iff, and_self]

end Formats

namespace LibDileVt

variable {this this' : State Memory} {idx : Nat} {frame frame' : FrameInfo Memory} {obeys : Bool}

/-- What an acquired frame has from the vendor's properties. -/
structure Describes (p : Vfbprop) (frame : FrameInfo Memory) : Prop where
  height : frame.height = wrap p.height.toNat
  stride : frame.plane0.stride = wrap p.stride.toNat
  kind : p.pixelFormat = .rgb ∧ frame.pixelFormat = .rgb ∧
      frame.width = wrap (p.stride / 3).toNat ∨
    (p.pixelFormat = .yuv420SemiPlanar ∧ frame.pixelFormat = .yuv420SemiPlanar ∨
      p.pixelFormat = .yuv422SemiPlanar ∧ frame.pixelFormat = .yuv422SemiPlanar) ∧
      frame.width = wrap p.width.toNat ∧ frame.plane1.stride = wrap p.stride.toNat

theorem captureAcquireFrame_describes
    (acquired : captureAcquireFrame obeys idx frame this = .ok (0, frame', this')) :
    Describes this.vfbprop frame' := by
  have kept : (if !this.noFreezeToAcquireFrame then setFreezed obeys true this else this).vfbprop =
      this.vfbprop := by
    split <;> rfl
  unfold captureAcquireFrame at acquired
  dsimp only at acquired
  rw [kept] at acquired
  cases format : this.vfbprop.pixelFormat with
  | rgb =>
    rw [format] at acquired
    obtain ⟨buffer, -, done⟩ := bind_eq_ok.mp acquired
    cases done
    exact ⟨rfl, rfl, Or.inl ⟨format, rfl, rfl⟩⟩
  | yuv420SemiPlanar =>
    rw [format] at acquired
    obtain ⟨luma, -, rest⟩ := bind_eq_ok.mp acquired
    obtain ⟨chroma, -, done⟩ := bind_eq_ok.mp rest
    cases done
    exact ⟨rfl, rfl, Or.inr ⟨Or.inl ⟨format, rfl⟩, rfl, rfl⟩⟩
  | yuv422SemiPlanar =>
    rw [format] at acquired
    obtain ⟨luma, -, rest⟩ := bind_eq_ok.mp acquired
    obtain ⟨chroma, -, done⟩ := bind_eq_ok.mp rest
    cases done
    exact ⟨rfl, rfl, Or.inr ⟨Or.inr ⟨format, rfl⟩, rfl, rfl⟩⟩
  | other code =>
    rw [format] at acquired
    cases acquired

/-- The lines of a buffer end within the stride, and the one line of chroma samples that a
single odd row has as well. -/
def LinesFit (p : Vfbprop) (frame : FrameInfo Memory) : Prop :=
  p.pixelFormat = .rgb ∨ frame.width ≤ p.stride.toNat ∧
    (frame.height = 1 → frame.width % 2 = 1 → frame.width < p.stride.toNat)

theorem supported_of_describes {p : Vfbprop} (described : Describes p frame) :
    Supported frame.pixelFormat := by
  rcases described.kind with ⟨-, format, -⟩ | ⟨⟨-, format⟩ | ⟨-, format⟩, -⟩
  · exact Or.inl format
  · exact Or.inr (Or.inr (Or.inl format))
  · exact Or.inr (Or.inr (Or.inr format))

theorem wrap_toNat {n : UInt32} (positive : 0 < wrap n.toNat) : wrap n.toNat = n.toNat := by
  have bound : n.toNat < 4294967296 := n.toNat_lt
  rw [wrap_eq] at positive ⊢
  omega

/-- An acquired frame is converted from mapped bytes alone exactly when its lines fit. -/
theorem reads_mapped_iff
    (acquired : captureAcquireFrame obeys idx frame this = .ok (0, frame', this'))
    (someColumn : 0 < frame'.width) (someRow : 0 < frame'.height) (fits : Fits frame')
    (small : mapped this < 2147483648) :
    ReadsOnly (mapped this) frame' ↔ LinesFit this.vfbprop frame' := by
  have described := captureAcquireFrame_describes acquired
  rw [readsOnly_iff (supported_of_describes described) someColumn someRow fits]
  obtain ⟨height, stride, kind⟩ := described
  unfold mapped at small ⊢
  unfold LinesFit
  have rows := wrap_toNat (height ▸ someRow)
  rw [rows] at height
  have someHeight : 0 < this.vfbprop.height.toNat := by omega
  have whole := Nat.le_mul_of_pos_right this.vfbprop.stride.toNat someHeight
  have line : wrap this.vfbprop.stride.toNat = this.vfbprop.stride.toNat :=
    wrap_of_small (by omega) (by omega)
  rw [line] at stride kind
  rcases kind with ⟨kind, format, width⟩ | ⟨⟨kind, format⟩ | ⟨kind, format⟩, width, stride'⟩
  · have third : (this.vfbprop.stride / 3).toNat = this.vfbprop.stride.toNat / 3 := rfl
    rw [third, wrap_of_small (by omega) (by omega)] at width
    exact iff_of_true (within_rgb format width height stride (by omega) someHeight) (Or.inl kind)
  · rw [wrap_toNat (width ▸ someColumn)] at width
    have someWidth : 0 < this.vfbprop.width.toNat := Int.natCast_pos.mp (width ▸ someColumn)
    rw [within_yuv420_iff format width height stride stride' someWidth someHeight, width, height,
      kind]
    constructor
    · rintro ⟨narrow, exact⟩
      exact Or.inr ⟨Int.ofNat_le.mpr narrow, fun one odd => Int.ofNat_lt.mpr
        (exact (Int.ofNat_inj.mp one) (Int.ofNat_inj.mp odd))⟩
    · rintro (rgb | ⟨narrow, exact⟩)
      · cases rgb
      · exact ⟨Int.ofNat_le.mp narrow, fun one odd => Int.ofNat_lt.mp
          (exact (congrArg _ one) (congrArg _ odd))⟩
  · have even := fits.2 format
    rw [wrap_toNat (width ▸ someColumn)] at width
    rw [width] at even
    have someWidth : 0 < this.vfbprop.width.toNat := Int.natCast_pos.mp (width ▸ someColumn)
    rw [within_yuv422_iff format width height stride stride' someWidth someHeight
      (Int.ofNat_inj.mp even), width, kind]
    constructor
    · intro narrow
      refine Or.inr ⟨Int.ofNat_le.mpr narrow, fun _ odd => ?_⟩
      rw [even] at odd
      cases odd
    · rintro (rgb | ⟨narrow, -⟩)
      · cases rgb
      · exact Int.ofNat_le.mp narrow

/-- One NV21 row of three pixels in a buffer of four bytes a row. -/
def oneRow : State Memory :=
  ⟨⟨.yuv420SemiPlanar, 3, 1, 4⟩, [[fun _ => 0, fun _ => 0]], false, false, false⟩

def blank : FrameInfo Memory := ⟨.invalid, 0, 0, ⟨fun _ => 0, 0⟩, ⟨fun _ => 0, 0⟩⟩

theorem reads_mapped_oneRow : ∃ frame' this',
    captureAcquireFrame true 0 blank oneRow = .ok (0, frame', this') ∧
    (ReadsOnly (mapped oneRow) frame' ↔ LinesFit oneRow.vfbprop frame') :=
  ⟨_, _, rfl, @reads_mapped_iff oneRow _ 0 blank _ true rfl
    (by decide +kernel) (by decide +kernel) (by decide +kernel) (by decide +kernel)⟩

end LibDileVt

/-! ### Surfaces -/

def Surface (frame : FrameInfo Memory) : Prop :=
  (∃ width height before this,
    LibGm.captureAcquireFrame 0 width height before this = (0, frame)) ∨
  ∃ pitch before this this',
    LibHalGal.captureAcquireFrame 0 pitch before this = (0, frame, this')

theorem surface_abgr {frame : FrameInfo Memory} (surface : Surface frame) :
    frame.pixelFormat = .abgr := by
  rcases surface with ⟨width, height, before, this, acquired⟩ | ⟨pitch, before, this, _, acquired⟩
  · cases acquired
    rfl
  · cases acquired
    rfl

theorem surface_reads_iff {frame : FrameInfo Memory} {n : Nat} (surface : Surface frame)
    (positive : 0 ≤ frame.plane0.stride) (someColumn : 0 < frame.width)
    (someRow : 0 < frame.height) (fits : Fits frame) :
    ReadsOnly n frame ↔ (frame.height - 1) * frame.plane0.stride + 4 * frame.width ≤ n := by
  have format := surface_abgr surface
  rw [readsOnly_iff (Or.inr (Or.inl format)) someColumn someRow fits]
  obtain ⟨w, width⟩ := Int.eq_ofNat_of_zero_le someColumn.le
  obtain ⟨h, height⟩ := Int.eq_ofNat_of_zero_le someRow.le
  have places : ∀ x y, placesAt frame x y = samples false 4 frame.plane0.stride x y := by
    intro x y
    rw [placesAt, format]
  rw [within_packed (by decide) places width height (by omega) (by omega) positive, width, height]
  rfl

end HyperionWebos.BackendFrames
