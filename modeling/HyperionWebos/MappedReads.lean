import HyperionWebos.FrameConversion

/-! Which memory a conversion reads. The image of a frame depends on the bytes that libyuv
samples and on no others; so it is an image of what a backend has mapped exactly when every
sampled byte lies in the mapping. -/

namespace HyperionWebos.MappedReads
open Runs Unicapture ByteBlocks FrameConversion

/-- A byte of the first plane or of the plane of the chroma samples. -/
structure Place where
  chroma : Bool
  index : Int

def samples (chroma : Bool) (n : Nat) (stride : Int) (x y : Nat) : List Place :=
  (List.range n).map fun c : Nat => ⟨chroma, y * stride + n * x + c⟩

def placesAt {β : Type} (f : FrameInfo β) (x y : Nat) : List Place :=
  match f.pixelFormat with
  | .rgb => samples false 3 f.plane0.stride x y
  | .abgr => samples false 4 f.plane0.stride x y
  | .yuv420SemiPlanar =>
    samples false 1 f.plane0.stride x y ++ samples true 2 f.plane1.stride (x / 2) (y / 2)
  | .yuv422SemiPlanar =>
    samples false 1 f.plane0.stride x y ++ samples true 2 f.plane1.stride (x / 2) y
  | _ => []

def planeOf (chroma : Bool) (f : FrameInfo Memory) : Memory :=
  if chroma then f.plane1.buffer else f.plane0.buffer

def byteAt (f : FrameInfo Memory) (p : Place) : UInt8 := planeOf p.chroma f p.index

def withPlanes (planes : Bool → Memory) (f : FrameInfo Memory) : FrameInfo Memory :=
  { f with
    plane0 := { f.plane0 with buffer := planes false }
    plane1 := { f.plane1 with buffer := planes true } }

def SampledWithin {β : Type} (n : Nat) (f : FrameInfo β) : Prop :=
  ∀ x y : Nat, (x : Int) < f.width → (y : Int) < f.height → ∀ p ∈ placesAt f x y,
    0 ≤ p.index ∧ p.index < n

/-- Whatever lies outside the first `n` bytes of the planes, the image is the same. -/
def ReadsOnly (n : Nat) (f : FrameInfo Memory) : Prop :=
  ∀ yuv this this' planes r r',
    (∀ chroma, ∀ i : Int, 0 ≤ i → i < n → planes chroma i = planeOf chroma f i) →
    converterRun yuv this f blankFrame .argb = .ok r →
    converterRun yuv this' (withPlanes planes f) blankFrame .argb = .ok r' →
    r'.output.plane0.buffer.Same r.output.plane0.buffer

section Samples

variable {f : FrameInfo Memory} {planes : Bool → Memory} {x y : Nat}

theorem byteAt_withPlanes (p : Place) :
    byteAt (withPlanes planes f) p = planes p.chroma p.index := by
  unfold byteAt planeOf withPlanes
  cases p.chroma <;> rfl

theorem pixelOf_congr {n : Nat} {chroma : Bool} {plane plane' : Plane Memory}
    (stride : plane'.stride = plane.stride)
    (agree : ∀ p ∈ samples chroma n plane.stride x y,
      plane'.buffer p.index = plane.buffer p.index) :
    pixelOf n plane' x y = pixelOf n plane x y := by
  funext c
  have member : ⟨chroma, y * plane.stride + n * x + (c : Nat)⟩ ∈
      samples chroma n plane.stride x y :=
    List.mem_map.mpr ⟨c, List.mem_range.mpr c.isLt, rfl⟩
  unfold pixelOf
  rw [stride]
  exact agree _ member

theorem argbAt_congr (yuv : Libyuv)
    (agree : ∀ p ∈ placesAt f x y, byteAt (withPlanes planes f) p = byteAt f p) :
    argbAt yuv (withPlanes planes f) x y = argbAt yuv f x y := by
  have luma {n : Nat} {x y : Nat} (agree : ∀ p ∈ samples false n f.plane0.stride x y,
      byteAt (withPlanes planes f) p = byteAt f p) :
      pixelOf n (withPlanes planes f).plane0 x y = pixelOf n f.plane0 x y := by
    refine pixelOf_congr rfl fun p (member : p ∈ samples false n f.plane0.stride x y) => ?_
    obtain ⟨c, _, rfl⟩ := List.mem_map.mp member
    exact agree _ member
  have chroma {n : Nat} {x y : Nat} (agree : ∀ p ∈ samples true n f.plane1.stride x y,
      byteAt (withPlanes planes f) p = byteAt f p) :
      pixelOf n (withPlanes planes f).plane1 x y = pixelOf n f.plane1 x y := by
    refine pixelOf_congr rfl fun p (member : p ∈ samples true n f.plane1.stride x y) => ?_
    obtain ⟨c, _, rfl⟩ := List.mem_map.mp member
    exact agree _ member
  have width : (withPlanes planes f).width = f.width := rfl
  have height : (withPlanes planes f).height = f.height := rfl
  have same : (withPlanes planes f).pixelFormat = f.pixelFormat := rfl
  unfold placesAt at agree
  cases format : f.pixelFormat with
  | rgb =>
    rw [format] at agree same
    simp only [argbAt, width, height, same, format, luma agree]
  | abgr =>
    rw [format] at agree same
    simp only [argbAt, width, height, same, format, luma agree]
  | yuv420SemiPlanar =>
    rw [format] at agree same
    obtain ⟨inLuma, inChroma⟩ := List.forall_mem_append.mp agree
    simp only [argbAt, width, height, same, format, luma inLuma, chroma inChroma]
  | yuv422SemiPlanar =>
    rw [format] at agree same
    obtain ⟨inLuma, inChroma⟩ := List.forall_mem_append.mp agree
    simp only [argbAt, width, height, same, format, luma inLuma, chroma inChroma]
  | _ =>
    rw [format] at same
    simp only [argbAt, width, height, same, format]

def plainPixels : Libyuv where
  rgb24ToArgb := fun p c => if h : c.val < 3 then p ⟨c, h⟩ else 255
  abgrToArgb := fun p => p
  nv21ToArgb := fun y v u c => [y, v, u].getD c 255
  i422ToArgb := fun y u v c => [y, v, u].getD c 255
  argbBlend := fun p _ => p
  argbToRgb24 := fun p c => p c.castSucc

theorem pixel_one {p q : Pixel 1} (same : p 0 = q 0) : p = q := by
  funext c
  rw [Subsingleton.elim c 0]
  exact same

theorem pixel_two {p q : Pixel 2} (first : p 0 = q 0) (second : p 1 = q 1) : p = q := by
  funext c
  match c with
  | 0 => exact first
  | 1 => exact second

theorem pixel_three {p q : Pixel 3} (first : p 0 = q 0) (second : p 1 = q 1)
    (third : p 2 = q 2) : p = q := by
  funext c
  match c with
  | 0 => exact first
  | 1 => exact second
  | 2 => exact third

theorem argbAt_plain (column : (x : Int) < f.width) (row : (y : Int) < f.height)
    (same : argbAt plainPixels (withPlanes planes f) x y = argbAt plainPixels f x y) :
    ∀ p ∈ placesAt f x y, byteAt (withPlanes planes f) p = byteAt f p := by
  have luma {n : Nat} {x y : Nat} (agree : pixelOf n (withPlanes planes f).plane0 x y =
      pixelOf n f.plane0 x y) : ∀ p ∈ samples false n f.plane0.stride x y,
      byteAt (withPlanes planes f) p = byteAt f p := by
    intro p member
    obtain ⟨c, below, rfl⟩ := List.mem_map.mp member
    exact congrFun agree ⟨c, List.mem_range.mp below⟩
  have chroma {n : Nat} {x y : Nat} (agree : pixelOf n (withPlanes planes f).plane1 x y =
      pixelOf n f.plane1 x y) : ∀ p ∈ samples true n f.plane1.stride x y,
      byteAt (withPlanes planes f) p = byteAt f p := by
    intro p member
    obtain ⟨c, below, rfl⟩ := List.mem_map.mp member
    exact congrFun agree ⟨c, List.mem_range.mp below⟩
  have inside : (x : Int) < f.width ∧ (y : Int) < f.height := ⟨column, row⟩
  have width : (withPlanes planes f).width = f.width := rfl
  have height : (withPlanes planes f).height = f.height := rfl
  have format' : (withPlanes planes f).pixelFormat = f.pixelFormat := rfl
  unfold placesAt
  cases format : f.pixelFormat with
  | rgb =>
    rw [format] at format'
    simp only [argbAt, width, height, format', format, if_pos inside, plainPixels] at same
    have bytes := Option.some.inj same
    exact luma (pixel_three (congrFun bytes 0) (congrFun bytes 1) (congrFun bytes 2))
  | abgr =>
    rw [format] at format'
    simp only [argbAt, width, height, format', format, if_pos inside, plainPixels] at same
    exact luma (Option.some.inj same)
  | yuv420SemiPlanar =>
    rw [format] at format'
    simp only [argbAt, width, height, format', format, if_pos inside, plainPixels] at same
    have bytes := Option.some.inj same
    exact List.forall_mem_append.mpr ⟨luma (pixel_one (congrFun bytes 0)),
      chroma (pixel_two (congrFun bytes 1) (congrFun bytes 2))⟩
  | yuv422SemiPlanar =>
    rw [format] at format'
    simp only [argbAt, width, height, format', format, if_pos inside, plainPixels] at same
    have bytes := Option.some.inj same
    exact List.forall_mem_append.mpr ⟨luma (pixel_one (congrFun bytes 0)),
      chroma (pixel_two (congrFun bytes 1) (congrFun bytes 2))⟩
  | _ => exact List.forall_mem_nil _

end Samples

section Images

variable {n : Nat} {f : FrameInfo Memory}

theorem converted_same {yuv : Libyuv} {this this' : Converter} {planes : Bool → Memory}
    {r r' : Conversion} (supported : Supported f.pixelFormat) (someColumn : 0 < f.width)
    (someRow : 0 < f.height) (ran : converterRun yuv this f blankFrame .argb = .ok r)
    (ran' : converterRun yuv this' (withPlanes planes f) blankFrame .argb = .ok r') :
    r'.output.plane0.buffer.Same r.output.plane0.buffer ↔ ∀ x y : Nat, (x : Int) < f.width →
      (y : Int) < f.height → argbAt yuv (withPlanes planes f) x y = argbAt yuv f x y := by
  obtain ⟨-, shown⟩ := converterRun_converted supported someColumn someRow ran
  obtain ⟨-, shown'⟩ : r'.ret = 0 ∧ Converted yuv (withPlanes planes f) r'.output :=
    converterRun_converted supported someColumn someRow ran'
  obtain ⟨w, width⟩ := Int.eq_ofNat_of_zero_le someColumn.le
  obtain ⟨h, height⟩ := Int.eq_ofNat_of_zero_le someRow.le
  have size : r.output.plane0.buffer.size = 4 * (w * h) := by
    have := shown.size
    rw [width, height] at this
    exact_mod_cast this
  have size' : r'.output.plane0.buffer.size = 4 * (w * h) := by
    have := shown'.size
    change (_ : Int) = 4 * (f.width * f.height) at this
    rw [width, height] at this
    exact_mod_cast this
  constructor
  · intro same x y column row
    have held : r'.output.plane0.buffer.Holds 4 (y * (4 * f.width) + 4 * x) := by
      have rows : ∀ y < h, ∀ x < w, r'.output.plane0.buffer.Holds 4 (y * (4 * w) + 4 * x) :=
        packed_rows_held (by rw [size']; push_cast; ring)
      rw [width]
      exact rows y (by omega) x (by omega)
    rw [shown'.shows x y column row, shown.shows x y column row]
    exact congrArg some (same.pixelAt held)
  · intro same
    refine Block.same_of_pixels (by decide) size' size fun k inside => ?_
    have someWidth : 0 < w := by omega
    have row : k / w < h := Nat.div_lt_of_lt_mul inside
    have column : k % w < w := Nat.mod_lt k someWidth
    have place : ((k / w : Nat) * (4 * f.width) + 4 * (k % w : Nat) : Int) = (4 * k : Nat) := by
      have parts : (k / w) * (4 * w) + 4 * (k % w) = 4 * k := by
        calc (k / w) * (4 * w) + 4 * (k % w) = 4 * (w * (k / w) + k % w) := by ring
          _ = 4 * k := by rw [Nat.div_add_mod]
      rw [width]
      exact_mod_cast parts
    have here := same (k % w) (k / w) (by omega) (by omega)
    rw [shown'.shows _ _ (by exact (by omega : ((k % w : Nat) : Int) < f.width))
      (by exact (by omega : ((k / w : Nat) : Int) < f.height)),
      shown.shows _ _ (by omega) (by omega)] at here
    have pixels := Option.some.inj here
    change r'.output.plane0.buffer.pixelAt 4 ((k / w : Nat) * (4 * f.width) + 4 * (k % w : Nat)) =
      r.output.plane0.buffer.pixelAt 4 ((k / w : Nat) * (4 * f.width) + 4 * (k % w : Nat)) at pixels
    rw [place] at pixels
    exact pixels

def otherByte (b : UInt8) : UInt8 := if b = 0 then 1 else 0

theorem otherByte_ne (b : UInt8) : otherByte b ≠ b := by
  unfold otherByte
  split
  · next zero =>
    rw [zero]
    decide
  · next other => exact Ne.symm other

theorem readsOnly_iff (supported : Supported f.pixelFormat) (someColumn : 0 < f.width)
    (someRow : 0 < f.height) (fits : Fits f) : ReadsOnly n f ↔ SampledWithin n f := by
  constructor
  · intro only x y column row p sampled
    by_contra outside
    -- the same frame with that one byte changed shows another pixel
    let planes : Bool → Memory := fun chroma i =>
      if chroma = p.chroma ∧ i = p.index then otherByte (byteAt f p) else planeOf chroma f i
    have agree : ∀ chroma, ∀ i : Int, 0 ≤ i → i < n → planes chroma i = planeOf chroma f i := by
      intro chroma i low high
      refine if_neg ?_
      rintro ⟨_, rfl⟩
      exact outside ⟨low, high⟩
    obtain ⟨r, ran⟩ : ∃ r, converterRun plainPixels converterInit f blankFrame .argb = .ok r :=
      converterRun_runs supported someColumn someRow fits
    obtain ⟨r', ran'⟩ : ∃ r, converterRun plainPixels converterInit (withPlanes planes f)
        blankFrame .argb = .ok r :=
      converterRun_runs supported someColumn someRow fits
    have same := only plainPixels converterInit converterInit planes r r' agree ran ran'
    have pixel := (converted_same supported someColumn someRow ran ran').mp same x y column row
    have kept := argbAt_plain column row pixel p sampled
    have changed : byteAt (withPlanes planes f) p = otherByte (byteAt f p) := by
      rw [byteAt_withPlanes]
      exact if_pos ⟨rfl, rfl⟩
    exact otherByte_ne _ (changed.symm.trans kept)
  · intro within yuv this this' planes r r' agree ran ran'
    refine (converted_same supported someColumn someRow ran ran').mpr fun x y column row =>
      argbAt_congr yuv fun p sampled => ?_
    obtain ⟨low, high⟩ := within x y column row p sampled
    rw [byteAt_withPlanes]
    exact agree p.chroma p.index low high

end Images

end HyperionWebos.MappedReads
