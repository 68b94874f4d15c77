import HyperionWebos.Runs
import Mathlib.Data.List.Nodup
import Mathlib.Data.List.ProdSigma
import Mathlib.Tactic.Linarith
import Mathlib.Tactic.Positivity
import Mathlib.Tactic.Ring
import Mathlib.Tactic.SplitIfs

/-! Heap blocks of known size and the row by row loops that fill them. A load or a store
takes the bytes of one pixel at a byte offset and faults when they do not lie in the block.
A loop that draws an image runs exactly when every pixel it reads is there and every row
it writes lies in the block, and then the block shows that image. -/

namespace HyperionWebos.ByteBlocks
open Runs

/-- The result of an `int` operation, in 32 bits. -/
def wrap (n : Int) : Int := n.bmod 4294967296

theorem wrap_of_small {n : Int} (low : 0 ≤ n) (high : n < 2147483648) : wrap n = n :=
  Int.bmod_eq_of_le (by omega) (by omega)

theorem wrap_lt (n : Int) : wrap n < 2147483648 := Int.bmod_lt (by decide)

theorem wrap_eq (n : Int) : wrap n = n - 4294967296 * ((n + 2147483648) / 4294967296) := by
  unfold wrap
  rw [Int.bmod_def]
  split <;> omega

theorem wrap_wrap_add (m n : Int) : wrap (wrap m + n) = wrap (m + n) := Int.bmod_add_bmod

attribute [irreducible] wrap

inductive Fault where
  | negativeSize (size : Int)
  | outside (offset : Int) (size : Nat)
deriving DecidableEq, Repr

abbrev Pixel (n : Nat) := Fin n → UInt8

def byte {n : Nat} (p : Pixel n) (c : Nat) : UInt8 := if h : c < n then p ⟨c, h⟩ else 0

/-- The bytes past `size` are the ones a later `realloc` may bring to light. -/
structure Block where
  size : Nat
  bytes : Nat → UInt8

namespace Block

def Holds (b : Block) (n : Nat) (o : Int) : Prop := 0 ≤ o ∧ o + n ≤ b.size

instance (b : Block) (n : Nat) (o : Int) : Decidable (b.Holds n o) :=
  inferInstanceAs (Decidable (_ ∧ _))

def pixelAt (b : Block) (n : Nat) (o : Int) : Pixel n := fun c => b.bytes (o.toNat + c)

def load (b : Block) (n : Nat) (o : Int) : Except Fault (Pixel n) :=
  if b.Holds n o then .ok (b.pixelAt n o) else .error (.outside o b.size)

def store {n : Nat} (b : Block) (o : Int) (p : Pixel n) : Except Fault Block :=
  if b.Holds n o then
    .ok { b with
      bytes := fun a => if h : o.toNat ≤ a ∧ a - o.toNat < n then p ⟨_, h.2⟩ else b.bytes a }
  else .error (.outside o b.size)

/-- A negative `int` becomes a `size_t` of at least half the address space. -/
def realloc (b : Block) (size : Int) : Except Fault Block :=
  if 0 ≤ size then .ok { b with size := size.toNat } else .error (.negativeSize size)

variable {n : Nat} {b b' : Block} {o o' : Int} {p q : Pixel n} {size : Int}

theorem load_eq_ok : b.load n o = .ok p ↔ b.Holds n o ∧ b.pixelAt n o = p := by
  unfold load
  split_ifs with holds <;> simp [holds]

theorem load_of_holds (holds : b.Holds n o) : b.load n o = .ok (b.pixelAt n o) :=
  load_eq_ok.mpr ⟨holds, rfl⟩

theorem realloc_eq_ok :
    b.realloc size = .ok b' ↔ 0 ≤ size ∧ { b with size := size.toNat } = b' := by
  unfold realloc
  split_ifs with positive <;> simp [positive]

theorem realloc_size (granted : b.realloc size = .ok b') : (b'.size : Int) = size := by
  obtain ⟨positive, rfl⟩ := realloc_eq_ok.mp granted
  exact Int.toNat_of_nonneg positive

theorem realloc_of_nonneg (b : Block) (positive : 0 ≤ size) : ∃ b', b.realloc size = .ok b' :=
  ⟨_, realloc_eq_ok.mpr ⟨positive, rfl⟩⟩

theorem store_holds (stored : b.store o p = .ok b') : b.Holds n o := by
  unfold store at stored
  split_ifs at stored with holds
  exact holds

theorem store_of_holds (p : Pixel n) (holds : b.Holds n o) : ∃ b', b.store o p = .ok b' :=
  ⟨_, if_pos holds⟩

theorem store_size (stored : b.store o p = .ok b') : b'.size = b.size := by
  unfold store at stored
  split_ifs at stored
  cases stored
  rfl

theorem store_pixelAt (stored : b.store o p = .ok b') : b'.pixelAt n o = p := by
  unfold store at stored
  split_ifs at stored
  cases stored
  funext c
  simp [pixelAt]

theorem store_pixelAt_of_apart {m : Nat} (stored : b.store o p = .ok b') (here : 0 ≤ o')
    (apart : o' + m ≤ o ∨ o + n ≤ o') : b'.pixelAt m o' = b.pixelAt m o' := by
  have holds := store_holds stored
  unfold store at stored
  split_ifs at stored
  cases stored
  funext c
  have outside : ¬ (o.toNat ≤ o'.toNat + c ∧ o'.toNat + c - o.toNat < n) := by
    have := c.isLt
    have := holds.1
    omega
  exact dif_neg outside

end Block

section Loops

variable {n : Nat}

def storeAll (b : Block) (cells : List (Int × Except Fault (Pixel n))) : Except Fault Block :=
  cells.foldlM (fun b cell => do b.store cell.1 (← cell.2)) b

theorem storeAll_cons {b b' : Block} {cell : Int × Except Fault (Pixel n)}
    {cells : List (Int × Except Fault (Pixel n))} :
    storeAll b (cell :: cells) = .ok b' ↔
      ∃ b₁, (∃ p, cell.2 = .ok p ∧ b.store cell.1 p = .ok b₁) ∧ storeAll b₁ cells = .ok b' := by
  simp only [storeAll, List.foldlM_cons, bind_eq_ok]

theorem storeAll_size {b b' : Block} {cells : List (Int × Except Fault (Pixel n))}
    (ran : storeAll b cells = .ok b') : b'.size = b.size := by
  induction cells generalizing b with
  | nil => cases ran; rfl
  | cons cell cells ih =>
    obtain ⟨b₁, ⟨p, -, stored⟩, rest⟩ := storeAll_cons.mp ran
    rw [ih rest, Block.store_size stored]

theorem storeAll_runs_iff {b : Block} {cells : List (Int × Except Fault (Pixel n))} :
    (∃ b', storeAll b cells = .ok b') ↔
      ∀ cell ∈ cells, b.Holds n cell.1 ∧ ∃ p, cell.2 = .ok p := by
  induction cells generalizing b with
  | nil => exact ⟨fun _ _ none => absurd none (List.not_mem_nil), fun _ => ⟨b, rfl⟩⟩
  | cons cell cells ih =>
    rw [List.forall_mem_cons]
    constructor
    · rintro ⟨b', ran⟩
      obtain ⟨b₁, ⟨p, read, stored⟩, rest⟩ := storeAll_cons.mp ran
      refine ⟨⟨Block.store_holds stored, p, read⟩, ?_⟩
      have later := ih.mp ⟨b', rest⟩
      unfold Block.Holds at later ⊢
      rwa [Block.store_size stored] at later
    · rintro ⟨⟨holds, p, read⟩, later⟩
      obtain ⟨b₁, stored⟩ := Block.store_of_holds p holds
      unfold Block.Holds at later
      rw [← Block.store_size stored] at later
      obtain ⟨b', rest⟩ := ih.mpr later
      exact ⟨b', storeAll_cons.mpr ⟨b₁, ⟨p, read, stored⟩, rest⟩⟩

theorem storeAll_pixelAt_of_apart {b b' : Block} {o : Int} {m : Nat}
    {cells : List (Int × Except Fault (Pixel n))} (ran : storeAll b cells = .ok b')
    (here : 0 ≤ o) (apart : ∀ cell ∈ cells, o + m ≤ cell.1 ∨ cell.1 + n ≤ o) :
    b'.pixelAt m o = b.pixelAt m o := by
  induction cells generalizing b with
  | nil => cases ran; rfl
  | cons cell cells ih =>
    obtain ⟨b₁, ⟨p, -, stored⟩, rest⟩ := storeAll_cons.mp ran
    rw [List.forall_mem_cons] at apart
    rw [ih rest apart.2, Block.store_pixelAt_of_apart stored here apart.1]

theorem storeAll_pixelAt {b b' : Block} {cells : List (Int × Except Fault (Pixel n))}
    (ran : storeAll b cells = .ok b')
    (apart : cells.Pairwise fun (c d : Int × Except Fault (Pixel n)) =>
      c.1 + n ≤ d.1 ∨ d.1 + n ≤ c.1)
    {cell : Int × Except Fault (Pixel n)} (mem : cell ∈ cells) :
    cell.2 = .ok (b'.pixelAt n cell.1) := by
  induction cells generalizing b with
  | nil => exact absurd mem List.not_mem_nil
  | cons first cells ih =>
    obtain ⟨b₁, ⟨p, read, stored⟩, rest⟩ := storeAll_cons.mp ran
    obtain ⟨beside, apart⟩ := List.pairwise_cons.mp apart
    rcases List.mem_cons.mp mem with rfl | mem
    · rw [storeAll_pixelAt_of_apart rest (Block.store_holds stored).1 beside,
        Block.store_pixelAt stored, read]
    · exact ih rest apart mem

/-- The pixels of an image, row by row, and where they go. -/
def cells (stride : Int) (width height : Nat) (pixel : Nat → Nat → Except Fault (Pixel n)) :
    List (Int × Except Fault (Pixel n)) :=
  (List.range height ×ˢ List.range width).map fun (y, x) => (y * stride + n * x, pixel x y)

def draw (b : Block) (stride : Int) (width height : Nat)
    (pixel : Nat → Nat → Except Fault (Pixel n)) : Except Fault Block :=
  storeAll b (cells stride width height pixel)

variable {stride : Int} {width height x y : Nat} {pixel : Nat → Nat → Except Fault (Pixel n)}

theorem mem_cells {cell : Int × Except Fault (Pixel n)} :
    cell ∈ cells stride width height pixel ↔
      ∃ y < height, ∃ x < width, (y * stride + n * x, pixel x y) = cell := by
  unfold cells
  rw [List.mem_map]
  constructor
  · rintro ⟨⟨y, x⟩, mem, same⟩
    have here := List.mem_product.mp mem
    exact ⟨y, List.mem_range.mp here.1, x, List.mem_range.mp here.2, same⟩
  · rintro ⟨y, row, x, column, same⟩
    exact ⟨(y, x), List.mem_product.mpr ⟨List.mem_range.mpr row, List.mem_range.mpr column⟩, same⟩

theorem column_end {x : Nat} (column : x < width) : (n * x + n : Int) ≤ n * width := by
  exact_mod_cast Nat.mul_le_mul_left n column

theorem row_end {y y' : Nat} (positive : 0 ≤ stride) (below : y < y') :
    (y * stride + stride : Int) ≤ y' * stride := by
  have next : ((y : Int) + 1) * stride ≤ y' * stride :=
    mul_le_mul_of_nonneg_right (by omega) positive
  linarith

theorem cells_apart (fits : (n * width : Int) ≤ stride) :
    (cells stride width height pixel).Pairwise fun (c d : Int × Except Fault (Pixel n)) =>
      c.1 + n ≤ d.1 ∨ d.1 + n ≤ c.1 := by
  have below : ∀ {x y x' y' : Nat}, x < width → y < y' →
      (y * stride + n * x : Int) + n ≤ y' * stride + n * x' := by
    intro x y x' y' column next
    have := column_end (n := n) column
    have positive : 0 ≤ stride := le_trans (by positivity) fits
    have := row_end positive next
    have : (0 : Int) ≤ n * x' := by positivity
    linarith
  refine List.pairwise_map.mpr (List.Nodup.pairwise_of_forall_ne
    (List.nodup_range.product List.nodup_range) ?_)
  rintro ⟨y, x⟩ mem ⟨y', x'⟩ mem' distinct
  have column := List.mem_range.mp (List.mem_product.mp mem).2
  have column' := List.mem_range.mp (List.mem_product.mp mem').2
  rcases Nat.lt_trichotomy y y' with above | same | above
  · exact .inl (below column above)
  · subst same
    rcases Nat.lt_trichotomy x x' with before | same | before
    · have := column_end (n := n) before
      exact .inl (by linarith)
    · exact absurd (by rw [same]) distinct
    · have := column_end (n := n) before
      exact .inr (by linarith)
  · exact .inr (below column' above)

theorem draw_size {b b' : Block} (drawn : draw b stride width height pixel = .ok b') :
    b'.size = b.size :=
  storeAll_size drawn

theorem draw_runs_iff {b : Block} :
    (∃ b', draw b stride width height pixel = .ok b') ↔
      ∀ y < height, ∀ x < width, b.Holds n (y * stride + n * x) ∧ ∃ p, pixel x y = .ok p := by
  unfold draw
  rw [storeAll_runs_iff]
  constructor
  · intro runs y row x column
    exact runs _ (mem_cells.mpr ⟨y, row, x, column, rfl⟩)
  · intro runs cell mem
    obtain ⟨y, row, x, column, rfl⟩ := mem_cells.mp mem
    exact runs y row x column

theorem draw_pixelAt {b b' : Block} (drawn : draw b stride width height pixel = .ok b')
    (fits : (n * width : Int) ≤ stride) (column : x < width) (row : y < height) :
    pixel x y = .ok (b'.pixelAt n (y * stride + n * x)) :=
  storeAll_pixelAt drawn (cells_apart fits) (mem_cells.mpr ⟨y, row, x, column, rfl⟩)

theorem rows_held_iff {b : Block} (positive : 0 ≤ stride) (someColumn : 0 < width)
    (someRow : 0 < height) :
    (∀ y < height, ∀ x < width, b.Holds n (y * stride + n * x)) ↔
      (height - 1 : Int) * stride + n * width ≤ b.size := by
  constructor
  · intro held
    have last := (held (height - 1) (by omega) (width - 1) (by omega)).2
    have rowBefore : ((height - 1 : Nat) : Int) = height - 1 := by omega
    have columnBefore : ((width - 1 : Nat) : Int) = width - 1 := by omega
    rw [rowBefore, columnBefore] at last
    linarith
  · intro fits y row x column
    have start : (0 : Int) ≤ n * x := by positivity
    have := column_end (n := n) column
    have above : (y : Int) * stride ≤ (height - 1) * stride :=
      mul_le_mul_of_nonneg_right (by omega) positive
    exact ⟨by positivity, by linarith⟩

theorem draw_load {b b' : Block} (drawn : draw b stride width height pixel = .ok b')
    (fits : (n * width : Int) ≤ stride) (column : x < width) (row : y < height) :
    b'.load n (y * stride + n * x) = pixel x y := by
  have holds := (draw_runs_iff.mp ⟨b', drawn⟩ y row x column).1
  unfold Block.Holds at holds
  rw [← draw_size drawn] at holds
  rw [Block.load_of_holds holds, draw_pixelAt drawn fits column row]

theorem packed_rows_held_iff {b : Block} {w h : Nat} (someByte : 0 < n) (someColumn : 0 < w)
    (someRow : 0 < h) (size : (b.size : Int) = n * (width * height)) :
    (∀ y < h, ∀ x < w, b.Holds n (y * (n * width) + n * x)) ↔
      (h - 1 : Int) * width + w ≤ width * height := by
  rw [rows_held_iff (by positivity) someColumn someRow, size]
  have whole : (h - 1 : Int) * (n * width) + n * w = n * ((h - 1) * width + w) := by ring
  rw [whole]
  exact ⟨fun le => Int.le_of_mul_le_mul_left le (by omega),
    fun le => Int.mul_le_mul_of_nonneg_left le (by omega)⟩

theorem packed_rows_held {b : Block} (size : (b.size : Int) = n * (width * height)) (y : Nat)
    (row : y < height) (x : Nat) (column : x < width) :
    b.Holds n (y * (n * width) + n * x) := by
  cases n with
  | zero => exact ⟨by positivity, by simp⟩
  | succ n =>
    exact (packed_rows_held_iff (Nat.succ_pos n) (by omega) (by omega) size).mpr
      (le_of_eq (by ring)) y row x column

end Loops

/-! ### Reads past the end -/

section Overreads

variable {n : Nat} {stride : Int} {width height x y : Nat} {b b' : Block}
  {pixel : Nat → Nat → Except Fault (Pixel n)} {whatever : Nat → Nat → Pixel n}

/-- A pixel that takes a read outside its block is `whatever` was there. -/
def settle (whatever : Nat → Nat → Pixel n) (pixel : Nat → Nat → Except Fault (Pixel n))
    (x y : Nat) : Except Fault (Pixel n) :=
  match pixel x y with
  | .ok p => .ok p
  | .error _ => .ok (whatever x y)

theorem settle_of_ok {p : Pixel n} (read : pixel x y = .ok p) :
    settle whatever pixel x y = .ok p := by
  unfold settle
  rw [read]

theorem settle_runs (x y : Nat) : ∃ p, settle whatever pixel x y = .ok p := by
  unfold settle
  split
  · exact ⟨_, rfl⟩
  · exact ⟨_, rfl⟩

theorem draw_congr {pixel' : Nat → Nat → Except Fault (Pixel n)}
    (agree : ∀ y < height, ∀ x < width, pixel x y = pixel' x y) :
    draw b stride width height pixel = draw b stride width height pixel' := by
  unfold draw cells
  refine congrArg (storeAll b) (List.map_congr_left ?_)
  rintro ⟨y, x⟩ mem
  have here := List.mem_product.mp mem
  dsimp only
  rw [agree y (List.mem_range.mp here.1) x (List.mem_range.mp here.2)]

theorem draw_settle (drawn : draw b stride width height pixel = .ok b') :
    draw b stride width height (settle whatever pixel) = .ok b' := by
  rw [← drawn]
  refine draw_congr fun y row x column => ?_
  obtain ⟨-, p, read⟩ := draw_runs_iff.mp ⟨b', drawn⟩ y row x column
  rw [settle_of_ok read, read]

end Overreads

/-! ### Blocks that show the same -/

namespace Block

structure Same (b₁ b₂ : Block) : Prop where
  size : b₁.size = b₂.size
  bytes : ∀ i < b₁.size, b₁.bytes i = b₂.bytes i

variable {b₁ b₂ b₃ : Block}

theorem Same.refl (b : Block) : b.Same b := ⟨rfl, fun _ _ => rfl⟩

theorem Same.symm (same : b₁.Same b₂) : b₂.Same b₁ :=
  ⟨same.size.symm, fun i inside => (same.bytes i (same.size ▸ inside)).symm⟩

theorem Same.trans (first : b₁.Same b₂) (second : b₂.Same b₃) : b₁.Same b₃ :=
  ⟨first.size.trans second.size, fun i inside =>
    (first.bytes i inside).trans (second.bytes i (first.size ▸ inside))⟩

theorem Same.pixelAt {n : Nat} {o : Int} (same : b₁.Same b₂) (holds : b₁.Holds n o) :
    b₁.pixelAt n o = b₂.pixelAt n o := by
  funext c
  have := c.isLt
  have := holds.1
  have := holds.2
  exact same.bytes _ (by omega)

theorem Same.load (same : b₁.Same b₂) (n : Nat) (o : Int) : b₁.load n o = b₂.load n o := by
  by_cases holds : b₁.Holds n o
  · have holds' : b₂.Holds n o := ⟨holds.1, same.size ▸ holds.2⟩
    rw [load_of_holds holds, load_of_holds holds', same.pixelAt holds]
  · have holds' : ¬ b₂.Holds n o := fun held => holds ⟨held.1, same.size ▸ held.2⟩
    unfold Block.load
    rw [if_neg holds, if_neg holds', same.size]

theorem bytes_of_pixel {n : Nat} (someByte : 0 < n) {i : Nat}
    (agree : b₁.pixelAt n (n * (i / n) : Nat) = b₂.pixelAt n (n * (i / n) : Nat)) :
    b₁.bytes i = b₂.bytes i := by
  have here := congrFun agree ⟨i % n, Nat.mod_lt i someByte⟩
  unfold Block.pixelAt at here
  rwa [Int.toNat_natCast, Nat.div_add_mod] at here

theorem same_of_pixels {n pixels : Nat} (someByte : 0 < n) (size₁ : b₁.size = n * pixels)
    (size₂ : b₂.size = n * pixels)
    (agree : ∀ k < pixels, b₁.pixelAt n (n * k : Nat) = b₂.pixelAt n (n * k : Nat)) :
    b₁.Same b₂ := by
  refine ⟨size₁.trans size₂.symm, fun i inside => ?_⟩
  rw [size₁] at inside
  exact bytes_of_pixel someByte (agree (i / n) (Nat.div_lt_of_lt_mul inside))

theorem eq_of_pixels {n : Nat} (someByte : 0 < n) (size : b₁.size = b₂.size)
    (agree : ∀ k : Nat, b₁.pixelAt n (n * k : Nat) = b₂.pixelAt n (n * k : Nat)) : b₁ = b₂ := by
  obtain ⟨size₁, bytes₁⟩ := b₁
  obtain ⟨size₂, bytes₂⟩ := b₂
  have bytes : bytes₁ = bytes₂ := funext fun i => bytes_of_pixel someByte (agree (i / n))
  obtain rfl : size₁ = size₂ := size
  rw [bytes]

end Block

section Packed

variable {n width height : Nat} {stride : Int} {b b₁ b₂ c₁ c₂ : Block}
  {pixel pixel₁ pixel₂ : Nat → Nat → Except Fault (Pixel n)}

/-- The stride of a packed image, which does not matter where there is no row. -/
def PackedStride (n width height : Nat) (stride : Int) : Prop := 0 < height → stride = n * width

theorem packed_draw (packed : PackedStride n width height stride)
    (size : (b.size : Int) = n * (width * height))
    (reads : ∀ y < height, ∀ x < width, ∃ p, pixel x y = .ok p) :
    ∃ b', draw b stride width height pixel = .ok b' := by
  refine draw_runs_iff.mpr fun y row x column => ⟨?_, reads y row x column⟩
  rw [packed (Nat.zero_lt_of_lt row)]
  exact packed_rows_held size y row x column

theorem packed_same (someByte : 0 < n) (packed : PackedStride n width height stride)
    (size₁ : (b₁.size : Int) = n * (width * height))
    (size₂ : (b₂.size : Int) = n * (width * height))
    (agree : ∀ y < height, ∀ x < width, pixel₁ x y = pixel₂ x y)
    (drawn₁ : draw b₁ stride width height pixel₁ = .ok c₁)
    (drawn₂ : draw b₂ stride width height pixel₂ = .ok c₂) : c₁.Same c₂ := by
  rw [← draw_size drawn₁] at size₁
  rw [← draw_size drawn₂] at size₂
  refine Block.same_of_pixels someByte (by exact_mod_cast size₁) (by exact_mod_cast size₂)
    fun k inside => ?_
  have row : k / width < height := Nat.div_lt_of_lt_mul inside
  have column : k % width < width := Nat.mod_lt k (by
    rcases Nat.eq_zero_or_pos width with none | some
    · rw [none, Nat.zero_mul] at inside
      omega
    · exact some)
  have place : ((k / width : Nat) * (n * width) + n * (k % width : Nat) : Int) = (n * k : Nat) := by
    have parts : (k / width) * (n * width) + n * (k % width) = n * k := by
      calc (k / width) * (n * width) + n * (k % width)
          = n * (width * (k / width) + k % width) := by ring
        _ = n * k := by rw [Nat.div_add_mod]
    exact_mod_cast parts
  rw [packed (Nat.zero_lt_of_lt row)] at drawn₁ drawn₂
  have shows₁ := draw_pixelAt drawn₁ le_rfl column row
  have shows₂ := draw_pixelAt drawn₂ le_rfl column row
  rw [agree _ row _ column, shows₂, place] at shows₁
  exact (Except.ok.inj shows₁).symm

theorem packed_shows {bytes : Int} (someByte : 0 < n) (packed : PackedStride n width height stride)
    (enough : bytes = n * (width * height))
    (reads : ∀ y < height, ∀ x < width, ∃ p, pixel x y = .ok p) :
    ∃ shown : Block, (shown.size : Int) = n * (width * height) ∧ ∀ b : Block,
      ∃ b₀ b', b.realloc bytes = .ok b₀ ∧ draw b₀ stride width height pixel = .ok b' ∧
        b'.Same shown := by
  have area : 0 ≤ (n : Int) * (width * height) := by positivity
  have drawn (b : Block) : ∃ b₀ b', b.realloc bytes = .ok b₀ ∧
      (b₀.size : Int) = n * (width * height) ∧ draw b₀ stride width height pixel = .ok b' := by
    obtain ⟨b₀, granted⟩ := Block.realloc_of_nonneg b (enough ▸ area)
    have size := (Block.realloc_size granted).trans enough
    obtain ⟨b', drawn⟩ := packed_draw packed size reads
    exact ⟨b₀, b', granted, size, drawn⟩
  obtain ⟨s₀, shown, -, size₀, drawn₀⟩ := drawn ⟨0, fun _ => 0⟩
  refine ⟨shown, by rw [draw_size drawn₀, size₀], fun b => ?_⟩
  obtain ⟨b₁, b', granted, size₁, drawn₁⟩ := drawn b
  exact ⟨b₁, b', granted, drawn₁,
    packed_same someByte packed size₁ size₀ (fun _ _ _ _ => rfl) drawn₁ drawn₀⟩

end Packed

end HyperionWebos.ByteBlocks
