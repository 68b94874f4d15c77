import HyperionWebos.ByteBlocks
import HyperionWebos.ByteReads

/-! NUL-terminated strings in blocks. A write faults when its bytes do not fit, and reading
a string back faults when no NUL comes before the end of its block. -/

namespace HyperionWebos.CStrings
open ByteBlocks ByteReads ByteReads.Reads Runs

def calloc (size : Nat) : Block := ⟨size, fun _ => 0⟩

/-- Bytes to the start of a block, the rest of it as it was. -/
def write (b : Block) (bytes : List UInt8) : Except Fault Block :=
  if bytes.length ≤ b.size then .ok { b with bytes := fun i => bytes[i]?.getD (b.bytes i) }
  else .error (.outside b.size b.size)

/-- `strcpy` and `sprintf`: the text and its NUL. -/
def writeString (b : Block) (text : List UInt8) : Except Fault Block := write b (text ++ [0])

def memory (b : Block) (i : Int) : UInt8 := b.bytes i.toNat

def scan (b : Block) : Reads (List UInt8) := cstring 0 (b.size + 1)

instance {α : Type} (n : Nat) (m : Int → UInt8) (r : Reads α) : Decidable (Within n m r) :=
  inferInstanceAs (Decidable (∀ i ∈ r.touched m, 0 ≤ i ∧ i < n))

def readString (b : Block) : Except Fault (List UInt8) :=
  if Within b.size (memory b) (scan b) then .ok ((scan b).run (memory b))
  else .error (.outside b.size b.size)

variable {b b' : Block} {bytes text : List UInt8}

theorem write_eq_ok : write b bytes = .ok b' ↔
    bytes.length ≤ b.size ∧ { b with bytes := fun i => bytes[i]?.getD (b.bytes i) } = b' := by
  unfold write
  split_ifs with fits <;> simp [fits]

theorem writeString_runs_iff : (∃ b', writeString b text = .ok b') ↔ text.length < b.size := by
  unfold writeString
  simp only [write_eq_ok, List.length_append, List.length_singleton]
  exact ⟨fun ⟨_, fits, _⟩ => fits, fun fits => ⟨_, fits, rfl⟩⟩

theorem writeString_calloc_iff {n : Nat} :
    (∃ b', writeString (calloc n) text = .ok b') ↔ text.length < n :=
  writeString_runs_iff

theorem readString_runs_iff :
    (∃ text, readString b = .ok text) ↔ ∃ i < b.size, b.bytes i = 0 := by
  have ends : Within b.size (memory b) (scan b) ↔ ∃ i < b.size, b.bytes i = 0 := by
    refine (within_cstring (Int.le_refl 0) (by omega)).trans ⟨?_, ?_⟩
    · rintro ⟨k, low, high, zero⟩
      exact ⟨k.toNat, by omega, zero⟩
    · rintro ⟨i, inside, zero⟩
      exact ⟨i, by omega, by omega, zero⟩
  rw [← ends]
  unfold readString
  split_ifs with within <;> simp [within]

theorem readString_written_iff {n : Nat} (written : write (calloc n) bytes = .ok b) :
    (∃ text, readString b = .ok text) ↔ bytes.length < n ∨ 0 ∈ bytes := by
  obtain ⟨fits, rfl⟩ := write_eq_ok.mp written
  rw [readString_runs_iff]
  simp only [calloc] at fits ⊢
  constructor
  · rintro ⟨i, inside, zero⟩
    by_cases past : bytes.length ≤ i
    · exact .inl (by omega)
    · rw [List.getElem?_eq_getElem (by omega), Option.getD_some] at zero
      exact .inr (zero ▸ List.getElem_mem _)
  · rintro (short | member)
    · exact ⟨bytes.length, short, by simp⟩
    · obtain ⟨i, inside, zero⟩ := List.getElem_of_mem member
      exact ⟨i, by omega, by rw [List.getElem?_eq_getElem inside, Option.getD_some, zero]⟩

theorem written_bytes {n : Nat} (written : write (calloc n) bytes = .ok b) :
    (List.range bytes.length).map (fun k : Nat => memory b (0 + (k : Int))) = bytes := by
  obtain ⟨-, rfl⟩ := write_eq_ok.mp written
  refine List.ext_getElem (by simp) fun k inside _ => ?_
  rw [List.length_map, List.length_range] at inside
  simp [memory, inside]

theorem readString_written {n : Nat} (written : write (calloc n) bytes = .ok b)
    (read : readString b = .ok text) : text = bytes.takeWhile (· ≠ 0) := by
  have same := written_bytes written
  obtain ⟨fits, rfl⟩ := write_eq_ok.mp written
  have past : memory { calloc n with bytes := fun i => bytes[i]?.getD ((calloc n).bytes i) }
      (0 + bytes.length) = 0 := by simp [memory, calloc]
  unfold readString at read
  split_ifs at read
  cases read
  rw [scan, run_cstring (Nat.lt_succ_of_le fits) past, same]

end HyperionWebos.CStrings
