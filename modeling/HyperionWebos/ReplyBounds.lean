import HyperionWebos.FlatReply

/-! Which replies are decoded from their own bytes. Every offset in a reply is the sender's
word; `InBounds` follows them as the reader does and asks each of them to stay among the
bytes received. Nothing in the code asks, so the other replies reach stale bytes. -/

namespace HyperionWebos.ReplyBounds
open ByteReads ByteReads.Reads HyperionClient FlatReply

/-- A message that fits into `recvBuff`. -/
structure Received where
  bytes : List UInt8
  fits : bytes.length < recvBuffSize

/-- Whatever `recvBuff` held before and whatever lies around it, decoding looks at received
bytes only, and what it makes of `_registered` depends on nothing else. -/
def DecodedFromReceived (received : Received) : Prop :=
  (∀ outside old, Within received.bytes.length
    (memory outside (received.bytes ++ old)) readReply) ∧
  ∃ change : Bool → Int → Bool, ∀ encode outside old (c : Client),
    c.recvBuff = received.bytes ++ old →
      (parseReply (flatCodec encode outside) c).registered = change c.registered c.priority

def u16At (m : Int → UInt8) (i : Int) : Nat := (m i).toNat + 256 * (m (i + 1)).toNat

def u32At (m : Int → UInt8) (i : Int) : Nat := u16At m i + 65536 * u16At m (i + 2)

def tableAt (m : Int → UInt8) : Int := u32At m 0

def vtableAt (m : Int → UInt8) : Int := tableAt m - int32 (u32At m (tableAt m))

def fieldOffset (m : Int → UInt8) (id : Nat) : Nat :=
  if u16At m (vtableAt m) ≥ 2 * (id + 3) then u16At m (vtableAt m + 2 * (id + 2)) else 0

structure HeaderInBounds (n : Nat) (m : Int → UInt8) : Prop where
  root : 4 ≤ n
  table : tableAt m + 4 ≤ n
  below : 0 ≤ vtableAt m
  above : vtableAt m + 2 ≤ n

def FieldInBounds (n : Nat) (m : Int → UInt8) (id : Nat) : Prop :=
  (u16At m (vtableAt m) ≥ 2 * (id + 3) → vtableAt m + 2 * (id + 2) + 2 ≤ n) ∧
  (fieldOffset m id ≠ 0 → tableAt m + fieldOffset m id + 4 ≤ n)

def errorAt (m : Int → UInt8) : Int :=
  tableAt m + fieldOffset m 0 + 4 + u32At m (tableAt m + fieldOffset m 0)

/-- All that the decoding of a reply visits lies in its first `n` bytes: an error's text with
its NUL, or else the two numbers. -/
def InBounds (n : Nat) (m : Int → UInt8) : Prop :=
  HeaderInBounds n m ∧ FieldInBounds n m 0 ∧
    if fieldOffset m 0 = 0 then FieldInBounds n m 1 ∧ FieldInBounds n m 2
    else ∃ k, errorAt m ≤ k ∧ k < n ∧ m k = 0

variable {n : Nat} {m : Int → UInt8}

theorem run_u16 (m : Int → UInt8) (i : Int) : (littleEndian i 2).run m = u16At m i := rfl

theorem run_u32 (m : Int → UInt8) (i : Int) : (littleEndian i 4).run m = u32At m i := by
  have shift : i + 1 + 1 = i + 2 := by omega
  change (m i).toNat + 256 * ((m (i + 1)).toNat + 256 * ((m (i + 1 + 1)).toNat +
    256 * ((m (i + 1 + 1 + 1)).toNat + 256 * 0))) = _
  rw [shift]
  unfold u32At u16At
  omega

theorem within_u16 {i : Int} : Within n m (littleEndian i 2) ↔ 0 ≤ i ∧ i + 2 ≤ n := by
  rw [within_littleEndian]
  rfl

theorem within_u32 {i : Int} : Within n m (littleEndian i 4) ↔ 0 ≤ i ∧ i + 4 ≤ n := by
  rw [within_littleEndian]
  rfl

theorem run_replyAsRoot (m : Int → UInt8) : replyAsRoot.run m = tableAt m := by
  unfold replyAsRoot
  rw [run_bind, run_u32]
  rfl

theorem run_readVt (m : Int → UInt8) (id : Nat) :
    (readVt id (tableAt m)).run m = fieldOffset m id := by
  have vtable : tableAt m - int32 (u32At m (tableAt m)) = vtableAt m := rfl
  unfold readVt fieldOffset
  rw [run_bind, run_u32, run_bind, vtable, run_u16]
  by_cases large : u16At m (vtableAt m) ≥ 2 * (id + 3)
  · rw [if_pos large, if_pos large, run_u16]
  · rw [if_neg large, if_neg large, run_pure]

theorem run_stringField (m : Int → UInt8) : (replyError (tableAt m)).run m =
    if fieldOffset m 0 = 0 then none else some (errorAt m) := by
  unfold replyError stringField
  rw [run_bind, run_readVt]
  by_cases absent : fieldOffset m 0 = 0
  · rw [if_neg (not_not.mpr absent), if_pos absent, run_pure]
  · rw [if_pos absent, if_neg absent, run_bind, run_u32]
    rfl

theorem tableAt_nonneg (m : Int → UInt8) : 0 ≤ tableAt m := Int.natCast_nonneg _

theorem within_readVt (id : Nat) (root : 4 ≤ n) : Within n m (readVt id (tableAt m)) ↔
    HeaderInBounds n m ∧
      (u16At m (vtableAt m) ≥ 2 * (id + 3) → vtableAt m + 2 * (id + 2) + 2 ≤ n) := by
  have vtable : tableAt m - int32 (u32At m (tableAt m)) = vtableAt m := rfl
  unfold readVt
  rw [within_bind, within_u32, run_u32, within_bind, within_u16, run_u16, vtable]
  constructor
  · rintro ⟨⟨_, table⟩, ⟨below, above⟩, slot⟩
    refine ⟨⟨root, table, below, above⟩, fun large => ?_⟩
    rw [if_pos large, within_u16] at slot
    exact slot.2
  · rintro ⟨⟨_, table, below, above⟩, slot⟩
    refine ⟨⟨tableAt_nonneg m, table⟩, ⟨below, above⟩, ?_⟩
    split
    · next large =>
      rw [within_u16]
      exact ⟨by omega, slot large⟩
    · exact within_pure n m 0

theorem within_scalarField (id : Nat) (default : Int) (root : 4 ≤ n) :
    Within n m (scalarField id default (tableAt m)) ↔
      HeaderInBounds n m ∧ FieldInBounds n m id := by
  unfold scalarField FieldInBounds
  rw [within_bind, within_readVt id root, run_readVt, and_assoc]
  refine and_congr_right fun _ => and_congr_right fun _ => ?_
  have low := tableAt_nonneg m
  split
  · next present =>
    rw [within_bind, within_u32]
    simp only [within_pure, and_true]
    constructor
    · rintro ⟨_, high⟩ _
      exact high
    · intro high
      exact ⟨by omega, high present⟩
  · next absent =>
    simp only [within_pure, true_iff]
    intro present
    exact absurd present absent

theorem within_stringField (root : 4 ≤ n) :
    Within n m (replyError (tableAt m)) ↔ HeaderInBounds n m ∧ FieldInBounds n m 0 := by
  unfold replyError stringField FieldInBounds
  rw [within_bind, within_readVt 0 root, run_readVt, and_assoc]
  refine and_congr_right fun _ => and_congr_right fun _ => ?_
  have low := tableAt_nonneg m
  split
  · next present =>
    rw [within_bind, within_u32]
    simp only [within_pure, and_true]
    constructor
    · rintro ⟨_, high⟩ _
      exact high
    · intro high
      exact ⟨by omega, high present⟩
  · next absent =>
    simp only [within_pure, true_iff]
    intro present
    exact absurd present absent

theorem within_warnString (fits : n < recvBuffSize) :
    Within n m (warnString (some (errorAt m))) ↔ ∃ k, errorAt m ≤ k ∧ k < n ∧ m k = 0 := by
  have low : 0 ≤ errorAt m := by
    have table := tableAt_nonneg m
    unfold errorAt
    omega
  have enough : (n : Int) < errorAt m + ((1023 : Nat) + 1) := by
    unfold recvBuffSize at fits
    omega
  unfold warnString
  rw [within_bind]
  simp only [within_pure, and_true]
  exact within_cstring low enough

theorem within_readReply (fits : n < recvBuffSize) :
    Within n m readReply ↔ InBounds n m := by
  by_cases root : 4 ≤ n
  · have rooted : Within n m replyAsRoot := by
      unfold replyAsRoot
      rw [within_bind, within_u32]
      exact ⟨⟨Int.le_refl 0, by omega⟩, within_pure n m _⟩
    unfold readReply InBounds
    rw [within_bind, run_replyAsRoot, within_bind, run_stringField, within_stringField root]
    simp only [rooted, true_and, and_assoc]
    refine and_congr_right fun header => and_congr_right fun error => ?_
    by_cases absent : fieldOffset m 0 = 0
    · rw [if_pos absent, if_pos absent, if_pos Option.isNone_none, within_bind, within_bind]
      simp only [replyVideo, replyRegistered, within_scalarField _ _ root, within_pure, and_true,
        header, true_and]
    · rw [if_neg absent, if_neg absent]
      simp only [Option.isNone_some, Bool.false_eq_true, if_false]
      rw [within_bind, within_bind, within_stringField root, run_stringField, if_neg absent,
        within_warnString fits]
      simp only [within_pure, and_true, header, error, true_and]
  · constructor
    · intro within
      unfold readReply replyAsRoot at within
      rw [within_bind, within_bind, within_u32] at within
      omega
    · rintro ⟨⟨root', _⟩, _⟩
      exact absurd root' root

def alone (received : Received) : Int → UInt8 := memory (fun _ => 0) received.bytes

theorem alone_agrees (received : Received) (outside : Int → UInt8) (old : List UInt8) {i : Int}
    (low : 0 ≤ i) (high : i < received.bytes.length) :
    alone received i = memory outside (received.bytes ++ old) i := by
  rw [memory_received old low high, alone, ← List.append_nil received.bytes,
    memory_received [] low high, List.append_nil]

section Decoding

variable {received : Received} (own : InBounds received.bytes.length (alone received))

include own

theorem own_reads (outside : Int → UInt8) (old : List UInt8) :
    Within received.bytes.length (memory outside (received.bytes ++ old)) readReply ∧
      readReply.run (memory outside (received.bytes ++ old)) = readReply.run (alone received) :=
  within_congr (fun _ low high => alone_agrees received outside old low high)
    ((within_readReply received.fits).mpr own)

theorem own_registered (encode : Request → Message) (outside : Int → UInt8) {old : List UInt8}
    {c : Client} (held : c.recvBuff = received.bytes ++ old) :
    (parseReply (flatCodec encode outside) c).registered =
      registeredBy (readReply.run (alone received)) c.registered c.priority := by
  rw [parseReply_registered, held, flatCodec_decode, (own_reads own outside old).2]

theorem decoded_of_own : DecodedFromReceived received :=
  ⟨fun outside old => (own_reads own outside old).1,
    registeredBy (readReply.run (alone received)),
    fun encode outside _ _ held => own_registered own encode outside held⟩

end Decoding

/-- A reply is decoded from its own bytes, whatever the buffer held, exactly when every
offset in it points among them. -/
theorem reply_bounds_iff (received : Received) :
    DecodedFromReceived received ↔ InBounds received.bytes.length (alone received) := by
  refine ⟨?_, decoded_of_own⟩
  rintro ⟨within, _⟩
  have here := within (fun _ => 0) []
  rw [List.append_nil] at here
  exact (within_readReply received.fits).mp here

/-- Four bytes whose root offset leads into an earlier acknowledgement register the client. -/
theorem reply_bounds_stale :
    ∃ received : Received, received.bytes = [16, 0, 0, 0] ∧ ¬ DecodedFromReceived received ∧
      (parseReply (flatCodec plain.encode fun _ => 0)
        { connectedClient with recvBuff := received.bytes ++ ackBytes.drop 4 }).registered = true ∧
      (parseReply (flatCodec plain.encode fun _ => 0)
        { connectedClient with recvBuff := received.bytes }).registered = false := by
  refine ⟨⟨[16, 0, 0, 0], by decide⟩, rfl, ?_, by decide +kernel, by decide +kernel⟩
  rintro ⟨within, _⟩
  have touched := within (fun _ => 0) [] 16 (by decide +kernel)
  exact absurd touched.2 (by decide)

end HyperionWebos.ReplyBounds
