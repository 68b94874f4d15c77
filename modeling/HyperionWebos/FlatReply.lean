import HyperionWebos.ByteReads
import HyperionWebos.HyperionClient

/-! The flatcc reader of `hyperion_reply_reader.h` and what `_parse_reply` reads with it.
Pointers into `recvBuff` are indices that may lie anywhere; what is stored outside the
buffer is a parameter. -/

namespace HyperionWebos.FlatReply
open ByteReads ByteReads.Reads HyperionClient

/-- A 32-bit word as `int32_t`. -/
def int32 (word : Nat) : Int := if word < 2147483648 then word else (word : Int) - 4294967296

/-- `__flatbuffers_read_root`; the identifier is null, so none is read. -/
def replyAsRoot : Reads Int := do
  let offset ← littleEndian 0 4
  return offset

/-- `__flatbuffers_read_vt`: the offset of field `id`, 0 where the vtable has no such slot. -/
def readVt (id : Nat) (t : Int) : Reads Nat := do
  let soffset ← littleEndian t 4
  let vt := t - int32 soffset
  let size ← littleEndian vt 2
  if size ≥ 2 * (id + 3) then littleEndian (vt + 2 * (id + 2)) 2 else return 0

/-- `__flatbuffers_define_scalar_field` for an `int32_t`. -/
def scalarField (id : Nat) (default : Int) (t : Int) : Reads Int := do
  let offset ← readVt id t
  if offset ≠ 0 then
    let word ← littleEndian (t + offset) 4
    return int32 word
  else return default

/-- `__flatbuffers_vector_field`: where the string starts, behind its length. -/
def stringField (id : Nat) (t : Int) : Reads (Option Int) := do
  let offset ← readVt id t
  if offset ≠ 0 then
    let elem := t + offset
    let uoffset ← littleEndian elem 4
    return some (elem + 4 + uoffset)
  else return none

def replyError : Int → Reads (Option Int) := stringField 0

def replyVideo : Int → Reads Int := scalarField 1 (-1)

def replyRegistered : Int → Reads Int := scalarField 2 (-1)

/-- The `%s` of `WARN`. A string that has not ended after `recvBuffSize` bytes has left the
buffer. -/
def warnString : Option Int → Reads String
  | none => return "(null)"
  | some p => do
    let text ← cstring p recvBuffSize
    return String.ofList (text.map fun b => Char.ofNat b.toNat)

/-- What `_parse_reply` reads, in its order. -/
def readReply : Reads Reply := do
  let t ← replyAsRoot
  let error ← replyError t
  if error.isNone then
    let video ← replyVideo t
    let registered ← replyRegistered t
    return ⟨none, video, registered⟩
  else
    let error ← replyError t
    let text ← warnString error
    return ⟨some text, -1, -1⟩

def memory (outside : Int → UInt8) (buffer : List UInt8) (i : Int) : UInt8 :=
  if 0 ≤ i then buffer.getD i.toNat (outside i) else outside i

def flatCodec (encode : Request → Message) (outside : Int → UInt8) : Codec :=
  ⟨encode, fun buffer => readReply.run (memory outside buffer)⟩

theorem flatCodec_decode (encode : Request → Message) (outside : Int → UInt8)
    (buffer : List UInt8) :
    (flatCodec encode outside).decode buffer = readReply.run (memory outside buffer) := by
  rw [flatCodec]

theorem memory_received {outside : Int → UInt8} {received : List UInt8} (rest : List UInt8)
    {i : Int} (low : 0 ≤ i) (high : i < received.length) :
    memory outside (received ++ rest) i = received.getD i.toNat 0 := by
  have inside : i.toNat < received.length := by omega
  unfold memory
  rw [if_pos low]
  simp [List.getD, List.getElem?_append_left inside, List.getElem?_eq_getElem inside]

def registeredBy (reply : Reply) (registered : Bool) (priority : Int) : Bool :=
  registered || (reply.error.isNone && decide (reply.video = -1) &&
    decide (reply.registered = priority))

theorem parseReply_registered (codec : Codec) (c : Client) :
    (parseReply codec c).registered =
      registeredBy (codec.decode c.recvBuff) c.registered c.priority := by
  unfold parseReply registeredBy
  dsimp only
  cases (codec.decode c.recvBuff).error.isNone with
  | false => simp
  | true =>
    by_cases video : (codec.decode c.recvBuff).video = -1 <;>
      by_cases registered : (codec.decode c.recvBuff).registered = c.priority <;>
      simp [video, registered]

/-- A reply that says that the client is registered with priority 150. -/
def ackBytes : List UInt8 :=
  [16, 0, 0, 0, 10, 0, 8, 0, 0, 0, 0, 0, 4, 0, 0, 0, 12, 0, 0, 0, 150, 0, 0, 0]

end HyperionWebos.FlatReply
