import Mathlib.Algebra.Group.Nat.Defs
import Mathlib.Data.List.Basic

/-! Frames with a four byte big-endian length. A byte stream of such frames can be cut at its
frame boundaries only by counting, so what a sender may leave on the wire is said against
the messages it was given: whole frames, and at most one beginning of a frame after them. -/

namespace HyperionWebos.LengthFrames

def header (n : Nat) : List UInt8 :=
  [UInt8.ofNat (n >>> 24), UInt8.ofNat (n >>> 16), UInt8.ofNat (n >>> 8), UInt8.ofNat n]

def headerValue (bytes : List UInt8) : Nat := bytes.foldl (fun n byte => n <<< 8 + byte.toNat) 0

def frame (body : List UInt8) : List UInt8 := header body.length ++ body

def frames (bodies : List (List UInt8)) : List UInt8 := (bodies.map frame).flatten

@[simp] theorem header_length (n : Nat) : (header n).length = 4 := rfl

theorem headerValue_header {n : Nat} (h : n < 2 ^ 32) : headerValue (header n) = n := by
  simp only [headerValue, header, List.foldl_cons, List.foldl_nil, UInt8.toNat_ofNat',
    Nat.shiftRight_eq_div_pow, Nat.shiftLeft_eq]
  omega

@[simp] theorem frames_nil : frames [] = [] := rfl

theorem frames_cons (body : List UInt8) (bodies : List (List UInt8)) :
    frames (body :: bodies) = header body.length ++ (body ++ frames bodies) := by
  rw [frames, List.map_cons, List.flatten_cons, frame, List.append_assoc]
  rfl

theorem frames_concat (bodies : List (List UInt8)) (body : List UInt8) :
    frames (bodies ++ [body]) = frames bodies ++ frame body := by
  simp [frames]

theorem take_frames (body : List UInt8) (bodies : List (List UInt8)) :
    (frames (body :: bodies)).take 4 = header body.length := by
  rw [frames_cons]
  exact List.take_left' rfl

/-- Only whole frames of some of the offered messages, in their order. -/
def Whole (offered : List (List UInt8)) (wire : List UInt8) : Prop :=
  ∃ sent, sent.Sublist offered ∧ wire = frames sent

/-- Whole frames and a beginning of a later one, with nothing after it. -/
def CutOff (offered : List (List UInt8)) (wire : List UInt8) : Prop :=
  ∃ sent body beginning, (sent ++ [body]).Sublist offered ∧ beginning <+: frame body ∧
    wire = frames sent ++ beginning

def Framed (offered : List (List UInt8)) (wire : List UInt8) : Prop :=
  Whole offered wire ∨ CutOff offered wire

variable {offered : List (List UInt8)} {wire : List UInt8}

theorem whole_nil : Whole [] [] := ⟨[], List.Sublist.refl [], rfl⟩

theorem Whole.skip (h : Whole offered wire) (body : List UInt8) :
    Whole (offered ++ [body]) wire := by
  obtain ⟨sent, sub, rfl⟩ := h
  exact ⟨sent, sub.trans (List.sublist_append_left ..), rfl⟩

theorem Whole.send (h : Whole offered wire) (body : List UInt8) :
    Whole (offered ++ [body]) (wire ++ frame body) := by
  obtain ⟨sent, sub, rfl⟩ := h
  exact ⟨sent ++ [body], sub.append (List.Sublist.refl _), (frames_concat sent body).symm⟩

theorem Whole.cut (h : Whole offered wire) {body beginning : List UInt8}
    (begins : beginning <+: frame body) : CutOff (offered ++ [body]) (wire ++ beginning) := by
  obtain ⟨sent, sub, rfl⟩ := h
  exact ⟨sent, body, beginning, sub.append (List.Sublist.refl _), begins, rfl⟩

theorem CutOff.skip (h : CutOff offered wire) (body : List UInt8) :
    CutOff (offered ++ [body]) wire := by
  obtain ⟨sent, last, beginning, sub, begins, rfl⟩ := h
  exact ⟨sent, last, beginning, sub.trans (List.sublist_append_left ..), begins, rfl⟩

end HyperionWebos.LengthFrames
