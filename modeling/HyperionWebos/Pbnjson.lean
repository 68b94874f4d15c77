import HyperionWebos.AssocLists

/-! Parsed JSON as pbnjson hands it out. A missing key and a failed parse are the
invalid value, which also counts as null; accessors of the wrong type yield no string,
size zero and no members. Strings are read through their NUL-terminated buffer. -/

namespace HyperionWebos.Pbnjson
open AssocLists

/-- A JSON number through its two readings: `jnumber_get_i32` and the bits of
`jnumber_get_f64`. -/
structure JNumber where
  i32 : Int
  f64 : UInt64
deriving DecidableEq, Repr

inductive JVal where
  | invalid
  | null
  | boolean (b : Bool)
  | number (n : JNumber)
  | string (s : String)
  | array (items : List JVal)
  | object (members : List (String × JVal))

/-- The bytes a C string function sees: everything before the first NUL. -/
def cstr (s : String) : String :=
  String.ofList (s.toList.takeWhile fun c => c ≠ Char.ofNat 0)

def jisNull : JVal → Bool
  | .invalid | .null => true
  | _ => false

def jisValid : JVal → Bool
  | .invalid => false
  | _ => true

def jisString : JVal → Bool
  | .string _ => true
  | _ => false

def jisNumber : JVal → Bool
  | .number _ => true
  | _ => false

def jisArray : JVal → Bool
  | .array _ => true
  | _ => false

def jisObject : JVal → Bool
  | .object _ => true
  | _ => false

def jmembers : JVal → List (String × JVal)
  | .object members => members
  | _ => []

def jitems : JVal → List JVal
  | .array items => items
  | _ => []

def jobjectSize (v : JVal) : Nat := (jmembers v).length

def jarraySize (v : JVal) : Nat := (jitems v).length

def jobjectGet (v : JVal) (key : String) : JVal := ((jmembers v).lookup key).getD .invalid

def jobjectContainskey (v : JVal) (key : String) : Bool := ((jmembers v).lookup key).isSome

def jarrayGet (v : JVal) (i : Nat) : JVal := (jitems v)[i]?.getD .invalid

mutual

def jstrings : JVal → List String
  | .string s => [s]
  | .array items => jstringsItems items
  | .object members => jstringsMembers members
  | _ => []

def jstringsItems : List JVal → List String
  | [] => []
  | item :: rest => jstrings item ++ jstringsItems rest

def jstringsMembers : List (String × JVal) → List String
  | [] => []
  | (name, v) :: rest => name :: jstrings v ++ jstringsMembers rest

end

/-- `jstring_get(v).m_str`: the null buffer for anything but a string. -/
def jstringGet : JVal → Option String
  | .string s => some (cstr s)
  | _ => none

def jnumberCreateI32 (i : Int) : JNumber := ⟨i, (Float.ofInt i).toBits⟩

def jnumberCreateF64 (gain : UInt64) : JNumber := ⟨(Float.ofBits gain).toInt32.toInt, gain⟩

def jstringCreate (str : String) : JVal := .string (cstr str)

/-- `jobject_set`, which replaces the value of a key the object already has. -/
def jobjectSet (v : JVal) (key : String) (value : JVal) : JVal :=
  match v with
  | .object members => .object (assign members key value)
  | _ => v

/-- `jarray_set`: past the end the gap is filled with null. -/
def jarraySet (v : JVal) (i : Nat) (item : JVal) : JVal :=
  match v with
  | .array items =>
    .array (if i < items.length then items.set i item
      else items ++ List.replicate (i - items.length) .null ++ [item])
  | _ => v

theorem jstringGet_isSome (v : JVal) : (jstringGet v).isSome = jisString v := by
  cases v <;> rfl

theorem jobjectGet_object (members : List (String × JVal)) (key : String) :
    jobjectGet (.object members) key = (members.lookup key).getD .invalid := rfl

@[simp] theorem jisObject_object (members : List (String × JVal)) :
    jisObject (.object members) = true := by
  rw [jisObject]

@[simp] theorem jisObject_jobjectSet (v : JVal) (key : String) (value : JVal) :
    jisObject (jobjectSet v key value) = jisObject v := by
  cases v <;> rfl

@[simp] theorem jobjectGet_jobjectSet {v : JVal} (object : jisObject v = true)
    (key : String) (value : JVal) (key' : String) :
    jobjectGet (jobjectSet v key value) key' =
      if key' = key then value else jobjectGet v key' := by
  cases v with
  | object members =>
    rw [jobjectSet, jobjectGet_object, jobjectGet_object, lookup_assign]
    split <;> rfl
  | _ => cases object

theorem foldl_jarraySet {α : Type} (f : α → JVal) (xs : List α) (items : List JVal) :
    (xs.zipIdx items.length).foldl (fun arr p => jarraySet arr p.2 (f p.1)) (.array items) =
      .array (items ++ xs.map f) := by
  induction xs generalizing items with
  | nil => simp
  | cons x xs ih =>
    have appended : jarraySet (.array items) items.length (f x) = .array (items ++ [f x]) := by
      simp [jarraySet]
    have tail := ih (items ++ [f x])
    rw [List.length_append, List.length_singleton] at tail
    rw [List.zipIdx_cons, List.foldl_cons, appended, tail]
    simp

theorem foldl_jobjectSet {α : Type} (f : α → String × JVal) (xs : List α)
    (distinct : Distinct (xs.map f)) :
    xs.zipIdx.foldl (fun obj p => jobjectSet obj (f p.1).1 (f p.1).2) (.object []) =
      .object (xs.map f) := by
  have assigned : ∀ (ys : List α) (i : Nat) (acc : List (String × JVal)),
      (ys.zipIdx i).foldl (fun obj p => jobjectSet obj (f p.1).1 (f p.1).2) (.object acc) =
        .object ((ys.map f).foldl (fun acc p => assign acc p.1 p.2) acc) := by
    intro ys
    induction ys with
    | nil => intro i acc; rfl
    | cons y ys ih =>
      intro i acc
      rw [List.zipIdx_cons, List.foldl_cons, List.map_cons, List.foldl_cons]
      exact ih (i + 1) (assign acc (f y).1 (f y).2)
  rw [assigned, foldl_assign _ _ distinct, List.nil_append]

end HyperionWebos.Pbnjson
