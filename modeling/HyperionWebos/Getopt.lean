import Mathlib.Data.List.TakeWhile

/-! `getopt_long`, by its documentation. Words that begin with `-` are options, short ones
possibly several in a word, and an option's argument is the rest of its word or the word
after it; all other words are operands and passed over. What follows `--` is operands. -/

namespace HyperionWebos.Getopt

inductive HasArg where
  | noArgument
  | requiredArgument
deriving DecidableEq, Repr

/-- The last two members of `struct option`: the value that is returned, or with a flag
the value that is stored there. -/
inductive Target (ν : Type) where
  | returns (val : Char)
  | sets (flag : ν) (val : Int)
deriving DecidableEq, Repr

structure LongOption (ν : Type) where
  name : String
  hasArg : HasArg
  target : Target ν
deriving DecidableEq, Repr

inductive Report (ν : Type) where
  | option (val : Char) (optarg : Option (List Char))
  | flag (flag : ν) (val : Int)
  | unknown
deriving DecidableEq, Repr

variable {ν : Type}

def Target.report (optarg : Option (List Char)) : Target ν → Report ν
  | .returns val => .option val optarg
  | .sets flag val => .flag flag val

def shortOption (optstring : List Char) (c : Char) : Option HasArg :=
  if c = ':' then none
  else match optstring.dropWhile (· ≠ c) with
    | [] => none
    | _ :: ':' :: _ => some .requiredArgument
    | _ => some .noArgument

def longOption (longs : List (LongOption ν)) (name : List Char) : Option (LongOption ν) :=
  match longs.find? fun o => o.name.toList = name with
  | some o => some o
  | none => match longs.filter fun o => name.isPrefixOf o.name.toList with
    | [o] => some o
    | _ => none

/-- The options of one word, and one that still waits for its argument. -/
structure Scan (ν : Type) where
  reports : List (Report ν)
  waiting : Option (Target ν)

def scanShort (optstring : List Char) : List Char → Scan ν
  | [] => ⟨[], none⟩
  | c :: cs =>
    match shortOption optstring c with
    | some .requiredArgument =>
      if cs = [] then ⟨[], some (.returns c)⟩ else ⟨[.option c (some cs)], none⟩
    | some .noArgument =>
      let s := scanShort optstring cs
      ⟨.option c none :: s.reports, s.waiting⟩
    | none =>
      let s := scanShort optstring cs
      ⟨.unknown :: s.reports, s.waiting⟩

def scanLong (longs : List (LongOption ν)) (word : List Char) : Scan ν :=
  match longOption longs (word.takeWhile (· ≠ '=')), word.dropWhile (· ≠ '=') with
  | none, _ => ⟨[.unknown], none⟩
  | some o, [] =>
    if o.hasArg = .requiredArgument then ⟨[], some o.target⟩ else ⟨[o.target.report none], none⟩
  | some o, _ :: value =>
    if o.hasArg = .requiredArgument then ⟨[o.target.report (some value)], none⟩
    else ⟨[.unknown], none⟩

/-- The reports of successive calls, up to the one that returns -1. -/
def getoptLong (optstring : List Char) (longs : List (LongOption ν)) :
    Option (Target ν) → List (List Char) → List (Report ν)
  | none, [] => []
  | some _, [] => [.unknown]
  | some t, word :: words => t.report (some word) :: getoptLong optstring longs none words
  | none, ['-', '-'] :: _ => []
  | none, ('-' :: '-' :: word) :: words =>
    let s := scanLong longs word
    s.reports ++ getoptLong optstring longs s.waiting words
  | none, ('-' :: c :: cs) :: words =>
    let s := scanShort optstring (c :: cs)
    s.reports ++ getoptLong optstring longs s.waiting words
  | none, _ :: words => getoptLong optstring longs none words

/-! ### One option, however it is written -/

section Words

variable {optstring : List Char} {longs : List (LongOption ν)} {c : Char} {o : LongOption ν}
  {name value word : List Char} {words : List (List Char)}

theorem getopt_short (dash : c ≠ '-') (cs : List Char) (words : List (List Char)) :
    getoptLong optstring longs none (('-' :: c :: cs) :: words) =
      (scanShort optstring (c :: cs)).reports ++
        getoptLong optstring longs (scanShort (ν := ν) optstring (c :: cs)).waiting words := by
  rw [getoptLong]
  · exact fun same _ => dash same
  · exact fun same => dash same

theorem getopt_long (some : word ≠ []) (words : List (List Char)) :
    getoptLong optstring longs none (('-' :: '-' :: word) :: words) =
      (scanLong longs word).reports ++
        getoptLong optstring longs (scanLong longs word).waiting words := by
  rw [getoptLong]
  exact some

theorem short_unknown (dash : c ≠ '-') (absent : shortOption optstring c = none) :
    getoptLong optstring longs none (['-', c] :: words) =
      .unknown :: getoptLong optstring longs none words := by
  rw [getopt_short dash, scanShort, absent]
  rfl

theorem short_flag (dash : c ≠ '-') (found : shortOption optstring c = some .noArgument) :
    getoptLong optstring longs none (['-', c] :: words) =
      .option c none :: getoptLong optstring longs none words := by
  rw [getopt_short dash, scanShort, found]
  rfl

theorem short_apart (dash : c ≠ '-')
    (found : shortOption optstring c = some .requiredArgument) :
    getoptLong optstring longs none (['-', c] :: value :: words) =
      .option c (some value) :: getoptLong optstring longs none words := by
  rw [getopt_short dash, scanShort, found]
  rfl

theorem short_joined (dash : c ≠ '-')
    (found : shortOption optstring c = some .requiredArgument) (more : value ≠ []) :
    getoptLong optstring longs none (('-' :: c :: value) :: words) =
      .option c (some value) :: getoptLong optstring longs none words := by
  rw [getopt_short dash, scanShort, found]
  dsimp only
  rw [if_neg more]
  rfl

theorem plain_name (noEquals : '=' ∉ name) : ∀ c ∈ name, decide (c ≠ '=') = true :=
  fun _ member => decide_eq_true fun same => noEquals (same ▸ member)

theorem name_apart (noEquals : '=' ∉ name) :
    name.takeWhile (· ≠ '=') = name ∧ name.dropWhile (· ≠ '=') = [] :=
  ⟨List.takeWhile_eq_self_iff.mpr (plain_name noEquals),
    List.dropWhile_eq_nil_iff.mpr (plain_name noEquals)⟩

theorem name_joined (noEquals : '=' ∉ name) (value : List Char) :
    (name ++ '=' :: value).takeWhile (· ≠ '=') = name ∧
      (name ++ '=' :: value).dropWhile (· ≠ '=') = '=' :: value := by
  rw [List.takeWhile_append_of_pos (plain_name noEquals),
    List.dropWhile_append_of_pos (plain_name noEquals)]
  simp

theorem long_flag (noEquals : '=' ∉ name) (some : name ≠ [])
    (found : longOption longs name = .some o) (plain : o.hasArg = .noArgument) :
    getoptLong optstring longs none (('-' :: '-' :: name) :: words) =
      o.target.report none :: getoptLong optstring longs none words := by
  rw [getopt_long some, scanLong, (name_apart noEquals).1, (name_apart noEquals).2, found]
  dsimp only
  rw [plain, if_neg (by decide)]
  rfl

theorem long_apart (noEquals : '=' ∉ name) (some : name ≠ [])
    (found : longOption longs name = .some o) (takes : o.hasArg = .requiredArgument) :
    getoptLong optstring longs none (('-' :: '-' :: name) :: value :: words) =
      o.target.report (.some value) :: getoptLong optstring longs none words := by
  rw [getopt_long some, scanLong, (name_apart noEquals).1, (name_apart noEquals).2, found]
  dsimp only
  rw [if_pos takes]
  rfl

theorem long_joined (noEquals : '=' ∉ name)
    (found : longOption longs name = some o) (takes : o.hasArg = .requiredArgument) :
    getoptLong optstring longs none (('-' :: '-' :: (name ++ '=' :: value)) :: words) =
      o.target.report (some value) :: getoptLong optstring longs none words := by
  rw [getopt_long (by simp), scanLong, (name_joined noEquals value).1,
    (name_joined noEquals value).2, found]
  dsimp only
  rw [if_pos takes]
  rfl

end Words

/-! ### Where arguments come from -/

def Report.optarg : Report ν → Option (List Char)
  | .option _ optarg => optarg
  | _ => none

section Arguments

variable {optstring : List Char} {longs : List (LongOption ν)} {r : Report ν} {a : List Char}

theorem optarg_report {t : Target ν} {o : Option (List Char)}
    (carries : (t.report o).optarg = some a) : o = some a := by
  cases t with
  | returns val => exact carries
  | sets flag val => cases carries

theorem optarg_scanShort {word : List Char} (reported : r ∈ (scanShort optstring word).reports)
    (carries : r.optarg = some a) : ∀ c ∈ a, c ∈ word := by
  induction word with
  | nil => cases reported
  | cons d ds ih =>
    unfold scanShort at reported
    split at reported
    · split at reported
      · cases reported
      · rw [List.mem_singleton.mp reported] at carries
        cases carries
        exact fun c member => List.mem_cons_of_mem d member
    · rcases List.mem_cons.mp reported with rfl | later
      · cases carries
      · exact fun c member => List.mem_cons_of_mem d (ih later c member)
    · rcases List.mem_cons.mp reported with rfl | later
      · cases carries
      · exact fun c member => List.mem_cons_of_mem d (ih later c member)

theorem optarg_scanLong {word : List Char} (reported : r ∈ (scanLong longs word).reports)
    (carries : r.optarg = some a) : ∀ c ∈ a, c ∈ word := by
  unfold scanLong at reported
  split at reported
  · rw [List.mem_singleton.mp reported] at carries
    cases carries
  · split at reported
    · cases reported
    · rw [List.mem_singleton.mp reported] at carries
      cases optarg_report carries
  · rename_i value rest
    split at reported
    · rw [List.mem_singleton.mp reported] at carries
      cases optarg_report carries
      intro c member
      have inside : c ∈ word.dropWhile (· ≠ '=') := by
        rw [rest]
        exact List.mem_cons_of_mem _ member
      exact (List.dropWhile_sublist _).subset inside
    · rw [List.mem_singleton.mp reported] at carries
      cases carries

theorem optarg_getoptLong {waiting : Option (Target ν)} {words : List (List Char)}
    (reported : r ∈ getoptLong optstring longs waiting words) (carries : r.optarg = some a) :
    ∃ word ∈ words, ∀ c ∈ a, c ∈ word := by
  fun_induction getoptLong optstring longs waiting words with
  | case1 => cases reported
  | case2 t =>
    rw [List.mem_singleton.mp reported] at carries
    cases carries
  | case3 t word words ih =>
    rcases List.mem_cons.mp reported with rfl | later
    · cases optarg_report carries
      exact ⟨a, List.mem_cons_self, fun c member => member⟩
    · obtain ⟨w, member, made⟩ := ih later
      exact ⟨w, List.mem_cons_of_mem _ member, made⟩
  | case4 => cases reported
  | case5 word words _ s ih =>
    rcases List.mem_append.mp reported with here | later
    · have made := optarg_scanLong here carries
      refine ⟨_, List.mem_cons_self, fun c member => ?_⟩
      exact List.mem_cons_of_mem _ (List.mem_cons_of_mem _ (made c member))
    · obtain ⟨w, member, made⟩ := ih later
      exact ⟨w, List.mem_cons_of_mem _ member, made⟩
  | case6 d cs words _ _ s ih =>
    rcases List.mem_append.mp reported with here | later
    · have made := optarg_scanShort here carries
      exact ⟨_, List.mem_cons_self, fun c member => List.mem_cons_of_mem _ (made c member)⟩
    · obtain ⟨w, member, made⟩ := ih later
      exact ⟨w, List.mem_cons_of_mem _ member, made⟩
  | case7 _ words _ _ _ ih =>
    obtain ⟨w, member, made⟩ := ih reported
    exact ⟨w, List.mem_cons_of_mem _ member, made⟩

end Arguments

end HyperionWebos.Getopt
