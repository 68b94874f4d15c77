import HyperionWebos.TraceMonitor

/-! Token recognition of the shell, as far as a line of plain words goes. `shell` reads a line
character by character and is stuck at an operator, an expansion or a comment, so what it
reads through is one simple command whose words are known. No character becomes more than
one character of a word: a line that lost some to quoting or splitting cannot make up for it. -/

namespace HyperionWebos.ShellWords
open TraceMonitor

inductive Quoting where
  | bare
  | single
  | double
deriving DecidableEq, Repr

structure Scan where
  words : List (List Char)
  word : Option (List Char)
  quoting : Quoting
  escaped : Bool
deriving DecidableEq, Repr

def isBlank (c : Char) : Bool := c = ' ' || c = '\t'

/-- Operators, the newline that ends a command, and what starts an expansion, also a pattern
that stays as it is when no file matches. -/
def isActive (c : Char) : Bool := "|&;<>()\n$`*?[".toList.contains c

def isQuoting (c : Char) : Bool := "\\'\"".toList.contains c

def isSpecial (c : Char) : Bool := isBlank c || isActive c || isQuoting c

namespace Scan

def put (chars : List Char) (s : Scan) : Scan :=
  { s with word := some (s.word.getD [] ++ chars), escaped := false }

def nextBare (s : Scan) (c : Char) : Option Scan :=
  if c = '\\' then some { s with escaped := true }
  else if c = '\'' then some { s.put [] with quoting := .single }
  else if c = '"' then some { s.put [] with quoting := .double }
  else if isBlank c then some { s with words := s.words ++ s.word.toList, word := none }
  else if isActive c then none
  else if s.word = none ∧ (c = '#' ∨ c = '~') then none
  else some (s.put [c])

/-- An escaped newline is no character at all. -/
def nextEscaped (s : Scan) (c : Char) : Scan :=
  if c = '\n' then { s with escaped := false }
  else if s.quoting ≠ .double ∨ "$`\"\\".toList.contains c then s.put [c]
  else s.put ['\\', c]

def next (s : Scan) (c : Char) : Option Scan :=
  if s.escaped then some (s.nextEscaped c)
  else match s.quoting with
    | .bare => s.nextBare c
    | .single => if c = '\'' then some { s with quoting := .bare } else some (s.put [c])
    | .double =>
      if c = '"' then some { s with quoting := .bare }
      else if c = '\\' then some { s with escaped := true }
      else if "$`".toList.contains c then none
      else some (s.put [c])

def finish (s : Scan) : Option (List (List Char)) :=
  if s.quoting = .bare ∧ s.escaped = false then some (s.words ++ s.word.toList) else none

/-- The characters of all words, and a backslash that double quotes may yet keep. -/
def size (s : Scan) : Nat :=
  s.words.flatten.length + (s.word.getD []).length +
    if s.escaped = true ∧ s.quoting = .double then 1 else 0

end Scan

def shell : Monitor Char Scan where
  start := ⟨[], none, .bare, false⟩
  next := Scan.next

def shellWords (line : String) : Option (List String) :=
  (shell.after line.toList).bind fun s => s.finish.map fun words => words.map String.ofList

example : shellWords "echo 'a b'c \"d$\"" = none := by decide

example : shellWords "echo 'a b'c \"d\\e\" \\;" = some ["echo", "a bc", "d\\e", ";"] := by decide

theorem shellWords_eq_some {line : String} {words : List String} :
    shellWords line = some words ↔
      ∃ s, shell.after line.toList = some s ∧ s.finish = some (words.map String.toList) := by
  rw [shellWords, Option.bind_eq_some_iff]
  refine exists_congr fun s => and_congr_right fun _ => ?_
  rw [Option.map_eq_some_iff]
  constructor
  · rintro ⟨lists, finished, rfl⟩
    rw [finished, List.map_map]
    simp
  · intro finished
    exact ⟨_, finished, by simp⟩

variable {s s' : Scan}

def Continues (s s' : Scan) : Prop :=
  s'.words = s.words ∧ ∀ w, s.word = some w → ∃ more, s'.word = some (w ++ more)

/-- A character takes the word further or is the blank that finishes it. -/
def Moves (s s' : Scan) : Prop :=
  Continues s s' ∨ (s'.words = s.words ++ s.word.toList ∧ s'.word = none)

theorem moves_mark (s : Scan) (quoting : Quoting) (escaped : Bool) :
    Moves s { s with quoting := quoting, escaped := escaped } :=
  Or.inl ⟨rfl, fun w opened => ⟨[], by rw [List.append_nil]; exact opened⟩⟩

theorem moves_put (s : Scan) (chars : List Char) (quoting : Quoting) :
    Moves s { s.put chars with quoting := quoting } :=
  Or.inl ⟨rfl, fun w opened => ⟨chars, by rw [Scan.put, opened]; rfl⟩⟩

theorem size_put (chars : List Char) (fresh : s.escaped = false) :
    (s.put chars).size = s.size + chars.length := by
  simp [Scan.put, Scan.size, fresh]
  omega

theorem size_mark (s : Scan) (quoting : Quoting) (escaped : Bool) :
    Scan.size { s with quoting := quoting, escaped := escaped } ≤ s.size + 1 := by
  simp only [Scan.size]
  split <;> omega

theorem digit_plain {c : Char} (digit : c.isDigit = true) : isSpecial c = false := by
  have no_digit : (' ' :: '\t' :: ("|&;<>()\n$`*?[".toList ++ "\\'\"".toList)).all
      (fun d => !d.isDigit) = true := by decide
  rw [← Bool.not_eq_true]
  intro special
  have listed : c ∈ ' ' :: '\t' :: ("|&;<>()\n$`*?[".toList ++ "\\'\"".toList) := by
    simp only [isSpecial, isBlank, isActive, isQuoting, Bool.or_eq_true, decide_eq_true_eq,
      List.contains_iff_mem] at special
    rw [List.mem_cons, List.mem_cons, List.mem_append, ← or_assoc, ← or_assoc]
    exact special
  have other := List.all_eq_true.mp no_digit c listed
  rw [digit] at other
  cases other

theorem toString_plain (n : Nat) : ∀ c ∈ (toString n).toList, isSpecial c = false := by
  intro c member
  have digits : (toString n).toList = Nat.toDigits 10 n := by simp [toString, Nat.repr]
  rw [digits] at member
  exact digit_plain (Nat.isDigit_of_mem_toDigits (by decide) (by decide) member)

theorem isQuoting_iff (c : Char) : isQuoting c = true ↔ c = '\\' ∨ c = '\'' ∨ c = '"' := by
  rw [isQuoting, List.contains_iff_mem]
  simp

theorem nextBare_cases {c : Char} (quoting : s.quoting = .bare) (fresh : s.escaped = false)
    (h : s.nextBare c = some s') :
    (isSpecial c = true ∧ s'.size = s.size ∧ Moves s s') ∨
      (isSpecial c = false ∧ s' = s.put [c]) := by
  rw [Scan.nextBare] at h
  split at h
  · next mark =>
    cases h
    refine Or.inl ⟨by rw [mark]; rfl, ?_, moves_mark s s.quoting true⟩
    simp [Scan.size, quoting]
  split at h
  · next mark =>
    cases h
    refine Or.inl ⟨by rw [mark]; rfl, ?_, moves_put s [] .single⟩
    simp [Scan.size, Scan.put, fresh]
  split at h
  · next mark =>
    cases h
    refine Or.inl ⟨by rw [mark]; rfl, ?_, moves_put s [] .double⟩
    simp [Scan.size, Scan.put, fresh]
  split at h
  · next blank =>
    cases h
    refine Or.inl ⟨by rw [isSpecial, blank]; rfl, ?_, Or.inr ⟨rfl, rfl⟩⟩
    cases word : s.word <;> simp [Scan.size, quoting, word]
  split at h
  · cases h
  split at h
  · cases h
  · next slash mark double blank active _ =>
    cases h
    have letter : isQuoting c = false := by
      rw [← Bool.not_eq_true, isQuoting_iff]
      rintro (rfl | rfl | rfl)
      · exact slash rfl
      · exact mark rfl
      · exact double rfl
    refine Or.inr ⟨?_, rfl⟩
    rw [isSpecial, letter, (Bool.not_eq_true _).mp blank, (Bool.not_eq_true _).mp active]
    rfl

theorem next_bare (quoting : s.quoting = .bare) (fresh : s.escaped = false) (c : Char) :
    s.next c = s.nextBare c := by
  simp [Scan.next, quoting, fresh]

theorem nextEscaped_moves (s : Scan) (c : Char) : Moves s (s.nextEscaped c) := by
  rw [Scan.nextEscaped]
  split
  · exact moves_mark s s.quoting false
  · split
    · exact moves_put s [c] s.quoting
    · exact moves_put s ['\\', c] s.quoting

theorem nextEscaped_size (escaped : s.escaped = true) (c : Char) :
    (s.nextEscaped c).size ≤ s.size + 1 := by
  rw [Scan.nextEscaped]
  split
  · exact size_mark s s.quoting false
  split
  · simp [Scan.size, Scan.put]
    omega
  · next kept =>
    rw [not_or, not_not] at kept
    simp [Scan.size, Scan.put, escaped, kept.1]
    omega

theorem next_cases {c : Char} (h : s.next c = some s') :
    Moves s s' ∧ s'.size ≤ s.size + 1 := by
  cases escaped : s.escaped with
  | true =>
    rw [Scan.next, if_pos escaped] at h
    cases h
    exact ⟨nextEscaped_moves s c, nextEscaped_size escaped c⟩
  | false =>
    have put : Moves s (s.put [c]) ∧ (s.put [c]).size ≤ s.size + 1 :=
      ⟨moves_put s [c] s.quoting, Nat.le_of_eq (size_put _ escaped)⟩
    have mark (quoting : Quoting) (slash : Bool) :
        Moves s { s with quoting := quoting, escaped := slash } ∧
          Scan.size { s with quoting := quoting, escaped := slash } ≤ s.size + 1 :=
      ⟨moves_mark s quoting slash, size_mark s quoting slash⟩
    cases quoting : s.quoting with
    | bare =>
      rw [next_bare quoting escaped] at h
      rcases nextBare_cases quoting escaped h with ⟨_, same, moves⟩ | ⟨_, rfl⟩
      · exact ⟨moves, by omega⟩
      · exact put
    | single =>
      simp only [Scan.next, escaped, quoting, Bool.false_eq_true, if_false] at h
      split at h
      · cases h
        exact mark .bare false
      · cases h
        exact put
    | double =>
      simp only [Scan.next, escaped, quoting, Bool.false_eq_true, if_false] at h
      split at h
      · cases h
        exact mark .bare false
      split at h
      · cases h
        exact mark .double true
      split at h
      · cases h
      · cases h
        exact put

theorem next_size {c : Char} (h : s.next c = some s') : s'.size ≤ s.size + 1 := (next_cases h).2

theorem read_size {line : List Char} (h : shell.readFrom s line = some s') :
    s'.size ≤ s.size + line.length := by
  induction line generalizing s with
  | nil =>
    cases h
    exact Nat.le_refl _
  | cons c line ih =>
    obtain ⟨t, first, rest⟩ := Option.bind_eq_some_iff.mp h
    have here := next_size first
    have later := ih rest
    rw [List.length_cons]
    omega

theorem plain_of_size {line : List Char} (quoting : s.quoting = .bare) (fresh : s.escaped = false)
    (h : shell.readFrom s line = some s') (tight : s.size + line.length ≤ s'.size) :
    ∀ c ∈ line, isSpecial c = false := by
  induction line generalizing s with
  | nil => nofun
  | cons c line ih =>
    obtain ⟨t, first, rest⟩ := Option.bind_eq_some_iff.mp h
    have later := read_size rest
    rw [List.length_cons] at tight
    have step : s.nextBare c = some t := (next_bare quoting fresh c).symm.trans first
    rcases nextBare_cases quoting fresh step with ⟨_, same, _⟩ | ⟨plain, rfl⟩
    · omega
    · have more := size_put (s := s) [c] fresh
      rw [List.length_singleton] at more
      intro d member
      rcases List.mem_cons.mp member with rfl | member
      · exact plain
      · exact ih (s := s.put [c]) quoting rfl rest (by omega) d member

theorem nextBare_plain {c : Char} (plain : isSpecial c = false) (started : s.word ≠ none) :
    s.nextBare c = some (s.put [c]) := by
  rw [isSpecial, Bool.or_eq_false_iff, Bool.or_eq_false_iff] at plain
  obtain ⟨⟨blank, active⟩, letter⟩ := plain
  rw [← Bool.not_eq_true, isQuoting_iff, not_or, not_or] at letter
  rw [Scan.nextBare, if_neg letter.1, if_neg letter.2.1, if_neg letter.2.2, blank, active,
    if_neg Bool.false_ne_true, if_neg Bool.false_ne_true, if_neg fun h => started h.1]

theorem read_plain {line : List Char} {w : List Char} (plain : ∀ c ∈ line, isSpecial c = false)
    (words : List (List Char)) :
    shell.readFrom ⟨words, some w, .bare, false⟩ line =
      some ⟨words, some (w ++ line), .bare, false⟩ := by
  induction line generalizing w with
  | nil => rw [List.append_nil]; rfl
  | cons c line ih =>
    have here : shell.next ⟨words, some w, .bare, false⟩ c =
        some ⟨words, some (w ++ [c]), .bare, false⟩ :=
      (next_bare (s := ⟨words, some w, .bare, false⟩) rfl rfl c).trans
        (nextBare_plain (plain c List.mem_cons_self) (Option.some_ne_none w))
    rw [Monitor.readFrom, here, Option.bind_some,
      ih fun d member => plain d (List.mem_cons_of_mem _ member), List.append_assoc]
    rfl

theorem read_single {line : List Char} {w : List Char} (text : '\'' ∉ line)
    (words : List (List Char)) :
    shell.readFrom ⟨words, some w, .single, false⟩ line =
      some ⟨words, some (w ++ line), .single, false⟩ := by
  induction line generalizing w with
  | nil => rw [List.append_nil]; rfl
  | cons c line ih =>
    rw [List.mem_cons, not_or] at text
    have here : shell.next ⟨words, some w, .single, false⟩ c =
        some ⟨words, some (w ++ [c]), .single, false⟩ := if_neg fun same => text.1 same.symm
    rw [Monitor.readFrom, here, Option.bind_some, ih text.2, List.append_assoc]
    rfl

theorem next_words {c : Char} (h : s.next c = some s') : s.words <+: s'.words := by
  rcases (next_cases h).1 with ⟨same, _⟩ | ⟨more, _⟩
  · exact same ▸ List.prefix_refl _
  · exact more ▸ List.prefix_append _ _

theorem read_words {line : List Char} (h : shell.readFrom s line = some s') :
    s.words <+: s'.words := by
  induction line generalizing s with
  | nil =>
    cases h
    exact List.prefix_refl _
  | cons c line ih =>
    obtain ⟨t, first, rest⟩ := Option.bind_eq_some_iff.mp h
    exact (next_words first).trans (ih rest)

theorem read_open {line : List Char} {w : List Char} (opened : s.word = some w)
    (h : shell.readFrom s line = some s') :
    ∃ more, (s'.words = s.words ∧ s'.word = some (w ++ more)) ∨
      s.words ++ [w ++ more] <+: s'.words := by
  induction line generalizing s w with
  | nil =>
    cases h
    exact ⟨[], Or.inl ⟨rfl, by rw [List.append_nil]; exact opened⟩⟩
  | cons c line ih =>
    obtain ⟨t, first, rest⟩ := Option.bind_eq_some_iff.mp h
    rcases (next_cases first).1 with ⟨words, word⟩ | ⟨words, _⟩
    · obtain ⟨more, grown⟩ := word w opened
      obtain ⟨later, cases_⟩ := ih grown rest
      rw [words, List.append_assoc] at cases_
      exact ⟨more ++ later, cases_⟩
    · refine ⟨[], Or.inr ?_⟩
      rw [opened] at words
      rw [List.append_nil]
      exact words ▸ read_words rest

theorem finish_some {words : List (List Char)} (h : s.finish = some words) :
    s.quoting = .bare ∧ s.escaped = false ∧ words = s.words ++ s.word.toList := by
  rw [Scan.finish] at h
  split at h
  · next closed => exact ⟨closed.1, closed.2, (Option.some.inj h).symm⟩
  · cases h

theorem finish_size {words : List (List Char)} (h : s.finish = some words) :
    s.size = words.flatten.length := by
  obtain ⟨bare, fresh, rfl⟩ := finish_some h
  cases word : s.word <;> simp [Scan.size, bare, word]

theorem finish_open {line : List Char} {w : List Char} {words : List (List Char)}
    (opened : s.word = some w) (h : shell.readFrom s line = some s')
    (finished : s'.finish = some words) : ∃ more, s.words ++ [w ++ more] <+: words := by
  obtain ⟨_, _, rfl⟩ := finish_some finished
  obtain ⟨more, ⟨same, word⟩ | closed⟩ := read_open opened h
  · exact ⟨more, by rw [same, word]; exact List.prefix_refl _⟩
  · exact ⟨more, closed.trans (List.prefix_append _ _)⟩

theorem same_last {known words : List (List Char)} {w w' : List Char}
    (h : known ++ [w] <+: words) (h' : known ++ [w'] <+: words) : w = w' := by
  have same := (List.prefix_of_prefix_length_le h h' (by simp)).eq_of_length (by simp)
  simpa using same

theorem nextBare_blank (s : Scan) :
    s.nextBare ' ' = some { s with words := s.words ++ s.word.toList, word := none } := rfl

theorem next_blank {w : List Char} (opened : s.word = some w) (h : s.next ' ' = some s') :
    s'.words = s.words ++ [w] ∨
      (s'.words = s.words ∧ ∃ c more, (c = ' ' ∨ c = '\\') ∧ s'.word = some (w ++ c :: more)) := by
  have kept : (s.put [' ']).word = some (w ++ [' ']) := by
    rw [Scan.put, opened]
    rfl
  rw [Scan.next] at h
  split at h
  · cases h
    refine Or.inr ?_
    rw [Scan.nextEscaped, if_neg (by decide)]
    split
    · exact ⟨rfl, ' ', [], Or.inl rfl, kept⟩
    · exact ⟨rfl, '\\', [' '], Or.inr rfl, by rw [Scan.put, opened]; rfl⟩
  split at h
  · rw [nextBare_blank] at h
    cases h
    exact Or.inl (by rw [opened]; rfl)
  · rw [if_neg (by decide)] at h
    cases h
    exact Or.inr ⟨rfl, ' ', [], Or.inl rfl, kept⟩
  · rw [if_neg (by decide), if_neg (by decide), if_neg (by decide)] at h
    cases h
    exact Or.inr ⟨rfl, ' ', [], Or.inl rfl, kept⟩

theorem mem_of_append {left right w more : List Char} {c : Char}
    (same : left ++ right = w ++ c :: more) (long : left.length ≤ w.length) : c ∈ right := by
  rcases List.append_eq_append_iff.mp same with ⟨between, _, rfl⟩ | ⟨beyond, rfl, split⟩
  · exact List.mem_append_right _ List.mem_cons_self
  · have none_beyond : beyond = [] := by
      rw [List.length_append] at long
      exact List.eq_nil_of_length_eq_zero (by omega)
    rw [none_beyond, List.nil_append] at split
    exact split ▸ List.mem_cons_self

theorem read_blank {w rest : List Char} {words : List (List Char)} (opened : s.word = some w)
    (h : shell.readFrom s (' ' :: rest) = some s') (finished : s'.finish = some words) :
    s.words ++ [w] <+: words ∨
      ∃ c more, (c = ' ' ∨ c = '\\') ∧ s.words ++ [w ++ c :: more] <+: words := by
  obtain ⟨t, blank, last⟩ := Option.bind_eq_some_iff.mp h
  rcases next_blank opened blank with closed | ⟨same, c, more, gap, opened⟩
  · obtain ⟨_, _, rfl⟩ := finish_some finished
    rw [← closed]
    exact Or.inl ((read_words last).trans (List.prefix_append _ _))
  · obtain ⟨later, begun⟩ := finish_open opened last finished
    rw [same, List.append_assoc, List.cons_append] at begun
    exact Or.inr ⟨c, more ++ later, gap, begun⟩

theorem words_size {w : List Char} (opened : s.word = some w) :
    s.words.flatten.length + w.length ≤ s.size ∧
      s.size ≤ s.words.flatten.length + w.length + 1 := by
  rw [Scan.size, opened, Option.getD_some]
  constructor
  · omega
  · split <;> omega

theorem closed_size {w : List Char} {known : List (List Char)} (h : known ++ [w] <+: s.words) :
    known.flatten.length + w.length ≤ s.size := by
  obtain ⟨after, split⟩ := h
  rw [Scan.size, ← split]
  simp only [List.flatten_append, List.flatten_singleton, List.length_append]
  omega

/-- A special character in a word that has to come out whole, with too little text after the
word to make up for it. -/
theorem special_stuck {known words : List (List Char)} {u front tail rest : List Char} {c : Char}
    (special : isSpecial c = true)
    (h : shell.readFrom ⟨known, some u, .bare, false⟩
      (c :: (front ++ tail) ++ ' ' :: rest) = some s')
    (finished : s'.finish = some words)
    (expected : known ++ [u ++ c :: (front ++ tail)] <+: words)
    (solid : ' ' ∉ tail ∧ '\\' ∉ tail)
    (loss : (known.flatten ++ u ++ c :: front).length + rest.length + 2 ≤
      words.flatten.length) : False := by
  rw [List.cons_append] at h
  obtain ⟨t, step, h⟩ := Option.bind_eq_some_iff.mp h
  have first : Scan.next ⟨known, some u, .bare, false⟩ c = some t := step
  rw [Monitor.readFrom_append] at h
  obtain ⟨s₁, word, h⟩ := Option.bind_eq_some_iff.mp h
  have lost : t.size = known.flatten.length + u.length := by
    rcases nextBare_cases rfl rfl ((next_bare rfl rfl c).symm.trans first) with
      ⟨_, same, _⟩ | ⟨plain, _⟩
    · rw [same]
      rfl
    · rw [plain] at special
      cases special
  have small := read_size word
  rw [lost] at small
  have too_long : known.flatten.length + (u ++ c :: (front ++ tail)).length ≤ s₁.size → False := by
    intro large
    simp only [List.length_append, List.length_cons] at large small
    omega
  have seen : s₁.words <+: words := by
    obtain ⟨_, _, rfl⟩ := finish_some finished
    exact (read_words h).trans (List.prefix_append _ _)
  rcases (next_cases first).1 with
    ⟨(stay : t.words = known), grown⟩ | ⟨(ended : t.words = known ++ [u]), _⟩
  · obtain ⟨m₁, opened⟩ := grown u rfl
    obtain ⟨m₂, ⟨same, opened⟩ | closed⟩ := read_open opened word
    · rw [stay] at same
      have bounds := words_size opened
      rw [same] at bounds
      rcases read_blank opened h finished with closed | ⟨c', more, gap, begun⟩
      · have whole := same_last (same ▸ closed) expected
        exact too_long (whole ▸ bounds.1)
      · have whole := same_last expected (same ▸ begun)
        have lined_up : (u ++ c :: front) ++ tail = (u ++ m₁ ++ m₂) ++ c' :: more := by
          simpa using whole
        have total := finish_size finished
        have later := read_size h
        have member : c' ∈ tail := by
          refine mem_of_append lined_up ?_
          simp only [List.length_append, List.length_cons] at loss later bounds ⊢
          omega
        rcases gap with rfl | rfl
        · exact solid.1 member
        · exact solid.2 member
    · rw [stay] at closed
      have whole := same_last (closed.trans seen) expected
      exact too_long (whole ▸ closed_size closed)
  · have begun : known ++ [u] <+: words := by
      rw [← ended]
      exact (read_words word).trans seen
    have longer := congrArg List.length (same_last begun expected)
    simp only [List.length_append, List.length_cons] at longer
    omega

theorem plain_of_read {known words : List (List Char)} {u line front tail rest : List Char}
    (h : shell.readFrom ⟨known, some u, .bare, false⟩
      (line ++ (front ++ tail) ++ ' ' :: rest) = some s')
    (finished : s'.finish = some words)
    (expected : known ++ [u ++ (line ++ (front ++ tail))] <+: words)
    (solid : ' ' ∉ tail ∧ '\\' ∉ tail)
    (loss : (known.flatten ++ u ++ line ++ front).length + rest.length + 2 ≤
      words.flatten.length) : ∀ c ∈ line, isSpecial c = false := by
  induction line generalizing u with
  | nil => nofun
  | cons c line ih =>
    have here : isSpecial c = false := by
      rw [← Bool.not_eq_true]
      intro special
      have regrouped : shell.readFrom ⟨known, some u, .bare, false⟩
          (c :: ((line ++ front) ++ tail) ++ ' ' :: rest) = some s' := by
        simpa using h
      exact special_stuck special regrouped finished (by simpa using expected) solid
        (by simpa using loss)
    have step : shell.readFrom ⟨known, some (u ++ [c]), .bare, false⟩
        (line ++ (front ++ tail) ++ ' ' :: rest) = some s' := by
      rw [← h, List.cons_append, List.cons_append, Monitor.readFrom]
      rw [show shell.next ⟨known, some u, .bare, false⟩ c = _ from
        (next_bare (s := ⟨known, some u, .bare, false⟩) rfl rfl c).trans
          (nextBare_plain here (Option.some_ne_none u))]
      rfl
    intro d member
    rcases List.mem_cons.mp member with rfl | member
    · exact here
    · exact ih step (by simpa using expected) (by simpa using loss) d member

theorem text_of_read {known : List (List Char)} {text : List Char}
    (h : shell.readFrom ⟨known, some [], .single, false⟩ (text ++ ['\'']) = some s')
    (finished : s'.finish = some (known ++ [text])) : '\'' ∉ text := by
  intro member
  obtain ⟨before, after, rfl, fresh⟩ := List.eq_append_cons_of_mem member
  rw [List.append_assoc, Monitor.readFrom_append, read_single fresh] at h
  have rest : shell.readFrom ⟨known, some before, .bare, false⟩ (after ++ ['\'']) = some s' := h
  have total := finish_size finished
  have plain := plain_of_size (s := ⟨known, some before, .bare, false⟩) rfl rfl rest (by
    rw [total]
    simp [Scan.size]
    omega)
  cases plain '\'' (List.mem_append_right _ List.mem_cons_self)

end HyperionWebos.ShellWords
