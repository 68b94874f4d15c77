import HyperionWebos.Getopt
import HyperionWebos.Runs
import HyperionWebos.SettingsLoad

/-! `parse_options` of `main.c`: the short-option string, the table of long options, the
options that `print_usage` names, and the loop. `files` says what is found under a path. -/

namespace HyperionWebos.OptionParsing
open Runs OwnedArray Pbnjson SettingsLoad Getopt

inductive LogLevel where
  | error
  | warning
  | info
  | debug
deriving DecidableEq, Repr

/-- The globals that options change. -/
structure Main where
  settings : Settings
  logLevel : LogLevel
  printVersion : Int

inductive Flag where
  | printVersion
deriving DecidableEq, Repr

def optstring : List Char := "x:y:a:p:f:b:u:q:c:t:vnhdVG".toList

def longOptions : List (LongOption Flag) := [
  ⟨"width", .requiredArgument, .returns 'x'⟩,
  ⟨"height", .requiredArgument, .returns 'y'⟩,
  ⟨"address", .requiredArgument, .returns 'a'⟩,
  ⟨"port", .requiredArgument, .returns 'p'⟩,
  ⟨"unix-socket", .noArgument, .returns 'l'⟩,
  ⟨"fps", .requiredArgument, .returns 'f'⟩,
  ⟨"no-video", .noArgument, .returns 'V'⟩,
  ⟨"no-gui", .noArgument, .returns 'G'⟩,
  ⟨"no-vsync", .noArgument, .returns 'n'⟩,
  ⟨"lut-table", .requiredArgument, .returns 't'⟩,
  ⟨"backend", .requiredArgument, .returns 'b'⟩,
  ⟨"ui-backend", .requiredArgument, .returns 'u'⟩,
  ⟨"quirks", .requiredArgument, .returns 'q'⟩,
  ⟨"help", .noArgument, .returns 'h'⟩,
  ⟨"verbose", .noArgument, .returns 'v'⟩,
  ⟨"version", .noArgument, .sets .printVersion 1⟩,
  ⟨"config", .requiredArgument, .returns 'c'⟩,
  ⟨"dump-frames", .noArgument, .returns 'd'⟩]

/-! ### The loop -/

def isSpace (c : Char) : Bool := c = ' ' || ('\t' ≤ c && c ≤ '\r')

/-- `atoi`, and `atol` too, where `long` has 32 bits. -/
def atoi (s : List Char) : Int :=
  let value (digits : List Char) : Nat :=
    (digits.takeWhile Char.isDigit).foldl (fun n c => 10 * n + (c.toNat - '0'.toNat)) 0
  match s.dropWhile isSpace with
  | '-' :: digits => max (-2147483648) (-value digits)
  | '+' :: digits => min 2147483647 (value digits)
  | digits => min 2147483647 (value digits)

/-- What `fopen` and `jdom_parse` make of a path. -/
inductive ConfigFile where
  | unreadable
  | contents (parsed : JVal)

def settingsLoadFileWith (unset : List (String × JVal)) (settings : Settings) :
    ConfigFile → Except MemoryFault (Int × Settings)
  | .unreadable => .ok (-1, settings)
  | .contents parsed =>
    if jisNull parsed then .ok (-2, settings)
    else do
      let settings ← settingsLoadJsonWith unset settings parsed
      .ok (0, settings)

inductive Exit where
  | fault (f : MemoryFault)
  | returns (ret : Int) (m : Main)

def Main.set (m : Main) (change : Settings → Settings) : Except Exit Main :=
  .ok { m with settings := change m.settings }

/-- `optarg` is a null pointer after an option without an argument. -/
def withOptarg (optarg : Option (List Char)) (body : List Char → Except Exit Main) :
    Except Exit Main :=
  match optarg with
  | some optarg => body optarg
  | none => .error (.fault .nullDereference)

def parseOptionWith (unset : List (String × JVal)) (files : String → ConfigFile) (m : Main) :
    Report Flag → Except Exit Main
  | .option opt optarg =>
    match opt with
    | 'x' => withOptarg optarg fun a => m.set fun s => { s with width := atoi a }
    | 'y' => withOptarg optarg fun a => m.set fun s => { s with height := atoi a }
    | 'a' => withOptarg optarg fun a => m.set fun s => { s with address := .ofList a }
    | 'p' => withOptarg optarg fun a => m.set fun s => { s with port := atoi a }
    | 'l' => m.set fun s => { s with unixSocket := true }
    | 'f' => withOptarg optarg fun a => m.set fun s => { s with fps := atoi a }
    | 'V' => m.set fun s => { s with noVideo := true }
    | 'G' => m.set fun s => { s with noGui := true }
    | 'n' => m.set fun s => { s with vsync := false }
    | 'd' => m.set fun s => { s with dumpFrames := true }
    | 'v' => .ok { m with logLevel := .debug }
    | 'b' => withOptarg optarg fun a => m.set fun s => { s with videoBackend := some (.ofList a) }
    | 'u' => withOptarg optarg fun a => m.set fun s => { s with uiBackend := some (.ofList a) }
    | 'q' => withOptarg optarg fun a => m.set fun s => { s with quirks := atoi a }
    | 't' => withOptarg optarg fun a => m.set fun s => { s with lutTable := .ofList a }
    | 'c' => withOptarg optarg fun a =>
      match settingsLoadFileWith unset m.settings (files (.ofList a)) with
      | .ok (_, settings) => .ok { m with settings := settings }
      | .error f => .error (.fault f)
    | _ => .error (.returns 1 m)
  | .flag .printVersion val => .ok { m with printVersion := val }
  | .unknown => .error (.returns 1 m)

def parseOptionsWith (unset : List (String × JVal)) (files : String → ConfigFile)
    (argv : List String) (m : Main) : Except MemoryFault (Int × Main) :=
  match run (parseOptionWith unset files) m
      (getoptLong optstring longOptions none (argv.tail.map String.toList)) with
  | .ok m => .ok (0, m)
  | .error (.returns ret m) => .ok (ret, m)
  | .error (.fault f) => .error f

def parseOption : (String → ConfigFile) → Main → Report Flag → Except Exit Main :=
  parseOptionWith []

def parseOptions :
    (String → ConfigFile) → List String → Main → Except MemoryFault (Int × Main) :=
  parseOptionsWith []

/-! ### The options of the usage text -/

/-- `synopsis` is the `-S` of the first line; `--help` is left out. -/
inductive Opt where
  | width
  | height
  | address
  | port
  | unixSocket
  | fps
  | backend
  | uiBackend
  | noVideo
  | noGui
  | noVsync
  | lutTable
  | quirks
  | config
  | dumpFrames
  | verbose
  | version
  | synopsis
deriving DecidableEq, Repr

inductive Form where
  | short (c : Char)
  | long (name : String)
deriving DecidableEq, Repr

/-- The forms in which `print_usage` names an option. -/
def Opt.forms : Opt → List Form
  | .width => [.short 'x', .long "width"]
  | .height => [.short 'y', .long "height"]
  | .address => [.short 'a', .long "address"]
  | .port => [.short 'p', .long "port"]
  | .unixSocket => [.short 'l', .long "unix-socket"]
  | .fps => [.short 'f', .long "fps"]
  | .backend => [.short 'b', .long "backend"]
  | .uiBackend => [.short 'u', .long "ui-backend"]
  | .noVideo => [.short 'V', .long "no-video"]
  | .noGui => [.short 'G', .long "no-gui"]
  | .noVsync => [.short 'n', .long "no-vsync"]
  | .lutTable => [.short 't', .long "lut-table"]
  | .quirks => [.short 'q', .long "quirks"]
  | .config => [.short 'c', .long "config"]
  | .dumpFrames => [.short 'd', .long "dump-frames"]
  | .verbose => [.short 'v', .long "verbose"]
  | .version => [.long "version"]
  | .synopsis => [.short 'S']

/-- `--lut-table` takes the file too, though the text shows no argument there. -/
def Opt.hasArg : Opt → HasArg
  | .width | .height | .address | .port | .fps | .backend | .uiBackend | .lutTable | .quirks
  | .config => .requiredArgument
  | _ => .noArgument

def Opt.target : Opt → Target Flag
  | .width => .returns 'x'
  | .height => .returns 'y'
  | .address => .returns 'a'
  | .port => .returns 'p'
  | .unixSocket => .returns 'l'
  | .fps => .returns 'f'
  | .backend => .returns 'b'
  | .uiBackend => .returns 'u'
  | .noVideo => .returns 'V'
  | .noGui => .returns 'G'
  | .noVsync => .returns 'n'
  | .lutTable => .returns 't'
  | .quirks => .returns 'q'
  | .config => .returns 'c'
  | .dumpFrames => .returns 'd'
  | .verbose => .returns 'v'
  | .version => .sets .printVersion 1
  | .synopsis => .returns 'S'

def Form.word : Form → String
  | .short c => .ofList ['-', c]
  | .long name => .ofList ('-' :: '-' :: name.toList)

/-- What stands between the name of an option and an argument in the same word. -/
def Form.join : Form → List Char
  | .short _ => []
  | .long _ => ['=']

/-- An option as it stands on the command line, with an argument if it takes one; a short
option and an empty argument cannot share a word. -/
structure Use where
  opt : Opt
  form : Form
  joined : Bool
  arg : String
  documented : form ∈ opt.forms
  fits : joined = true → form.join ++ arg.toList ≠ []

def Use.words (u : Use) : List String :=
  match u.opt.hasArg with
  | .noArgument => [u.form.word]
  | .requiredArgument =>
    if u.joined then [.ofList (u.form.word.toList ++ (u.form.join ++ u.arg.toList))]
    else [u.form.word, u.arg]

def Opt.optarg (o : Opt) (arg : String) : Option (List Char) :=
  match o.hasArg with
  | .noArgument => none
  | .requiredArgument => some arg.toList

/-- The short-option string has neither of the two. -/
def Use.Recognized (u : Use) : Prop := u.form ≠ .short 'l' ∧ u.form ≠ .short 'S'

instance (u : Use) : Decidable u.Recognized := inferInstanceAs (Decidable (_ ∧ _))

def Use.report (u : Use) : Report Flag :=
  if u.Recognized then u.opt.target.report (u.opt.optarg u.arg) else .unknown

/-- The usage text, the short-option string and the table of long options say the same of
an option. -/
def Agree (o : Opt) : Form → Prop
  | .short c => c ≠ '-' ∧ shortOption optstring c = some o.hasArg ∧ o.target = .returns c
  | .long name => name.toList ≠ [] ∧ '=' ∉ name.toList ∧
    longOption longOptions name.toList = some ⟨name, o.hasArg, o.target⟩

instance (o : Opt) : (f : Form) → Decidable (Agree o f)
  | .short _ => inferInstanceAs (Decidable (_ ∧ _))
  | .long _ => inferInstanceAs (Decidable (_ ∧ _))

theorem tables_agree (o : Opt) :
    ∀ f ∈ o.forms, f ≠ .short 'l' ∧ f ≠ .short 'S' → Agree o f := by
  cases o <;> decide

theorem unrecognized_flag (o : Opt) :
    ∀ f ∈ o.forms, ¬ (f ≠ .short 'l' ∧ f ≠ .short 'S') →
      o.hasArg = .noArgument ∧ (f = .short 'l' ∨ f = .short 'S') := by
  cases o <;> decide

section Words

variable {rest : List (List Char)}

theorem getopt_recognized {u : Use} (recognized : u.Recognized) :
    getoptLong optstring longOptions none (u.words.map String.toList ++ rest) =
      u.opt.target.report (u.opt.optarg u.arg) :: getoptLong optstring longOptions none rest := by
  obtain ⟨opt, form, joined, arg, documented, fits⟩ := u
  have agree := tables_agree opt form documented recognized
  unfold Use.words Opt.optarg
  cases form with
  | short c =>
    obtain ⟨dash, known, target⟩ := agree
    rw [target]
    cases takes : opt.hasArg with
    | noArgument =>
      rw [takes] at known
      simp only [List.map_cons, List.map_nil, Form.word, String.toList_ofList]
      exact short_flag dash known
    | requiredArgument =>
      rw [takes] at known
      dsimp only
      split
      · rename_i together
        simp only [List.map_cons, List.map_nil, Form.word, Form.join, String.toList_ofList]
        exact short_joined dash known (fits together)
      · simp only [List.map_cons, List.map_nil, Form.word, String.toList_ofList]
        exact short_apart dash known
  | long name =>
    obtain ⟨some, noEquals, known⟩ := agree
    cases takes : opt.hasArg with
    | noArgument =>
      simp only [List.map_cons, List.map_nil, Form.word, String.toList_ofList]
      exact long_flag noEquals some known takes
    | requiredArgument =>
      dsimp only
      split
      · simp only [List.map_cons, List.map_nil, Form.word, Form.join, String.toList_ofList]
        exact long_joined noEquals known takes
      · simp only [List.map_cons, List.map_nil, Form.word, String.toList_ofList]
        exact long_apart noEquals some known takes

theorem getopt_use (u : Use) (rest : List (List Char)) :
    getoptLong optstring longOptions none (u.words.map String.toList ++ rest) =
      u.report :: getoptLong optstring longOptions none rest := by
  unfold Use.report
  split
  · rename_i recognized
    exact getopt_recognized recognized
  · rename_i unrecognized
    obtain ⟨plain, two⟩ := unrecognized_flag u.opt u.form u.documented unrecognized
    unfold Use.words
    rw [plain]
    rcases two with form | form <;> rw [form]
    · exact short_unknown (by decide) (by decide)
    · exact short_unknown (by decide) (by decide)

theorem getopt_uses (uses : List Use) :
    getoptLong optstring longOptions none ((uses.flatMap Use.words).map String.toList) =
      uses.map Use.report := by
  induction uses with
  | nil => rfl
  | cons u us ih => rw [List.flatMap_cons, List.map_append, getopt_use, ih, List.map_cons]

end Words

end HyperionWebos.OptionParsing
