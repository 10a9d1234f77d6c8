import Sexpr.Format
import Sexpr.Text.Character

/-!
# Command-line arguments

The grammar of the command line. Every argument is first classified as a plain word, an option or
the separator after which all words are plain; then the words are followed from left to right. A
long option may be shortened as long as it stays unique, short options may be run together, and a
value stands in the next argument, after an equals sign, or right after a short option. The text
after an equals sign behind one letter is read like text right behind the letter, so `-s=a` is
`-sa`.

These are the rules of `argparse` before its releases 3.11.9 and 3.12.3. Later ones answer otherwise
where the text behind a letter that takes no value starts with no option (`-sx` and `-hx`, which
here are problems as a whole), where an equals sign follows such a letter (`-s=a`), and where the
value behind a letter is two dashes (`-f--` and `-o--`, which here leave the setting empty).
-/

namespace Sexpr.Arguments

/-- The options of the command. -/
inductive Flag where
  | help
  | string
  | format
  | all
  | out
  | repl
  | verbose
  deriving DecidableEq, Repr

namespace Flag

/-- Every option, in the order in which they are offered. -/
def every : List Flag := [help, string, format, all, out, repl, verbose]

/-- The word of an option, written after two dashes. -/
def word : Flag → String
  | help => "help"
  | string => "string"
  | format => "format"
  | all => "all"
  | out => "out"
  | repl => "repl"
  | verbose => "verbose"

/-- The letter of an option, written after one dash. -/
def letter? : Flag → Option Char
  | help => some 'h'
  | string => some 's'
  | format => some 'f'
  | all => some 'a'
  | out => some 'o'
  | repl => none
  | verbose => none

/-- Whether an option has a value. -/
def takesValue : Flag → Bool
  | format | out => true
  | _ => false

/-- The long form of an option. -/
def long (flag : Flag) : String := "--" ++ flag.word

/-- Both forms of an option, as messages name it. -/
def title (flag : Flag) : String :=
  match flag.letter? with
  | some letter => "-" ++ String.singleton letter ++ "/" ++ flag.long
  | none => flag.long

/-- The option with this letter. -/
def ofLetter? (letter : Char) : Option Flag :=
  every.find? fun flag => flag.letter? == some letter

end Flag

/-- What the arguments ask for. There is no format when the value given for it was dropped. -/
structure Settings where
  source : Option String := none
  literal : Bool := false
  format : Option Format := some .listing
  everything : Bool := false
  output : Option String := none
  interactive : Bool := false
  verbose : Bool := false
  deriving DecidableEq, Repr

/-- What is wrong with the arguments. -/
inductive Problem where
  | ambiguous (text : String) (flags : List Flag)
  | needlessValue (flag : Flag) (value : String)
  | missingValue (flag : Flag)
  | invalidChoice (value : String)
  | unrecognized (texts : List String)
  deriving DecidableEq, Repr

/-- The message of a problem. -/
def Problem.message : Problem → String
  | .ambiguous text flags =>
    "ambiguous option: " ++ text ++ " could match " ++ ", ".intercalate (flags.map Flag.long)
  | .needlessValue flag value =>
    "argument " ++ flag.title ++ ": ignored explicit argument " ++ Text.Quoted.encode value
  | .missingValue flag => "argument " ++ flag.title ++ ": expected one argument"
  | .invalidChoice value =>
    "argument " ++ Flag.format.title ++ ": invalid choice: " ++ Text.Quoted.encode value
      ++ " (choose from "
      ++ ", ".intercalate (Format.all.map fun format => Text.Quoted.encode format.name) ++ ")"
  | .unrecognized texts => "unrecognized arguments: " ++ " ".intercalate texts

/-! ## Words -/

/-- How an option is written: by its letter, with the text attached to it, or by its word, with the
text after an equals sign. -/
inductive Spelling where
  | short (flag : Flag) (attached : Option (List Char))
  | long (flag : Flag) (value : Option String)
  deriving DecidableEq, Repr

/-- An argument by its role. -/
inductive Word where
  | plain (text : String)
  | separator
  | option (spelling : Spelling)
  | unknown (text : String)
  deriving DecidableEq, Repr

/-- Whether a text is a dash and a decimal number without exponent; a line feed may follow. -/
def isNegativeNumber (text : List Char) : Bool :=
  match text with
  | '-' :: body =>
    let number := if body.getLast? = some '\n' then body.dropLast else body
    match number.dropWhile Text.isDigit with
    | [] => !number.isEmpty
    | '.' :: fraction => !fraction.isEmpty && fraction.all Text.isDigit
    | _ => false
  | _ => false

/-- An argument that starts with a dash but with no option: plain if it is a negative number or
holds a space. -/
def classifyOther (text : String) : Word :=
  if isNegativeNumber text.toList || text.toList.contains ' ' then .plain text else .unknown text

/-- A text cut at its first equals sign. -/
def cutValue (text : List Char) : List Char × Option String :=
  match text.dropWhile (· != '=') with
  | [] => (text, none)
  | _ :: value => (text.takeWhile (· != '='), some (String.ofList value))

/-- The text attached to a letter: what follows it, less an equals sign right after it. -/
def attached : List Char → Option (List Char)
  | [] => none
  | '=' :: text => some text
  | text => some text

/-- The role of an argument before the separator. -/
def classify (text : String) : Except Problem Word :=
  match text.toList with
  | '-' :: '-' :: body =>
    let (start, value) := cutValue body
    match Flag.every.filter fun flag => start.isPrefixOf flag.word.toList with
    | [] => .ok (classifyOther text)
    | [flag] => .ok (.option (.long flag value))
    | flags => .error (.ambiguous text flags)
  | '-' :: letter :: tail =>
    match Flag.ofLetter? letter with
    | some flag => .ok (.option (.short flag (attached tail)))
    | none => .ok (classifyOther text)
  | _ => .ok (.plain text)

/-- The roles of the arguments. -/
def words : List String → Except Problem (List Word)
  | [] => .ok []
  | text :: rest =>
    if text = "--" then .ok (.separator :: rest.map .plain)
    else do
      let word ← classify text
      let following ← words rest
      pure (word :: following)

/-! ## Options -/

/-- An option word spelled out: the options that are complete, in order, and an option that waits
for the next word. -/
structure Use where
  complete : List (Flag × String) := []
  waiting : Option Flag := none

/-- The use of an option with no text of its own. -/
def Use.bare (flag : Flag) : Use :=
  if flag.takesValue then { waiting := some flag } else { complete := [(flag, "")] }

/-- The use with an option that has no value before the others. -/
def Use.after (use : Use) (flag : Flag) : Use :=
  { use with complete := (flag, "") :: use.complete }

/-- Spells out a short option and the text attached to it: a value, or further short options. Text
that starts with no option is a value where none belongs. -/
def spellAttached (flag : Flag) (text : List Char) : Except Problem Use :=
  if flag.takesValue then .ok { complete := [(flag, String.ofList text)] }
  else
    match text with
    | [] => .error (.needlessValue flag "")
    | letter :: tail =>
      match Flag.ofLetter? letter with
      | none => .error (.needlessValue flag (String.ofList (letter :: tail)))
      | some next =>
        if tail.isEmpty then .ok ((Use.bare next).after flag)
        else
          match spellAttached next tail with
          | .error problem => .error problem
          | .ok use => .ok (use.after flag)

/-- Spells out a short option. -/
def spellShort (flag : Flag) : Option (List Char) → Except Problem Use
  | none => .ok (Use.bare flag)
  | some text => spellAttached flag text

/-- Spells out a long option. -/
def spellLong (flag : Flag) : Option String → Except Problem Use
  | none => .ok (Use.bare flag)
  | some value =>
    if flag.takesValue then .ok { complete := [(flag, value)] }
    else .error (.needlessValue flag value)

/-- Spells out an option. -/
def Spelling.use : Spelling → Except Problem Use
  | .short flag text => spellShort flag text
  | .long flag value => spellLong flag value

/-! ## From left to right -/

/-- Why the arguments give no settings. -/
inductive Stop where
  | help
  | problem (problem : Problem)
  deriving DecidableEq, Repr

/-- The settings so far, the words that fit nowhere, latest first, and whether the last word was
taken as the source. -/
structure Progress where
  settings : Settings := {}
  extras : List String := []
  sourceLast : Bool := false

namespace Progress

/-- Follows a plain word: the first is the source. -/
def plain (progress : Progress) (text : String) : Progress :=
  match progress.settings.source with
  | none => { progress with
      settings := { progress.settings with source := some text }, sourceLast := true }
  | some _ => { progress with extras := text :: progress.extras, sourceLast := false }

/-- Follows the separator, which fits before the source and right after it. -/
def separator (progress : Progress) : Progress :=
  if progress.settings.source.isNone || progress.sourceLast then
    { progress with sourceLast := false }
  else { progress with extras := "--" :: progress.extras, sourceLast := false }

/-- Keeps text that fits nowhere. -/
def leave (progress : Progress) (text : String) : Progress :=
  { progress with extras := text :: progress.extras, sourceLast := false }

/-- The progress before an option. -/
def passed (progress : Progress) : Progress :=
  { progress with sourceLast := false }

/-- Follows one complete option. A value that looks like the separator is dropped, and the setting
is left empty. -/
def apply (progress : Progress) (option : Flag × String) : Except Stop Progress :=
  let settings := progress.settings
  let keep (settings : Settings) : Except Stop Progress := .ok { progress with settings }
  match option.1 with
  | .help => .error .help
  | .string => keep { settings with literal := true }
  | .format =>
    if option.2 = "--" then keep { settings with format := none }
    else
      match Format.ofName? option.2 with
      | some format => keep { settings with format := some format }
      | none => .error (.problem (.invalidChoice option.2))
  | .all => keep { settings with everything := true }
  | .out => keep { settings with output := if option.2 = "--" then none else some option.2 }
  | .repl => keep { settings with interactive := true }
  | .verbose => keep { settings with verbose := true }

end Progress

/-- Follows words to the end. An option that waits for its value takes the next word if that is
plain. -/
def follow (progress : Progress) : List Word → Except Stop Progress
  | [] => .ok progress
  | .plain text :: rest => follow (progress.plain text) rest
  | .separator :: rest => follow progress.separator rest
  | .unknown text :: rest => follow (progress.leave text) rest
  | .option spelling :: rest =>
    match spelling.use with
    | .error problem => .error (.problem problem)
    | .ok use =>
      match use.waiting with
      | none =>
        match use.complete.foldlM Progress.apply progress.passed with
        | .error stop => .error stop
        | .ok progress => follow progress rest
      | some flag =>
        match rest with
        | .plain value :: after =>
          match (use.complete ++ [(flag, value)]).foldlM Progress.apply progress.passed with
          | .error stop => .error stop
          | .ok progress => follow progress after
        | _ => .error (.problem (.missingValue flag))

/-- The settings that the arguments give. -/
def parse (arguments : List String) : Except Stop Settings :=
  match words arguments with
  | .error problem => .error (.problem problem)
  | .ok words =>
    match follow {} words with
    | .error stop => .error stop
    | .ok progress =>
      if progress.extras.isEmpty then .ok progress.settings
      else .error (.problem (.unrecognized progress.extras.reverse))

/-! ## Texts -/

/-- The summary of the command line. -/
def usage : String :=
  "usage: lisp [-h] [-s] [-f \x7blist,sexpr,json\x7d] [-a] [-o OUTFILE] [--repl]\n" ++
  "            [--verbose]\n" ++
  "            [source]\n"

/-- The help on the command line. -/
def help : String :=
  usage ++
  "\n" ++
  "positional arguments:\n" ++
  "  source                Filename or raw source (with -s)\n" ++
  "\n" ++
  "options:\n" ++
  "  -h, --help            show this help message and exit\n" ++
  "  -s, --string          Interpret source as literal string\n" ++
  "  -f \x7blist,sexpr,json\x7d, --format \x7blist,sexpr,json\x7d\n" ++
  "                        Output format (default: list)\n" ++
  "  -a, --all             Parse every top-level datum, not only the first\n" ++
  "  -o OUTFILE, --out OUTFILE\n" ++
  "                        Output to file\n" ++
  "  --repl                Launch interactive REPL instead of parsing\n" ++
  "  --verbose             Verbose output\n"

/-- The text shown for a problem: the summary and the message. -/
def Problem.report (problem : Problem) : String :=
  usage ++ "lisp: error: " ++ problem.message ++ "\n"

end Sexpr.Arguments
