import Sexpr.Format

/-!
# Log records

What the reader and the command report about their work, apart from their results. Each record is
a cause with its data; its level, its wording and the part of the program that reports it follow
from the cause.
-/

namespace Sexpr

/-- How much a record matters, by growing weight. -/
inductive Level where
  | notset
  | debug
  | info
  | warning
  | error
  | critical
  deriving DecidableEq, Repr

namespace Level

/-- The weight of a level. -/
def weight : Level → Nat
  | notset => 0
  | debug => 10
  | info => 20
  | warning => 30
  | error => 40
  | critical => 50

/-- The name of a level in records. -/
def name : Level → String
  | notset => "NOTSET"
  | debug => "DEBUG"
  | info => "INFO"
  | warning => "WARNING"
  | error => "ERROR"
  | critical => "CRITICAL"

/-- The names under which a level can be asked for. -/
def names : List (String × Level) :=
  [("CRITICAL", critical), ("FATAL", critical), ("ERROR", error), ("WARNING", warning),
    ("WARN", warning), ("INFO", info), ("DEBUG", debug), ("NOTSET", notset)]

/-- The capital form of a character as far as it can occur in a name of a level: beside the ASCII
letters, the dotless i is a form of I and the long s of S. -/
def capital (c : Char) : Char :=
  if c = '\u0131' then 'I' else if c = '\u017f' then 'S' else c.toUpper

/-- The level with this name, in any mix of cases. -/
def ofName? (text : String) : Option Level :=
  names.lookup (String.ofList (text.toList.map capital))

/-- The level from which records are shown: everything when that is asked for, else the level
named by the setting, else warnings. -/
def threshold (setting : Option String) (verbose : Bool) : Level :=
  if verbose then debug else (setting.bind ofName?).getD warning

end Level

/-- The parts of the program that report. -/
inductive Component where
  | parser
  | reader
  | command
  deriving DecidableEq, Repr

/-- A report. -/
inductive Record where
  | tokenized (characters tokens : Nat)
  | stray (position : Int)
  | ignored (trailing : Nat)
  | parsed (kind : Node.Kind)
  | failed (error : SyntaxError)
  | loaded (lines : Nat) (path : String)
  | wrote (format : Format) (path : String)
  deriving DecidableEq

namespace Record

/-- The part of the program that makes a report. -/
def component : Record → Component
  | tokenized _ _ | parsed _ | failed _ => .reader
  | stray _ | ignored _ => .parser
  | loaded _ _ | wrote _ _ => .command

/-- The level of a report: writing a file is information, all else is for debugging. -/
def level : Record → Level
  | wrote _ _ => .info
  | _ => .debug

/-- The wording of a report. -/
def message : Record → String
  | tokenized characters tokens =>
    "Tokenized " ++ toString characters ++ " character(s) into " ++ toString tokens ++ " token(s)"
  | stray position =>
    "Stray " ++ Text.Quoted.encode Token.closing ++ " at position " ++ toString position
  | ignored trailing =>
    "Ignoring " ++ toString trailing ++ " trailing datum(s) after the first"
  | parsed kind => "Parsed " ++ kind.name
  | failed error => "Parse failed: " ++ error.describe
  | loaded lines path => "Read " ++ toString lines ++ " line(s) from " ++ path
  | wrote format path => "Wrote " ++ format.name ++ " output to " ++ path

/-- Whether a report is shown from a level on. -/
def isShown (record : Record) (threshold : Level) : Bool :=
  threshold.weight ≤ record.level.weight

end Record

end Sexpr
