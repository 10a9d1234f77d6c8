import Sexpr.Node.Document
import Sexpr.Reading
import Sexpr.Text.Case

/-!
# Output formats

An outcome of reading is shown in one of three formats. The two text formats show the listing or
the canonical text of a tree and the message of an error; the third shows both as JSON, one
document to a line.
-/

namespace Sexpr

/-- An output format. -/
inductive Format where
  | listing
  | canonical
  | json
  deriving DecidableEq, Repr

namespace Format

/-- Every format, in the order in which they are offered. -/
def all : List Format := [listing, canonical, json]

/-- The name of a format. -/
def name : Format → String
  | listing => "list"
  | canonical => "sexpr"
  | json => "json"

/-- The format with exactly this name. -/
def ofName? (text : String) : Option Format :=
  all.find? fun format => format.name == text

/-- The message for a name, in lower case, that no format has. -/
def unknownMessage (text : String) : String :=
  "Unknown output format: " ++ Text.Quoted.encode text

/-- The format with this name, in any mix of cases; without one, the name in lower case. -/
def select (text : String) : Except String Format :=
  match ofName? (Text.lower text) with
  | some format => .ok format
  | none => .error (Text.lower text)

/-- A tree in a format. -/
def node : Format → Node → String
  | listing, node => node.listing
  | canonical, node => node.canonical
  | json, node => node.json

/-- An error as a JSON value: its cause and message, and for a token that token and its position. -/
def errorDocument (error : SyntaxError) : Json :=
  let shared := [("error", Json.text error.name), ("message", Json.text error.describe)]
  match error with
  | .endOfInput => .object shared
  | .unexpected token position =>
    .object (shared ++ [("token", .text token),
      ("position", match position with | none => .null | some position => .number position)])

/-- An error in a format. -/
def error : Format → SyntaxError → String
  | listing, error => error.describe
  | canonical, error => error.describe
  | json, error => (errorDocument error).print

/-- An outcome in a format. -/
def reading (format : Format) : Reading → String
  | .success node => format.node node
  | .failure error => format.error error

/-- Outcomes in a format, one after the other with a line break between neighbours. -/
def readings (format : Format) (readings : List Reading) : String :=
  "\n".intercalate (readings.map format.reading)

end Format

end Sexpr
