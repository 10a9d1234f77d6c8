import Sexpr.Format

/-!
# Emitters

An emitter says how the parts of an outcome are shown when formats are open to extension: errors
always, atoms and groups only if it has a rule for them. A table gives emitters names; the standard
table holds the output formats.
-/

namespace Sexpr

/-- Rules for showing outcomes, and what is written between two of them. -/
structure Emitter where
  atom : Option (String → String)
  group : Option (List Node → String)
  error : SyntaxError → String
  joiner : String

/-- Emitters by name, in order of definition. -/
abbrev EmitterTable := List (String × Emitter)

/-- Why outcomes cannot be shown through a table. -/
inductive EmitterError where
  | unknown (target : String)
  | noRule (kind : Node.Kind) (target : String)
  deriving DecidableEq

/-- The message of an error. -/
def EmitterError.message : EmitterError → String
  | .unknown target => Format.unknownMessage target
  | .noRule kind target =>
    "No emitter method for node kind '" ++ kind.label ++ "' (format "
      ++ Text.Quoted.encode target ++ ")"

/-- The emitter of an output format. -/
def Format.emitter (format : Format) : Emitter where
  atom := some fun token => format.node (.atom token)
  group := some fun children => format.node (.group children)
  error := format.error
  joiner := "\n"

namespace Emitter

/-- An outcome through an emitter; without a rule, the kind that lacks it. -/
def reading (emitter : Emitter) : Reading → Except Node.Kind String
  | .failure error => .ok (emitter.error error)
  | .success (.atom token) =>
    match emitter.atom with
    | some rule => .ok (rule token)
    | none => .error .atom
  | .success (.group children) =>
    match emitter.group with
    | some rule => .ok (rule children)
    | none => .error .group

end Emitter

namespace EmitterTable

/-- The output formats by name. -/
def standard : EmitterTable :=
  Format.all.map fun format => (format.name, format.emitter)

/-- A table with an emitter under a name, in place of one that has it. -/
def put (table : EmitterTable) (name : String) (emitter : Emitter) : EmitterTable :=
  if table.any (·.1 == name) then
    table.map fun entry => if entry.1 == name then (name, emitter) else entry
  else table ++ [(name, emitter)]

/-- The name in lower case and its emitter. -/
def select (table : EmitterTable) (target : String) : Except EmitterError (String × Emitter) :=
  match table.find? (·.1 == Text.lower target) with
  | some entry => .ok entry
  | none => .error (.unknown (Text.lower target))

end EmitterTable

/-- Outcomes through an emitter, with its joiner between neighbours. The name of the emitter is for
the message about a rule that it lacks. -/
def Emitter.readings (target : String) (emitter : Emitter) (readings : List Reading) :
    Except EmitterError String :=
  match readings.mapM emitter.reading with
  | .ok lines => .ok (emitter.joiner.intercalate lines)
  | .error kind => .error (.noRule kind target)

end Sexpr
