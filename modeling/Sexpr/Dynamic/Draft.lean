import Sexpr.Dynamic.Object

/-!
# Drafts

A draft collects lines of output in one format. Each kind of line takes the parts it needs from
the object it is given and does not look at the object's type otherwise, so that the text formats
show any object as a group, and JSON shows any tree as an atom.
-/

namespace Sexpr.Dynamic

/-- Lines of output in a format. -/
structure Draft where
  format : Format
  lines : List String := []

/-- The kinds of line. -/
inductive LineKind where
  | atom
  | group
  | error
  deriving DecidableEq, Repr

namespace Draft

/-- The text of a draft. -/
def output (draft : Draft) : String :=
  "\n".intercalate draft.lines

/-- The JSON text of a tree; that of the null value is empty. -/
def jsonLine (object : Object) : Except Refusal String :=
  match object with
  | .value .null => .ok ""
  | _ => do pure (← object.toNode "children").json

/-- The line of an object. -/
def line (format : Format) (kind : LineKind) (object : Object) : Except Refusal String :=
  match kind, format with
  | .error, _ => do pure (format.error (← object.toError))
  | _, .json => jsonLine object
  | .atom, _ => object.token
  | .group, .listing => .ok object.shown
  | .group, .canonical => do pure (← object.toNode "to_sexpr").canonical

/-- The draft with one more line. -/
def add (draft : Draft) (kind : LineKind) (object : Object) : Except Refusal Draft := do
  let next ← line draft.format kind object
  pure { draft with lines := draft.lines ++ [next] }

end Draft

end Sexpr.Dynamic
