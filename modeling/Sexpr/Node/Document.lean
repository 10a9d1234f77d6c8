import Sexpr.Node.Layout

/-!
# Trees as JSON

An atom is an object with its kind and token, a group an object with its kind and children.
`Node.toJson?` builds the value from the events of a walk and `Node.document` by recursion.
`Node.json` writes the text of the value straight from the events.
-/

namespace Sexpr

namespace Node

/-- The JSON value of an atom. -/
def atomDocument (token : String) : Json :=
  .object [("kind", .text Kind.atom.label), ("token", .text token)]

/-- The JSON value of a group, given those of its children. -/
def groupDocument (children : List Json) : Json :=
  .object [("kind", .text Kind.group.label), ("children", .array children)]

mutual

/-- The JSON value of a tree. -/
def document : Node → Json
  | atom token => atomDocument token
  | group children => groupDocument (documents children)

/-- The JSON values of trees in a row. -/
def documents : List Node → List Json
  | [] => []
  | node :: rest => document node :: documents rest

end

/-- Adds a value to the innermost open group. -/
def attach (value : Json) : List (List Json) → Option (List (List Json))
  | [] => none
  | level :: stack => some ((value :: level) :: stack)

/-- Follows one event on the stack of open groups, innermost first, each with its children so far
in reverse. -/
def build (stack : List (List Json)) : Event → Option (List (List Json))
  | .atom token => attach (atomDocument token) stack
  | .enter _ => some ([] :: stack)
  | .leave =>
    match stack with
    | [] => none
    | level :: outer => attach (groupDocument level.reverse) outer

/-- The JSON value of a tree, built from the events of a walk. There is none if the stack of open
groups runs dry or more than one value is left, which the events of a tree never cause. -/
def toJson? (node : Node) : Option Json :=
  match node.walk.foldlM build [[]] with
  | some [[value]] => some value
  | _ => none

end Node

/-- Trees as the text of their JSON values. -/
def Layout.json : Layout :=
  ⟨fun token => (Node.atomDocument token).print,
    "\x7b\"kind\": \"group\", \"children\": [", "]\x7d", ", "⟩

/-- The JSON text of a tree. -/
def Node.json (node : Node) : String := Layout.json.render node

end Sexpr
