import Sexpr.Dynamic.Object

/-!
# Recipes

A recipe says how an object is built from loosely typed parts. Parts are built from the inside out
and from left to right, and the first refusal ends the building.
-/

namespace Sexpr.Dynamic

/-- How to build an object. -/
inductive Recipe where
  | value (content : Value)
  | atom (token : Value)
  | group (children : List Recipe)
  | groupOf (children : Value)
  | success (node : Recipe)
  | failure (error : Recipe)
  | endOfInput
  | unexpected (token : String) (position : Option Int)
  | abstractError
  | read (scope : Scope) (text : Value)
  | unwrap (result : Recipe)
  | nodeOf (result : Recipe)
  | errorOf (result : Recipe)
  deriving Inhabited

namespace Recipe

mutual

/-- The object of a recipe. -/
def build : Recipe → Except Refusal Object
  | value content => .ok (.value content)
  | atom token => do pure (.node (← makeAtom token))
  | group children => do pure (.node (← makeGroup (← buildAll children)))
  | groupOf children => do pure (.node (← makeGroup ((← children.items).map .value)))
  | success node => do pure (.reading (← makeSuccess (← build node)))
  | failure error => do pure (.reading (← makeFailure (← build error)))
  | endOfInput => .ok (.error .endOfInput)
  | unexpected token position => .ok (.error (.unexpected token position))
  | abstractError => .error .abstractError
  | read scope text => do pure (.reading (← text.read scope).1)
  | unwrap result => do pure (.node (← (← build result).unwrap))
  | nodeOf result => do (← build result).nodeOf
  | errorOf result => do (← build result).errorOf

/-- The objects of recipes in a row. -/
def buildAll : List Recipe → Except Refusal (List Object)
  | [] => .ok []
  | recipe :: rest => do
    let object ← build recipe
    let objects ← buildAll rest
    pure (object :: objects)

end

end Recipe

end Sexpr.Dynamic
