import Sexpr.Node.Basic

/-!
# Walking a tree

A walk reports a tree from left to right as flat events, so that trees of any depth are handled
with a stack of pending siblings. `Node.walk` runs on that stack; `Node.events` is the same order
by recursion.
-/

namespace Sexpr

/-- One step of a walk. -/
inductive Node.Event where
  | atom (token : String)
  | enter (children : List Node)
  | leave
  deriving Inhabited

namespace Node

/-- Walks on from a stack of siblings still to be visited, innermost first, given the events so
far in reverse. A level that runs out closes its group, except the last, which is no group. -/
def walkFrom (done : List Event) : List (List Node) → List Event
  | [] => done.reverse
  | [] :: [] => done.reverse
  | [] :: level :: stack => walkFrom (.leave :: done) (level :: stack)
  | (atom token :: siblings) :: stack => walkFrom (.atom token :: done) (siblings :: stack)
  | (group children :: siblings) :: stack =>
    walkFrom (.enter children :: done) (children :: siblings :: stack)

/-- The events of a tree, found without recursion on the tree. -/
def walk (node : Node) : List Event :=
  walkFrom [] [[node]]

mutual

/-- The events of a tree. -/
def events : Node → List Event
  | atom token => [.atom token]
  | group children => .enter children :: (eventsAll children ++ [.leave])

/-- The events of trees in a row. -/
def eventsAll : List Node → List Event
  | [] => []
  | node :: rest => events node ++ eventsAll rest

end

end Node

end Sexpr
