import Sexpr.Node.Event

/-!
# Equality of trees

Two trees are compared by their signatures, the flat lists of marks that their walks leave, after
two quick checks: their kinds and their numbers of children.
-/

namespace Sexpr

/-- What one event of a walk shows of a tree. -/
inductive Node.Mark where
  | atom (token : String)
  | opening
  | closing
  deriving DecidableEq, Repr

namespace Node

/-- The mark of an event. -/
def Event.mark : Event → Mark
  | .atom token => .atom token
  | .enter _ => .opening
  | .leave => .closing

/-- The marks of a walk. -/
def signature (node : Node) : List Mark :=
  node.walk.map Event.mark

/-- Whether two trees are the same tree. -/
def same : Node → Node → Bool
  | atom left, atom right => left == right
  | group left, group right =>
    if left.length = right.length then (group left).signature == (group right).signature
    else false
  | _, _ => false

/-- What a tree is hashed by. -/
inductive Key where
  | token (token : String)
  | marks (marks : List Mark)
  deriving DecidableEq, Repr

/-- The key of a tree: the token of an atom, the marks of a group. -/
def key (node : Node) : Key :=
  match node with
  | atom token => .token token
  | group _ => .marks node.signature

end Node

end Sexpr
