import Sexpr.Token

/-!
# Trees

A tree is an atom, which holds one token, or a group of trees. The parentheses of a group are not
in the tree; `Node.unparse` writes the tokens of a tree with them.
-/

namespace Sexpr

/-- A tree of tokens. -/
inductive Node where
  | atom (token : String)
  | group (children : List Node)
  deriving Inhabited

/-- The two kinds of tree. -/
inductive Node.Kind where
  | atom
  | group
  deriving DecidableEq, Repr

namespace Node

/-- The kind of a tree. -/
def kind : Node → Kind
  | atom _ => .atom
  | group _ => .group

/-- The label of a kind in written trees. -/
def Kind.label : Kind → String
  | .atom => "atom"
  | .group => "group"

/-- The name of a kind in messages. -/
def Kind.name : Kind → String
  | .atom => "Atom"
  | .group => "Group"

mutual

/-- The tokens of a tree. -/
def unparse : Node → List String
  | atom token => [token]
  | group children => Token.opening :: (unparseAll children ++ [Token.closing])

/-- The tokens of trees in a row. -/
def unparseAll : List Node → List String
  | [] => []
  | node :: rest => unparse node ++ unparseAll rest

end

end Node

end Sexpr
