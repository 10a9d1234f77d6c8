import Sexpr.Parser

/-!
# Reading text

A text is cut into tokens and the tokens are grouped into trees. What was found at each stage is
reported.
-/

namespace Sexpr

/-- How much of a text is kept: its first tree, or every tree in one group. -/
inductive Scope where
  | first
  | all
  deriving DecidableEq, Repr

namespace Reader

/-- Groups tokens in a scope. -/
def group : Scope → List String → Reading × List Record
  | .first => Parser.first
  | .all => Parser.all

/-- The closing report on an outcome. -/
def verdict : Reading → Record
  | .success node => .parsed node.kind
  | .failure error => .failed error

/-- Reads a text in a scope. -/
def read (scope : Scope) (text : String) : Reading × List Record :=
  let tokens := Token.scan text
  let (reading, log) := group scope tokens
  (reading, .tokenized text.length tokens.length :: (log ++ [verdict reading]))

/-- The first tree of a text. -/
def first (text : String) : Reading :=
  (read .first text).1

/-- Every tree of a text, in one group. -/
def all (text : String) : Reading :=
  (read .all text).1

end Reader

end Sexpr
