import Sexpr.Node.Equality
import Sexpr.Node.Layout

/-!
# Readings

Reading tokens gives a tree or a syntax error. The position of an error tells where it was found
and takes no part in equality.
-/

namespace Sexpr

/-- Why tokens are not the tokens of a tree. -/
inductive SyntaxError where
  | endOfInput
  | unexpected (token : String) (position : Option Int)
  deriving DecidableEq

namespace SyntaxError

/-- The name of a cause. -/
def name : SyntaxError → String
  | endOfInput => "UnexpectedEndOfInput"
  | unexpected _ _ => "UnexpectedToken"

/-- The message of an error. -/
def describe : SyntaxError → String
  | endOfInput => "Unexpected end of input"
  | unexpected token none => "Unexpected token " ++ Text.Quoted.encode token
  | unexpected token (some position) =>
    "Unexpected token " ++ Text.Quoted.encode token ++ " at position " ++ toString position

/-- The literal form of an error. -/
def literal : SyntaxError → String
  | endOfInput => "UnexpectedEndOfInput()"
  | unexpected token none => "UnexpectedToken(" ++ Text.Quoted.encode token ++ ")"
  | unexpected token (some position) =>
    "UnexpectedToken(" ++ Text.Quoted.encode token ++ ", position=" ++ toString position ++ ")"

/-- Whether two errors have the same cause and token, wherever they were found. -/
def same : SyntaxError → SyntaxError → Bool
  | endOfInput, endOfInput => true
  | unexpected left _, unexpected right _ => left == right
  | _, _ => false

/-- What an error is hashed by. -/
inductive Key where
  | endOfInput
  | unexpected (token : String)
  deriving DecidableEq

/-- The key of an error. -/
def key : SyntaxError → Key
  | endOfInput => .endOfInput
  | unexpected token _ => .unexpected token

end SyntaxError

/-- The outcome of reading: a tree, or the first error. -/
inductive Reading where
  | success (node : Node)
  | failure (error : SyntaxError)
  deriving Inhabited

namespace Reading

/-- Whether a tree was read. -/
def isSuccess : Reading → Bool
  | success _ => true
  | failure _ => false

/-- The tree, if one was read. -/
def node? : Reading → Option Node
  | success node => some node
  | failure _ => none

/-- The error, if no tree was read. -/
def error? : Reading → Option SyntaxError
  | success _ => none
  | failure error => some error

/-- The listing of the tree, or the message of the error. -/
def listing : Reading → String
  | success node => node.listing
  | failure error => error.describe

/-- The literal form of an outcome. -/
def literal : Reading → String
  | success node => "ParseSuccess(" ++ node.literal ++ ")"
  | failure error => "ParseFailure(" ++ error.literal ++ ")"

/-- Whether two outcomes are the same tree or errors of the same cause and token. -/
def same : Reading → Reading → Bool
  | success left, success right => left.same right
  | failure left, failure right => left.same right
  | _, _ => false

/-- What an outcome is hashed by. -/
inductive Key where
  | success (key : Node.Key)
  | failure (key : SyntaxError.Key)
  deriving DecidableEq

/-- The key of an outcome. -/
def key : Reading → Key
  | success node => .success node.key
  | failure error => .failure error.key

end Reading

end Sexpr
