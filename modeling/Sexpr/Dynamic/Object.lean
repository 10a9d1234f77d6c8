import Sexpr.Cursor
import Sexpr.Dynamic.Refusal
import Sexpr.Node.Document
import Sexpr.Reader

/-!
# Objects

An object is a tree, a syntax error, an outcome, or a loosely typed value. The operations here
check what they are given and refuse what does not fit, in the order in which their parts are
looked at.
-/

namespace Sexpr.Dynamic

/-- Anything that an operation can be given. -/
inductive Object where
  | value (content : Value)
  | node (tree : Node)
  | error (cause : SyntaxError)
  | reading (outcome : Reading)
  deriving Inhabited

namespace Object

/-- The name of an object's type, as messages give it. -/
def typeName : Object → String
  | value content => content.typeName
  | node tree => tree.kind.name
  | error cause => cause.name
  | reading (.success _) => "ParseSuccess"
  | reading (.failure _) => "ParseFailure"

/-- The literal form of an object. -/
def literal : Object → String
  | value content => content.literal
  | node tree => tree.literal
  | error cause => cause.literal
  | reading outcome => outcome.literal

/-- An object as it is shown. -/
def shown : Object → String
  | value content => content.shown
  | node tree => tree.listing
  | error cause => cause.describe
  | reading outcome => outcome.listing

/-- Whether two objects are equal. Objects of different types never are. -/
def same : Object → Object → Bool
  | value left, value right => left.same right
  | node left, node right => left.same right
  | error left, error right => left.same right
  | reading left, reading right => left.same right
  | _, _ => false

/-- What an object other than a value is hashed by. -/
inductive Key where
  | node (key : Node.Key)
  | error (key : SyntaxError.Key)
  | reading (key : Reading.Key)
  deriving DecidableEq

/-- The key of an object. -/
def key? : Object → Option Key
  | value _ => none
  | node tree => some (.node tree.key)
  | error cause => some (.error cause.key)
  | reading outcome => some (.reading outcome.key)

/-! ## Parts of objects -/

/-- The refusal of an object that lacks a part. -/
def lacks (object : Object) (member : String) : Refusal :=
  .noMember object.typeName member

/-- The tree in an object, where a tree is expected and some part of it is needed. -/
def toNode (object : Object) (member : String) : Except Refusal Node :=
  match object with
  | node tree => .ok tree
  | _ => .error (object.lacks member)

/-- The outcome in an object. -/
def toReading (object : Object) (member : String) : Except Refusal Reading :=
  match object with
  | reading outcome => .ok outcome
  | _ => .error (object.lacks member)

/-- The token of an atom or of an error. -/
def token (object : Object) : Except Refusal String :=
  match object with
  | node (.atom token) => .ok token
  | error (.unexpected token _) => .ok token
  | _ => .error (object.lacks "token")

/-- The syntax error in an object. -/
def toError (object : Object) : Except Refusal SyntaxError :=
  match object with
  | error cause => .ok cause
  | _ => .error (object.lacks "describe")

/-- The tree of a successful outcome. -/
def unwrap (object : Object) : Except Refusal Node := do
  match ← object.toReading "unwrap" with
  | .success tree => .ok tree
  | .failure cause => .error (.unwrapped cause)

/-- The tree of an outcome, or the null value. -/
def nodeOf (object : Object) : Except Refusal Object := do
  match ← object.toReading "node" with
  | .success tree => .ok (.node tree)
  | .failure _ => .ok (.value .null)

/-- The error of an outcome, or the null value. -/
def errorOf (object : Object) : Except Refusal Object := do
  match ← object.toReading "error" with
  | .success _ => .ok (.value .null)
  | .failure cause => .ok (.error cause)

/-- The number of children of a group. -/
def size (object : Object) : Except Refusal Nat :=
  match object with
  | node (.group children) => .ok children.length
  | _ => .error (.noLength object.typeName)

/-- The child of a group at an index. Truth values count as one and zero. -/
def child (object : Object) (index : Value) : Except Refusal Node :=
  match object with
  | node (.group children) =>
    let found (index : Int) : Except Refusal Node :=
      match itemAt children index with
      | .ok child => .ok child
      | .error cause => .error (.index cause)
    match index with
    | .int index => found index
    | .bool index => found (if index then 1 else 0)
    | other => .error (.badIndex other.typeName)
  | _ => .error (.notIndexable object.typeName)

/-- The JSON value of a tree. -/
def document (object : Object) : Except Refusal Json := do
  pure ((← object.toNode "to_dict").toJson?.getD .null)

/-- The events of a walk. The null value ends a walk before it starts. -/
def walk (object : Object) : Except Refusal (List Node.Event) :=
  match object with
  | value .null => .ok []
  | _ => do pure (← object.toNode "children").walk

end Object

/-! ## Checked operations -/

namespace Value

/-- A text to be read. -/
def toSource : Value → Except Refusal String
  | text value => .ok value
  | other => .error (.wrongType .sourceText other.typeName)

/-- The items of a value that can be gone through: those of a list, the characters of a text, the
names of a mapping. -/
def items : Value → Except Refusal (List Value)
  | list items => .ok items
  | text value => .ok (value.toList.map fun c => text (String.singleton c))
  | mapping fields => .ok (fields.map fun field => text field.1)
  | other => .error (.notIterable other.typeName)

/-- A list of tokens. -/
def toTokens (value : Value) : Except Refusal (List String) :=
  match value with
  | text _ => .error .tokensAreText
  | _ => do
    (← value.items).mapM fun item =>
      match item with
      | text token => .ok token
      | other => .error (.wrongType .tokenItem other.typeName)

/-- The tokens of a value that should be a text. -/
def scan (value : Value) : Except Refusal (List String) := do
  pure (Token.scan (← value.toSource))

/-- Reads a value that should be a text. -/
def read (value : Value) (scope : Scope) : Except Refusal (Reading × List Record) := do
  pure (Reader.read scope (← value.toSource))

/-- Whether a value is one of the structural characters. -/
def isStructural : Value → Except Refusal Bool
  | text value => .ok (Token.structural.any fun c => value == String.singleton c)
  | list items => .error (.unhashable (list items).typeName)
  | mapping fields => .error (.unhashable (mapping fields).typeName)
  | _ => .ok false

/-- The balance of parentheses of a value that should be a text. -/
def balance : Value → Except Refusal Int
  | text value => .ok (Token.balance value)
  | other => .error (.noMember other.typeName "count")

/-- The name of a format. -/
def toTarget : Value → Except Refusal String
  | text value => .ok value
  | other => .error (.noMember other.typeName "lower")

end Value

/-- An atom. -/
def makeAtom : Value → Except Refusal Node
  | .text token => .ok (.atom token)
  | other => .error (.wrongType .atomToken other.typeName)

/-- A group. -/
def makeGroup (children : List Object) : Except Refusal Node := do
  let nodes ← children.mapM fun child =>
    match child with
    | .node node => .ok node
    | other => .error (.wrongType .groupChild other.typeName)
  pure (.group nodes)

/-- A successful outcome. -/
def makeSuccess : Object → Except Refusal Reading
  | .node node => .ok (.success node)
  | other => .error (.wrongType .successNode other.typeName)

/-- A failed outcome. -/
def makeFailure : Object → Except Refusal Reading
  | .error error => .ok (.failure error)
  | other => .error (.wrongType .failureError other.typeName)

/-- Outcomes to be shown. -/
def toReadings (objects : List Object) : Except Refusal (List Reading) :=
  objects.mapM fun object =>
    match object with
    | .reading reading => .ok reading
    | _ => .error .notReadings

end Sexpr.Dynamic
