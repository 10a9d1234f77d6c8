import Sexpr.Text.Quoted

/-!
# Loosely typed values

Values whose type is known only when they are looked at: what a client hands over where a text, a
tree or a number is expected.
-/

namespace Sexpr.Dynamic

/-- A loosely typed value. A decimal is a whole number divided by a power of ten. -/
inductive Value where
  | null
  | bool (value : Bool)
  | int (value : Int)
  | decimal (digits : Int) (places : Nat)
  | text (value : String)
  | list (items : List Value)
  | mapping (fields : List (String × Value))
  deriving Inhabited

namespace Value

/-- The name of a value's type, as messages give it. -/
def typeName : Value → String
  | null => "NoneType"
  | bool _ => "bool"
  | int _ => "int"
  | decimal _ _ => "float"
  | text _ => "str"
  | list _ => "list"
  | mapping _ => "dict"

/-- A number that a value counts as, over a power of ten; truth counts as one. -/
def number? : Value → Option (Int × Nat)
  | bool value => some (if value then 1 else 0, 0)
  | int value => some (value, 0)
  | decimal digits places => some (digits, places)
  | _ => none

/-- Whether two numbers over powers of ten are equal. -/
def sameNumber (left right : Int × Nat) : Bool :=
  left.1 * Int.ofNat (Nat.pow 10 right.2) == right.1 * Int.ofNat (Nat.pow 10 left.2)

mutual

/-- Whether two values are equal: numbers by value, mappings whatever the order of their
fields. -/
def same : Value → Value → Bool
  | null, null => true
  | text left, text right => left == right
  | list left, list right => sameItems left right
  | mapping left, mapping right => left.length == right.length && sameFields left right
  | left, right =>
    match left.number?, right.number? with
    | some left, some right => sameNumber left right
    | _, _ => false

/-- Whether two lists have equal items in the same order. -/
def sameItems : List Value → List Value → Bool
  | [], [] => true
  | left :: lefts, right :: rights => same left right && sameItems lefts rights
  | _, _ => false

/-- Whether every field has an equal field of the same name among others. -/
def sameFields : List (String × Value) → List (String × Value) → Bool
  | [], _ => true
  | (name, value) :: rest, fields =>
    (match fields.lookup name with
      | some other => same value other
      | none => false) && sameFields rest fields

end

/-- A decimal in positional form, without zeros at its end but with one place at least. -/
def decimalText (digits : Int) (places : Nat) : String :=
  let written := (toString digits.natAbs).toList
  let padded := List.replicate (places + 1 - written.length) '0' ++ written
  let whole := padded.take (padded.length - places)
  let fraction := ((padded.drop (padded.length - places)).reverse.dropWhile (· == '0')).reverse
  (if digits < 0 then "-" else "") ++ String.ofList whole ++ "."
    ++ String.ofList (if fraction.isEmpty then ['0'] else fraction)

mutual

/-- The literal form of a value. -/
def literal : Value → String
  | null => "None"
  | bool value => if value then "True" else "False"
  | int value => toString value
  | decimal digits places => decimalText digits places
  | text value => Text.Quoted.encode value
  | list items => "[" ++ literalItems items ++ "]"
  | mapping fields => "\x7b" ++ literalFields fields ++ "\x7d"

/-- The literal forms of items, with a comma and a space between neighbours. -/
def literalItems : List Value → String
  | [] => ""
  | [item] => literal item
  | item :: next :: rest => literal item ++ ", " ++ literalItems (next :: rest)

/-- The literal forms of fields, with a comma and a space between neighbours. -/
def literalFields : List (String × Value) → String
  | [] => ""
  | [(name, value)] => Text.Quoted.encode name ++ ": " ++ literal value
  | (name, value) :: next :: rest =>
    Text.Quoted.encode name ++ ": " ++ literal value ++ ", " ++ literalFields (next :: rest)

end

/-- A value as it is shown: a text as itself, any other value in its literal form. -/
def shown : Value → String
  | text value => value
  | value => value.literal

end Value

end Sexpr.Dynamic
