/-!
# Indexing from both ends

An item of a sequence is asked for by an integer: from zero on it counts from the front, below
zero from the end, where `-1` is the last item.
-/

namespace Sexpr

/-- Why an index leads to no item. An index that does not fit into sixty-four bits is refused
whatever the sequence. -/
inductive IndexError where
  | outOfRange
  | tooLarge
  deriving DecidableEq, Repr

/-- The message of an error. -/
def IndexError.message : IndexError → String
  | .outOfRange => "tuple index out of range"
  | .tooLarge => "cannot fit 'int' into an index-sized integer"

/-- The first whole number that a signed number of sixty-four bits cannot hold. -/
def indexBound : Int := 9223372036854775808

/-- Whether an index fits into sixty-four bits. -/
def fitsIndex (index : Int) : Bool :=
  -indexBound ≤ index && index < indexBound

/-- The distance from the front that an index stands for, if it is not before the front. -/
def offset? (length : Nat) (index : Int) : Option Nat :=
  if 0 ≤ index then some index.toNat
  else if 0 ≤ index + length then some (index + length).toNat
  else none

/-- The item at an index. -/
def itemAt (items : List α) (index : Int) : Except IndexError α :=
  if !fitsIndex index then .error .tooLarge
  else
    match (offset? items.length index).bind fun offset => items[offset]? with
    | some item => .ok item
    | none => .error .outOfRange

end Sexpr
