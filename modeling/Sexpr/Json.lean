import Sexpr.Text.Character

/-!
# JSON documents

JSON values with objects whose fields keep their order, and their one written form: fields and
items are divided by a comma and a space, a name and its value by a colon and a space, and texts
hold printable ASCII only.
-/

namespace Sexpr

/-- A JSON value. -/
inductive Json where
  | null
  | number (value : Int)
  | text (value : String)
  | array (items : List Json)
  | object (fields : List (String × Json))
  deriving Inhabited

namespace Json

/-- A code unit of sixteen bits as an escape. -/
def escapeUnit (unit : Nat) : List Char :=
  '\\' :: 'u' :: Text.hexDigits 4 unit

/-- A character as one escaped code unit, or as a surrogate pair past the basic plane. -/
def escapeCode (code : Nat) : List Char :=
  if code < 0x10000 then escapeUnit code
  else
    escapeUnit (0xd800 + (code - 0x10000) / 0x400) ++
      escapeUnit (0xdc00 + (code - 0x10000) % 0x400)

/-- The written form of a character inside a text. -/
def escape (c : Char) : List Char :=
  if c = '\x22' ∨ c = '\\' then ['\\', c]
  else if c = '\n' then ['\\', 'n']
  else if c = '\r' then ['\\', 'r']
  else if c = '\t' then ['\\', 't']
  else if c = '\x08' then ['\\', 'b']
  else if c = '\x0c' then ['\\', 'f']
  else if 0x20 ≤ c.toNat ∧ c.toNat ≤ 0x7e then [c]
  else escapeCode c.toNat

/-- The written form of a text. -/
def quote (value : String) : String :=
  String.ofList ('\x22' :: (value.toList.flatMap escape ++ ['\x22']))

mutual

/-- The written form of a value. -/
def print : Json → String
  | null => "null"
  | number value => toString value
  | text value => quote value
  | array items => "[" ++ printItems items ++ "]"
  | object fields => "\x7b" ++ printFields fields ++ "\x7d"

/-- The items of an array, with a comma and a space between neighbours. -/
def printItems : List Json → String
  | [] => ""
  | [item] => print item
  | item :: next :: rest => print item ++ ", " ++ printItems (next :: rest)

/-- The fields of an object, with a comma and a space between neighbours. -/
def printFields : List (String × Json) → String
  | [] => ""
  | [(name, value)] => quote name ++ ": " ++ print value
  | (name, value) :: next :: rest =>
    quote name ++ ": " ++ print value ++ ", " ++ printFields (next :: rest)

end

end Json

end Sexpr
