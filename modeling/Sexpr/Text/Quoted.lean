import Sexpr.Text.Character
import Sexpr.Text.Printable

/-!
# Quoted text

The unambiguous written form of a text, used in error messages and in the notation of trees. A
text stands between two equal delimiters: single quotes, unless it holds a single quote and no
double quote. The backslash and the delimiter are written with a backslash before them, line
feed, carriage return and tab by their letters, any other character that is not printable by its
code point in hexadecimal, and every other character as itself.
-/

namespace Sexpr.Text.Quoted

/-- The single quote. -/
def single : Char := '\x27'

/-- The double quote. -/
def double : Char := '\x22'

/-- Double quotes only when that saves an escape: a single quote inside, and no double quote. -/
def delimiter (text : List Char) : Char :=
  if text.contains single && !text.contains double then double else single

/-- A code point as the shortest of the three numeric escapes that can hold it. -/
def numeric (code : Nat) : List Char :=
  if code < 0x100 then '\\' :: 'x' :: hexDigits 2 code
  else if code < 0x10000 then '\\' :: 'u' :: hexDigits 4 code
  else '\\' :: 'U' :: hexDigits 8 code

/-- The written form of one character between the given delimiters. -/
def escape (delimiter c : Char) : List Char :=
  if c = delimiter ∨ c = '\\' then ['\\', c]
  else if c = '\n' then ['\\', 'n']
  else if c = '\r' then ['\\', 'r']
  else if c = '\t' then ['\\', 't']
  else if isPrintable c then [c]
  else numeric c.toNat

/-- The quoted form of a list of characters. -/
def encodeChars (text : List Char) : List Char :=
  let quote := delimiter text
  quote :: (text.flatMap (escape quote) ++ [quote])

/-- The quoted form of a text. -/
def encode (text : String) : String :=
  String.ofList (encodeChars text.toList)

/-- Quoted texts in square brackets, with a comma and a space between neighbours. -/
def listing (texts : List String) : String :=
  "[" ++ ", ".intercalate (texts.map encode) ++ "]"

end Sexpr.Text.Quoted
