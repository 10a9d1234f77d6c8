/-!
# Tokens

Three characters carry structure: the space, which separates tokens, and the two parentheses,
which are tokens by themselves. Every other token is a longest run of other characters, tabs, line
breaks and any further blanks included.
-/

namespace Sexpr.Token

/-- The token that opens a group. -/
def opening : String := "("

/-- The token that closes a group. -/
def closing : String := ")"

/-- The characters that end a run. -/
def structural : List Char := [' ', '(', ')']

/-- Whether a character ends a run. -/
def isStructural (c : Char) : Bool :=
  structural.contains c

/-- A text being cut: the tokens so far, latest first, and the reversed run at hand. -/
structure Scanner where
  tokens : List String := []
  run : List Char := []

/-- Ends the run at hand, which is a token if it holds any characters. -/
def Scanner.flush (scanner : Scanner) : List String :=
  if scanner.run.isEmpty then scanner.tokens
  else String.ofList scanner.run.reverse :: scanner.tokens

/-- Adds one character. -/
def Scanner.feed (scanner : Scanner) (c : Char) : Scanner :=
  if !isStructural c then { scanner with run := c :: scanner.run }
  else if c = ' ' then ⟨scanner.flush, []⟩
  else ⟨String.singleton c :: scanner.flush, []⟩

/-- The tokens of the text that was fed, in the order of the text. -/
def Scanner.finish (scanner : Scanner) : List String :=
  scanner.flush.reverse

/-- The tokens of a text. -/
def scan (text : String) : List String :=
  (text.toList.foldl Scanner.feed {}).finish

/-- How many more opening than closing parentheses a text holds. -/
def balance (text : String) : Int :=
  (text.toList.count '(' : Int) - (text.toList.count ')' : Int)

end Sexpr.Token
