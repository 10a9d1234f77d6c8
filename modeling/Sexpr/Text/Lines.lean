/-!
# Lines

How a text is cut into lines. Beside line feed and carriage return there are eight more
characters that end a line, and a carriage return with a line feed right after it is one break.
A break at the very end starts no further line.
-/

namespace Sexpr.Text

/-- The characters that end a line. -/
def lineBreaks : List Char :=
  ['\n', '\x0b', '\x0c', '\r', '\x1c', '\x1d', '\x1e', '\x85', '\u2028', '\u2029']

/-- Whether a character ends a line. -/
def isLineBreak (c : Char) : Bool :=
  lineBreaks.contains c

/-! ## One kind of line ending -/

/-- A text being normalised: the reversed result, and whether a carriage return came last. -/
structure Newlines where
  done : List Char := []
  afterReturn : Bool := false

/-- Adds one character: a carriage return becomes a line feed, and a line feed right after one is
dropped. -/
def Newlines.feed (state : Newlines) (c : Char) : Newlines :=
  if c = '\r' then ⟨'\n' :: state.done, true⟩
  else if c = '\n' && state.afterReturn then ⟨state.done, false⟩
  else ⟨c :: state.done, false⟩

/-- A text in which every line feed, carriage return, and pair of the two is one line feed. -/
def normalizeNewlines (text : List Char) : List Char :=
  (text.foldl Newlines.feed {}).done.reverse

/-! ## Cutting -/

/-- A text being cut: the finished lines and the line at hand, both reversed, and whether a
carriage return came last. -/
structure LineCutter where
  lines : List (List Char) := []
  current : List Char := []
  afterReturn : Bool := false

/-- Adds one character to the line at hand, or ends that line. -/
def LineCutter.feed (state : LineCutter) (c : Char) : LineCutter :=
  if c = '\n' && state.afterReturn then { state with afterReturn := false }
  else if isLineBreak c then ⟨state.current.reverse :: state.lines, [], c == '\r'⟩
  else { state with current := c :: state.current, afterReturn := false }

/-- The lines of the text that was fed; text after the last break is a line only if there is
some. -/
def LineCutter.finish (state : LineCutter) : List (List Char) :=
  if state.current.isEmpty then state.lines.reverse
  else (state.current.reverse :: state.lines).reverse

/-- The lines of a text, without their breaks. -/
def lines (text : List Char) : List (List Char) :=
  (text.foldl LineCutter.feed {}).finish

end Sexpr.Text
