import Sexpr.Indexing
import Sexpr.Parser

/-!
# Cursors

A cursor is a position in a list of tokens from which trees are read one by one. The position is
any integer: past the end there is nothing more to read, and below zero it counts from the end, so
that reading goes on at the front after the last token.
-/

namespace Sexpr

/-- A position in a list of tokens. -/
structure Cursor where
  tokens : List String
  position : Int := 0

namespace Cursor

/-- Whether nothing is left to read. -/
def atEnd (cursor : Cursor) : Bool :=
  (cursor.tokens.length : Int) ≤ cursor.position

/-- The token at a distance from the position; there is none past the end. -/
def peek (cursor : Cursor) (offset : Int) : Except IndexError (Option String) :=
  let index := cursor.position + offset
  if index < cursor.tokens.length then some <$> itemAt cursor.tokens index else .ok none

/-- The token at the position. -/
def current (cursor : Cursor) : Except IndexError (Option String) :=
  cursor.peek 0

/-- The cursor moved by a distance. -/
def advance (cursor : Cursor) (count : Int) : Cursor :=
  { cursor with position := cursor.position + count }

/-- The tokens that reading meets from the position on. -/
def upcoming (cursor : Cursor) : Except IndexError (List String) :=
  if 0 ≤ cursor.position then .ok (cursor.tokens.drop cursor.position.toNat)
  else do
    discard cursor.current
    pure (cursor.tokens.drop (cursor.tokens.length + cursor.position).toNat ++ cursor.tokens)

/-- Reads one tree and moves past it. -/
def datum (cursor : Cursor) : Except IndexError (Parser.Step × Cursor) := do
  let step := Parser.datum [] cursor.position (← cursor.upcoming)
  pure (step, { cursor with position := step.position })

end Cursor

end Sexpr
