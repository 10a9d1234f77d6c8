import Sexpr.Files
import Sexpr.Record
import Sexpr.Text.Lines

/-!
# Sources

The text to read is given as it stands, or by the path of a file. Only files whose name ends in
`.lisp` are read. A line break would stand inside a token, so the lines of a file are joined with
single spaces.
-/

namespace Sexpr

/-- Why there is no text to read, or nowhere to write. -/
inductive Fault where
  | unsupported
  | unusable (path : String) (error : PathError)
  | malformed (fault : Text.Utf8.Malformed)
  | unknownFormat (target : String)
  deriving DecidableEq

/-- The message of a fault. -/
def Fault.message : Fault → String
  | .unsupported => "Only .lisp files are supported."
  | .unusable path error => error.message path
  | .malformed fault => fault.message
  | .unknownFormat target => Format.unknownMessage target

namespace Source

/-- The ending of the names of files that are read. -/
def extension : String := ".lisp"

/-- The lines of the characters of a file, whatever its line endings. -/
def linesOf (text : List Char) : List String :=
  (Text.lines (Text.normalizeNewlines text)).map String.ofList

/-- The lines of the file at a path. -/
def load (files : Files) (path : String) : Except Fault (List String) :=
  if !extension.toList.isSuffixOf path.toList then .error .unsupported
  else
    match files.read path with
    | .error error => .error (.unusable path error)
    | .ok bytes =>
      match Text.Utf8.decode bytes with
      | .error fault => .error (.malformed fault)
      | .ok text => .ok (linesOf text)

/-- The text of a source and what was reported: the source itself if it is literal, else the lines
of the file that it names. -/
def text (files : Files) (source : String) (literal : Bool) :
    Except Fault (String × List Record) :=
  if literal then .ok (source, [])
  else do
    let lines ← load files source
    pure (" ".intercalate lines, [.loaded lines.length source])

end Source

end Sexpr
