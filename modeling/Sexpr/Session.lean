import Sexpr.Parser
import Sexpr.Text.Character

/-!
# Interactive sessions

A session reads lines and shows the trees of each entry. An entry is one line, or several lines
until the parentheses balance; its lines are joined with single spaces. A session is a value, and
`Session.step` gives what is printed for one input and the session after it, so that a whole
session is a recursion on its inputs.

Lines that start with a semicolon are comments. `exit` and `quit` leave, and `verbose-mode`
switches the display of tokens on and off.
-/

namespace Sexpr

/-- What a session is given at a prompt; the end of the inputs is the end of the session. -/
inductive Input where
  | line (text : String)
  | interrupt
  deriving DecidableEq, Repr

/-- A session that waits for a line: its format, whether tokens are shown, and the lines of the
entry at hand with the parentheses still open in them. -/
structure Session where
  format : Format
  verbose : Bool
  pending : List String := []
  depth : Int := 0
  deriving DecidableEq, Repr

/-- What a session does on an input: what is printed, what is reported, and the session that goes
on, if it does. -/
structure Response where
  output : String
  log : List Record
  next : Option Session

namespace Session

/-- The greeting of a session. -/
def banner (format : Format) : String :=
  "Lisp REPL [format=" ++ format.name ++ "]. Type 'exit' or 'quit' to leave.\n"

/-- What is printed before a line is read: an entry that goes on has a prompt of its own. -/
def prompt (session : Session) : String :=
  if session.pending.isEmpty then ">>> " else "... "

/-- Lines as they are printed. -/
def printed (lines : List String) : String :=
  String.join (lines.map (· ++ "\n"))

/-- Whether a line is a comment. -/
def isComment (line : String) : Bool :=
  (Text.trimLeft line.toList).head? == some ';'

/-- Whether a line asks to leave. -/
def isFarewell (line : String) : Bool :=
  Text.trim line == "exit" || Text.trim line == "quit"

/-- The session after an entry, with nothing at hand. -/
def fresh (session : Session) : Session :=
  { session with pending := [], depth := 0 }

/-- The lines that show an outcome. -/
def shown (format : Format) : Reading → List String
  | .failure error => ["[error] >>>", format.error error]
  | .success (.group nodes) => nodes.map format.node
  | .success node => [format.node node]

/-- Reads the text of an entry and shows it. -/
def display (session : Session) (text : String) : Response :=
  let tokens := Token.scan text
  let echo := if session.verbose then ["[tokens] >>> " ++ Text.Quoted.listing tokens] else []
  let (reading, log) := Parser.all tokens
  ⟨printed (echo ++ shown session.format reading), log, some session.fresh⟩

/-- Handles a complete entry: nothing, a change of mode, or trees. -/
def entry (session : Session) (lines : List String) : Response :=
  let text := Text.trim (" ".intercalate lines)
  if text = "" then ⟨"", [], some session.fresh⟩
  else if Text.lower text = "verbose-mode" then
    let verbose := !session.verbose
    ⟨printed ["[mode] >>> Verbose mode " ++ (if verbose then "ON" else "OFF")], [],
      some { session.fresh with verbose }⟩
  else session.display text

/-- Handles a line. -/
def accept (session : Session) (line : String) : Response :=
  if isFarewell line && session.pending.isEmpty then ⟨printed ["Exiting Lisp REPL."], [], none⟩
  else if isComment line then ⟨"", [], some session⟩
  else
    let pending := session.pending ++ [line]
    let depth := session.depth + Token.balance line
    if depth ≤ 0 then session.entry pending
    else ⟨"", [], some { session with pending, depth }⟩

/-- Ends a session in the middle of a prompt. -/
def stop : Response :=
  ⟨"\n" ++ printed ["Exiting Lisp REPL."], [], none⟩

/-- Handles an input. -/
def step (session : Session) : Input → Response
  | .line text => session.accept text
  | .interrupt => stop

/-- A prompt, and what was printed and reported after it. -/
structure Turn where
  prompt : String
  output : String
  log : List Record
  deriving DecidableEq

/-- The turns of a session and the number of inputs it never read. -/
structure Transcript where
  turns : List Turn
  unread : Nat

/-- The turn of a session that gave a response. -/
def turn (session : Session) (response : Response) : Turn :=
  ⟨session.prompt, response.output, response.log⟩

/-- Runs a session on inputs, with the end of input after them. -/
def run (session : Session) : List Input → Transcript
  | [] => ⟨[session.turn stop], 0⟩
  | input :: rest =>
    let response := session.step input
    match response.next with
    | none => ⟨[session.turn response], rest.length⟩
    | some next =>
      let transcript := next.run rest
      ⟨session.turn response :: transcript.turns, transcript.unread⟩

/-- Adds one character to the line at hand, which comes first and reversed, or starts a line after
a line feed. -/
def cutLine (lines : List (List Char)) (c : Char) : List (List Char) :=
  match lines with
  | [] => [[c]]
  | line :: before => if c = '\n' then [] :: line :: before else (c :: line) :: before

/-- The lines of a text as inputs. A line feed ends a line, and text after the last one is a line
too. -/
def inputs (text : String) : List Input :=
  let lines :=
    match text.toList.foldl cutLine [[]] with
    | [] :: before => before
    | lines => lines
  lines.reverse.map fun line => .line (String.ofList line.reverse)

end Session

/-- Everything that the turns of a session show, prompts included. -/
def Session.Transcript.output (transcript : Session.Transcript) : String :=
  String.join (transcript.turns.map fun turn => turn.prompt ++ turn.output)

/-- Everything that was reported in a session. -/
def Session.Transcript.log (transcript : Session.Transcript) : List Record :=
  transcript.turns.flatMap (·.log)

end Sexpr
