import Sexpr.Record

/-!
# Grouping tokens

Tokens are grouped into trees by their parentheses. `Parser.datum` reads one tree with a stack of
the groups that are open; `Parser.data` reads trees until the tokens end or one fails. The two
entry points are `Parser.first`, which keeps the first tree and checks the rest, and `Parser.all`,
which keeps every tree in one group.

Any other token than the two parentheses is an atom, whatever characters it holds.
-/

namespace Sexpr.Parser

/-- The end of reading one tree: the outcome, the position and the tokens after it, and what was
reported. -/
structure Step where
  reading : Reading
  position : Int
  rest : List String
  log : List Record := []

/-- Reads one tree. The groups that are open come innermost first, each with its children so far
in reverse. A closing token with no group open is left in place, and so is the end of the tokens.
An opening token with a closing one right after it is an empty group at once. -/
def datum (groups : List (List Node)) (position : Int) : List String → Step
  | [] => ⟨.failure .endOfInput, position, [], []⟩
  | token :: rest =>
    if token = Token.closing then
      match groups with
      | [] =>
        ⟨.failure (.unexpected token (some position)), position, token :: rest, [.stray position]⟩
      | [children] => ⟨.success (.group children.reverse), position + 1, rest, []⟩
      | children :: siblings :: outer =>
        datum ((.group children.reverse :: siblings) :: outer) (position + 1) rest
    else if token ≠ Token.opening then
      match groups with
      | [] => ⟨.success (.atom token), position + 1, rest, []⟩
      | siblings :: outer => datum ((.atom token :: siblings) :: outer) (position + 1) rest
    else
      match rest with
      | [] => datum ([] :: groups) (position + 1) []
      | next :: after =>
        if next = Token.closing then
          match groups with
          | [] => ⟨.success (.group []), position + 2, after, []⟩
          | siblings :: outer => datum ((.group [] :: siblings) :: outer) (position + 2) after
        else datum ([] :: groups) (position + 1) (next :: after)

/-- Reading a tree uses up at least one token. -/
theorem length_rest_lt {groups : List (List Node)} {position : Int} {tokens : List String}
    {node : Node} (h : (datum groups position tokens).reading = .success node) :
    (datum groups position tokens).rest.length < tokens.length := by
  fun_induction datum groups position tokens <;> simp_all <;> omega

/-- The end of reading trees in a row: those read, the error that stopped it, and what was
reported. -/
structure Run where
  nodes : List Node
  error : Option SyntaxError
  log : List Record

/-- Reads trees until the tokens end or a tree fails, given those read before in reverse and what
was reported before. -/
def data (nodes : List Node) (log : List Record) (position : Int) (tokens : List String) : Run :=
  if tokens.isEmpty then ⟨nodes.reverse, none, log⟩
  else
    let step := datum [] position tokens
    match _h : step.reading with
    | .failure error => ⟨nodes.reverse, some error, log ++ step.log⟩
    | .success node => data (node :: nodes) (log ++ step.log) step.position step.rest
termination_by tokens.length
decreasing_by exact length_rest_lt _h

/-- Reads the first tree. The tokens after it are read too, so that an error anywhere is found;
how many trees they hold is reported. -/
def first (tokens : List String) : Reading × List Record :=
  let step := datum [] 0 tokens
  match step.reading with
  | .failure error => (.failure error, step.log)
  | .success node =>
    let run := data [] step.log step.position step.rest
    match run.error with
    | some error => (.failure error, run.log)
    | none =>
      (.success node,
        if run.nodes.isEmpty then run.log else run.log ++ [.ignored run.nodes.length])

/-- Reads every tree, into one group. -/
def all (tokens : List String) : Reading × List Record :=
  let run := data [] [] 0 tokens
  match run.error with
  | some error => (.failure error, run.log)
  | none => (.success (.group run.nodes), run.log)

end Sexpr.Parser
