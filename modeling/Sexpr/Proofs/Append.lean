import Sexpr.Proofs.Scanning
import Sexpr.Proofs.Stack
import Sexpr.Reader

/-!
# One text after another

The machine that takes tokens one at a time goes on where the tokens before have left it
(`Stack.feedAll_append`), and the trees that are complete take no part in what follows: they stay
in front of it, and positions are counted on (`Stack.feedAll_above`). So

* tokens after others that are read are read as if they stood alone
  (`Stack.outcome_append_of_ok`);
* a closing token that is not expected stays the error, whatever comes after it
  (`Stack.outcome_append_of_unexpected`).

A space keeps the tokens of two texts apart, so both pass to texts (`Reader.all_append_of_success`).
-/

namespace Sexpr

/-- An error as it is found with further tokens in front. -/
def SyntaxError.shift (count : Int) : SyntaxError → SyntaxError
  | .endOfInput => .endOfInput
  | .unexpected token position => .unexpected token (position.map (count + ·))

namespace Parser

namespace Stack

/-- Takes tokens one list after the other. -/
theorem feedAll_append (left right : List String) :
    ∀ (stack : Stack) (position : Int), stack.feedAll position (left ++ right) =
      (stack.feedAll position left).bind fun next =>
        next.feedAll (position + left.length) right := by
  induction left with
  | nil => intro stack position; simp [feedAll, Except.bind]
  | cons token left ih =>
    intro stack position
    rw [List.cons_append, feedAll, feedAll]
    cases stack.feed token with
    | none => rfl
    | some next =>
      dsimp only
      rw [ih, List.length_cons, Int.natCast_succ, Int.add_assoc, Int.add_comm 1]

/-! ## Complete trees in front -/

/-- A stack with complete trees before its own, latest first. -/
def above (before : List Node) (stack : Stack) : Stack :=
  { stack with nodes := stack.nodes ++ before }

theorem add_above (before : List Node) (stack : Stack) (node : Node) :
    (stack.above before).add node = (stack.add node).above before := by
  obtain ⟨groups, nodes⟩ := stack
  cases groups <;> rfl

/-- A token does the same whatever trees are complete. -/
theorem feed_above (before : List Node) (stack : Stack) (token : String) :
    (stack.above before).feed token = (stack.feed token).map (above before) := by
  obtain ⟨groups, nodes⟩ := stack
  by_cases hc : token = Token.closing
  · subst hc
    cases groups with
    | nil => rfl
    | cons children outer =>
      exact congrArg some (add_above before ⟨outer, nodes⟩ (.group children.reverse))
  by_cases ho : token = Token.opening
  · subst ho
    rfl
  · rw [feed_word ho hc, feed_word ho hc, add_above, Option.map_some]

/-- The end of a run with complete trees and a number of tokens in front. -/
def behind (before : List Node) (count : Int) : Except Int Stack → Except Int Stack
  | .error position => .error (count + position)
  | .ok stack => .ok (stack.above before)

theorem feedAll_above (before : List Node) (count : Int) (tokens : List String) :
    ∀ (stack : Stack) (position : Int), (stack.above before).feedAll (count + position) tokens =
      behind before count (stack.feedAll position tokens) := by
  induction tokens with
  | nil => intro stack position; rfl
  | cons token rest ih =>
    intro stack position
    rw [feedAll, feedAll, feed_above]
    cases stack.feed token with
    | none => rfl
    | some next => rw [Option.map_some, ← ih, Int.add_assoc]

theorem outcome_behind (before : List Node) (count : Int) (run : Except Int Stack) :
    outcome (behind before count run) =
      ((outcome run).map (before.reverse ++ ·)).mapError (SyntaxError.shift count) := by
  cases run with
  | error position => rfl
  | ok stack =>
    obtain ⟨groups, nodes⟩ := stack
    cases groups with
    | nil => exact congrArg Except.ok List.reverse_append
    | cons children outer => rfl

/-- After tokens that are read as trees, the rest is read as if it stood alone. -/
theorem outcome_append_of_ok {left : List String} {nodes : List Node}
    (h : outcome (feedAll {} 0 left) = .ok nodes) (right : List String) :
    outcome (feedAll {} 0 (left ++ right)) =
      ((outcome (feedAll {} 0 right)).map (nodes ++ ·)).mapError
        (SyntaxError.shift left.length) := by
  rw [feedAll_append]
  cases hf : feedAll {} 0 left with
  | error stop => rw [hf] at h; cases h
  | ok last =>
    obtain ⟨groups, before⟩ := last
    rw [hf, outcome] at h
    split at h
    · rename_i hg
      obtain rfl : groups = [] := hg
      obtain rfl := Except.ok.inj h
      have ha := feedAll_above before left.length right {} 0
      rw [Int.add_comm] at ha
      exact (congrArg outcome ha).trans (outcome_behind before left.length _)
    · cases h

/-- A closing token that is not expected is the error whatever comes after it. -/
theorem outcome_append_of_unexpected {left : List String} {token : String} {position : Option Int}
    (h : outcome (feedAll {} 0 left) = .error (.unexpected token position)) (right : List String) :
    outcome (feedAll {} 0 (left ++ right)) = .error (.unexpected token position) := by
  rw [feedAll_append]
  cases hf : feedAll {} 0 left with
  | error stop => rw [hf] at h; exact h
  | ok last =>
    rw [hf, outcome] at h
    split at h <;> cases h

end Stack

/-- Whatever is read is one group. -/
theorem exists_group_of_all {tokens : List String} {node : Node}
    (h : (all tokens).1 = .success node) : ∃ nodes, node = .group nodes := by
  rw [all_eq] at h
  cases ho : Stack.outcome (Stack.feedAll {} 0 tokens) with
  | error error => rw [ho] at h; cases h
  | ok nodes => rw [ho] at h; exact ⟨nodes, (Reading.success.inj h).symm⟩

end Parser

namespace Reader

theorem all_eq_gather (text : String) :
    all text = Parser.gather (Parser.Stack.outcome (Parser.Stack.feedAll {} 0 (Token.scan text))) :=
  congrArg Prod.fst (Parser.all_eq (Token.scan text))

/-- After a text that is read, another one is read as if it stood alone. -/
theorem all_append_of_success {left : String} {nodes : List Node}
    (h : all left = .success (.group nodes)) (right : String) :
    all (left ++ " " ++ right) = Parser.gather
      (((Parser.Stack.outcome (Parser.Stack.feedAll {} 0 (Token.scan right))).map
        (nodes ++ ·)).mapError (SyntaxError.shift (Token.scan left).length)) := by
  rw [all_eq_gather, Parser.gather_eq_success] at h
  rw [all_eq_gather, Token.scan_append_space, Parser.Stack.outcome_append_of_ok h]

/-- The tokens of two texts with a space or a parenthesis between them are those of the one, then
those of the other, and so is what is read: the trees are put together, and an error in a text is
found at the place where it is found in that text alone. -/
theorem scan_all_append (left right : String) :
    Token.scan (left ++ " " ++ right) = Token.scan left ++ Token.scan right ∧
    Token.scan (left ++ "(" ++ right) = Token.scan left ++ ["("] ++ Token.scan right ∧
    Token.scan (left ++ ")" ++ right) = Token.scan left ++ [")"] ++ Token.scan right ∧
    (∀ nodes others, all left = .success (.group nodes) → all right = .success (.group others) →
      all (left ++ " " ++ right) = .success (.group (nodes ++ others))) ∧
    (∀ token position, all left = .failure (.unexpected token position) →
      all (left ++ " " ++ right) = .failure (.unexpected token position)) ∧
    (∀ node token (position : Int), all left = .success node →
      all right = .failure (.unexpected token (some position)) →
      all (left ++ " " ++ right) =
        .failure (.unexpected token (some ((Token.scan left).length + position)))) ∧
    ∀ node, all left = .success node → all right = .failure .endOfInput →
      all (left ++ " " ++ right) = .failure .endOfInput := by
  refine ⟨Token.scan_append_space left right, ?_, ?_, fun nodes others hl hr => ?_,
    fun token position hl => ?_, fun node token position hl hr => ?_, fun node hl hr => ?_⟩
  · rw [List.append_assoc]
    exact Token.scan_append_paren (.inl rfl) left right
  · rw [List.append_assoc]
    exact Token.scan_append_paren (.inr rfl) left right
  · rw [all_eq_gather, Parser.gather_eq_success] at hr
    rw [all_append_of_success hl, hr]
    rfl
  · rw [all_eq_gather, Parser.gather_eq_failure] at hl ⊢
    rw [Token.scan_append_space, Parser.Stack.outcome_append_of_unexpected hl]
  · obtain ⟨nodes, rfl⟩ := Parser.exists_group_of_all hl
    rw [all_eq_gather, Parser.gather_eq_failure] at hr
    rw [all_append_of_success hl, hr]
    rfl
  · obtain ⟨nodes, rfl⟩ := Parser.exists_group_of_all hl
    rw [all_eq_gather, Parser.gather_eq_failure] at hr
    rw [all_append_of_success hl, hr]
    rfl

/-- All four ways in which two texts go together. -/
theorem scan_all_append_each :
    all ("(a) b" ++ " " ++ "c") = .success (.group [.group [.atom "a"], .atom "b", .atom "c"]) ∧
      all ("c)" ++ " " ++ "(a) b") = .failure (.unexpected ")" (some 1)) ∧
      all ("(a) b" ++ " " ++ "c)") = .failure (.unexpected ")" (some 5)) ∧
      all ("(a) b" ++ " " ++ "(c") = .failure .endOfInput := by
  have hab : all "(a) b" = .success (.group [.group [.atom "a"], .atom "b"]) := by
    rw [all_eq_gather]; rfl
  have hc : all "c" = .success (.group [.atom "c"]) := by rw [all_eq_gather]; rfl
  have hs : all "c)" = .failure (.unexpected ")" (some 1)) := by rw [all_eq_gather]; rfl
  have ho : all "(c" = .failure .endOfInput := by rw [all_eq_gather]; rfl
  obtain ⟨-, -, -, hn, -⟩ := scan_all_append "(a) b" "c"
  obtain ⟨-, -, -, -, hu, -⟩ := scan_all_append "c)" "(a) b"
  obtain ⟨-, -, -, -, -, hp, -⟩ := scan_all_append "(a) b" "c)"
  obtain ⟨-, -, -, -, -, -, he⟩ := scan_all_append "(a) b" "(c"
  exact ⟨hn _ _ hab hc, hu _ _ hs, hp _ _ _ hab hs, he _ hab ho⟩

end Reader

end Sexpr
