import Sexpr.Parser

/-!
# Grouping tokens one at a time

`Parser.datum` reads one tree, with a shortcut for an empty group, and `Parser.data` starts it
again after each tree. Here both are one machine that takes a token at a time: a `Parser.Stack`
holds the trees that are complete beside the groups that are open, and `Stack.feed` gives the next
stack, or none at a closing token with no group open.

* `datum_opening`, `datum_closing`, `datum_word`: reading a tree, token by token, where the
  shortcut is no case of its own;
* `Stack.resume_cons`: so is reading trees in a row, from the middle of a tree too;
* `all_eq`: every token is fed in its order (`Stack.feedAll`), and what is left of the stack
  decides the outcome;
* `first_cases`: the first tree is the head of all trees, and an error after it is the error of
  both; `first_eq_cases` says the same of the reports.
-/

namespace Sexpr.Parser

/-! ## Reading one tree -/

/-- What follows when a tree is complete: it is the outcome if no group is open, else it joins the
innermost one. -/
def settle (node : Node) (groups : List (List Node)) (position : Int) (rest : List String) : Step :=
  match groups with
  | [] => ⟨.success node, position, rest, []⟩
  | siblings :: outer => datum ((node :: siblings) :: outer) position rest

theorem closing_ne_opening : Token.closing ≠ Token.opening := by decide

theorem datum_nil (groups : List (List Node)) (position : Int) :
    datum groups position [] = ⟨.failure .endOfInput, position, [], []⟩ := by
  rw [datum]

theorem datum_stray (position : Int) (rest : List String) :
    datum [] position (Token.closing :: rest) =
      ⟨.failure (.unexpected Token.closing (some position)), position, Token.closing :: rest,
        [.stray position]⟩ := by
  rw [datum.eq_def]
  simp

theorem datum_closing (children : List Node) (outer : List (List Node)) (position : Int)
    (rest : List String) :
    datum (children :: outer) position (Token.closing :: rest) =
      settle (.group children.reverse) outer (position + 1) rest := by
  rw [datum.eq_def]
  cases outer <;> simp [settle]

theorem datum_word {token : String} (ho : token ≠ Token.opening) (hc : token ≠ Token.closing)
    (groups : List (List Node)) (position : Int) (rest : List String) :
    datum groups position (token :: rest) =
      settle (.atom token) groups (position + 1) rest := by
  rw [datum.eq_def]
  cases groups <;> simp [settle, ho, hc]

/-- An opening token opens a group, also if a closing one follows at once. -/
theorem datum_opening (groups : List (List Node)) (position : Int) (rest : List String) :
    datum groups position (Token.opening :: rest) = datum ([] :: groups) (position + 1) rest := by
  rw [datum.eq_def]
  simp only [closing_ne_opening.symm, ite_false, ne_eq, not_true_eq_false]
  cases rest with
  | nil => rfl
  | cons next after =>
    by_cases hc : next = Token.closing
    -- The shortcut: closing the group that was just opened gives the same tree.
    · subst hc
      rw [datum_closing, List.reverse_nil, Int.add_assoc]
      simp only [ite_true]
      cases groups <;> rfl
    · simp only [hc, ite_false]

/-! ## The machine -/

/-- Trees being read: the groups that are open, innermost first, and the complete trees, latest
first. The children of an open group come latest first too. -/
structure Stack where
  groups : List (List Node) := []
  nodes : List Node := []

namespace Stack

/-- Adds a complete tree to the innermost open group, or to the complete trees. -/
def add (stack : Stack) (node : Node) : Stack :=
  match stack.groups with
  | [] => { stack with nodes := node :: stack.nodes }
  | siblings :: outer => { stack with groups := (node :: siblings) :: outer }

/-- Takes one token. There is no next stack after a closing token with no group open. -/
def feed (stack : Stack) (token : String) : Option Stack :=
  if token = Token.closing then
    match stack.groups with
    | [] => none
    | children :: outer => some ({ stack with groups := outer }.add (.group children.reverse))
  else if token = Token.opening then some { stack with groups := [] :: stack.groups }
  else some (stack.add (.atom token))

/-- Takes tokens from a position on: the last stack, or the position of the first closing token
with no group open. -/
def feedAll (stack : Stack) (position : Int) : List String → Except Int Stack
  | [] => .ok stack
  | token :: rest =>
    match stack.feed token with
    | none => .error position
    | some next => next.feedAll (position + 1) rest

/-- What a run of the machine means: an error at a position, or trees if no group is left open. -/
def outcome : Except Int Stack → Except SyntaxError (List Node)
  | .error position => .error (.unexpected Token.closing (some position))
  | .ok stack => if stack.groups = [] then .ok stack.nodes.reverse else .error .endOfInput

/-- What a run of the machine reports. -/
def report : Except Int Stack → List Record
  | .error position => [.stray position]
  | .ok _ => []

@[simp] theorem feed_closing_cons (children : List Node) (outer : List (List Node))
    (nodes : List Node) :
    feed ⟨children :: outer, nodes⟩ Token.closing =
      some (add ⟨outer, nodes⟩ (.group children.reverse)) := rfl

@[simp] theorem feed_opening (stack : Stack) :
    stack.feed Token.opening = some { stack with groups := [] :: stack.groups } := rfl

theorem feed_word {token : String} (ho : token ≠ Token.opening) (hc : token ≠ Token.closing)
    (stack : Stack) : stack.feed token = some (stack.add (.atom token)) := by
  simp [feed, ho, hc]

theorem feed_eq_none {stack : Stack} {token : String} (h : stack.feed token = none) :
    token = Token.closing ∧ stack.groups = [] := by
  by_cases hc : token = Token.closing
  · subst hc
    obtain ⟨groups, nodes⟩ := stack
    cases groups with
    | nil => exact ⟨rfl, rfl⟩
    | cons children outer => cases h
  by_cases ho : token = Token.opening
  · subst ho
    cases h
  · cases (feed_word ho hc stack).symm.trans h

/-- What one token can do: open a group, complete the innermost one, or add an atom. -/
theorem feed_cases {stack next : Stack} {token : String} (h : stack.feed token = some next) :
    (token = Token.opening ∧ next = { stack with groups := [] :: stack.groups }) ∨
    (∃ children outer nodes, token = Token.closing ∧ stack = ⟨children :: outer, nodes⟩ ∧
      next = add ⟨outer, nodes⟩ (.group children.reverse)) ∨
    (token ≠ Token.opening ∧ token ≠ Token.closing ∧ next = stack.add (.atom token)) := by
  by_cases hc : token = Token.closing
  · subst hc
    obtain ⟨groups, nodes⟩ := stack
    cases groups with
    | nil => cases h
    | cons children outer =>
      exact .inr (.inl ⟨children, outer, nodes, rfl, rfl, (Option.some.inj h).symm⟩)
  by_cases ho : token = Token.opening
  · subst ho
    exact .inl ⟨rfl, (Option.some.inj h).symm⟩
  · have hw := Option.some.inj (h.symm.trans (feed_word ho hc stack))
    exact .inr (.inr ⟨ho, hc, hw⟩)

/-- What holds of the last stack with no tokens left and passes back over every token that is taken
holds of the first stack with all of them. -/
@[elab_as_elim]
theorem feedAll_ok_induction {motive : Stack → List String → Prop} {last : Stack}
    (nil : motive last [])
    (cons : ∀ {stack next token rest}, stack.feed token = some next → motive next rest →
      motive stack (token :: rest)) :
    ∀ {tokens stack position}, feedAll stack position tokens = .ok last → motive stack tokens
  | [], stack, position, h => by
    obtain rfl := Except.ok.inj h
    exact nil
  | token :: rest, stack, position, h => by
    rw [feedAll] at h
    cases hf : stack.feed token with
    | none => rw [hf] at h; cases h
    | some next =>
      rw [hf] at h
      exact cons hf (feedAll_ok_induction nil cons h)

end Stack

/-! ## Reading trees in a row -/

/-- How reading trees in a row goes on after one of them. -/
def conclude (nodes : List Node) (log : List Record) (step : Step) : Run :=
  match step.reading with
  | .failure error => ⟨nodes.reverse, some error, log ++ step.log⟩
  | .success node => data (node :: nodes) (log ++ step.log) step.position step.rest

theorem data_nil (nodes : List Node) (log : List Record) (position : Int) :
    data nodes log position [] = ⟨nodes.reverse, none, log⟩ := by
  rw [data]
  rfl

theorem data_cons (nodes : List Node) (log : List Record) (position : Int) (token : String)
    (rest : List String) :
    data nodes log position (token :: rest) =
      conclude nodes log (datum [] position (token :: rest)) := by
  rw [data, conclude]
  simp only [List.isEmpty_cons, Bool.false_eq_true, ite_false]
  split <;> rename_i h <;> simp only [h]

/-- The trees read before are kept in front of those that follow. -/
theorem data_nodes (nodes : List Node) (log : List Record) (position : Int)
    (tokens : List String) :
    data nodes log position tokens =
      ⟨nodes.reverse ++ (data [] log position tokens).nodes,
        (data [] log position tokens).error, (data [] log position tokens).log⟩ := by
  match tokens with
  | [] => rw [data_nil, data_nil, List.reverse_nil, List.append_nil]
  | token :: rest =>
    rw [data_cons, data_cons, conclude, conclude]
    cases hr : (datum [] position (token :: rest)).reading with
    | failure error => simp only [List.reverse_nil, List.append_nil]
    | success node =>
      have hlt := length_rest_lt hr
      dsimp only
      rw [data_nodes (node :: nodes), data_nodes [node], List.reverse_cons, List.append_assoc,
        List.reverse_singleton]
termination_by tokens.length
decreasing_by all_goals exact hlt

/-- The trees that were read, or the error. -/
def Run.outcome (run : Run) : Except SyntaxError (List Node) :=
  match run.error with
  | some error => .error error
  | none => .ok run.nodes

namespace Stack

/-- Reading trees in a row from the middle of one of them. -/
def resume (stack : Stack) (log : List Record) (position : Int) (tokens : List String) : Run :=
  match stack.groups with
  | [] => data stack.nodes log position tokens
  | _ :: _ => conclude stack.nodes log (datum stack.groups position tokens)

theorem resume_nil (stack : Stack) (log : List Record) (position : Int) :
    stack.resume log position [] =
      ⟨stack.nodes.reverse, if stack.groups = [] then none else some .endOfInput, log⟩ := by
  obtain ⟨groups, nodes⟩ := stack
  cases groups with
  | nil => exact data_nil nodes log position
  | cons children outer => simp [resume, conclude, datum_nil]

theorem resume_eq_conclude (stack : Stack) (log : List Record) (position : Int) (token : String)
    (rest : List String) :
    stack.resume log position (token :: rest) =
      conclude stack.nodes log (datum stack.groups position (token :: rest)) := by
  obtain ⟨groups, nodes⟩ := stack
  cases groups with
  | nil => exact data_cons nodes log position token rest
  | cons children outer => rfl

theorem conclude_settle (node : Node) (stack : Stack) (log : List Record) (position : Int)
    (rest : List String) :
    conclude stack.nodes log (settle node stack.groups position rest) =
      (stack.add node).resume log position rest := by
  obtain ⟨groups, nodes⟩ := stack
  cases groups with
  | nil => simp [settle, conclude, add, resume]
  | cons siblings outer => rfl

/-- Reading trees in a row takes one token at a time. -/
theorem resume_cons (stack : Stack) (log : List Record) (position : Int) (token : String)
    (rest : List String) :
    stack.resume log position (token :: rest) =
      match stack.feed token with
      | none =>
        ⟨stack.nodes.reverse, some (.unexpected Token.closing (some position)),
          log ++ [.stray position]⟩
      | some next => next.resume log (position + 1) rest := by
  rw [resume_eq_conclude]
  by_cases hc : token = Token.closing
  · subst hc
    obtain ⟨groups, nodes⟩ := stack
    cases groups with
    | nil => rw [datum_stray]; rfl
    | cons children outer =>
      rw [datum_closing, feed_closing_cons]
      exact conclude_settle _ ⟨outer, nodes⟩ log _ rest
  by_cases ho : token = Token.opening
  · subst ho
    rw [datum_opening, feed_opening]
    rfl
  · rw [datum_word ho hc, feed_word ho hc, conclude_settle]

/-- Reading trees in a row feeds the machine. -/
theorem resume_eq_feedAll (tokens : List String) :
    ∀ (stack : Stack) (log : List Record) (position : Int),
      (stack.resume log position tokens).outcome = outcome (stack.feedAll position tokens) ∧
      (stack.resume log position tokens).log = log ++ report (stack.feedAll position tokens) := by
  induction tokens with
  | nil =>
    intro stack log position
    rw [resume_nil, feedAll]
    by_cases hg : stack.groups = [] <;> simp [Run.outcome, outcome, report, hg]
  | cons token rest ih =>
    intro stack log position
    rw [resume_cons, feedAll]
    cases stack.feed token with
    | none => simp [Run.outcome, outcome, report]
    | some next => exact ih next log (position + 1)

end Stack

/-- The outcome as a reading: the trees in one group. -/
def gather : Except SyntaxError (List Node) → Reading
  | .error error => .failure error
  | .ok nodes => .success (.group nodes)

theorem gather_eq_success {outcome : Except SyntaxError (List Node)} {nodes : List Node} :
    gather outcome = .success (.group nodes) ↔ outcome = .ok nodes := by
  cases outcome <;> simp [gather]

theorem gather_eq_failure {outcome : Except SyntaxError (List Node)} {error : SyntaxError} :
    gather outcome = .failure error ↔ outcome = .error error := by
  cases outcome <;> simp [gather]

theorem error?_gather {outcome : Except SyntaxError (List Node)} {error : SyntaxError} :
    (gather outcome).error? = some error ↔ outcome = .error error := by
  cases outcome <;> simp [gather, Reading.error?]

theorem all_eq_data (tokens : List String) :
    all tokens = (gather (data [] [] 0 tokens).outcome, (data [] [] 0 tokens).log) := by
  rw [all, Run.outcome]
  cases (data [] [] 0 tokens).error <;> rfl

/-- Every tree is read by feeding every token, from the first position on. -/
theorem all_eq (tokens : List String) :
    all tokens = (gather (Stack.outcome (Stack.feedAll {} 0 tokens)),
      Stack.report (Stack.feedAll {} 0 tokens)) := by
  obtain ⟨ho, hl⟩ := Stack.resume_eq_feedAll tokens {} [] 0
  have hr : Stack.resume {} [] 0 tokens = data [] [] 0 tokens := rfl
  rw [hr] at ho hl
  rw [all_eq_data, ho, hl, List.nil_append]

/-- What is reported on trees after the first. -/
def trailing (rest : List Node) : List Record :=
  if rest.isEmpty then [] else [.ignored rest.length]

/-- Where there are tokens, the first tree is the first of all trees and fails as they do, and the
reports differ by the number of trees after it. -/
theorem first_eq_cases {tokens : List String} (h : tokens ≠ []) :
    (∃ error, (all tokens).1 = .failure error ∧ first tokens = all tokens) ∨
    ∃ node rest, (all tokens).1 = .success (.group (node :: rest)) ∧
      first tokens = (.success node, (all tokens).2 ++ trailing rest) := by
  obtain ⟨token, tokens, rfl⟩ := List.exists_cons_of_ne_nil h
  rw [all_eq_data, data_cons, first, conclude]
  cases hr : (datum [] 0 (token :: tokens)).reading with
  | failure error => exact .inl ⟨error, rfl, rfl⟩
  | success node =>
    dsimp only
    rw [data_nodes, List.nil_append]
    generalize data [] _ _ _ = run
    obtain ⟨nodes, error, log⟩ := run
    cases error with
    | some error => exact .inl ⟨error, rfl, rfl⟩
    | none =>
      refine .inr ⟨node, nodes, rfl, ?_⟩
      cases nodes with
      | nil => exact congrArg _ (List.append_nil log).symm
      | cons next rest => rfl

/-- Where there are tokens, the first tree is the first of all trees, and fails as they do. -/
theorem first_cases {tokens : List String} (h : tokens ≠ []) :
    (∃ error, (all tokens).1 = .failure error ∧ (first tokens).1 = .failure error) ∨
    ∃ node rest, (all tokens).1 = .success (.group (node :: rest)) ∧
      (first tokens).1 = .success node := by
  rcases first_eq_cases h with ⟨error, ha, hf⟩ | ⟨node, rest, ha, hf⟩
  · exact .inl ⟨error, ha, by rw [hf, ha]⟩
  · exact .inr ⟨node, rest, ha, by rw [hf]⟩

theorem first_nil : (first []).1 = .failure .endOfInput := by
  rw [first, datum_nil]

theorem all_nil : (all []).1 = .success (.group []) := by
  rw [all, data_nil]
  rfl

/-- Reading the first tree and reading all trees agree unless there are no tokens: the one gives
the head of what the other gives, which is never empty, and both give the same error. -/
theorem first_agrees_all (tokens : List String) :
    (tokens ≠ [] →
      (∀ node, (first tokens).1 = .success node ↔
        ∃ rest, (all tokens).1 = .success (.group (node :: rest))) ∧
      (∀ error, (first tokens).1 = .failure error ↔ (all tokens).1 = .failure error) ∧
      (all tokens).1 ≠ .success (.group [])) ∧
    (tokens = [] →
      (first tokens).1 = .failure .endOfInput ∧ (all tokens).1 = .success (.group [])) := by
  constructor
  · intro h
    rcases first_cases h with ⟨error, ha, hf⟩ | ⟨node, rest, ha, hf⟩
    · simp [ha, hf]
    · simp [ha, hf]
  · rintro rfl
    exact ⟨first_nil, all_nil⟩

/-- An error after the first tree, trees after the first, and no tokens. -/
theorem first_agrees_all_each :
    (first ["a", "(", "b", ")", ")", "("]).1 = .failure (.unexpected ")" (some 4)) ∧
      (first ["(", "a", ")", "b"]).1 = .success (.group [.atom "a"]) ∧
      (first []).1 = .failure .endOfInput ∧ (all []).1 = .success (.group []) := by
  have hs : (all ["a", "(", "b", ")", ")", "("]).1 = .failure (.unexpected ")" (some 4)) := by
    rw [all_eq]; rfl
  have hb : (all ["(", "a", ")", "b"]).1 = .success (.group [.group [.atom "a"], .atom "b"]) := by
    rw [all_eq]; rfl
  obtain ⟨-, he, -⟩ := (first_agrees_all ["a", "(", "b", ")", ")", "("]).1 (by simp)
  obtain ⟨hn, -⟩ := (first_agrees_all ["(", "a", ")", "b"]).1 (by simp)
  exact ⟨(he _).mpr hs, (hn _).mpr ⟨_, hb⟩, (first_agrees_all []).2 rfl⟩

end Sexpr.Parser
