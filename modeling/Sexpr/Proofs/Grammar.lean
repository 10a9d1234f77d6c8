import Sexpr.Proofs.Stack
import Sexpr.Proofs.Tree

/-!
# The grammar of trees

A stack stands for the tokens that led to it (`Stack.tokens`): feeding a token adds it at the end
(`Stack.tokens_feed`), so no token is lost, doubled or moved. The other way round, the tokens of a
tree add this tree to any stack (`Stack.feedAll_unparse`). So tokens are read as trees exactly if
they are the tokens of these trees and no atom is a parenthesis (`all_eq_success_iff`).
-/

namespace Sexpr.Parser

/-- A tree without parentheses as atoms. -/
def Plain (node : Node) : Prop :=
  ∀ token ∈ node.leaves, token ≠ Token.opening ∧ token ≠ Token.closing

theorem Plain.child {children : List Node} {child : Node} (h : Plain (.group children))
    (hm : child ∈ children) : Plain child := by
  intro token ht
  refine h token ?_
  rw [Node.leaves_group]
  exact List.mem_flatMap.mpr ⟨child, hm, ht⟩

namespace Stack

/-! ## What was read is what a stack stands for -/

/-- The tokens that a stack stands for. -/
def tokens (stack : Stack) : List String :=
  stack.nodes.reverse.flatMap Node.unparse ++
    stack.groups.reverse.flatMap fun children =>
      Token.opening :: children.reverse.flatMap Node.unparse

theorem tokens_add (stack : Stack) (node : Node) :
    (stack.add node).tokens = stack.tokens ++ node.unparse := by
  obtain ⟨groups, nodes⟩ := stack
  cases groups <;> simp [tokens, add]

/-- A token that is taken is the last of those that the next stack stands for. -/
theorem tokens_feed {stack next : Stack} {token : String} (h : stack.feed token = some next) :
    next.tokens = stack.tokens ++ [token] := by
  rcases feed_cases h with ⟨rfl, rfl⟩ | ⟨children, outer, nodes, rfl, rfl, rfl⟩ | ⟨-, -, rfl⟩
  · simp [tokens]
  · rw [tokens_add]
    simp [tokens]
  · exact tokens_add stack (.atom token)

theorem tokens_feedAll {stack last : Stack} {position : Int} {tokens : List String}
    (h : stack.feedAll position tokens = .ok last) : last.tokens = stack.tokens ++ tokens := by
  refine feedAll_ok_induction ?_ ?_ h
  · rw [List.append_nil]
  · intro stack next token rest hf ih
    rw [ih, tokens_feed hf, List.append_assoc, List.singleton_append]

/-- A stack that holds no parenthesis as an atom, in complete trees and in open groups. -/
def Plain (stack : Stack) : Prop :=
  ∀ node ∈ stack.nodes ++ stack.groups.flatten, Parser.Plain node

theorem Plain.add {stack : Stack} {node : Node} (h : stack.Plain) (hn : Parser.Plain node) :
    (stack.add node).Plain := by
  obtain ⟨groups, nodes⟩ := stack
  cases groups with
  | nil =>
    intro part hp
    rcases List.mem_cons.mp hp with rfl | hp
    · exact hn
    · exact h part hp
  | cons siblings outer =>
    intro part hp
    simp only [Stack.add, List.flatten_cons, List.cons_append, List.mem_append,
      List.mem_cons] at hp
    rcases hp with hp | rfl | hp
    · exact h part (List.mem_append_left _ hp)
    · exact hn
    · exact h part (List.mem_append_right _ (List.mem_append.mpr hp))

theorem Plain.feed {stack next : Stack} {token : String} (h : stack.Plain)
    (hf : stack.feed token = some next) : next.Plain := by
  rcases feed_cases hf with ⟨rfl, rfl⟩ | ⟨children, outer, nodes, rfl, rfl, rfl⟩ | ⟨ho, hc, rfl⟩
  · exact h
  · refine Plain.add (fun part hp => h part ?_) fun leaf hl => ?_
    · rcases List.mem_append.mp hp with hp | hp
      · exact List.mem_append_left _ hp
      · exact List.mem_append_right _ (List.mem_append_right _ hp)
    · rw [Node.leaves_group, List.mem_flatMap] at hl
      obtain ⟨child, hm, hl⟩ := hl
      have hm' := List.mem_append_left outer.flatten (List.mem_reverse.mp hm)
      exact h child (List.mem_append_right _ hm') leaf hl
  · refine h.add fun leaf hl => ?_
    rw [List.mem_singleton.mp hl]
    exact ⟨ho, hc⟩

theorem Plain.feedAll {stack last : Stack} {position : Int} {tokens : List String}
    (h : stack.Plain) (hf : stack.feedAll position tokens = .ok last) : last.Plain := by
  revert h
  refine feedAll_ok_induction id ?_ hf
  intro stack next token rest hf ih h
  exact ih (h.feed hf)

/-! ## The tokens of trees add these trees -/

theorem foldl_add_nil (nodes : List Node) :
    ∀ before : List Node, nodes.foldl add ⟨[], before⟩ = ⟨[], nodes.reverse ++ before⟩ := by
  induction nodes with
  | nil => intro before; rfl
  | cons node rest ih => intro before; simp [add, ih]

theorem foldl_add_cons (nodes : List Node) (outer : List (List Node)) (before : List Node) :
    ∀ siblings : List Node, nodes.foldl add ⟨siblings :: outer, before⟩ =
      ⟨(nodes.reverse ++ siblings) :: outer, before⟩ := by
  induction nodes with
  | nil => intro siblings; rfl
  | cons node rest ih => intro siblings; simp [add, ih]

/-- The tokens of trees in a row add them one by one, if the tokens of each add it. -/
theorem feedAll_flatMap {nodes : List Node}
    (h : ∀ node ∈ nodes, ∀ (stack : Stack) (position : Int) (rest : List String),
      stack.feedAll position (node.unparse ++ rest) =
        (stack.add node).feedAll (position + node.unparse.length) rest) :
    ∀ (stack : Stack) (position : Int) (rest : List String),
      stack.feedAll position (nodes.flatMap Node.unparse ++ rest) =
        (nodes.foldl add stack).feedAll
          (position + (nodes.flatMap Node.unparse).length) rest := by
  induction nodes with
  | nil => intro stack position rest; simp
  | cons node nodes ih =>
    intro stack position rest
    rw [List.flatMap_cons, List.append_assoc, h node List.mem_cons_self,
      ih fun n hn => h n (List.mem_cons_of_mem _ hn), List.foldl_cons, List.length_append,
      Int.natCast_add, Int.add_assoc]

/-- The tokens of a tree add it to the stack, whatever comes after them. -/
theorem feedAll_unparse (node : Node) (h : Parser.Plain node) :
    ∀ (stack : Stack) (position : Int) (rest : List String),
      stack.feedAll position (node.unparse ++ rest) =
        (stack.add node).feedAll (position + node.unparse.length) rest := by
  induction node with
  | atom token =>
    intro stack position rest
    obtain ⟨ho, hc⟩ := h token (List.mem_singleton_self _)
    rw [Node.unparse_atom, List.singleton_append, feedAll, feed_word ho hc]
    rfl
  | group children ih =>
    intro stack position rest
    -- The children join the group that the opening token opens.
    rw [Node.unparse_group, List.cons_append, List.append_assoc, feedAll, feed_opening]
    dsimp only
    rw [feedAll_flatMap fun child hm => ih child hm (h.child hm), foldl_add_cons,
      List.singleton_append, feedAll, feed_closing_cons, List.append_nil, List.reverse_reverse]
    dsimp only
    congr 1
    simp only [List.length_cons, List.length_append, List.length_nil, Int.natCast_add]
    omega

/-- The machine ends with these trees and no group open exactly on their tokens. -/
theorem outcome_eq_ok_iff {tokens : List String} {nodes : List Node} :
    outcome (feedAll {} 0 tokens) = .ok nodes ↔
      nodes.flatMap Node.unparse = tokens ∧ ∀ node ∈ nodes, Parser.Plain node := by
  constructor
  · intro h
    cases hf : feedAll {} 0 tokens with
    | error position => rw [hf] at h; cases h
    | ok last =>
      obtain ⟨groups, before⟩ := last
      rw [hf, outcome] at h
      split at h
      · rename_i hg
        obtain rfl := Except.ok.inj h
        obtain rfl : groups = [] := hg
        have ht := tokens_feedAll hf
        have hp := Plain.feedAll (fun node hm => absurd hm (by simp)) hf
        refine ⟨by simpa [Stack.tokens] using ht, fun node hm => hp node ?_⟩
        exact List.mem_append_left _ (List.mem_reverse.mp hm)
      · cases h
  · rintro ⟨rfl, hp⟩
    have hf := feedAll_flatMap (fun node hm => feedAll_unparse node (hp node hm)) {} 0 []
    rw [List.append_nil, foldl_add_nil, List.append_nil] at hf
    rw [hf, feedAll, outcome]
    simp

end Stack

theorem all_eq_success_iff {tokens : List String} {nodes : List Node} :
    (all tokens).1 = .success (.group nodes) ↔
      nodes.flatMap Node.unparse = tokens ∧ ∀ node ∈ nodes, Plain node := by
  rw [all_eq, gather_eq_success, Stack.outcome_eq_ok_iff]

/-- Tokens are read as trees exactly if they are the tokens of these trees and no atom is a
parenthesis. -/
theorem all_success_iff_unparse (tokens : List String) (nodes : List Node) :
    (all tokens).1 = .success (.group nodes) ↔
      nodes.flatMap Node.unparse = tokens ∧
        ∀ token ∈ nodes.flatMap Node.leaves, token ≠ "(" ∧ token ≠ ")" := by
  rw [all_eq_success_iff]
  refine and_congr_right fun _ => ?_
  simp only [List.mem_flatMap, forall_exists_index, and_imp]
  exact ⟨fun h token node hn ht => h node hn token ht, fun h node hn token ht => h token node hn ht⟩

end Sexpr.Parser
