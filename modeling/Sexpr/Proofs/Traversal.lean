import Sexpr.Proofs.Tree

/-!
# Walks turn by turn

`Node.walk` gives the events of a tree at once. Here the loop behind it is taken one turn at a
time (`Progress.turn`). A turn reports the next of the events that the stack has still to give, and
the walk ends with the turn that finds none (`Progress.turn_cases`); so after any number of turns
that many events have been reported, in order, and the walk has ended if there were no more
(`Progress.repeat_turn`).

Together with what is written from the events this gives the recursive account of walks and of
written trees (`walk_render_recursive`).
-/

namespace Sexpr

/-- A walk on its way: the events so far in reverse, and the siblings still to be visited,
innermost first. -/
structure Node.Progress where
  done : List Event := []
  stack : List (List Node)

namespace Node.Progress

/-- A walk before its first turn. -/
def start (node : Node) : Progress := { stack := [[node]] }

/-- One turn of a walk. The level that is left when all others have run out ends the walk. -/
def turn : Progress → Progress
  | ⟨done, []⟩ => ⟨done, []⟩
  | ⟨done, [] :: []⟩ => ⟨done, []⟩
  | ⟨done, [] :: level :: stack⟩ => ⟨.leave :: done, level :: stack⟩
  | ⟨done, (atom token :: siblings) :: stack⟩ => ⟨.atom token :: done, siblings :: stack⟩
  | ⟨done, (group children :: siblings) :: stack⟩ =>
    ⟨.enter children :: done, children :: siblings :: stack⟩

/-- A turn reports the next event that is still to come, or ends the walk if there is none. -/
theorem turn_cases (progress : Progress) :
    (coming progress.stack = [] ∧ progress.turn = ⟨progress.done, []⟩) ∨
    ∃ event next, next ≠ [] ∧ coming progress.stack = event :: coming next ∧
      progress.turn = ⟨event :: progress.done, next⟩ := by
  match progress with
  | ⟨done, []⟩ => exact .inl ⟨rfl, rfl⟩
  | ⟨done, [] :: []⟩ => exact .inl ⟨rfl, rfl⟩
  | ⟨done, [] :: level :: stack⟩ =>
    exact .inr ⟨.leave, _, List.cons_ne_nil _ _, coming_leave level stack, rfl⟩
  | ⟨done, (atom token :: siblings) :: stack⟩ =>
    exact .inr ⟨.atom token, _, List.cons_ne_nil _ _, coming_atom token siblings stack, rfl⟩
  | ⟨done, (group children :: siblings) :: stack⟩ =>
    exact .inr ⟨.enter children, _, List.cons_ne_nil _ _, coming_enter children siblings stack, rfl⟩

/-- A walk gives the same events from any turn of it. -/
theorem walkFrom_turn (progress : Progress) :
    walkFrom progress.turn.done progress.turn.stack = walkFrom progress.done progress.stack := by
  rw [walkFrom_eq, walkFrom_eq]
  rcases turn_cases progress with ⟨hc, ht⟩ | ⟨event, next, -, hc, ht⟩
  · rw [ht, hc]
    rfl
  · rw [ht, hc, List.reverse_cons, List.append_assoc, List.singleton_append]

/-- After any number of turns that many of the events have been reported, and the others are still
to come. -/
theorem repeat_turn {progress : Progress} (h : progress.stack ≠ []) (count : Nat) :
    (Nat.repeat turn count progress).done =
      ((coming progress.stack).take count).reverse ++ progress.done ∧
    coming (Nat.repeat turn count progress).stack = (coming progress.stack).drop count ∧
    ((Nat.repeat turn count progress).stack = [] ↔ (coming progress.stack).length < count) := by
  induction count with
  | zero => simp [Nat.repeat, h]
  | succ count ih =>
    obtain ⟨hd, hs, -⟩ := ih
    rw [Nat.repeat]
    rcases turn_cases (Nat.repeat turn count progress) with ⟨hc, ht⟩ | ⟨event, next, hn, hc, ht⟩
    · -- Nothing was left before this turn, so all events are among the first `count`.
      have hl := List.drop_eq_nil_iff.mp (hs.symm.trans hc)
      have hl' := Nat.le_succ_of_le hl
      rw [ht, hd, List.take_of_length_le hl, List.take_of_length_le hl',
        List.drop_of_length_le hl']
      exact ⟨rfl, rfl, fun _ => Nat.lt_succ_of_le hl, fun _ => rfl⟩
    · have he := hs.symm.trans hc
      have hg : (coming progress.stack)[count]? = some event := by
        rw [← List.head?_drop, he, List.head?_cons]
      have hl := (List.getElem?_eq_some_iff.mp hg).1
      rw [ht, hd, List.take_add_one, hg, Option.toList_some, List.reverse_append,
        ← List.tail_drop, he]
      exact ⟨rfl, rfl, fun h => absurd h hn, fun h => absurd hl (Nat.not_lt_of_ge
        (Nat.le_of_lt_succ h))⟩

/-- A walk has ended one turn after its last event, and not before. -/
theorem repeat_turn_start (node : Node) (count : Nat) :
    (Nat.repeat turn count (start node)).done = (node.events.take count).reverse ∧
    ((Nat.repeat turn count (start node)).stack = [] ↔ node.events.length < count) := by
  have hs : (start node).stack ≠ [] := List.cons_ne_nil _ _
  obtain ⟨hd, -, he⟩ := repeat_turn hs count
  have hc : coming (start node).stack = node.events := coming_singleton node
  rw [hc] at hd he
  exact ⟨hd.trans (List.append_nil _), he⟩

end Node.Progress

open Node (Progress events listing literal canonical)

/-- A walk ends one turn after its last event, and it reports the events that the recursion on the
tree gives. Every layout writes what the recursion on the tree gives: in the listing, the literal
form and the canonical text, a separator stands between every two neighbours and nowhere else. -/
theorem walk_render_recursive :
    (∀ node : Node, node.walk = node.events) ∧
    (∀ token, events (.atom token) = [.atom token]) ∧
    (∀ children, events (.group children) =
      .enter children :: (children.flatMap events ++ [.leave])) ∧
    (∀ progress : Progress, Node.walkFrom progress.turn.done progress.turn.stack =
      Node.walkFrom progress.done progress.stack) ∧
    (∀ (node : Node) (count : Nat),
      (Nat.repeat Progress.turn count (.start node)).done = (node.events.take count).reverse ∧
      ((Nat.repeat Progress.turn count (.start node)).stack = [] ↔
        node.events.length < count)) ∧
    (∀ (leaf : String → String) (opening closing separator : String),
      let layout : Layout := ⟨leaf, opening, closing, separator⟩
      (∀ node, layout.render node = layout.text node) ∧
      (∀ token, layout.text (.atom token) = leaf token) ∧
      ∀ children, layout.text (.group children) =
        opening ++ separator.intercalate (children.map layout.text) ++ closing) ∧
    (∀ token, listing (.atom token) = token ∧ canonical (.atom token) = token ∧
      literal (.atom token) = "Atom(" ++ Text.Quoted.encode token ++ ")") ∧
    ∀ children,
      listing (.group children) = "[" ++ ", ".intercalate (children.map listing) ++ "]" ∧
      canonical (.group children) = "(" ++ " ".intercalate (children.map canonical) ++ ")" ∧
      literal (.group children) =
        "Group([" ++ ", ".intercalate (children.map literal) ++ "])" := by
  refine ⟨Node.walk_eq_events, fun token => ?_, fun children => ?_, Progress.walkFrom_turn,
    Progress.repeat_turn_start, fun leaf opening closing separator => ?_, fun token => ?_,
    fun children => ?_⟩
  · rw [events]
  · rw [events, Node.eventsAll_eq]
  · exact ⟨Layout.render_eq_text _, fun token => by rw [Layout.text], Layout.text_group _⟩
  · exact ⟨Layout.render_atom _ _, Layout.render_atom _ _, Layout.render_atom _ _⟩
  · exact ⟨Layout.render_group _ _, Layout.render_group _ _, Layout.render_group _ _⟩

end Sexpr
