import Sexpr.Node.Layout

/-!
# Trees by induction

What is proved of every tree goes by `Node.induction`: of the atoms, and of a group from its
children. With it, the functions that run on a stack are the recursive ones:

* `Node.walkFrom_eq`: a walk adds what its stack has still to give (`Node.coming`) to what it has
  reported, so that in all it reports the events of the tree (`Node.walk_eq_events`);
* `Layout.render_eq_text`: what is written from the events of a walk is the recursive text, so
  that a separator stands between every two neighbours and nowhere else
  (`Layout.text_group`).

The tokens of a tree are those of its atoms (`Node.leaves`) and the parentheses of its groups.
-/

namespace Sexpr.Node

/-- A property of the atoms that passes from the children of a group to the group holds of every
tree. -/
@[elab_as_elim, induction_eliminator]
theorem induction {motive : Node → Prop} (atom : ∀ token, motive (.atom token))
    (group : ∀ children, (∀ child ∈ children, motive child) → motive (.group children)) :
    ∀ node, motive node
  | .atom token => atom token
  | .group children => group children fun child _ => induction atom group child

/-! ## Tokens of a tree -/

theorem unparseAll_eq : ∀ nodes : List Node, unparseAll nodes = nodes.flatMap unparse
  | [] => rfl
  | node :: rest => by rw [unparseAll, unparseAll_eq rest, List.flatMap_cons]

@[simp] theorem unparse_atom (token : String) : unparse (.atom token) = [token] := rfl

@[simp] theorem unparse_group (children : List Node) :
    unparse (.group children) =
      Token.opening :: (children.flatMap unparse ++ [Token.closing]) := by
  rw [unparse, unparseAll_eq]

mutual

/-- The tokens of the atoms of a tree. -/
def leaves : Node → List String
  | .atom token => [token]
  | .group children => leavesAll children

/-- The tokens of the atoms of trees in a row. -/
def leavesAll : List Node → List String
  | [] => []
  | node :: rest => leaves node ++ leavesAll rest

end

theorem leavesAll_eq : ∀ nodes : List Node, leavesAll nodes = nodes.flatMap leaves
  | [] => rfl
  | node :: rest => by rw [leavesAll, leavesAll_eq rest, List.flatMap_cons]

@[simp] theorem leaves_atom (token : String) : leaves (.atom token) = [token] := rfl

@[simp] theorem leaves_group (children : List Node) :
    leaves (.group children) = children.flatMap leaves := by
  rw [leaves, leavesAll_eq]

/-- The atoms of a tree are among its tokens. -/
theorem mem_unparse_of_mem_leaves {node : Node} {token : String} (h : token ∈ node.leaves) :
    token ∈ node.unparse := by
  induction node with
  | atom => exact h
  | group children ih =>
    rw [leaves_group, List.mem_flatMap] at h
    obtain ⟨child, hc, ht⟩ := h
    have hm := List.mem_flatMap.mpr ⟨child, hc, ih child hc ht⟩
    simp [hm]

/-! ## Walks -/

theorem eventsAll_eq : ∀ nodes : List Node, eventsAll nodes = nodes.flatMap events
  | [] => rfl
  | node :: rest => by rw [eventsAll, eventsAll_eq rest, List.flatMap_cons]

/-- The events that a stack of siblings has still to give: those of the innermost level, then those
of each level further out, after the end of the group that it was left for. -/
def coming : List (List Node) → List Event
  | [] => []
  | level :: stack => eventsAll level ++ stack.flatMap fun outer => .leave :: eventsAll outer

theorem coming_leave (level : List Node) (stack : List (List Node)) :
    coming ([] :: level :: stack) = .leave :: coming (level :: stack) := by
  simp only [coming, eventsAll, List.flatMap_cons, List.nil_append, List.cons_append]

theorem coming_atom (token : String) (siblings : List Node) (stack : List (List Node)) :
    coming ((atom token :: siblings) :: stack) = .atom token :: coming (siblings :: stack) := by
  simp only [coming, eventsAll, events, List.cons_append, List.nil_append]

theorem coming_enter (children siblings : List Node) (stack : List (List Node)) :
    coming ((group children :: siblings) :: stack) =
      .enter children :: coming (children :: siblings :: stack) := by
  simp only [coming, eventsAll, events, List.flatMap_cons, List.cons_append, List.append_assoc,
    List.nil_append]

theorem coming_singleton (node : Node) : coming [[node]] = node.events := by
  simp only [coming, eventsAll, List.flatMap_nil, List.append_nil]

/-- A walk adds the events that are still to come to those it has reported. -/
theorem walkFrom_eq (done : List Event) (stack : List (List Node)) :
    walkFrom done stack = done.reverse ++ coming stack := by
  fun_induction walkFrom done stack with
  | case1 done => rw [coming, List.append_nil]
  | case2 done => simp only [coming, eventsAll, List.flatMap_nil, List.append_nil]
  | case3 done level stack ih =>
    rw [ih, coming_leave, List.reverse_cons, List.append_assoc, List.singleton_append]
  | case4 done token siblings stack ih =>
    rw [ih, coming_atom, List.reverse_cons, List.append_assoc, List.singleton_append]
  | case5 done children siblings stack ih =>
    rw [ih, coming_enter, List.reverse_cons, List.append_assoc, List.singleton_append]

theorem walk_eq_events (node : Node) : node.walk = node.events := by
  rw [walk, walkFrom_eq, coming_singleton, List.reverse_nil, List.nil_append]

end Sexpr.Node

namespace Sexpr.Layout

/-! ## Written trees -/

theorem textAll_eq (layout : Layout) :
    ∀ nodes : List Node,
      layout.textAll nodes = layout.separator.intercalate (nodes.map layout.text)
  | [] => rfl
  | [node] => by rw [textAll, List.map_singleton, String.intercalate_singleton]
  | node :: next :: rest => by
    rw [textAll, textAll_eq layout (next :: rest)]
    simp only [List.map_cons, String.intercalate_cons_cons]

/-- A separator stands between every two neighbours of a group. -/
theorem text_group (layout : Layout) (children : List Node) :
    layout.text (.group children) =
      layout.opening ++ layout.separator.intercalate (children.map layout.text) ++
        layout.closing := by
  rw [text, textAll_eq]

/-- Writing the events of trees in a row, if the events of each are written as its text. -/
theorem foldl_write_eventsAll (layout : Layout) {nodes : List Node}
    (h : ∀ node ∈ nodes, ∀ draft : Draft, node.events.foldl layout.write draft =
      ⟨draft.separated layout.separator ++ layout.text node, true⟩)
    (hn : nodes ≠ []) (draft : Draft) :
    (Node.eventsAll nodes).foldl layout.write draft =
      ⟨draft.separated layout.separator ++ layout.textAll nodes, true⟩ := by
  induction nodes generalizing draft with
  | nil => exact absurd rfl hn
  | cons node rest ih =>
    rw [Node.eventsAll, List.foldl_append, h node List.mem_cons_self]
    cases rest with
    | nil => rw [Node.eventsAll, List.foldl_nil, textAll]
    | cons next rest =>
      rw [ih (fun n hm => h n (List.mem_cons_of_mem _ hm)) (List.cons_ne_nil _ _), textAll]
      simp only [Draft.separated, ite_true, String.append_assoc]

/-- Writing the events of a tree adds its text, after a separator if one is due, and makes one due
for what follows. -/
theorem foldl_write_events (layout : Layout) (node : Node) :
    ∀ draft : Draft, node.events.foldl layout.write draft =
      ⟨draft.separated layout.separator ++ layout.text node, true⟩ := by
  induction node with
  | atom token => intro draft; rw [text]; rfl
  | group children ih =>
    intro draft
    rw [Node.events, List.foldl_cons, List.foldl_append, text]
    by_cases hn : children = []
    · subst hn
      simp only [Node.eventsAll, List.foldl_nil, List.foldl_cons, write, textAll,
        String.append_assoc, String.empty_append]
    · rw [foldl_write_eventsAll layout ih hn]
      simp only [List.foldl_nil, List.foldl_cons, write, Draft.separated, Bool.false_eq_true,
        ite_false, String.append_assoc]

theorem render_eq_text (layout : Layout) (node : Node) : layout.render node = layout.text node := by
  rw [render, Node.walk_eq_events, foldl_write_events]
  simp only [Draft.separated, Bool.false_eq_true, ite_false, String.empty_append]

@[simp] theorem render_atom (layout : Layout) (token : String) :
    layout.render (.atom token) = layout.leaf token := by
  rw [render_eq_text, text]

theorem render_group (layout : Layout) (children : List Node) :
    layout.render (.group children) =
      layout.opening ++ layout.separator.intercalate (children.map layout.render) ++
        layout.closing := by
  rw [render_eq_text, text_group, funext layout.render_eq_text]

end Sexpr.Layout
