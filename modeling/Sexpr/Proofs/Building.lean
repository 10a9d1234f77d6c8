import Sexpr.Proofs.Lossless

/-!
# JSON values built from a walk

`Node.toJson?` follows the events of a walk on a stack of open groups. On any stack, the events of
a tree add its value to the innermost group and leave the rest as it was
(`Node.foldlM_build_events`), so that the outermost level ends with one value, that of the tree
(`Node.foldlM_build_walk`).

No event ever leaves the stack empty (`Node.ne_nil_of_build`), and one that closes a group finds
another level below it (`Node.exists_of_build_leave`).
-/

namespace Sexpr.Node

/-! ## The value -/

/-- The events of trees in a row add their values to the innermost group, if those of each do. -/
theorem foldlM_build_eventsAll {nodes : List Node}
    (h : ∀ node ∈ nodes, ∀ level stack, node.events.foldlM build (level :: stack) =
      some ((node.document :: level) :: stack)) (level : List Json) (stack : List (List Json)) :
    (eventsAll nodes).foldlM build (level :: stack) =
      some (((nodes.map document).reverse ++ level) :: stack) := by
  induction nodes generalizing level with
  | nil => rfl
  | cons node rest ih =>
    rw [eventsAll, List.foldlM_append, h node List.mem_cons_self, Option.bind_eq_bind,
      Option.bind_some, ih fun n hn => h n (List.mem_cons_of_mem _ hn), List.map_cons,
      List.reverse_cons, List.append_assoc, List.singleton_append]

/-- The events of a tree add its value to the innermost group. -/
theorem foldlM_build_events (node : Node) : ∀ level stack,
    node.events.foldlM build (level :: stack) = some ((node.document :: level) :: stack) := by
  induction node with
  | atom token => intro level stack; rw [document_atom]; rfl
  | group children ih =>
    intro level stack
    have hc := foldlM_build_eventsAll ih [] (level :: stack)
    rw [List.append_nil] at hc
    -- The children gather on a level of their own, in reverse, until the group is closed.
    calc (events (.group children)).foldlM build (level :: stack)
        = (eventsAll children ++ [Event.leave]).foldlM build ([] :: level :: stack) := rfl
      _ = [Event.leave].foldlM build ((children.map document).reverse :: level :: stack) := by
          rw [List.foldlM_append, hc, Option.bind_eq_bind, Option.bind_some]
      _ = some ((groupDocument (children.map document).reverse.reverse :: level) :: stack) := rfl
      _ = some ((document (.group children) :: level) :: stack) := by
          rw [List.reverse_reverse, document_group]

/-- One level is left in the end, with one value. -/
theorem foldlM_build_walk (node : Node) :
    node.walk.foldlM build [[]] = some [[node.document]] := by
  rw [walk_eq_events, foldlM_build_events]

theorem toJson?_eq (node : Node) : node.toJson? = some node.document := by
  rw [toJson?, foldlM_build_walk]

/-! ## The stack -/

theorem ne_nil_of_attach {value : Json} {stack next : List (List Json)}
    (h : attach value stack = some next) : next ≠ [] := by
  cases stack with
  | nil => cases h
  | cons level outer =>
    cases h
    exact List.cons_ne_nil _ _

theorem ne_nil_of_build {stack next : List (List Json)} {event : Event}
    (h : build stack event = some next) : next ≠ [] := by
  cases event with
  | atom token => exact ne_nil_of_attach h
  | enter children =>
    cases h
    exact List.cons_ne_nil _ _
  | leave =>
    cases stack with
    | nil => cases h
    | cons level outer => exact ne_nil_of_attach h

/-- What closes a group finds the level of the group and the level that the group belongs to. -/
theorem exists_of_build_leave {stack next : List (List Json)}
    (h : build stack .leave = some next) : ∃ level upper outer, stack = level :: upper :: outer := by
  match stack, h with
  | level :: upper :: outer, _ => exact ⟨level, upper, outer, rfl⟩

theorem ne_nil_of_foldlM_build {events : List Event} :
    ∀ {stack last : List (List Json)}, stack ≠ [] → events.foldlM build stack = some last →
      last ≠ [] := by
  induction events with
  | nil =>
    intro stack last hs h
    cases h
    exact hs
  | cons event rest ih =>
    intro stack last _ h
    rw [List.foldlM_cons] at h
    obtain ⟨next, hb, hr⟩ := Option.bind_eq_some_iff.mp h
    exact ih (ne_nil_of_build hb) hr

/-- Before every event of a walk the stack has a level, and before one that closes a group, two. -/
theorem exists_stack_before {node : Node} {before after : List Event} {event : Event}
    (h : node.walk = before ++ event :: after) :
    ∃ level outer, before.foldlM build [[]] = some (level :: outer) ∧
      (event = .leave → outer ≠ []) := by
  have hw := foldlM_build_walk node
  rw [h, List.foldlM_append] at hw
  obtain ⟨stack, hs, hr⟩ := Option.bind_eq_some_iff.mp hw
  rw [List.foldlM_cons] at hr
  obtain ⟨next, hb, -⟩ := Option.bind_eq_some_iff.mp hr
  obtain ⟨level, outer, rfl⟩ :=
    List.exists_cons_of_ne_nil (ne_nil_of_foldlM_build (List.cons_ne_nil _ _) hs)
  refine ⟨level, outer, hs, ?_⟩
  rintro rfl
  obtain ⟨_, upper, rest, he⟩ := exists_of_build_leave hb
  rw [(List.cons.inj he).2]
  exact List.cons_ne_nil _ _

/-- The JSON text of a tree is the printed form of its value, and both the text and the value that
are made from the events of a walk are those of the recursion on the tree. -/
theorem json_prints_built (node : Node) :
    (∃ value, node.toJson? = some value ∧ node.json = value.print ∧ value = node.document) ∧
    (∀ token, document (.atom token) =
      .object [("kind", .text "atom"), ("token", .text token)]) ∧
    (∀ children, document (.group children) =
      .object [("kind", .text "group"), ("children", .array (children.map document))]) ∧
    (∀ items, (Json.array items).print = "[" ++ ", ".intercalate (items.map Json.print) ++ "]") ∧
    (∀ fields, (Json.object fields).print =
      "\x7b" ++ ", ".intercalate (fields.map fun (name, value) =>
        Json.quote name ++ ": " ++ value.print) ++ "\x7d") ∧
    node.walk.foldlM build [[]] = some [[node.document]] ∧
    ∀ before event after, node.walk = before ++ event :: after →
      ∃ level outer, before.foldlM build [[]] = some (level :: outer) ∧
        (event = .leave → outer ≠ []) := by
  refine ⟨⟨_, node.toJson?_eq, node.json_eq_print, rfl⟩, document_atom, document_group,
    fun items => ?_, fun fields => ?_, node.foldlM_build_walk,
    fun before event after h => exists_stack_before h⟩
  · rw [Json.print, Json.printItems_eq]
  · rw [Json.print, Json.printFields_eq]
    rfl

/-- An empty group before another group, where the first of the two is closed. -/
theorem json_prints_built_siblings :
    let node : Node := .group [.group [], .group [.atom "a"]]
    let before : List Event := [.enter [.group [], .group [.atom "a"]], .enter []]
    (∃ after, node.walk = before ++ .leave :: after) ∧
    (∃ value, node.toJson? = some value ∧ node.json = value.print) ∧
    ∃ level outer, before.foldlM build [[]] = some (level :: outer) ∧ outer ≠ [] := by
  intro node before
  have hw : node.walk = before ++ .leave :: [.enter [.atom "a"], .atom "a", .leave, .leave] := by
    rw [walk_eq_events]
    rfl
  obtain ⟨⟨value, hv, hj, -⟩, -, -, -, -, -, hs⟩ := json_prints_built node
  obtain ⟨level, outer, hb, ho⟩ := hs before .leave _ hw
  exact ⟨⟨_, hw⟩, ⟨value, hv, hj⟩, level, outer, hb, ho rfl⟩

end Sexpr.Node
