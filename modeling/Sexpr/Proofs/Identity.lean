import Sexpr.Dynamic.Object
import Sexpr.Proofs.Delimited
import Sexpr.Proofs.Tree

/-!
# What equality tells

Trees are compared by their signatures, the marks of a walk. A signature can be told from any marks
that it starts (`Node.delimited_signature`): an atom is one mark, and a group ends at the closing
mark that no child of it uses up. So no two trees have the same signature, and comparing kinds and
numbers of children before the signatures makes no difference (`Node.same_eq_beq`).

Errors are compared by cause and token and outcomes by their trees or errors, so that two of them
are equal exactly if they are hashed by the same key (`same_iff_key`), as trees are.
-/

namespace Sexpr.Node

/-! ## Signatures -/

@[simp] theorem signature_atom (token : String) : signature (.atom token) = [.atom token] := by
  rw [signature, walk_eq_events]
  rfl

@[simp] theorem signature_group (children : List Node) :
    signature (.group children) = .opening :: (children.flatMap signature ++ [.closing]) := by
  have hs : signature = fun node => node.events.map Event.mark := by
    funext node
    rw [signature, walk_eq_events]
  rw [hs]
  simp only [events, eventsAll_eq, List.map_cons, List.map_append, List.map_flatMap]
  rfl

/-- No signature starts with a closing mark. -/
theorem closing_cons_ne (node : Node) (x y : List Mark) : .closing :: x ≠ node.signature ++ y := by
  cases node <;> simp

/-- A tree can be told from its signature, whatever marks come after it. -/
theorem delimited_signature (node : Node) : Delimited signature node := by
  induction node with
  | atom token =>
    intro other x y he
    cases other with
    | atom other => simpa using he
    | group children => simp at he
  | group children ih =>
    intro other x y he
    cases other with
    | atom other => simp at he
    | group others =>
      simp only [signature_group, List.cons_append, List.append_assoc, List.nil_append,
        List.cons.injEq, true_and] at he
      obtain ⟨rfl, hxy⟩ := flatMap_append_inj closing_cons_ne ih others x y he
      exact ⟨rfl, hxy⟩

theorem signature_inj {left right : Node} (h : left.signature = right.signature) :
    left = right := by
  refine (delimited_signature left right [] [] ?_).1
  rw [h]

/-! ## Equal trees -/

/-- The checks before the signatures are compared do not change the answer. -/
theorem same_eq_beq (left right : Node) :
    left.same right = (left.signature == right.signature) := by
  rw [Bool.eq_iff_iff, beq_iff_eq]
  cases left with
  | atom left =>
    cases right with
    | atom right => simp [same]
    | group right => simp [same]
  | group left =>
    cases right with
    | atom right => simp [same]
    | group right =>
      rw [same]
      split
      · exact beq_iff_eq
      · rename_i hn
        constructor
        · intro h
          cases h
        · intro h
          cases signature_inj h
          exact absurd rfl hn

theorem same_iff_eq (left right : Node) : left.same right = true ↔ left = right := by
  rw [same_eq_beq, beq_iff_eq]
  exact ⟨signature_inj, congrArg signature⟩

theorem same_iff_key (left right : Node) : left.same right = true ↔ left.key = right.key := by
  rw [same_iff_eq]
  refine ⟨congrArg key, fun h => ?_⟩
  cases left with
  | atom left =>
    cases right with
    | atom right => exact congrArg atom (Key.token.inj h)
    | group right => cases h
  | group left =>
    cases right with
    | atom right => cases h
    | group right => exact signature_inj (Key.marks.inj h)

end Sexpr.Node

namespace Sexpr

/-! ## Equal errors and outcomes -/

theorem SyntaxError.same_iff_key (left right : SyntaxError) :
    left.same right = true ↔ left.key = right.key := by
  cases left <;> cases right <;> simp [same, key]

namespace Reading

theorem same_iff_key (left right : Reading) :
    left.same right = true ↔ left.key = right.key := by
  cases left with
  | success left =>
    cases right with
    | success right => simpa [same, key] using left.same_iff_key right
    | failure right => simp [same, key]
  | failure left =>
    cases right with
    | success right => simp [same, key]
    | failure right => simpa [same, key] using left.same_iff_key right

/-- Outcomes are equal if they are the same tree, or errors of the same cause and token. -/
theorem same_iff (left right : Reading) :
    left.same right = true ↔
      (∃ node, left = .success node ∧ right = .success node) ∨
      (left = .failure .endOfInput ∧ right = .failure .endOfInput) ∨
      ∃ token place other, left = .failure (.unexpected token place) ∧
        right = .failure (.unexpected token other) := by
  cases left with
  | success left =>
    cases right with
    | success right => simpa [same, Node.same_iff_eq] using eq_comm
    | failure right => simp [same]
  | failure left =>
    cases right with
    | success right => simp [same]
    | failure right =>
      cases left with
      | endOfInput => cases right <;> simp [same, SyntaxError.same]
      | unexpected left place =>
        cases right with
        | endOfInput => simp [same, SyntaxError.same]
        | unexpected right other => simpa [same, SyntaxError.same] using eq_comm

end Reading

namespace Dynamic.Object

/-- An object that is hashed: a tree, an error or an outcome. -/
abbrev Hashed := { object : Object // object.key?.isSome }

/-- Hashed objects, of whatever types, are equal exactly if they have the same key. -/
theorem same_iff_key? (left right : Hashed) :
    left.1.same right.1 = true ↔ left.1.key? = right.1.key? := by
  obtain ⟨left, hl⟩ := left
  obtain ⟨right, hr⟩ := right
  cases left with
  | value left => cases hl
  | node left => cases right <;> simp [same, key?, Node.same_iff_key]
  | error left => cases right <;> simp [same, key?, SyntaxError.same_iff_key]
  | reading left => cases right <;> simp [same, key?, Reading.same_iff_key]

end Dynamic.Object

/-- Values that are equal exactly if their keys are fall into classes of equal values. -/
theorem equivalence_of_iff_key {α κ : Type} {equal : α → α → Prop} (key : α → κ)
    (h : ∀ left right, equal left right ↔ key left = key right) : Equivalence equal where
  refl value := (h value value).mpr rfl
  symm hlr := (h _ _).mpr ((h _ _).mp hlr).symm
  trans hlm hmr := (h _ _).mpr (((h _ _).mp hlm).trans ((h _ _).mp hmr))

/-- Equal trees are the same tree, as the marks of their walks tell; outcomes are equal if they are
the same tree or errors of the same cause and token; and what is equal, in any of these ways, is
hashed by equal keys. -/
theorem same_decides_identity :
    (∀ left right : Node, left.same right = true ↔ left = right) ∧
    (∀ left right : Node, left.signature = right.signature ↔ left = right) ∧
    (∀ left right : Node, left.same right = (left.signature == right.signature)) ∧
    (∀ left right : Reading, left.same right = true ↔
      (∃ node, left = .success node ∧ right = .success node) ∨
      (left = .failure .endOfInput ∧ right = .failure .endOfInput) ∨
      ∃ token place other, left = .failure (.unexpected token place) ∧
        right = .failure (.unexpected token other)) ∧
    (Equivalence fun left right : Node => left.same right = true) ∧
    (Equivalence fun left right : SyntaxError => left.same right = true) ∧
    (Equivalence fun left right : Reading => left.same right = true) ∧
    (Equivalence fun left right : Dynamic.Object.Hashed => left.1.same right.1 = true) ∧
    (∀ left right : Dynamic.Object.Hashed,
      left.1.same right.1 = true ↔ left.1.key? = right.1.key?) := by
  refine ⟨Node.same_iff_eq, fun left right => ⟨Node.signature_inj, congrArg _⟩, Node.same_eq_beq,
    Reading.same_iff, ?_, ?_, ?_, ?_, Dynamic.Object.same_iff_key?⟩
  · exact equivalence_of_iff_key Node.key Node.same_iff_key
  · exact equivalence_of_iff_key SyntaxError.key SyntaxError.same_iff_key
  · exact equivalence_of_iff_key Reading.key Reading.same_iff_key
  · exact equivalence_of_iff_key (fun object => object.1.key?) Dynamic.Object.same_iff_key?

end Sexpr
