import Sexpr.Proofs.Grammar
import Sexpr.Proofs.Scanning
import Sexpr.Reader

/-!
# Reading back what was written

The canonical text of a tree whose atoms are words is cut into the tokens of the tree
(`Node.scan_canonical`), so the texts of trees, joined with spaces, are read as these trees
(`Reader.all_canonicalAll`). The trees of any text that is read have words as atoms
(`Reader.wellFormed_of_all`), so their canonical text has the tokens of the first text.
-/

namespace Sexpr

/-- Every atom of the tree is a word. -/
def Node.WellFormed (node : Node) : Prop :=
  ∀ token ∈ node.leaves, Token.IsWord token

/-- The canonical text of trees in a row. -/
def Node.canonicalAll (nodes : List Node) : String :=
  " ".intercalate (nodes.map Node.canonical)

namespace Node

theorem WellFormed.child {children : List Node} (h : (group children).WellFormed) {child : Node}
    (hc : child ∈ children) : child.WellFormed := by
  intro token ht
  apply h token
  rw [leaves_group]
  exact List.mem_flatMap.mpr ⟨child, hc, ht⟩

theorem WellFormed.plain {node : Node} (h : node.WellFormed) : Parser.Plain node :=
  fun token ht => (h token ht).ne_paren

/-- The canonical text of a tree is cut into the tokens of the tree. -/
theorem scan_canonical {node : Node} (h : node.WellFormed) :
    Token.scan node.canonical = node.unparse := by
  rw [canonical, Layout.render_eq_text]
  induction node with
  | atom token =>
    rw [Layout.text]
    exact Token.scan_word (h token (List.mem_singleton_self _))
  | group children ih =>
    have hc : children.map (fun child => Token.scan (Layout.canonical.text child)) =
        children.map unparse :=
      List.map_congr_left fun child hm => ih child hm (h.child hm)
    rw [Layout.text_group, unparse_group, List.flatMap_def, ← hc, ← List.flatMap_def,
      ← List.flatMap_map, ← Token.scan_intercalate]
    exact Token.scan_enclosed _

theorem scan_canonicalAll {nodes : List Node} (h : ∀ node ∈ nodes, node.WellFormed) :
    Token.scan (canonicalAll nodes) = nodes.flatMap unparse := by
  have hc : nodes.map (fun node => Token.scan node.canonical) = nodes.map unparse :=
    List.map_congr_left fun node hn => scan_canonical (h node hn)
  rw [canonicalAll, Token.scan_intercalate, List.flatMap_map, List.flatMap_def, hc,
    ← List.flatMap_def]

end Node

namespace Reader

theorem all_eq_success_iff {text : String} {nodes : List Node} :
    all text = .success (.group nodes) ↔
      nodes.flatMap Node.unparse = Token.scan text ∧ ∀ node ∈ nodes, Parser.Plain node :=
  Parser.all_eq_success_iff

/-- The first tree of a text is the first of all its trees. -/
theorem first_of_all {text : String} {node : Node} {rest : List Node}
    (h : all text = .success (.group (node :: rest))) : first text = .success node := by
  have hn : Token.scan text ≠ [] := by
    rw [← (all_eq_success_iff.mp h).1]
    cases node <;> simp
  rcases Parser.first_cases hn with ⟨error, he, -⟩ | ⟨node', rest', he, hf⟩
  · cases h.symm.trans he
  · cases h.symm.trans he
    exact hf

/-- The canonical text of trees is read as these trees. -/
theorem all_canonicalAll {nodes : List Node} (h : ∀ node ∈ nodes, node.WellFormed) :
    all (Node.canonicalAll nodes) = .success (.group nodes) :=
  all_eq_success_iff.mpr ⟨(Node.scan_canonicalAll h).symm, fun node hn => (h node hn).plain⟩

/-- The atoms of a text are words. -/
theorem wellFormed_of_all {text : String} {nodes : List Node}
    (h : all text = .success (.group nodes)) : ∀ node ∈ nodes, node.WellFormed := by
  obtain ⟨hu, hp⟩ := all_eq_success_iff.mp h
  intro node hn token ht
  have hm : token ∈ Token.scan text := by
    rw [← hu]
    exact List.mem_flatMap.mpr ⟨node, hn, Node.mem_unparse_of_mem_leaves ht⟩
  obtain ⟨ho, hc⟩ := hp node hn token ht
  rcases Token.isToken_of_mem_scan hm with he | he | hw
  · exact absurd he ho
  · exact absurd he hc
  · exact hw

theorem scan_canonicalAll_of_all {text : String} {nodes : List Node}
    (h : all text = .success (.group nodes)) :
    Token.scan (Node.canonicalAll nodes) = Token.scan text :=
  (Node.scan_canonicalAll (wellFormed_of_all h)).trans (all_eq_success_iff.mp h).1

/-- Reading and writing are inverse to each other, up to spaces that separate no two words. -/
theorem canonical_round_trip :
    (∀ nodes : List Node, (∀ node ∈ nodes, node.WellFormed) →
      all (Node.canonicalAll nodes) = .success (.group nodes) ∧
      ∀ hn : nodes ≠ [], first (Node.canonicalAll nodes) = .success (nodes.head hn)) ∧
    (∀ (text : String) (nodes : List Node), all text = .success (.group nodes) →
      (∀ node ∈ nodes, node.WellFormed) ∧
      Token.scan (Node.canonicalAll nodes) = Token.scan text ∧
      all (Node.canonicalAll nodes) = .success (.group nodes)) ∧
    ∀ (left right : String) (nodes others : List Node),
      all left = .success (.group nodes) → all right = .success (.group others) →
      (nodes = others ↔ Token.scan left = Token.scan right) := by
  refine ⟨fun nodes h => ⟨all_canonicalAll h, fun hn => ?_⟩, fun text nodes h =>
    ⟨wellFormed_of_all h, scan_canonicalAll_of_all h, all_canonicalAll (wellFormed_of_all h)⟩,
    fun left right nodes others hl hr => ⟨?_, fun hs => ?_⟩⟩
  · obtain ⟨node, rest, rfl⟩ := List.exists_cons_of_ne_nil hn
    exact first_of_all (all_canonicalAll h)
  · rintro rfl
    exact (all_eq_success_iff.mp hl).1.symm.trans (all_eq_success_iff.mp hr).1
  · have ha : all left = all right := congrArg (fun tokens => (Parser.all tokens).1) hs
    have he := hl.symm.trans (ha.trans hr)
    simpa using he

theorem canonical_round_trip_nested :
    all "(a () b\tc) d" =
        .success (.group [.group [.atom "a", .group [], .atom "b\tc"], .atom "d"]) ∧
      first "(a () b\tc) d" = .success (.group [.atom "a", .group [], .atom "b\tc"]) := by
  have ht : Node.canonicalAll [.group [.atom "a", .group [], .atom "b\tc"], .atom "d"] =
      "(a () b\tc) d" := by
    simp only [Node.canonicalAll, Node.canonical, Layout.render_eq_text, Layout.text,
      Layout.textAll, List.map]
    decide
  have hr := canonical_round_trip.1 [.group [.atom "a", .group [], .atom "b\tc"], .atom "d"]
    (by simp [Node.WellFormed, Token.IsWord])
  rw [ht] at hr
  exact ⟨hr.1, hr.2 (by simp)⟩

end Reader

end Sexpr
