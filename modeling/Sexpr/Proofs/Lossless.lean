import Sexpr.Format
import Sexpr.Proofs.JsonText
import Sexpr.Proofs.Lines
import Sexpr.Proofs.Tree

/-!
# JSON output loses nothing

Each outcome is shown as the text of a JSON value (`Reading.document`): a tree by the events of a
walk, which write the value of the tree (`Node.json_eq_print`), and an error by its fields. The
value is that of no other outcome (`Reading.document_inj`), and its text holds no line break, so
outcomes shown together are one line each (`Format.lines_json`) and can be told from the whole text.
-/

namespace Sexpr.Node

/-! ## Trees -/

theorem documents_eq : ∀ nodes : List Node, documents nodes = nodes.map document
  | [] => rfl
  | node :: rest => by rw [documents, documents_eq rest, List.map_cons]

@[simp] theorem document_atom (token : String) : document (.atom token) = atomDocument token := by
  rw [document]

@[simp] theorem document_group (children : List Node) :
    document (.group children) = groupDocument (children.map document) := by
  rw [document, documents_eq]

theorem print_groupDocument (children : List Json) :
    (groupDocument children).print =
      Layout.json.opening ++ ", ".intercalate (children.map Json.print) ++ Layout.json.closing := by
  have hk : Json.quote "kind" = "\"kind\"" := by decide
  have hg : Json.quote Kind.group.label = "\"group\"" := by decide
  have hc : Json.quote "children" = "\"children\"" := by decide
  simp only [groupDocument, Json.print, Json.printFields, Json.printItems_eq, hk, hg, hc,
    Layout.json, ← String.toList_inj, String.toList_append]
  simp

/-- The text that the events of a walk write is that of the value of the tree. -/
theorem json_eq_print (node : Node) : node.json = node.document.print := by
  rw [json, Layout.render_eq_text]
  induction node with
  | atom token => rw [Layout.text, document_atom]; rfl
  | group children ih =>
    rw [Layout.text_group, document_group, print_groupDocument, List.map_map,
      List.map_congr_left ih]
    rfl

/-- Trees in a row are told from their values, if each of them is. -/
theorem map_document_inj {nodes : List Node}
    (h : ∀ node ∈ nodes, ∀ other : Node, node.document = other.document → node = other) :
    ∀ others : List Node, nodes.map document = others.map document → nodes = others := by
  induction nodes with
  | nil =>
    intro others hm
    exact (List.map_eq_nil_iff.mp hm.symm).symm
  | cons node rest ih =>
    intro others hm
    cases others with
    | nil => cases hm
    | cons other others =>
      rw [List.map_cons, List.map_cons, List.cons.injEq] at hm
      rw [h node List.mem_cons_self other hm.1,
        ih (fun n hn => h n (List.mem_cons_of_mem _ hn)) others hm.2]

/-- A tree is told from its value. -/
theorem document_inj (node : Node) : ∀ other : Node, node.document = other.document →
    node = other := by
  induction node with
  | atom token =>
    intro other h
    cases other with
    | atom other => simpa [atomDocument] using h
    | group children => simp [atomDocument, groupDocument, Kind.label] at h
  | group children ih =>
    intro other h
    cases other with
    | atom other => simp [atomDocument, groupDocument, Kind.label] at h
    | group others =>
      have hm : children.map document = others.map document := by simpa [groupDocument] using h
      rw [map_document_inj ih others hm]

end Sexpr.Node

namespace Sexpr

/-! ## Outcomes -/

theorem Format.errorDocument_inj {left right : SyntaxError}
    (h : errorDocument left = errorDocument right) : left = right := by
  cases left with
  | endOfInput =>
    cases right with
    | endOfInput => rfl
    | unexpected token position => simp [errorDocument] at h
  | unexpected token position =>
    cases right with
    | endOfInput => simp [errorDocument] at h
    | unexpected other place =>
      -- The message shows token and position too, but the fields are enough.
      simp only [errorDocument, List.cons_append, List.nil_append, Json.object.injEq,
        List.cons.injEq, Prod.mk.injEq, Json.text.injEq, true_and, and_true] at h
      obtain ⟨-, -, rfl, hp⟩ := h
      cases position <;> cases place <;> simp_all

/-- The JSON value that an outcome is shown as. -/
def Reading.document : Reading → Json
  | .success node => node.document
  | .failure error => Format.errorDocument error

/-- The first name in the value of a tree is not that in the value of an error. -/
theorem Node.document_ne_error (node : Node) (error : SyntaxError) :
    node.document ≠ Format.errorDocument error := by
  intro h
  cases node <;> cases error <;> simp [atomDocument, groupDocument, Format.errorDocument] at h

theorem Reading.document_inj {left right : Reading} (h : left.document = right.document) :
    left = right := by
  cases left with
  | success node =>
    cases right with
    | success other => exact congrArg _ (Node.document_inj node other h)
    | failure error => exact absurd h (Node.document_ne_error node error)
  | failure error =>
    cases right with
    | success node => exact absurd h.symm (Node.document_ne_error node error)
    | failure other => exact congrArg _ (Format.errorDocument_inj h)

namespace Format

theorem json_reading (reading : Reading) : json.reading reading = reading.document.print := by
  cases reading with
  | success node => exact node.json_eq_print
  | failure error => rfl

theorem json_reading_inj {left right : Reading} (h : json.reading left = json.reading right) :
    left = right := by
  rw [json_reading, json_reading] at h
  exact Reading.document_inj (Json.print_inj h)

theorem printable_json (reading : Reading) :
    ∀ c ∈ (json.reading reading).toList, Json.Printable c := by
  rw [json_reading]
  exact Json.printable_print _

theorem toList_json_ne_nil (reading : Reading) : (json.reading reading).toList ≠ [] := by
  rw [json_reading]
  obtain ⟨c, rest, h, -⟩ := Json.shapeOf_print reading.document
  rw [h]
  exact List.cons_ne_nil c rest

/-! ## Lines -/

/-- No printable character ends a line. -/
theorem isLineBreak_of_printable {c : Char} (h : Json.Printable c) :
    Text.isLineBreak c = false := by
  have hb : Text.lineBreaks.any (fun d => decide (Json.Printable d)) = false := by decide
  rw [Text.isLineBreak, List.contains_eq_mem, decide_eq_false_iff_not]
  exact fun hm => List.any_eq_false.mp hb c hm (decide_eq_true h)

theorem unbroken_json (reading : Reading) : Text.Unbroken (json.reading reading).toList :=
  fun c hc => isLineBreak_of_printable (printable_json reading c hc)

theorem toList_readings (format : Format) (readings : List Reading) :
    (format.readings readings).toList =
      ['\n'].intercalate (readings.map fun reading => (format.reading reading).toList) := by
  rw [Format.readings, String.toList_intercalate, List.map_map]
  rfl

/-- Outcomes shown as JSON are one line each. -/
theorem lines_json (readings : List Reading) :
    Text.lines (json.readings readings).toList =
      readings.map fun reading => (json.reading reading).toList := by
  rw [toList_readings]
  refine Text.lines_intercalate fun piece hp => ?_
  obtain ⟨reading, -, rfl⟩ := List.mem_map.mp hp
  exact ⟨unbroken_json reading, toList_json_ne_nil reading⟩

/-- A line feed stands between two lines, and nowhere else. -/
theorem count_newline_intercalate {pieces : List (List Char)} (h : ∀ piece ∈ pieces, '\n' ∉ piece) :
    (['\n'].intercalate pieces).count '\n' = pieces.length - 1 := by
  match pieces with
  | [] => rfl
  | [piece] =>
    rw [List.intercalate_singleton, List.count_eq_zero.mpr (h piece List.mem_cons_self)]
    rfl
  | piece :: next :: rest =>
    have hr := count_newline_intercalate fun p (hp : p ∈ next :: rest) =>
      h p (List.mem_cons_of_mem _ hp)
    rw [List.intercalate_cons_cons, List.count_append, List.count_append, hr,
      List.count_eq_zero.mpr (h piece List.mem_cons_self)]
    simp only [List.count_singleton_self, List.length_cons]
    omega

theorem newline_not_mem_json (reading : Reading) : '\n' ∉ (json.reading reading).toList :=
  fun h => absurd (printable_json reading '\n' h) (by decide)

/-- Outcomes in JSON are one document to a line, in printable ASCII, and different outcomes are
different texts. -/
theorem json_readings_lossless (readings others : List Reading) :
    (Text.lines (json.readings readings).toList).length = readings.length ∧
    (json.readings readings).toList.count '\n' = readings.length - 1 ∧
    (∀ line ∈ Text.lines (json.readings readings).toList,
      line ≠ [] ∧ ∀ c ∈ line, 0x20 ≤ c.toNat ∧ c.toNat ≤ 0x7e) ∧
    (json.readings readings = json.readings others ↔ readings = others) := by
  refine ⟨by rw [lines_json, List.length_map], ?_, fun line hl => ?_, fun h => ?_, congrArg _⟩
  · rw [toList_readings, count_newline_intercalate, List.length_map]
    intro piece hp
    obtain ⟨reading, -, rfl⟩ := List.mem_map.mp hp
    exact newline_not_mem_json reading
  · rw [lines_json] at hl
    obtain ⟨reading, -, rfl⟩ := List.mem_map.mp hl
    exact ⟨toList_json_ne_nil reading, printable_json reading⟩
  · -- The lines are the documents, and each is the document of one outcome.
    have hl := congrArg (fun text : String => Text.lines text.toList) h
    simp only [lines_json] at hl
    have hi : ∀ left right : Reading,
        (json.reading left).toList = (json.reading right).toList → left = right :=
      fun left right he => json_reading_inj (String.toList_inj.mp he)
    exact (List.map_inj_right hi).mp hl

end Format

end Sexpr
