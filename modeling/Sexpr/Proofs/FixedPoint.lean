import Sexpr.Proofs.Append
import Sexpr.Proofs.Encoding
import Sexpr.Proofs.Entry
import Sexpr.Proofs.Exit
import Sexpr.Proofs.Filing
import Sexpr.Proofs.Lines
import Sexpr.Proofs.RoundTrip

/-!
# Canonical files

The command writes the canonical text of a tree and a line feed. No line break stands in an atom of
a file (`Source.unbroken_join`, `Node.unbroken_canonical`), so such a file has one line, which is
the canonical text (`Command.text_canonical`). It is read as the tree that was written, and writing
that tree again gives the same bytes (`Command.canonical_file_fixed`).
-/

namespace Sexpr

/-! ## Trees without line breaks -/

namespace Node

/-- The characters of a canonical text are those of the atoms, spaces and parentheses. -/
theorem mem_canonical {node : Node} {c : Char} (h : c ∈ node.canonical.toList) :
    Token.isStructural c = true ∨ ∃ token ∈ node.leaves, c ∈ token.toList := by
  rw [canonical, Layout.render_eq_text] at h
  induction node with
  | atom token => exact .inr ⟨token, List.mem_singleton_self _, h⟩
  | group children ih =>
    by_cases hs : Token.isStructural c = true
    · exact .inl hs
    · obtain ⟨hb, ho, hc⟩ := Token.isStructural_eq_false.mp (Bool.eq_false_iff.mpr hs)
      have hm : c ∈ (" ".intercalate (children.map Layout.canonical.text)).toList := by
        rw [Layout.text_group] at h
        simpa [Layout.canonical, Token.opening, Token.closing, ho, hc] using h
      obtain ⟨text, ht, hm⟩ := (Text.mem_intercalate hb _).mp hm
      obtain ⟨child, hd, rfl⟩ := List.mem_map.mp ht
      obtain ⟨token, hl, hm⟩ := (ih child hd hm).resolve_left hs
      rw [leaves_group]
      exact .inr ⟨token, List.mem_flatMap.mpr ⟨child, hd, hl⟩, hm⟩

theorem unbroken_canonical {node : Node} (h : ∀ token ∈ node.leaves, Text.Unbroken token.toList) :
    Text.Unbroken node.canonical.toList := by
  intro c hc
  rcases mem_canonical hc with hs | ⟨token, ht, hm⟩
  · have hm : c ∈ Token.structural := List.contains_iff_mem.mp hs
    simp only [Token.structural, List.mem_cons, List.not_mem_nil, or_false] at hm
    rcases hm with rfl | rfl | rfl <;> decide
  · exact h token ht c hm

end Node

namespace Reader

/-- What is read in either scope is the group of all trees, or one of them. -/
theorem exists_all_of_read {scope : Scope} {text : String} {node : Node}
    (h : (read scope text).1 = .success node) :
    ∃ nodes, all text = .success (.group nodes) ∧ (node = .group nodes ∨ node ∈ nodes) := by
  cases scope with
  | all =>
    obtain ⟨nodes, rfl⟩ := Parser.exists_group_of_all h
    exact ⟨nodes, h, .inl rfl⟩
  | first =>
    have hf : (Parser.first (Token.scan text)).1 = .success node := h
    have hn : Token.scan text ≠ [] := by
      intro hn
      rw [hn, Parser.first_nil] at hf
      cases hf
    rcases Parser.first_cases hn with ⟨error, -, he⟩ | ⟨first, rest, ha, he⟩
    · cases hf.symm.trans he
    · cases hf.symm.trans he
      exact ⟨node :: rest, ha, .inr List.mem_cons_self⟩

/-- The atoms of a tree that was read are tokens of the text. -/
theorem mem_scan_of_read {scope : Scope} {text : String} {node : Node}
    (h : (read scope text).1 = .success node) {token : String} (ht : token ∈ node.leaves) :
    token ∈ Token.scan text := by
  obtain ⟨nodes, ha, hn⟩ := exists_all_of_read h
  have hl : token ∈ nodes.flatMap Node.leaves := by
    rcases hn with rfl | hn
    · rwa [Node.leaves_group] at ht
    · exact List.mem_flatMap.mpr ⟨node, hn, ht⟩
  obtain ⟨child, hc, hm⟩ := List.mem_flatMap.mp hl
  rw [← (all_eq_success_iff.mp ha).1]
  exact List.mem_flatMap.mpr ⟨child, hc, Node.mem_unparse_of_mem_leaves hm⟩

theorem wellFormed_of_read {scope : Scope} {text : String} {node : Node}
    (h : (read scope text).1 = .success node) : node.WellFormed := by
  obtain ⟨nodes, ha, rfl | hn⟩ := exists_all_of_read h
  · intro token ht
    rw [Node.leaves_group] at ht
    obtain ⟨child, hc, hm⟩ := List.mem_flatMap.mp ht
    exact wellFormed_of_all ha child hc token hm
  · exact wellFormed_of_all ha node hn

/-- The first tree of a canonical text is the tree. -/
theorem first_canonical {node : Node} (h : node.WellFormed) :
    first node.canonical = .success node := by
  have ha : all (Node.canonicalAll [node]) = .success (.group [node]) :=
    all_canonicalAll fun other ho => List.mem_singleton.mp ho ▸ h
  rw [Node.canonicalAll, List.map_singleton, String.intercalate_singleton] at ha
  exact first_of_all ha

end Reader

/-! ## The text of a file -/

namespace Source

/-- No line break is left when the lines of a file are joined. -/
theorem unbroken_join (chars : List Char) :
    Text.Unbroken (" ".intercalate (linesOf chars)).toList := by
  intro c hc
  by_cases hs : c = ' '
  · subst hs
    decide
  · obtain ⟨text, ht, hm⟩ := (Text.mem_intercalate hs _).mp hc
    obtain ⟨line, hl, rfl⟩ := List.mem_map.mp ht
    rw [String.toList_ofList] at hm
    exact Text.unbroken_of_mem_lines hl c hm

/-- The tree of a file has no line break in its canonical text. -/
theorem unbroken_of_read {scope : Scope} {chars : List Char} {node : Node}
    (h : (Reader.read scope (" ".intercalate (linesOf chars))).1 = .success node) :
    Text.Unbroken node.canonical.toList := by
  refine Node.unbroken_canonical fun token ht c hc => ?_
  exact unbroken_join chars c (Token.mem_of_mem_scan (Reader.mem_scan_of_read h ht) hc)

/-- A text without line breaks and a line feed are one line. -/
theorem linesOf_newline {text : String} (h : Text.Unbroken text.toList) :
    linesOf (text ++ "\n").toList = [text] := by
  have hr : '\r' ∉ text.toList ++ ['\n'] := by
    intro hm
    rcases List.mem_append.mp hm with hm | hm
    · exact absurd (h _ hm) (by decide)
    · exact absurd hm (by decide)
  rw [linesOf, String.toList_append, show "\n".toList = ['\n'] from rfl,
    Text.normalizeNewlines_eq hr, Text.lines_append_newline h]
  simp [Text.lines, Text.LineCutter.finish]

/-- The file at a path is read if its bytes encode a text. -/
theorem text_of_read {files : Files} {path : String} {chars : List Char}
    (hp : extension.toList.isSuffixOf path.toList)
    (hr : files.read path = .ok (Text.Utf8.encode chars)) :
    text files path false =
      .ok (" ".intercalate (linesOf chars), [.loaded (linesOf chars).length path]) := by
  have hl : load files path = .ok (linesOf chars) := by
    simp only [load, hp, hr, Text.Utf8.decode_encode, Bool.not_true, Bool.false_eq_true, if_false]
  simp only [text, hl, Bool.false_eq_true, if_false, bind, Except.bind, pure, Except.pure]

end Source

namespace Command

/-- The bytes of the canonical file of a tree. -/
def canonicalBytes (node : Node) : List UInt8 :=
  Text.Utf8.encode (node.canonical ++ "\n").toList

/-- A canonical file has the canonical text. -/
theorem text_canonical {files : Files} {path : String} {node : Node}
    (hu : Text.Unbroken node.canonical.toList)
    (hp : Source.extension.toList.isSuffixOf path.toList)
    (hr : files.read path = .ok (canonicalBytes node)) :
    Source.text files path false = .ok (node.canonical, [.loaded 1 path]) := by
  rw [Source.text_of_read hp hr, Source.linesOf_newline hu, String.intercalate_singleton]
  rfl

/-- Reads a file and writes its canonical text to a path. -/
def canonize (files : Files) (scope : Scope) (source target : String) : Run :=
  once files ⟨source, false, .canonical, scope, some target⟩

/-- What is written is the canonical file of the tree that was read. -/
theorem canonize_writes {files : Files} {scope : Scope} {source target text : String}
    {loaded : List Record} {node : Node} (hs : Source.text files source false = .ok (text, loaded))
    (hr : (Reader.read scope text).1 = .success node) (hw : files.Writable target) :
    (canonize files scope source target).result = .ok 0 ∧
      files.write target (canonicalBytes node) =
        .ok (canonize files scope source target).files := by
  obtain ⟨written, hf⟩ := hw (canonicalBytes node)
  have hc : canonize files scope source target =
      deliver files .canonical (node.canonical ++ "\n")
        ((loaded ++ (Reader.read scope text).2).map .record) (some target) :=
    @once_of_success files ⟨source, false, .canonical, scope, some target⟩ text loaded hs node hr
  rw [hc, deliver_of_ok hw.ne_empty hf]
  exact ⟨rfl, hf⟩

/-- A file that is read in either scope and written in canonical form is read as the same tree, and
is written again with the same bytes. -/
theorem canonical_file_fixed {files : Files} {source target copy : String} {scope : Scope}
    {chars : List Char} {node : Node} (hs : Source.extension.toList.isSuffixOf source.toList)
    (hb : files.read source = .ok (Text.Utf8.encode chars))
    (hn : (Reader.read scope (" ".intercalate (Source.linesOf chars))).1 = .success node)
    (ht : Source.extension.toList.isSuffixOf target.toList) (hw : files.Writable target)
    (hc : files.Writable copy) :
    ∃ first second bytes, canonize files scope source target = first ∧
      canonize first.files .first target copy = second ∧
      first.result = .ok 0 ∧ second.result = .ok 0 ∧
      files.write target bytes = .ok first.files ∧ first.files.read target = .ok bytes ∧
      first.files.write copy bytes = .ok second.files ∧ second.files.read copy = .ok bytes ∧
      ∃ text loaded, Source.text first.files target false = .ok (text, loaded) ∧
        Reader.first text = .success node := by
  obtain ⟨h0, hf⟩ := canonize_writes (Source.text_of_read hs hb) hn hw
  generalize canonize files scope source target = first at h0 hf
  -- What the second run reads is the canonical text itself, as the file has one line.
  have hr := Files.read_write hf
  have hd := text_canonical (Source.unbroken_of_read hn) ht hr
  have hm : (Reader.read .first node.canonical).1 = .success node :=
    Reader.first_canonical (Reader.wellFormed_of_read hn)
  obtain ⟨h1, hg⟩ := canonize_writes hd hm (hc.of_write hf)
  exact ⟨first, _, canonicalBytes node, rfl, rfl, h0, h1, hf, hr, hg, Files.read_write hg,
    node.canonical, _, hd, hm⟩

theorem canonical_file_fixed_lines :
    ∃ first second bytes,
      canonize ⟨[(["a.lisp"], .file (Text.Utf8.encode "(a\r\nb\u2028)c".toList))], []⟩ .all
        "a.lisp" "b.lisp" = first ∧
      canonize first.files .first "b.lisp" "c" = second ∧
      first.result = .ok 0 ∧ second.result = .ok 0 ∧
      first.files.read "b.lisp" = .ok bytes ∧ second.files.read "c" = .ok bytes ∧
      ∃ text loaded, Source.text first.files "b.lisp" false = .ok (text, loaded) ∧
        Reader.first text = .success (.group [.group [.atom "a", .atom "b"], .atom "c"]) := by
  have hn : (Parser.all ["(", "a", "b", ")", "c"]).1 =
      .success (.group [.group [.atom "a", .atom "b"], .atom "c"]) := by
    rw [Parser.all_eq]
    rfl
  obtain ⟨first, second, bytes, h1, h2, h3, h4, -, h5, -, h6, h7⟩ := @canonical_file_fixed
    ⟨[(["a.lisp"], .file (Text.Utf8.encode "(a\r\nb\u2028)c".toList))], []⟩ "a.lisp" "b.lisp" "c"
    .all "(a\r\nb\u2028)c".toList _ (by decide) rfl hn (by decide)
    (Files.writable_iff.mpr ⟨["b.lisp"], ⟨[], "b.lisp", rfl, rfl⟩, by decide⟩)
    (Files.writable_iff.mpr ⟨["c"], ⟨[], "c", rfl, rfl⟩, by decide⟩)
  exact ⟨first, second, bytes, h1, h2, h3, h4, h5, h6, h7⟩

end Command

end Sexpr
