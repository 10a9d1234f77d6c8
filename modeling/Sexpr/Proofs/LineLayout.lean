import Sexpr.Proofs.FixedPoint

/-!
# The line layout of a file

The lines of a file are joined with spaces, so the tokens of a file are those of its lines, one line
after the other, and those of its text with a space in place of every line break
(`Source.scan_join`). How many breaks stand in a place, and which, makes no difference: a text that
is laid out anew (`Text.Relaid`) has the same tokens (`Text.Relaid.cut_eq`), and the file is read as
the same trees or the same error.
-/

namespace Sexpr

/-! ## Spaces for breaks -/

namespace Text

/-- A text with a space in place of every line break. -/
def spaceBreaks (text : List Char) : List Char :=
  text.map fun c => if isLineBreak c then ' ' else c

theorem spaceBreaks_append (left right : List Char) :
    spaceBreaks (left ++ right) = spaceBreaks left ++ spaceBreaks right :=
  List.map_append

theorem spaceBreaks_cons_break {c : Char} (h : isLineBreak c = true) (text : List Char) :
    spaceBreaks (c :: text) = ' ' :: spaceBreaks text := by
  rw [spaceBreaks, List.map_cons, if_pos h]
  rfl

theorem spaceBreaks_cons_other {c : Char} (h : isLineBreak c = false) (text : List Char) :
    spaceBreaks (c :: text) = c :: spaceBreaks text := by
  rw [spaceBreaks, List.map_cons, if_neg (Bool.eq_false_iff.mp h)]
  rfl

/-- The tokens of the lines of a text, from any line at hand, are those of the text with spaces for
its breaks. -/
theorem flatMap_cut_cutLines (text : List Char) :
    ∀ (current : List Char) (afterReturn : Bool), (afterReturn = true → current = []) →
      (cutLines current afterReturn text).flatMap (Token.cut []) =
        Token.cut [] (current.reverse ++ spaceBreaks text) := by
  induction text with
  | nil =>
    intro current afterReturn _
    by_cases hn : current = []
    · subst hn
      rfl
    · rw [cutLines_nil hn, List.flatMap_singleton, spaceBreaks, List.map_nil, List.append_nil]
  | cons c text ih =>
    intro current afterReturn ha
    rcases break_cases c afterReturn with ⟨rfl, rfl⟩ | hc | ⟨hc, hn⟩
    -- The second half of a break is one more space, with no line at hand before it.
    · obtain rfl := ha rfl
      rw [cutLines_cons_pair, ih [] false nofun, spaceBreaks_cons_break (by decide)]
      exact (Token.cut_cons_space [] _).symm
    · rw [cutLines_cons_other hc, ih (c :: current) false nofun, spaceBreaks_cons_other hc,
        List.reverse_cons, List.append_assoc, List.singleton_append]
    · rw [cutLines_cons_break hc hn, List.flatMap_cons, ih [] _ fun _ => rfl,
        spaceBreaks_cons_break hc, Token.cut_append_space]
      rfl

theorem flatMap_cut_lines (text : List Char) :
    (lines text).flatMap (Token.cut []) = Token.cut [] (spaceBreaks text) :=
  flatMap_cut_cutLines text [] false nofun

end Text

/-- Spaces between two texts keep their tokens apart. -/
theorem Token.cut_append_gap {gap : List Char} (hn : gap ≠ []) (hs : ∀ c ∈ gap, c = ' ')
    (left right : List Char) : cut [] (left ++ gap ++ right) = cut [] left ++ cut [] right := by
  obtain ⟨c, rest, rfl⟩ := List.exists_cons_of_ne_nil hn
  obtain rfl := hs c List.mem_cons_self
  rw [List.append_assoc, List.cons_append, cut_append_space,
    cut_append_spaces_left fun d hd => hs d (List.mem_cons_of_mem _ hd)]

/-! ## Layout -/

namespace Text

/-- A run of one or more line breaks, such as a line feed, a carriage return or the pair of both. -/
def Breaks (run : List Char) : Prop :=
  run ≠ [] ∧ run.all isLineBreak = true

/-- What comes after a text starts a line: the text is empty or ends with a break. -/
def StartsLine (before : List Char) : Prop :=
  ∀ c ∈ before.getLast?, isLineBreak c = true

/-- Two texts that differ by their layout in lines only: by the breaks between two lines, by blank
lines, and by the break at the end. -/
inductive Relaid : List Char → List Char → Prop
  /-- Breaks in place of others. -/
  | breaks {old new : List Char} (before after : List Char) (ho : Breaks old) (hn : Breaks new) :
    Relaid (before ++ old ++ after) (before ++ new ++ after)
  /-- A further line of nothing but spaces. -/
  | blank {before ending : List Char} (width : Nat) (after : List Char) (hb : StartsLine before)
    (he : Breaks ending) :
    Relaid (before ++ after) (before ++ (List.replicate width ' ' ++ ending) ++ after)
  /-- No break at the end. -/
  | last {ending : List Char} (text : List Char) (he : Breaks ending) :
    Relaid (text ++ ending) text
  | refl (text : List Char) : Relaid text text
  | symm {left right : List Char} (h : Relaid left right) : Relaid right left
  | trans {left middle right : List Char} (h : Relaid left middle) (h' : Relaid middle right) :
    Relaid left right

theorem Breaks.spaceBreaks_ne_nil {run : List Char} (h : Breaks run) : spaceBreaks run ≠ [] := by
  rw [spaceBreaks, ne_eq, List.map_eq_nil_iff]
  exact h.1

theorem Breaks.eq_space {run : List Char} (h : Breaks run) : ∀ c ∈ spaceBreaks run, c = ' ' := by
  intro c hc
  obtain ⟨d, hd, rfl⟩ := List.mem_map.mp hc
  rw [if_pos (List.all_eq_true.mp h.2 d hd)]

/-- Where a line starts, the tokens before and after are cut apart from each other. -/
theorem StartsLine.cut_append {before : List Char} (h : StartsLine before) (text : List Char) :
    Token.cut [] (spaceBreaks before ++ text) =
      Token.cut [] (spaceBreaks before) ++ Token.cut [] text := by
  rcases List.eq_nil_or_concat before with rfl | ⟨init, c, rfl⟩
  · rfl
  · have hc : isLineBreak c = true := h c (by simp)
    have hg : ∀ d ∈ [' '], d = ' ' := fun d hd => List.mem_singleton.mp hd
    rw [List.concat_eq_append, spaceBreaks_append, spaceBreaks_cons_break hc,
      show spaceBreaks [] = [] from rfl, Token.cut_append_gap (List.cons_ne_nil _ _) hg,
      Token.cut_append_spaces_right hg]

/-- A text that is laid out anew has the same tokens. -/
theorem Relaid.cut_eq {left right : List Char} (h : Relaid left right) :
    Token.cut [] (spaceBreaks left) = Token.cut [] (spaceBreaks right) := by
  induction h with
  | breaks before after ho hn =>
    simp only [spaceBreaks_append]
    rw [Token.cut_append_gap ho.spaceBreaks_ne_nil ho.eq_space,
      Token.cut_append_gap hn.spaceBreaks_ne_nil hn.eq_space]
  | @blank before ending width after hb he =>
    have hs : ∀ c ∈ spaceBreaks (List.replicate width ' ' ++ ending), c = ' ' := by
      rw [spaceBreaks_append]
      intro c hc
      rcases List.mem_append.mp hc with hc | hc
      · obtain ⟨d, hd, rfl⟩ := List.mem_map.mp hc
        rw [(List.mem_replicate.mp hd).2]
        rfl
      · exact he.eq_space c hc
    have hn : spaceBreaks (List.replicate width ' ' ++ ending) ≠ [] := by
      rw [spaceBreaks_append]
      exact List.append_ne_nil_of_right_ne_nil _ he.spaceBreaks_ne_nil
    rw [spaceBreaks_append, hb.cut_append, spaceBreaks_append, spaceBreaks_append,
      Token.cut_append_gap hn hs]
  | last text he => rw [spaceBreaks_append, Token.cut_append_spaces_right he.eq_space]
  | refl text => rfl
  | symm h ih => exact ih.symm
  | trans h h' ih ih' => exact ih.trans ih'

/-- A text with the same run of breaks in place of every line feed. -/
def switchFeeds (ending text : List Char) : List Char :=
  text.flatMap fun c => if c = '\n' then ending else [c]

/-- Switching the line endings of a whole text lays it out anew. -/
theorem Relaid.switchFeeds {ending : List Char} (h : Breaks ending) (text : List Char) :
    ∀ before, Relaid (before ++ text) (before ++ Text.switchFeeds ending text) := by
  induction text with
  | nil => intro before; exact .refl _
  | cons c text ih =>
    intro before
    have hf : Breaks ['\n'] := ⟨List.cons_ne_nil _ _, rfl⟩
    rw [Text.switchFeeds, List.flatMap_cons, ← Text.switchFeeds, ← List.append_assoc]
    split
    · rename_i hc
      subst hc
      have hs := Relaid.breaks before text hf h
      rw [List.append_assoc, List.singleton_append] at hs
      exact hs.trans (ih _)
    · have hr := ih (before ++ [c])
      rwa [List.append_assoc, List.singleton_append] at hr

end Text

/-! ## Files -/

/-- The outcome of reading a text is decided by its tokens. -/
theorem Reader.read_congr {left right : String} (h : Token.scan left = Token.scan right)
    (scope : Scope) : (read scope left).1 = (read scope right).1 := by
  simp only [read, h]

namespace Source

theorem scan_join (chars : List Char) :
    Token.scan (" ".intercalate (linesOf chars)) =
      (Text.lines chars).flatMap fun line => Token.scan (String.ofList line) := by
  rw [Token.scan_intercalate, linesOf, Text.lines_normalizeNewlines, List.flatMap_map]

theorem scan_join_eq_spaceBreaks (chars : List Char) :
    Token.scan (" ".intercalate (linesOf chars)) =
      Token.scan (String.ofList (Text.spaceBreaks chars)) := by
  rw [scan_join]
  simp only [Token.scan_eq_cut, String.toList_ofList]
  exact Text.flatMap_cut_lines chars

/-- The tokens of a file are those of its lines in their order, or of its text with a space for
every line break, and a file that is laid out anew is read as the same trees or the same error. -/
theorem layout_irrelevant {files : Files} {path : String} {chars : List Char}
    (hp : extension.toList.isSuffixOf path.toList)
    (hr : files.read path = .ok (Text.Utf8.encode chars)) :
    ∃ text loaded, Source.text files path false = .ok (text, loaded) ∧
      Token.scan text =
        ((Text.lines chars).flatMap fun line => Token.scan (String.ofList line)) ∧
      Token.scan text = Token.scan (String.ofList (Text.spaceBreaks chars)) ∧
      ∀ (others : Files) (copy : String) (relaid : List Char),
        extension.toList.isSuffixOf copy.toList →
        others.read copy = .ok (Text.Utf8.encode relaid) → Text.Relaid chars relaid →
        ∃ text' loaded', Source.text others copy false = .ok (text', loaded') ∧
          Token.scan text' = Token.scan text ∧
          ∀ scope, (Reader.read scope text').1 = (Reader.read scope text).1 := by
  refine ⟨_, _, text_of_read hp hr, scan_join chars, scan_join_eq_spaceBreaks chars, ?_⟩
  intro others copy relaid hc ho h
  have hs : Token.scan (" ".intercalate (linesOf relaid)) =
      Token.scan (" ".intercalate (linesOf chars)) := by
    rw [scan_join_eq_spaceBreaks, scan_join_eq_spaceBreaks]
    simp only [Token.scan_eq_cut, String.toList_ofList]
    exact h.cut_eq.symm
  exact ⟨_, _, text_of_read hc ho, hs, Reader.read_congr hs⟩

/-- Two files that differ in their line endings, by a blank line and at the end. -/
theorem layout_irrelevant_endings :
    let files : Files := ⟨[(["a.lisp"], .file (Text.Utf8.encode "(a\nb)\n".toList)),
      (["b.lisp"], .file (Text.Utf8.encode " \n(a\r\nb)".toList))], []⟩
    ∃ text loaded text' loaded',
      Source.text files "a.lisp" false = .ok (text, loaded) ∧
      Source.text files "b.lisp" false = .ok (text', loaded') ∧
      Token.scan text = ["(", "a", "b", ")"] ∧ Token.scan text' = ["(", "a", "b", ")"] ∧
      ∀ scope, (Reader.read scope text').1 = (Reader.read scope text).1 := by
  intro files
  have hf : Text.Breaks ['\n'] := ⟨List.cons_ne_nil _ _, rfl⟩
  have hb : Text.Breaks ['\r', '\n'] := ⟨List.cons_ne_nil _ _, rfl⟩
  have hs : Text.Relaid "(a\nb)\n".toList ("(a\r\nb)".toList ++ ['\r', '\n']) :=
    .switchFeeds hb "(a\nb)\n".toList []
  have hw : Text.Relaid "(a\r\nb)".toList " \n(a\r\nb)".toList :=
    @Text.Relaid.blank [] ['\n'] 1 "(a\r\nb)".toList nofun hf
  obtain ⟨text, loaded, ht, hl, -, ho⟩ := @layout_irrelevant files "a.lisp" "(a\nb)\n".toList
    (by decide) rfl
  obtain ⟨text', loaded', ht', he, hr⟩ := ho files "b.lisp" " \n(a\r\nb)".toList (by decide) rfl
    (hs.trans (.trans (.last _ hb) hw))
  have hk : Token.scan text = ["(", "a", "b", ")"] := hl.trans (by decide)
  exact ⟨text, loaded, text', loaded', ht, ht', hk, he.trans hk, hr⟩

end Source

end Sexpr
