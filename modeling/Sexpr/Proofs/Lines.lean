import Sexpr.Text.Lines

/-!
# Cutting text into lines

The cutter from any line at hand (`Text.cutLines`): a break ends the line and what follows is cut
from the start (`cutLines_cons_break`), and any other character goes into the line
(`cutLines_cons_other`). So no line holds a break (`unbroken_of_mem_lines`), and lines with a line
feed between neighbours are cut into these lines (`lines_intercalate`), as is a line with a line
feed after it (`lines_append_newline`). Making all line endings one kind first makes no difference
(`lines_normalizeNewlines`).
-/

namespace Sexpr.Text

/-- No character of a text ends a line. -/
def Unbroken (text : List Char) : Prop :=
  ∀ c ∈ text, isLineBreak c = false

/-- The lines of characters that come after a line at hand, which is reversed, and perhaps right
after a carriage return. -/
def cutLines (current : List Char) (afterReturn : Bool) (text : List Char) : List (List Char) :=
  (text.foldl LineCutter.feed ⟨[], current, afterReturn⟩).finish

theorem lines_eq_cutLines (text : List Char) : lines text = cutLines [] false text := rfl

/-- A character is the second half of a break, or goes into the line, or is a break. -/
theorem break_cases (c : Char) (afterReturn : Bool) :
    (c = '\n' ∧ afterReturn = true) ∨ isLineBreak c = false ∨
      (isLineBreak c = true ∧ (c ≠ '\n' ∨ afterReturn = false)) := by
  by_cases hn : c = '\n'
  · subst hn
    cases afterReturn
    · exact .inr (.inr ⟨by decide, .inr rfl⟩)
    · exact .inl ⟨rfl, rfl⟩
  · cases isLineBreak c
    · exact .inr (.inl rfl)
    · exact .inr (.inr ⟨rfl, .inl hn⟩)

theorem feed_other {c : Char} (h : isLineBreak c = false) (state : LineCutter) :
    state.feed c = { state with current := c :: state.current, afterReturn := false } := by
  have hn : c ≠ '\n' := by
    rintro rfl
    cases h
  simp [LineCutter.feed, h, hn]

theorem feed_break {c : Char} (h : isLineBreak c = true) {state : LineCutter}
    (hn : c ≠ '\n' ∨ state.afterReturn = false) :
    state.feed c = ⟨state.current.reverse :: state.lines, [], c == '\r'⟩ := by
  have hp : (decide (c = '\n') && state.afterReturn) = false := by
    rcases hn with hn | hn <;> simp [hn]
  simp [LineCutter.feed, h, hp]

/-- The lines found before are not looked at again. -/
theorem finish_foldl (text : List Char) :
    ∀ (found : List (List Char)) (current : List Char) (afterReturn : Bool),
      (text.foldl LineCutter.feed ⟨found, current, afterReturn⟩).finish =
        found.reverse ++ cutLines current afterReturn text := by
  induction text with
  | nil =>
    intro found current afterReturn
    cases current <;> simp [cutLines, LineCutter.finish]
  | cons c text ih =>
    intro found current afterReturn
    rw [cutLines, List.foldl_cons, List.foldl_cons]
    rcases break_cases c afterReturn with ⟨rfl, rfl⟩ | hc | ⟨hc, hn⟩
    · exact ih found current false
    · rw [feed_other hc, feed_other hc, ih, ih, List.reverse_nil, List.nil_append]
    · rw [feed_break hc hn, feed_break hc hn, ih, ih]
      simp

theorem cutLines_nil_nil (afterReturn : Bool) : cutLines [] afterReturn [] = [] := rfl

theorem cutLines_nil {current : List Char} (h : current ≠ []) (afterReturn : Bool) :
    cutLines current afterReturn [] = [current.reverse] := by
  simp [cutLines, LineCutter.finish, h]

theorem cutLines_cons_other {c : Char} (h : isLineBreak c = false) (current : List Char)
    (afterReturn : Bool) (text : List Char) :
    cutLines current afterReturn (c :: text) = cutLines (c :: current) false text := by
  rw [cutLines, List.foldl_cons, feed_other h]
  rfl

/-- A break ends the line at hand, and what follows is cut from the start. -/
theorem cutLines_cons_break {c : Char} (h : isLineBreak c = true) {afterReturn : Bool}
    (hn : c ≠ '\n' ∨ afterReturn = false) (current text : List Char) :
    cutLines current afterReturn (c :: text) =
      current.reverse :: cutLines [] (c == '\r') text := by
  rw [cutLines, List.foldl_cons, feed_break h hn, finish_foldl]
  rfl

/-- A line feed right after a carriage return is the second half of one break. -/
theorem cutLines_cons_pair (current text : List Char) :
    cutLines current true ('\n' :: text) = cutLines current false text := rfl

/-- Characters that end no line go into the line at hand. -/
theorem cutLines_append {line : List Char} (h : Unbroken line) :
    ∀ current text : List Char,
      cutLines current false (line ++ text) = cutLines (line.reverse ++ current) false text := by
  induction line with
  | nil => intro current text; rfl
  | cons c line ih =>
    intro current text
    rw [List.cons_append, cutLines_cons_other (h c List.mem_cons_self),
      ih fun d hd => h d (List.mem_cons_of_mem _ hd)]
    simp

/-- A line without breaks is one line, if it holds anything. -/
theorem lines_of_unbroken {line : List Char} (h : Unbroken line) (hn : line ≠ []) :
    lines line = [line] := by
  have hl := cutLines_append h [] []
  rw [List.append_nil, List.append_nil, cutLines_nil (by simpa using hn),
    List.reverse_reverse] at hl
  exact hl

/-- A line with a line feed after it comes before the lines of the rest. -/
theorem lines_append_newline {line : List Char} (h : Unbroken line) (rest : List Char) :
    lines (line ++ '\n' :: rest) = line :: lines rest := by
  rw [lines_eq_cutLines, cutLines_append h, List.append_nil,
    cutLines_cons_break (by decide) (.inr rfl), List.reverse_reverse]
  rfl

/-- Lines with a line feed between neighbours are cut into these lines. -/
theorem lines_intercalate {pieces : List (List Char)}
    (h : ∀ piece ∈ pieces, Unbroken piece ∧ piece ≠ []) :
    lines (['\n'].intercalate pieces) = pieces := by
  match pieces with
  | [] => rfl
  | [piece] =>
    rw [List.intercalate_singleton]
    exact lines_of_unbroken (h piece List.mem_cons_self).1 (h piece List.mem_cons_self).2
  | piece :: next :: rest =>
    rw [List.intercalate_cons_cons, List.append_assoc, List.singleton_append,
      lines_append_newline (h piece List.mem_cons_self).1,
      lines_intercalate fun p hp => h p (List.mem_cons_of_mem _ hp)]

/-- No line holds a break. -/
theorem unbroken_of_mem_cutLines (text : List Char) :
    ∀ (current : List Char) (afterReturn : Bool), Unbroken current →
      ∀ line ∈ cutLines current afterReturn text, Unbroken line := by
  have hrev : ∀ {current : List Char}, Unbroken current → Unbroken current.reverse :=
    fun h c hc => h c (List.mem_reverse.mp hc)
  induction text with
  | nil =>
    intro current afterReturn hc line hl
    by_cases hn : current = []
    · rw [hn, cutLines_nil_nil] at hl
      cases hl
    · rw [cutLines_nil hn, List.mem_singleton] at hl
      rw [hl]
      exact hrev hc
  | cons c text ih =>
    intro current afterReturn hu line hl
    rcases break_cases c afterReturn with ⟨rfl, rfl⟩ | hc | ⟨hc, hn⟩
    · rw [cutLines_cons_pair] at hl
      exact ih current false hu line hl
    · rw [cutLines_cons_other hc] at hl
      refine ih (c :: current) false (fun d hd => ?_) line hl
      rcases List.mem_cons.mp hd with rfl | hd
      · exact hc
      · exact hu d hd
    · rw [cutLines_cons_break hc hn, List.mem_cons] at hl
      rcases hl with rfl | hl
      · exact hrev hu
      · exact ih [] _ nofun line hl

theorem unbroken_of_mem_lines {text line : List Char} (h : line ∈ lines text) : Unbroken line :=
  unbroken_of_mem_cutLines text [] false nofun line h

/-! ## One kind of line ending -/

/-- The normalised form of characters that come perhaps right after a carriage return. -/
def normalizeFrom (afterReturn : Bool) (text : List Char) : List Char :=
  (text.foldl Newlines.feed ⟨[], afterReturn⟩).done.reverse

/-- What was normalised before is not looked at again. -/
theorem done_foldl (text : List Char) :
    ∀ (done : List Char) (afterReturn : Bool),
      (text.foldl Newlines.feed ⟨done, afterReturn⟩).done =
        (text.foldl Newlines.feed ⟨[], afterReturn⟩).done ++ done := by
  induction text with
  | nil => intro done afterReturn; rfl
  | cons c text ih =>
    intro done afterReturn
    simp only [List.foldl_cons, Newlines.feed]
    split
    · rw [ih ('\n' :: done), ih ['\n'], List.append_assoc, List.singleton_append]
    split
    · exact ih done false
    · rw [ih (c :: done), ih [c], List.append_assoc, List.singleton_append]

theorem normalizeFrom_return (afterReturn : Bool) (text : List Char) :
    normalizeFrom afterReturn ('\r' :: text) = '\n' :: normalizeFrom true text := by
  rw [normalizeFrom, List.foldl_cons, Newlines.feed, if_pos rfl, done_foldl, List.reverse_append]
  rfl

theorem normalizeFrom_pair (text : List Char) :
    normalizeFrom true ('\n' :: text) = normalizeFrom false text := rfl

theorem normalizeFrom_other {c : Char} {afterReturn : Bool} (hr : c ≠ '\r')
    (hn : c ≠ '\n' ∨ afterReturn = false) (text : List Char) :
    normalizeFrom afterReturn (c :: text) = c :: normalizeFrom false text := by
  have hp : (decide (c = '\n') && afterReturn) = false := by
    rcases hn with hn | hn <;> simp [hn]
  have hf : Newlines.feed ⟨[], afterReturn⟩ c = ⟨[c], false⟩ := by simp [Newlines.feed, hr, hp]
  rw [normalizeFrom, List.foldl_cons, hf, done_foldl, List.reverse_append]
  rfl

/-- A text without carriage returns has one kind of line ending already. -/
theorem normalizeNewlines_eq {text : List Char} (h : '\r' ∉ text) :
    normalizeNewlines text = text := by
  induction text with
  | nil => rfl
  | cons c text ih =>
    have hc : c ≠ '\r' := fun he => h (he ▸ List.mem_cons_self)
    calc normalizeNewlines (c :: text)
        = c :: normalizeNewlines text := normalizeFrom_other hc (.inr rfl) text
      _ = c :: text := by rw [ih fun hm => h (List.mem_cons_of_mem _ hm)]

theorem cutLines_normalizeFrom (text : List Char) :
    ∀ (current : List Char) (afterReturn : Bool),
      cutLines current false (normalizeFrom afterReturn text) =
        cutLines current afterReturn text := by
  induction text with
  | nil => intro current afterReturn; rfl
  | cons c text ih =>
    intro current afterReturn
    rcases break_cases c afterReturn with ⟨rfl, rfl⟩ | hc | ⟨hc, hn⟩
    · rw [normalizeFrom_pair, cutLines_cons_pair, ih]
    · have hr : c ≠ '\r' := by
        rintro rfl
        cases hc
      have hn : c ≠ '\n' := by
        rintro rfl
        cases hc
      rw [normalizeFrom_other hr (.inl hn), cutLines_cons_other hc, cutLines_cons_other hc, ih]
    · by_cases hr : c = '\r'
      -- A carriage return and the line feed in its place end the same line.
      · subst hr
        rw [normalizeFrom_return, cutLines_cons_break (by decide) (.inr rfl),
          cutLines_cons_break hc hn]
        exact congrArg _ (ih [] true)
      · have hf : (c == '\r') = false := beq_eq_false_iff_ne.mpr hr
        rw [normalizeFrom_other hr hn, cutLines_cons_break hc (.inr rfl),
          cutLines_cons_break hc hn, hf, ih]

/-- A text has the same lines after its line endings are made one kind. -/
theorem lines_normalizeNewlines (text : List Char) : lines (normalizeNewlines text) = lines text :=
  cutLines_normalizeFrom text [] false

end Sexpr.Text
