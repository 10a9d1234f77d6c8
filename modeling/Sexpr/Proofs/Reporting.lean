import Sexpr.Proofs.Append

/-!
# What reading reports

Grouping tokens reports a closing token that is not expected, and nothing on any other outcome
(`Parser.all_cases`). Reading the first tree also reports how many trees come after it, which are
those that reading all trees finds (`Parser.first_all_cases`). So the log of a text and its outcome
can be told from each other (`Reader.log_accounts_reading`).
-/

namespace Sexpr

namespace Parser

/-- A closing token that is not expected is reported with its place, and nothing else is. -/
theorem all_cases (tokens : List String) :
    (∃ position, all tokens =
      (.failure (.unexpected Token.closing (some position)), [.stray position])) ∨
    all tokens = (.failure .endOfInput, []) ∨
    ∃ nodes, all tokens = (.success (.group nodes), []) := by
  rw [all_eq]
  cases Stack.feedAll {} 0 tokens with
  | error position => exact .inl ⟨position, rfl⟩
  | ok stack =>
    rw [Stack.outcome]
    split
    · exact .inr (.inr ⟨_, rfl⟩)
    · exact .inr (.inl rfl)

/-- The first tree beside all trees, with the reports on both. -/
theorem first_all_cases (tokens : List String) :
    (∃ position, all tokens =
        (.failure (.unexpected Token.closing (some position)), [.stray position]) ∧
      first tokens = all tokens) ∨
    (all tokens = (.failure .endOfInput, []) ∧ first tokens = all tokens) ∨
    (all tokens = (.success (.group []), []) ∧ first tokens = (.failure .endOfInput, [])) ∨
    ∃ node rest, all tokens = (.success (.group (node :: rest)), []) ∧
      first tokens = (.success node, trailing rest) := by
  by_cases hn : tokens = []
  · subst hn
    refine .inr (.inr (.inl ⟨?_, ?_⟩))
    · rw [all, data_nil]
      rfl
    · rw [first, datum_nil]
  rcases all_cases tokens with ⟨position, ha⟩ | ha | ⟨nodes, ha⟩ <;>
    rcases first_eq_cases hn with ⟨error, he, hf⟩ | ⟨node, rest, he, hf⟩
  · exact .inl ⟨position, ha, hf⟩
  · rw [ha] at he
    cases he
  · exact .inr (.inl ⟨ha, hf⟩)
  · rw [ha] at he
    cases he
  · rw [ha] at he
    cases he
  · rw [ha] at he hf
    cases he
    exact .inr (.inr (.inr ⟨node, rest, ha, hf⟩))

/-! ## Which report means which outcome -/

/-- The number of trees after the first is reported if there are any. -/
theorem trailing_eq_iff {rest : List Node} {count : Nat} :
    trailing rest = [.ignored count] ↔ rest.length = count ∧ 1 ≤ rest.length := by
  cases rest with
  | nil => simp [trailing]
  | cons node rest => simp [trailing]

theorem trailing_ne_stray (rest : List Node) (position : Int) :
    trailing rest ≠ [.stray position] := by
  cases rest <;> simp [trailing]

theorem trailing_cases (rest : List Node) :
    trailing rest = [] ∨ ∃ count, trailing rest = [.ignored count] := by
  cases rest with
  | nil => exact .inl rfl
  | cons node rest => exact .inr ⟨_, rfl⟩

theorem all_log_cases (tokens : List String) :
    (all tokens).2 = [] ∨ ∃ position, (all tokens).2 = [.stray position] := by
  rcases all_cases tokens with ⟨position, ha⟩ | ha | ⟨nodes, ha⟩
  · exact .inr ⟨position, by rw [ha]⟩
  · exact .inl (by rw [ha])
  · exact .inl (by rw [ha])

theorem first_log_cases (tokens : List String) :
    (first tokens).2 = [] ∨ (∃ position, (first tokens).2 = [.stray position]) ∨
      ∃ count, (first tokens).2 = [.ignored count] := by
  rcases first_all_cases tokens with ⟨position, ha, hf⟩ | ⟨ha, hf⟩ | ⟨-, hf⟩ | ⟨node, rest, -, hf⟩
  · exact .inr (.inl ⟨position, by rw [hf, ha]⟩)
  · exact .inl (by rw [hf, ha])
  · exact .inl (by rw [hf])
  · rw [hf]
    exact (trailing_cases rest).imp_right .inr

theorem all_log_eq_stray_iff {tokens : List String} {position : Int} :
    (all tokens).2 = [.stray position] ↔
      ∃ token, (all tokens).1 = .failure (.unexpected token (some position)) := by
  rcases all_cases tokens with ⟨place, ha⟩ | ha | ⟨nodes, ha⟩ <;> simp [ha]

theorem first_log_eq_stray_iff {tokens : List String} {position : Int} :
    (first tokens).2 = [.stray position] ↔
      ∃ token, (first tokens).1 = .failure (.unexpected token (some position)) := by
  rcases first_all_cases tokens with ⟨place, ha, hf⟩ | ⟨ha, hf⟩ | ⟨-, hf⟩ | ⟨node, rest, -, hf⟩
  · simp [hf, ha]
  · simp [hf, ha]
  · simp [hf]
  · simp [hf, trailing_ne_stray]

theorem first_log_eq_ignored_iff {tokens : List String} {count : Nat} :
    (first tokens).2 = [.ignored count] ↔
      (first tokens).1.isSuccess ∧ ∃ nodes, (all tokens).1 = .success (.group nodes) ∧
        nodes.length = count + 1 ∧ 2 ≤ nodes.length := by
  rcases first_all_cases tokens with ⟨place, ha, hf⟩ | ⟨ha, hf⟩ | ⟨ha, hf⟩ | ⟨node, rest, ha, hf⟩
  · simp [hf, ha]
  · simp [hf, ha]
  · simp [hf, Reading.isSuccess]
  · simp [hf, ha, Reading.isSuccess, trailing_eq_iff]

/-- Both ways of reading report the same unexpected token. -/
theorem stray_mem_log_iff {tokens : List String} {position : Int} :
    .stray position ∈ (all tokens).2 ↔ .stray position ∈ (first tokens).2 := by
  rcases first_all_cases tokens with ⟨place, -, hf⟩ | ⟨-, hf⟩ | ⟨ha, hf⟩ | ⟨node, rest, ha, hf⟩
  · rw [hf]
  · rw [hf]
  · rw [ha, hf]
  · rw [ha, hf]
    rcases trailing_cases rest with ht | ⟨count, ht⟩ <;> simp [ht]

end Parser

namespace Reader

/-- The log of a text: its size, what grouping its tokens reports, and the outcome. -/
theorem log_eq (scope : Scope) (text : String) :
    (read scope text).2 = .tokenized text.length (Token.scan text).length ::
      ((group scope (Token.scan text)).2 ++ [verdict (read scope text).1]) := rfl

theorem stray_mem_read_iff {scope : Scope} {text : String} {position : Int} :
    .stray position ∈ (read scope text).2 ↔
      .stray position ∈ (group scope (Token.scan text)).2 := by
  have hv : .stray position ≠ verdict (read scope text).1 := by
    cases (read scope text).1 <;> simp [verdict]
  rw [log_eq]
  simp [hv]

/-- Nothing that reading reports is more than a detail. -/
theorem level_eq_debug (scope : Scope) (text : String) :
    (read scope text).2.all fun report => report.level = .debug := by
  have hv : (verdict (read scope text).1).level = .debug := by
    cases (read scope text).1 <;> rfl
  have hg : (group scope (Token.scan text)).2.all fun report => report.level = .debug := by
    cases scope with
    | all =>
      rcases Parser.all_log_cases (Token.scan text) with hl | ⟨position, hl⟩ <;>
        simp [group, hl, Record.level]
    | first =>
      rcases Parser.first_log_cases (Token.scan text) with hl | ⟨position, hl⟩ | ⟨count, hl⟩ <;>
        simp [group, hl, Record.level]
  rw [log_eq]
  simp only [List.all_cons, List.all_append, List.all_nil, hg, hv]
  rfl

/-- The log of a text tells its outcome. Between the first record and the last there is at most one:
the place of an unexpected token if that is the error, or the number of trees after the first if
there are any. The log of all trees differs by having no such number. -/
theorem log_accounts_reading (text : String) :
    (∃ notes, (read .first text).2 =
        .tokenized text.length (Token.scan text).length :: (notes ++ [verdict (first text)]) ∧
      (notes = [] ∨ (∃ position, notes = [.stray position]) ∨
        ∃ trailing, notes = [.ignored trailing]) ∧
      (∀ position, notes = [.stray position] ↔
        ∃ token, first text = .failure (.unexpected token (some position))) ∧
      ∀ trailing, notes = [.ignored trailing] ↔
        (first text).isSuccess ∧ ∃ nodes, all text = .success (.group nodes) ∧
          nodes.length = trailing + 1 ∧ 2 ≤ nodes.length) ∧
    (∃ notes, (read .all text).2 =
        .tokenized text.length (Token.scan text).length :: (notes ++ [verdict (all text)]) ∧
      (notes = [] ∨ ∃ position, notes = [.stray position]) ∧
      ∀ position, notes = [.stray position] ↔
        ∃ token, all text = .failure (.unexpected token (some position))) ∧
    (∀ position, .stray position ∈ (read .all text).2 ↔ .stray position ∈ (read .first text).2) ∧
    (∀ scope, (read scope text).2.all fun report => report.level = .debug) ∧
    (∀ characters tokens, (Record.tokenized characters tokens).message =
      "Tokenized " ++ toString characters ++ " character(s) into " ++ toString tokens ++
        " token(s)") ∧
    (∀ position, (Record.stray position).message =
      "Stray ')' at position " ++ toString position) ∧
    (∀ trailing, (Record.ignored trailing).message =
      "Ignoring " ++ toString trailing ++ " trailing datum(s) after the first") ∧
    (∀ token, (verdict (.success (.atom token))).message = "Parsed Atom") ∧
    (∀ children, (verdict (.success (.group children))).message = "Parsed Group") ∧
    ∀ error, (verdict (.failure error)).message = "Parse failed: " ++ error.describe := by
  refine ⟨⟨(Parser.first (Token.scan text)).2, log_eq .first text,
      Parser.first_log_cases (Token.scan text), fun position => Parser.first_log_eq_stray_iff,
      fun trailing => Parser.first_log_eq_ignored_iff⟩,
    ⟨(Parser.all (Token.scan text)).2, log_eq .all text, Parser.all_log_cases (Token.scan text),
      fun position => Parser.all_log_eq_stray_iff⟩,
    fun position => ?_, fun scope => level_eq_debug scope text, fun characters tokens => rfl,
    fun position => ?_, fun trailing => rfl, fun token => ?_, fun children => ?_, fun error => rfl⟩
  · rw [stray_mem_read_iff, stray_mem_read_iff]
    exact Parser.stray_mem_log_iff
  · have hq : "Stray " ++ Text.Quoted.encode Token.closing ++ " at position " =
        "Stray ')' at position " := by decide
    exact congrArg (· ++ toString position) hq
  · exact show "Parsed " ++ "Atom" = "Parsed Atom" by decide
  · exact show "Parsed " ++ "Group" = "Parsed Group" by decide

end Reader

end Sexpr
