import Sexpr.Proofs.Depth
import Sexpr.Proofs.Scanning
import Sexpr.Text.Case

/-!
# The text of an entry

An entry of a session is lines, joined with spaces and trimmed. Whether it is complete is found by
counting the parentheses of each line, and what it holds by reading its tokens. Here the two are
brought together:

* `Token.depth_scan`: the depth at the end of the tokens of a text is the balance of the text;
* `Token.balance_intercalate_append`, `Token.balance_trim`: joining adds the balances of lines, and
  trimming changes none, as no parenthesis is blank;
* `Token.scan_trim`: nor does trimming change tokens where spaces are the only blanks;
* `Text.mem_lower`: a character without case, such as a parenthesis, is still there in lower case.
-/

namespace Sexpr.Text

/-- The only blanks of a text are spaces. -/
def OnlySpaces (text : String) : Prop :=
  ∀ c ∈ text.toList, isBlank c = true → c = ' '

instance (text : String) : Decidable (OnlySpaces text) :=
  List.decidableBAll (fun c => isBlank c = true → c = ' ') text.toList

theorem isBlank_opening : isBlank '(' = false := by decide

theorem isBlank_closing : isBlank ')' = false := by decide

theorem isBlank_of_mem_takeWhile {c : Char} {text : List Char} (h : c ∈ text.takeWhile isBlank) :
    isBlank c = true :=
  List.all_eq_true.mp List.all_takeWhile c h

/-- A text is its trimmed text between blanks. -/
theorem exists_trim (text : String) :
    ∃ lead trail : List Char, (∀ c ∈ lead, isBlank c = true) ∧ (∀ c ∈ trail, isBlank c = true) ∧
      text.toList = lead ++ ((trim text).toList ++ trail) := by
  let kept := trimLeft text.toList
  have hl : text.toList.takeWhile isBlank ++ kept = text.toList := List.takeWhile_append_dropWhile
  have hr : trimRight kept ++ (kept.reverse.takeWhile isBlank).reverse = kept := by
    rw [trimRight, ← List.reverse_append, List.takeWhile_append_dropWhile, List.reverse_reverse]
  refine ⟨text.toList.takeWhile isBlank, (kept.reverse.takeWhile isBlank).reverse,
    fun c hc => isBlank_of_mem_takeWhile hc,
    fun c hc => isBlank_of_mem_takeWhile (List.mem_reverse.mp hc), ?_⟩
  rw [trim, String.toList_ofList, hr, hl]

theorem count_trim {c : Char} (hc : isBlank c = false) (text : String) :
    (trim text).toList.count c = text.toList.count c := by
  obtain ⟨lead, trail, hl, ht, he⟩ := exists_trim text
  have hl₀ : lead.count c = 0 := List.count_eq_zero.mpr fun h => by simp [hl c h] at hc
  have ht₀ : trail.count c = 0 := List.count_eq_zero.mpr fun h => by simp [ht c h] at hc
  rw [he, List.count_append, List.count_append, hl₀, ht₀]
  omega

theorem mem_trim {text : String} {c : Char} (hc : isBlank c = false) (h : c ∈ text.toList) :
    c ∈ (trim text).toList := by
  rw [← List.count_pos_iff, count_trim hc]
  exact List.count_pos_iff.mpr h

/-! ## Joined lines -/

theorem mem_intercalate {c : Char} (hc : c ≠ ' ') (lines : List String) :
    c ∈ (" ".intercalate lines).toList ↔ ∃ line ∈ lines, c ∈ line.toList := by
  match lines with
  | [] => simp
  | [line] => simp
  | line :: next :: rest =>
    rw [String.intercalate_cons_cons, String.toList_append, String.toList_append, List.mem_append,
      mem_intercalate hc (next :: rest)]
    simp [hc]

theorem OnlySpaces.intercalate {lines : List String} (h : ∀ line ∈ lines, OnlySpaces line) :
    OnlySpaces (" ".intercalate lines) := by
  intro c hm hb
  by_cases hc : c = ' '
  · exact hc
  · obtain ⟨line, hl, hm⟩ := (mem_intercalate hc lines).mp hm
    exact h line hl c hm hb

/-! ## Lower case -/

/-- A character that is its own lower-case form stays where it is. -/
theorem mem_lowerFrom {c : Char} (hs : c ≠ '\u03a3') (hc : lowerChar c = [c]) (text : List Char) :
    ∀ before done : List Char, c ∈ done ∨ c ∈ text → c ∈ lowerFrom before done text := by
  induction text with
  | nil =>
    intro before done h
    simpa [lowerFrom] using h
  | cons d text ih =>
    intro before done h
    rw [lowerFrom]
    split
    · rename_i hd
      refine ih _ _ ?_
      rcases h with h | h
      · exact .inl (List.mem_cons_of_mem _ h)
      · exact .inr (List.mem_of_ne_of_mem (hd ▸ hs) h)
    · refine ih _ _ ?_
      rcases h with h | h
      · exact .inl (List.mem_append_right _ h)
      · rcases List.mem_cons.mp h with rfl | h
        · exact .inl (by simp [hc])
        · exact .inr h

theorem mem_lower {c : Char} (hs : c ≠ '\u03a3') (hc : lowerChar c = [c]) {text : String}
    (h : c ∈ text.toList) : c ∈ (lower text).toList := by
  rw [lower, String.toList_ofList]
  exact mem_lowerFrom hs hc text.toList [] [] (.inr h)

end Sexpr.Text

namespace Sexpr.Token

/-! ## Parentheses as characters and as tokens -/

theorem count_cut_nil {c : Char} (hc : c = '(' ∨ c = ')') {run : List Char}
    (hr : ∀ d ∈ run, isStructural d = false) : (cut run []).count (String.singleton c) = 0 := by
  by_cases hn : run = []
  · subst hn
    rfl
  · obtain ⟨ho, hcl⟩ := (isWord_run hr hn).ne_paren
    rw [cut_nil hn]
    refine List.count_eq_zero.mpr fun hm => ?_
    rcases hc with rfl | rfl
    · exact ho (List.mem_singleton.mp hm).symm
    · exact hcl (List.mem_singleton.mp hm).symm

/-- A parenthesis is as often among the tokens as among the characters. -/
theorem count_cut {c : Char} (hc : c = '(' ∨ c = ')') (text : List Char) :
    ∀ run : List Char, (∀ d ∈ run, isStructural d = false) →
      (cut run text).count (String.singleton c) = text.count c := by
  induction text with
  | nil => intro run hr; exact count_cut_nil hc hr
  | cons d text ih =>
    intro run hr
    have hi := ih [] (by simp)
    rcases char_cases d with hd | rfl | hd
    · have hn : c ≠ d := by
        rintro rfl
        rcases hc with rfl | rfl <;> cases hd
      rw [cut_cons_run hd, ih (d :: run) (by simpa [hd] using hr), List.count_cons_of_ne hn.symm]
    · have hn : c ≠ ' ' := by rcases hc with rfl | rfl <;> decide
      rw [cut_cons_space, List.count_append, count_cut_nil hc hr, hi, Nat.zero_add,
        List.count_cons_of_ne hn.symm]
    · rw [cut_cons_paren hd, List.count_append, count_cut_nil hc hr, List.count_cons, hi,
        List.count_cons, Nat.zero_add]
      rcases hc with rfl | rfl <;> rcases hd with rfl | rfl <;> rfl

/-- The depth at the end of the tokens of a text is the balance of the text. -/
theorem depth_scan (text : String) :
    Parser.depth (scan text) (scan text).length = balance text := by
  have ho := count_cut (.inl rfl : '(' = '(' ∨ '(' = ')') text.toList [] (by simp)
  have hc := count_cut (.inr rfl : ')' = '(' ∨ ')' = ')') text.toList [] (by simp)
  rw [← scan_eq_cut] at ho hc
  rw [Parser.depth, List.take_length, balance, ← ho, ← hc]
  rfl

/-! ## The balance of an entry -/

theorem balance_empty : balance "" = 0 := by decide

theorem balance_append_space (left right : String) :
    balance (left ++ " " ++ right) = balance left + balance right := by
  simp only [balance, String.toList_append, List.count_append]
  have ho : " ".toList.count '(' = 0 := by decide
  have hc : " ".toList.count ')' = 0 := by decide
  omega

/-- A line that is joined to others adds its balance. -/
theorem balance_intercalate_append (lines : List String) (line : String) :
    balance (" ".intercalate (lines ++ [line])) =
      balance (" ".intercalate lines) + balance line := by
  by_cases hn : lines = []
  · rw [hn, List.nil_append, String.intercalate_singleton, String.intercalate_nil, balance_empty,
      Int.zero_add]
  · rw [String.intercalate_append_of_ne_nil hn (List.cons_ne_nil _ _),
      String.intercalate_singleton, balance_append_space]

theorem balance_trim (text : String) : balance (Text.trim text) = balance text := by
  rw [balance, balance, Text.count_trim Text.isBlank_opening, Text.count_trim Text.isBlank_closing]

theorem mem_closing_of_balance_neg {text : String} (h : balance text < 0) :
    ')' ∈ text.toList := by
  rw [balance] at h
  exact List.count_pos_iff.mp (by omega)

/-! ## The tokens of a trimmed text -/

/-- Spaces before a text are no tokens. -/
theorem cut_append_spaces_left {lead : List Char} (h : ∀ c ∈ lead, c = ' ') (text : List Char) :
    cut [] (lead ++ text) = cut [] text := by
  induction lead with
  | nil => rfl
  | cons c lead ih =>
    obtain rfl := h c List.mem_cons_self
    rw [List.cons_append, cut_cons_space, cut_nil_nil, List.nil_append,
      ih fun d hd => h d (List.mem_cons_of_mem _ hd)]

/-- Neither are spaces after it. -/
theorem cut_append_spaces_right {trail : List Char} (h : ∀ c ∈ trail, c = ' ')
    (text : List Char) : cut [] (text ++ trail) = cut [] text := by
  cases trail with
  | nil => rw [List.append_nil]
  | cons c trail =>
    obtain rfl := h c List.mem_cons_self
    have ht := cut_append_spaces_left (fun d hd => h d (List.mem_cons_of_mem _ hd)) []
    rw [List.append_nil, cut_nil_nil] at ht
    rw [cut_append_space, ht, List.append_nil]

/-- Trimming keeps the tokens of a text that has no blanks but spaces. -/
theorem scan_trim {text : String} (h : Text.OnlySpaces text) :
    scan (Text.trim text) = scan text := by
  obtain ⟨lead, trail, hl, ht, he⟩ := Text.exists_trim text
  have hl' : ∀ c ∈ lead, c = ' ' := fun c hc => h c (by rw [he]; simp [hc]) (hl c hc)
  have ht' : ∀ c ∈ trail, c = ' ' := fun c hc => h c (by rw [he]; simp [hc]) (ht c hc)
  rw [scan_eq_cut, scan_eq_cut, he, cut_append_spaces_left hl', cut_append_spaces_right ht']

end Sexpr.Token
