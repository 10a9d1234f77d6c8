import Sexpr.Token

/-!
# Cutting text into tokens

The scanner from any run at hand (`Token.cut`): a space or a parenthesis splits a text into parts
that are cut apart from each other (`cut_append_space`, `cut_append_paren`), and characters that
are neither go into the run (`cut_append_run`).

A text is spaced (`Token.Spaced`) as a list of tokens if it is the tokens in their order with runs
of spaces around them, where two neighbours that are both words are not joined. Every text is
spaced as its tokens (`cut_spaced`), and no other list of tokens is spaced as it (`cut_spread`).
-/

namespace Sexpr.Token

/-- A token that is no parenthesis: characters other than the three that carry structure. -/
def IsWord (token : String) : Prop :=
  token ≠ "" ∧ ∀ c ∈ token.toList, c ≠ ' ' ∧ c ≠ '(' ∧ c ≠ ')'

/-- A parenthesis or a word. -/
def IsToken (token : String) : Prop :=
  token = "(" ∨ token = ")" ∨ IsWord token

theorem isStructural_eq_false {c : Char} :
    isStructural c = false ↔ c ≠ ' ' ∧ c ≠ '(' ∧ c ≠ ')' := by
  simp [isStructural, structural]

/-- A character goes into the run, or is a space, or is a parenthesis. -/
theorem char_cases (c : Char) : isStructural c = false ∨ c = ' ' ∨ (c = '(' ∨ c = ')') := by
  rw [isStructural_eq_false]
  grind

theorem feed_run {c : Char} (h : isStructural c = false) (tokens : List String)
    (run : List Char) : Scanner.feed ⟨tokens, run⟩ c = ⟨tokens, c :: run⟩ := by
  simp [Scanner.feed, h]

theorem feed_space (scanner : Scanner) : scanner.feed ' ' = ⟨scanner.flush, []⟩ := rfl

theorem feed_paren {c : Char} (h : c = '(' ∨ c = ')') (scanner : Scanner) :
    scanner.feed c = ⟨String.singleton c :: scanner.flush, []⟩ := by
  rcases h with rfl | rfl <;> rfl

/-! ## The scanner from a run -/

/-- The tokens of characters that come after a run, which is reversed. -/
def cut (run text : List Char) : List String :=
  (text.foldl Scanner.feed ⟨[], run⟩).finish

theorem scan_eq_cut (text : String) : scan text = cut [] text.toList := rfl

theorem cut_nil_nil : cut [] [] = [] := rfl

theorem cut_nil {run : List Char} (h : run ≠ []) : cut run [] = [String.ofList run.reverse] := by
  simp [cut, Scanner.finish, Scanner.flush, h]

theorem flush_eq (tokens : List String) (run : List Char) :
    Scanner.flush ⟨tokens, run⟩ = (cut run []).reverse ++ tokens := by
  by_cases h : run = []
  · subst h; rfl
  · rw [cut_nil h]; simp [Scanner.flush, h]

/-- The tokens found before are not looked at again. -/
theorem finish_foldl (text : List Char) :
    ∀ (tokens : List String) (run : List Char),
      (text.foldl Scanner.feed ⟨tokens, run⟩).finish = tokens.reverse ++ cut run text := by
  induction text with
  | nil => intro tokens run; simp [Scanner.finish, flush_eq]
  | cons c text ih =>
    intro tokens run
    rw [cut, List.foldl_cons, List.foldl_cons]
    rcases char_cases c with h | rfl | h
    · rw [feed_run h, feed_run h, ih, ih, List.reverse_nil, List.nil_append]
    · rw [feed_space, feed_space, ih, ih, flush_eq, flush_eq]
      simp
    · rw [feed_paren h, feed_paren h, ih, ih, flush_eq, flush_eq]
      simp

/-- A space ends the run before it, and what follows is cut from the start. -/
theorem cut_append_space (run left right : List Char) :
    cut run (left ++ ' ' :: right) = cut run left ++ cut [] right := by
  rw [cut, List.foldl_append, List.foldl_cons, feed_space, finish_foldl]
  rfl

/-- A parenthesis does so too and is a token by itself. -/
theorem cut_append_paren {c : Char} (h : c = '(' ∨ c = ')') (run left right : List Char) :
    cut run (left ++ c :: right) = cut run left ++ String.singleton c :: cut [] right := by
  rw [cut, List.foldl_append, List.foldl_cons, feed_paren h, finish_foldl, List.reverse_cons,
    List.append_assoc]
  rfl

theorem cut_cons_space (run text : List Char) : cut run (' ' :: text) = cut run [] ++ cut [] text :=
  cut_append_space run [] text

theorem cut_cons_paren {c : Char} (h : c = '(' ∨ c = ')') (run text : List Char) :
    cut run (c :: text) = cut run [] ++ String.singleton c :: cut [] text :=
  cut_append_paren h run [] text

theorem cut_cons_run {c : Char} (h : isStructural c = false) (run text : List Char) :
    cut run (c :: text) = cut (c :: run) text := by
  rw [cut, List.foldl_cons, feed_run h]
  rfl

/-- Characters that carry no structure go into the run. -/
theorem cut_append_run {left : List Char} (h : ∀ c ∈ left, isStructural c = false) :
    ∀ run right : List Char, cut run (left ++ right) = cut (left.reverse ++ run) right := by
  induction left with
  | nil => intro run right; rfl
  | cons c left ih =>
    intro run right
    rw [List.cons_append, cut_cons_run (h c List.mem_cons_self),
      ih fun d hd => h d (List.mem_cons_of_mem _ hd)]
    simp

theorem cut_append_word {token : String} (h : IsWord token) (text : List Char) :
    cut [] (token.toList ++ text) = cut token.toList.reverse text := by
  rw [cut_append_run fun c hc => isStructural_eq_false.mpr (h.2 c hc), List.append_nil]

theorem cut_word {token : String} (h : IsWord token) : cut token.toList.reverse [] = [token] := by
  have hn : token.toList.reverse ≠ [] := by simpa using h.1
  rw [cut_nil hn, List.reverse_reverse, String.ofList_toList]

/-- A word is cut into itself. -/
theorem scan_word {token : String} (h : IsWord token) : scan token = [token] := by
  have hr := cut_append_word h []
  rwa [List.append_nil, cut_word h] at hr

/-! ## Texts put together -/

theorem scan_append_space (left right : String) :
    scan (left ++ " " ++ right) = scan left ++ scan right := by
  have hs := cut_append_space [] left.toList right.toList
  simpa [scan_eq_cut] using hs

theorem scan_append_paren {c : Char} (h : c = '(' ∨ c = ')') (left right : String) :
    scan (left ++ String.singleton c ++ right) =
      scan left ++ String.singleton c :: scan right := by
  have hp := cut_append_paren h [] left.toList right.toList
  simpa [scan_eq_cut] using hp

/-- Parentheses around a text are tokens before and after its own. -/
theorem scan_enclosed (text : String) :
    scan (opening ++ text ++ closing) = opening :: (scan text ++ [closing]) := by
  have ho := cut_cons_paren (.inl rfl : '(' = '(' ∨ '(' = ')') [] (text.toList ++ [')'])
  have hc := cut_append_paren (.inr rfl : ')' = '(' ∨ ')' = ')') [] text.toList []
  rw [hc, cut_nil_nil, List.nil_append] at ho
  simpa [scan_eq_cut, opening, closing] using ho

/-- Texts joined with spaces are cut one by one. -/
theorem scan_intercalate (texts : List String) :
    scan (" ".intercalate texts) = texts.flatMap scan := by
  match texts with
  | [] => rw [String.intercalate_nil]; rfl
  | [text] => rw [String.intercalate_singleton, List.flatMap_singleton]
  | text :: next :: rest =>
    rw [String.intercalate_cons_cons, scan_append_space, scan_intercalate (next :: rest)]
    rfl

/-! ## Spaced tokens -/

/-- A run of spaces, then each token with the run of spaces after it. -/
def spread (lead : Nat) : List (String × Nat) → List Char
  | [] => List.replicate lead ' '
  | (token, gap) :: rest => List.replicate lead ' ' ++ token.toList ++ spread gap rest

/-- Between two neighbours that are both words there is at least one space. -/
def Apart : List (String × Nat) → Prop
  | [] => True
  | [_] => True
  | (token, gap) :: (next, gap') :: rest =>
    (IsWord token → IsWord next → 0 < gap) ∧ Apart ((next, gap') :: rest)

/-- A text is tokens in their order with runs of spaces before, between and after them, which only
a word and a word need between them. -/
def Spaced (tokens : List String) (text : List Char) : Prop :=
  ∃ (lead : Nat) (items : List (String × Nat)),
    items.map Prod.fst = tokens ∧ (∀ token ∈ tokens, IsToken token) ∧ Apart items ∧
      text = spread lead items

theorem spread_succ (lead : Nat) (items : List (String × Nat)) :
    spread (lead + 1) items = ' ' :: spread lead items := by
  cases items <;> rfl

theorem IsWord.exists_cons {token : String} (h : IsWord token) :
    ∃ c rest, token.toList = c :: rest ∧ isStructural c = false := by
  cases ht : token.toList with
  | nil => exact absurd (String.toList_eq_nil_iff.mp ht) h.1
  | cons c rest =>
    exact ⟨c, rest, rfl, isStructural_eq_false.mpr (h.2 c (ht ▸ List.mem_cons_self))⟩

theorem IsWord.ne_paren {token : String} (h : IsWord token) :
    token ≠ opening ∧ token ≠ closing := by
  refine ⟨?_, ?_⟩
  · rintro rfl
    exact (h.2 '(' (by simp [opening])).2.1 rfl
  · rintro rfl
    exact (h.2 ')' (by simp [closing])).2.2 rfl

/-! ### No other tokens are spaced as a text -/

theorem cut_spread_lead (lead : Nat) (items : List (String × Nat)) :
    cut [] (spread lead items) = cut [] (spread 0 items) := by
  induction lead with
  | zero => rfl
  | succ lead ih =>
    rw [spread_succ, cut_cons_space, cut_nil_nil, List.nil_append, ih]

/-- A run ends where the text ends or goes on with a character that carries structure. -/
theorem cut_of_head {text : List Char} (h : ∀ c ∈ text.head?, isStructural c = true)
    (run : List Char) : cut run text = cut run [] ++ cut [] text := by
  cases text with
  | nil => rw [cut_nil_nil, List.append_nil]
  | cons c text =>
    rcases char_cases c with hc | rfl | hc
    · exact absurd (h c rfl) (by simp [hc])
    · rw [cut_cons_space run, cut_cons_space [], cut_nil_nil, List.nil_append]
    · rw [cut_cons_paren hc run, cut_cons_paren hc [], cut_nil_nil, List.nil_append]

/-- What comes after a word is empty or starts with a character that carries structure. -/
theorem head_spread {token : String} {gap : Nat} {rest : List (String × Nat)} (hw : IsWord token)
    (ha : Apart ((token, gap) :: rest)) (ht : ∀ item ∈ rest, IsToken item.1) :
    ∀ c ∈ (spread gap rest).head?, isStructural c = true := by
  cases gap with
  | succ gap => rw [spread_succ]; simp [isStructural, structural]
  | zero =>
    match rest, ha with
    | [], _ => simp [spread]
    | (next, gap) :: rest, ha =>
      rcases ht _ List.mem_cons_self with hn | hn | hn
      · rw [show next = "(" from hn]; simp [spread, isStructural, structural]
      · rw [show next = ")" from hn]; simp [spread, isStructural, structural]
      · exact absurd (ha.1 hw hn) (Nat.lt_irrefl 0)

/-- Spaced tokens are cut into themselves. -/
theorem cut_spread (items : List (String × Nat)) :
    ∀ lead, (∀ item ∈ items, IsToken item.1) → Apart items →
      cut [] (spread lead items) = items.map Prod.fst := by
  induction items with
  | nil => intro lead _ _; rw [cut_spread_lead]; rfl
  | cons item rest ih =>
    obtain ⟨token, gap⟩ := item
    intro lead ht ha
    have htr : ∀ item ∈ rest, IsToken item.1 := fun item hi => ht item (List.mem_cons_of_mem _ hi)
    have har : Apart rest := by
      match rest, ha with
      | [], _ => trivial
      | (_, _) :: _, ha => exact ha.2
    have hr := ih gap htr har
    rw [cut_spread_lead, spread, List.replicate_zero, List.nil_append, List.map_cons]
    rcases ht _ List.mem_cons_self with hp | hp | hw
    · rw [show token = "(" from hp, ← hr]
      exact cut_cons_paren (.inl rfl) [] _
    · rw [show token = ")" from hp, ← hr]
      exact cut_cons_paren (.inr rfl) [] _
    · rw [cut_append_word hw, cut_of_head (head_spread hw ha htr), hr, cut_word hw]
      rfl

/-! ### Every text is spaced as its tokens -/

theorem Spaced.space {tokens : List String} {text : List Char} (h : Spaced tokens text) :
    Spaced tokens (' ' :: text) := by
  obtain ⟨lead, items, he, ht, ha, rfl⟩ := h
  exact ⟨lead + 1, items, he, ht, ha, (spread_succ lead items).symm⟩

theorem Spaced.paren {c : Char} (hc : c = '(' ∨ c = ')') {tokens : List String} {text : List Char}
    (h : Spaced tokens text) : Spaced (String.singleton c :: tokens) (c :: text) := by
  obtain ⟨lead, items, rfl, ht, ha, rfl⟩ := h
  refine ⟨0, (String.singleton c, lead) :: items, rfl, ?_, ?_, by simp [spread]⟩
  · intro token hm
    rcases List.mem_cons.mp hm with rfl | hm
    · rcases hc with rfl | rfl
      · exact .inl rfl
      · exact .inr (.inl rfl)
    · exact ht token hm
  · match items, ha with
    | [], _ => trivial
    | (_, _) :: _, ha =>
      refine ⟨fun hw _ => ?_, ha⟩
      have hp := hw.2 c (by simp)
      rcases hc with rfl | rfl
      · exact absurd rfl hp.2.1
      · exact absurd rfl hp.2.2

theorem Spaced.word {token : String} (hw : IsWord token) {tokens : List String} {text : List Char}
    (hh : ∀ c ∈ text.head?, isStructural c = true) (h : Spaced tokens text) :
    Spaced (token :: tokens) (token.toList ++ text) := by
  obtain ⟨lead, items, rfl, ht, ha, rfl⟩ := h
  refine ⟨0, (token, lead) :: items, rfl, ?_, ?_, by simp [spread]⟩
  · intro t hm
    rcases List.mem_cons.mp hm with rfl | hm
    · exact .inr (.inr hw)
    · exact ht t hm
  · match items, ha with
    | [], _ => trivial
    | (next, gap) :: rest, ha =>
      refine ⟨fun _ hn => Nat.pos_of_ne_zero ?_, ha⟩
      -- Without a gap, what follows would start inside a word.
      rintro rfl
      obtain ⟨c, cs, hc, hs⟩ := hn.exists_cons
      have := hh c (by simp [spread, hc])
      rw [hs] at this
      exact absurd this (by decide)

theorem isWord_run {run : List Char} (hr : ∀ c ∈ run, isStructural c = false) (hn : run ≠ []) :
    IsWord (String.ofList run.reverse) := by
  refine ⟨fun he => hn (by simpa using he), fun c hc => ?_⟩
  rw [String.toList_ofList, List.mem_reverse] at hc
  exact isStructural_eq_false.mp (hr c hc)

/-- Ending the run at hand puts it before what is spaced after it. -/
theorem Spaced.pending {run : List Char} (hr : ∀ c ∈ run, isStructural c = false)
    {tokens : List String} {text : List Char} (hh : ∀ c ∈ text.head?, isStructural c = true)
    (h : Spaced tokens text) : Spaced (cut run [] ++ tokens) (run.reverse ++ text) := by
  by_cases hn : run = []
  · subst hn
    exact h
  · have hs := h.word (isWord_run hr hn) hh
    rw [String.toList_ofList] at hs
    rwa [cut_nil hn]

/-- Every text is spaced as the tokens it is cut into. -/
theorem cut_spaced (text : List Char) :
    ∀ run : List Char, (∀ c ∈ run, isStructural c = false) →
      Spaced (cut run text) (run.reverse ++ text) := by
  induction text with
  | nil =>
    intro run hr
    have h₀ : Spaced [] [] := ⟨0, [], rfl, by simp, trivial, rfl⟩
    simpa using h₀.pending hr (by simp)
  | cons c text ih =>
    intro run hr
    rcases char_cases c with hc | rfl | hc
    · have hs := ih (c :: run) (by simpa [hc] using hr)
      rw [cut_cons_run hc]
      simpa using hs
    · have hs := (ih [] (by simp)).space
      rw [cut_cons_space]
      exact hs.pending hr (by simp [isStructural, structural])
    · have hs := (ih [] (by simp)).paren hc
      rw [cut_cons_paren hc]
      refine hs.pending hr ?_
      rcases hc with rfl | rfl <;> simp [isStructural, structural]

theorem isToken_of_mem_scan {text token : String} (h : token ∈ scan text) : IsToken token := by
  obtain ⟨lead, items, -, ht, -⟩ := cut_spaced text.toList [] (by simp)
  exact ht token h

theorem mem_spread {items : List (String × Nat)} {item : String × Nat} (h : item ∈ items) {c : Char}
    (hc : c ∈ item.1.toList) : ∀ lead, c ∈ spread lead items := by
  induction items with
  | nil => cases h
  | cons first rest ih =>
    intro lead
    rw [spread, List.mem_append, List.mem_append]
    rcases List.mem_cons.mp h with rfl | hr
    · exact .inl (.inr hc)
    · exact .inr (ih hr first.2)

/-- The characters of a token stand in the text. -/
theorem mem_of_mem_scan {text token : String} (h : token ∈ scan text) {c : Char}
    (hc : c ∈ token.toList) : c ∈ text.toList := by
  obtain ⟨lead, items, he, -, -, ht⟩ := cut_spaced text.toList [] (by simp)
  rw [scan_eq_cut, ← he] at h
  obtain ⟨item, hm, rfl⟩ := List.mem_map.mp h
  rw [List.reverse_nil, List.nil_append] at ht
  rw [ht]
  exact mem_spread hm hc lead

/-- The tokens of a text are the one list of tokens that it is spaced as. -/
theorem scan_eq_iff_spaced (text : String) (tokens : List String) :
    scan text = tokens ↔ Spaced tokens text.toList := by
  rw [scan_eq_cut]
  constructor
  · rintro rfl
    exact cut_spaced text.toList [] (by simp)
  · rintro ⟨lead, items, rfl, ht, ha, he⟩
    rw [he]
    exact cut_spread items lead (fun item hi => ht item.1 (List.mem_map_of_mem hi)) ha

end Sexpr.Token
