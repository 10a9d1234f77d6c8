import Sexpr.Proofs.Grammar
import Sexpr.Proofs.Waiting

/-!
# Reading a line with its ends trimmed

A session trims the text of an entry before it reads it, and the blanks that it takes away are more
than the spaces between tokens. What is lost with them, on a line that is an entry by itself:

* no token, if they are spaces; any other blank is a part of a token (`Token.scan_trim_eq_iff`);
* no parenthesis and no place of one, but for the tokens that end before the text does
  (`Token.exists_rise_trim`).

So the session and the reader agree on whether a line has an error. On a line without one they
agree exactly if the blanks at its ends are spaces, and on a line with one exactly if no token
is lost at its start (`Session.reading_agrees_iff`).
-/

namespace Sexpr.Text

/-- All that trimming takes away from a text are spaces. -/
def SpacedEnds (text : String) : Prop :=
  ∃ lead trail : Nat,
    text.toList = List.replicate lead ' ' ++ ((trim text).toList ++ List.replicate trail ' ')

/-- A text without the blanks at its start. -/
def trimStart (text : String) : String :=
  String.ofList (trimLeft text.toList)

theorem exists_trimStart (text : String) :
    ∃ lead : List Char, (∀ c ∈ lead, isBlank c = true) ∧
      text.toList = lead ++ (trimStart text).toList :=
  ⟨text.toList.takeWhile isBlank, fun _ hc => isBlank_of_mem_takeWhile hc, by
    rw [trimStart, String.toList_ofList, trimLeft, List.takeWhile_append_dropWhile]⟩

theorem exists_trimEnd (text : String) :
    ∃ trail : List Char, (∀ c ∈ trail, isBlank c = true) ∧
      (trimStart text).toList = (trim text).toList ++ trail := by
  refine ⟨((trimLeft text.toList).reverse.takeWhile isBlank).reverse,
    fun c hc => isBlank_of_mem_takeWhile (List.mem_reverse.mp hc), ?_⟩
  rw [trimStart, trim, String.toList_ofList, String.toList_ofList, trimRight,
    ← List.reverse_append, List.takeWhile_append_dropWhile, List.reverse_reverse]

end Sexpr.Text

namespace Sexpr.Token

/-! ## The characters of tokens -/

/-- The characters of the tokens are those of the text that are no spaces. -/
theorem flatMap_cut (text : List Char) :
    ∀ run : List Char, (∀ c ∈ run, isStructural c = false) →
      (cut run text).flatMap String.toList = run.reverse ++ text.filter (· != ' ') := by
  have hw : ∀ run : List Char, (cut run []).flatMap String.toList = run.reverse := by
    intro run
    by_cases hn : run = []
    · subst hn
      rfl
    · rw [cut_nil hn]
      simp
  induction text with
  | nil =>
    intro run _
    rw [hw, List.filter_nil, List.append_nil]
  | cons c text ih =>
    intro run hr
    have h₀ := ih [] (by simp)
    rw [List.reverse_nil, List.nil_append] at h₀
    rcases char_cases c with hc | rfl | hc
    · have hs : c ≠ ' ' := (isStructural_eq_false.mp hc).1
      rw [cut_cons_run hc, ih (c :: run) (by simpa [hc] using hr)]
      simp [hs]
    · rw [cut_cons_space, List.flatMap_append, hw, h₀]
      simp
    · have hs : c ≠ ' ' := by rcases hc with rfl | rfl <;> decide
      rw [cut_cons_paren hc, List.flatMap_append, hw, List.flatMap_cons, h₀]
      simp [hs]

theorem filter_eq_nil {text : List Char} (h : text.filter (· != ' ') = []) :
    ∃ count, text = List.replicate count ' ' := by
  refine ⟨text.length, List.eq_replicate_iff.mpr ⟨rfl, fun c hc => ?_⟩⟩
  simpa using List.filter_eq_nil_iff.mp h c hc

/-- Trimming keeps the tokens of a text exactly if it takes away nothing but spaces. -/
theorem scan_trim_eq_iff (text : String) :
    scan (Text.trim text) = scan text ↔ Text.SpacedEnds text := by
  constructor
  · intro h
    obtain ⟨lead, trail, -, -, he⟩ := Text.exists_trim text
    have hf := congrArg (List.flatMap String.toList) h
    rw [scan_eq_cut, scan_eq_cut, flatMap_cut _ [] (by simp), flatMap_cut _ [] (by simp), he] at hf
    simp only [List.reverse_nil, List.nil_append, List.filter_append] at hf
    have hl := congrArg List.length hf
    simp only [List.length_append] at hl
    obtain ⟨n, hn⟩ := filter_eq_nil (List.eq_nil_of_length_eq_zero
      (show (lead.filter (· != ' ')).length = 0 by omega))
    obtain ⟨m, hm⟩ := filter_eq_nil (List.eq_nil_of_length_eq_zero
      (show (trail.filter (· != ' ')).length = 0 by omega))
    exact ⟨n, m, by rw [he, hn, hm]⟩
  · rintro ⟨n, m, he⟩
    rw [scan_eq_cut, scan_eq_cut, he,
      cut_append_spaces_left fun c hc => (List.mem_replicate.mp hc).2,
      cut_append_spaces_right fun c hc => (List.mem_replicate.mp hc).2]

/-! ## The parentheses of tokens -/

/-- A text is cut up to some token, and what comes after it is cut from the run at hand there. -/
theorem exists_cut_append (text : List Char) :
    ∀ run : List Char, (∀ c ∈ run, isStructural c = false) →
      ∃ (tokens : List String) (last : List Char), (∀ c ∈ last, isStructural c = false) ∧
        ∀ more, cut run (text ++ more) = tokens ++ cut last more := by
  induction text with
  | nil =>
    intro run hr
    exact ⟨[], run, hr, fun more => rfl⟩
  | cons c text ih =>
    intro run hr
    obtain ⟨tokens, last, hl, ht⟩ := ih [] (by simp)
    rcases char_cases c with hc | rfl | hc
    · obtain ⟨tokens, last, hl, ht⟩ := ih (c :: run) (by simpa [hc] using hr)
      refine ⟨tokens, last, hl, fun more => ?_⟩
      rw [List.cons_append, cut_cons_run hc, ht]
    · refine ⟨cut run [] ++ tokens, last, hl, fun more => ?_⟩
      rw [List.cons_append, cut_cons_space, ht, List.append_assoc]
    · refine ⟨cut run [] ++ String.singleton c :: tokens, last, hl, fun more => ?_⟩
      rw [List.cons_append, cut_cons_paren hc, ht, List.append_assoc, List.cons_append]

/-- Characters of a text that are no parentheses are cut into words. -/
theorem isWord_of_mem_cut {run text : List Char} (hr : ∀ c ∈ run, isStructural c = false)
    (hp : ∀ c ∈ text, c ≠ '(' ∧ c ≠ ')') {token : String} (h : token ∈ cut run text) :
    IsWord token := by
  obtain ⟨lead, items, -, ht, -⟩ := cut_spaced text run hr
  have hn : ∀ c : Char, c = '(' ∨ c = ')' → token ≠ String.singleton c := by
    rintro c hc rfl
    have hz : text.count c = 0 := List.count_eq_zero.mpr fun hm => by
      rcases hc with rfl | rfl
      · exact (hp _ hm).1 rfl
      · exact (hp _ hm).2 rfl
    have := List.count_pos_iff.mpr h
    rw [count_cut hc text run hr] at this
    omega
  rcases ht token h with he | he | hw
  · exact absurd he (hn '(' (.inl rfl))
  · exact absurd he (hn ')' (.inr rfl))
  · exact hw

theorem IsWord.rise_eq_zero {token : String} (h : IsWord token) : Parser.rise token = 0 := by
  simp [Parser.rise, h.ne_paren.1, h.ne_paren.2]

theorem rise_of_isWord {tokens : List String} (h : ∀ token ∈ tokens, IsWord token) :
    tokens.map Parser.rise = List.replicate tokens.length 0 := by
  refine List.eq_replicate_iff.mpr ⟨List.length_map _, fun n hn => ?_⟩
  obtain ⟨token, ht, rfl⟩ := List.mem_map.mp hn
  exact (h token ht).rise_eq_zero

theorem rise_cut_nil {run : List Char} (hr : ∀ c ∈ run, isStructural c = false) (hn : run ≠ []) :
    (cut run []).map Parser.rise = [0] := by
  rw [cut_nil hn, List.map_singleton, (isWord_run hr hn).rise_eq_zero]

/-- The parentheses after a run do not depend on what the run holds. -/
theorem rise_cut_run (text : List Char) :
    ∀ left right : List Char, (∀ c ∈ left, isStructural c = false) → left ≠ [] →
      (∀ c ∈ right, isStructural c = false) → right ≠ [] →
      (cut left text).map Parser.rise = (cut right text).map Parser.rise := by
  induction text with
  | nil =>
    intro left right hl hln hr hrn
    rw [rise_cut_nil hl hln, rise_cut_nil hr hrn]
  | cons c text ih =>
    intro left right hl hln hr hrn
    rcases char_cases c with hc | rfl | hc
    · rw [cut_cons_run hc, cut_cons_run hc]
      exact ih _ _ (by simpa [hc] using hl) (List.cons_ne_nil _ _) (by simpa [hc] using hr)
        (List.cons_ne_nil _ _)
    · rw [cut_cons_space, cut_cons_space, List.map_append, List.map_append, rise_cut_nil hl hln,
        rise_cut_nil hr hrn]
    · rw [cut_cons_paren hc, cut_cons_paren hc, List.map_append, List.map_append,
        rise_cut_nil hl hln, rise_cut_nil hr hrn]

/-- Characters before a text that are no parentheses put words before its parentheses. -/
theorem exists_rise_left {lead : List Char} (h : ∀ c ∈ lead, c ≠ '(' ∧ c ≠ ')')
    (text : List Char) :
    ∃ count, (cut [] (lead ++ text)).map Parser.rise =
      List.replicate count 0 ++ (cut [] text).map Parser.rise := by
  obtain ⟨tokens, last, hl, ht⟩ := exists_cut_append lead [] (by simp)
  have hw : ∀ token ∈ tokens, IsWord token := by
    intro token hm
    have hc := ht []
    rw [List.append_nil] at hc
    exact isWord_of_mem_cut (by simp) h (hc ▸ List.mem_append_left _ hm)
  rw [ht, List.map_append, rise_of_isWord hw]
  by_cases hn : last = []
  · exact ⟨tokens.length, by rw [hn]⟩
  by_cases hh : ∀ c ∈ text.head?, isStructural c = true
  · refine ⟨tokens.length + 1, ?_⟩
    rw [cut_of_head hh, List.map_append, rise_cut_nil hl hn, List.replicate_succ',
      List.append_assoc]
  · -- The last run goes on into the first token of the text.
    refine ⟨tokens.length, ?_⟩
    cases text with
    | nil => exact absurd (by simp) hh
    | cons c text =>
      have hc : isStructural c = false := by simpa using hh
      have hr := rise_cut_run text (c :: last) [c] (by simpa [hc] using hl)
        (List.cons_ne_nil _ _) (by simpa using hc) (List.cons_ne_nil _ _)
      rw [cut_cons_run hc, cut_cons_run hc, hr]

/-- Such characters after a text put words after its parentheses. -/
theorem exists_rise_right {trail : List Char} (h : ∀ c ∈ trail, c ≠ '(' ∧ c ≠ ')')
    (text : List Char) :
    ∃ count, (cut [] (text ++ trail)).map Parser.rise =
      (cut [] text).map Parser.rise ++ List.replicate count 0 := by
  obtain ⟨tokens, last, hl, ht⟩ := exists_cut_append text [] (by simp)
  have ht₀ := ht []
  rw [List.append_nil] at ht₀
  have hw := rise_of_isWord fun token (hm : token ∈ cut last trail) => isWord_of_mem_cut hl h hm
  rw [ht, ht₀, List.map_append, List.map_append, hw]
  by_cases hn : last = []
  · exact ⟨(cut last trail).length, by rw [hn, cut_nil_nil, List.map_nil, List.append_nil]⟩
  · -- The run at the end of the text is a part of the first word after it.
    have hp : cut last trail ≠ [] := by
      intro he
      have hf := flatMap_cut trail last hl
      rw [he] at hf
      simp [hn] at hf
    obtain ⟨count, hc⟩ := Nat.exists_eq_succ_of_ne_zero (mt List.eq_nil_of_length_eq_zero hp)
    refine ⟨count, ?_⟩
    rw [rise_cut_nil hl hn, hc, List.append_assoc]
    rfl

theorem ne_paren_of_isBlank {c : Char} (h : Text.isBlank c = true) : c ≠ '(' ∧ c ≠ ')' := by
  refine ⟨?_, ?_⟩
  · rintro rfl
    cases Text.isBlank_opening.symm.trans h
  · rintro rfl
    cases Text.isBlank_closing.symm.trans h

/-- The parentheses of a text are those of the trimmed text, with words before and after them.
Those before are the tokens that the text loses at its start. -/
theorem exists_rise_trim (text : String) :
    ∃ before after, (scan text).map Parser.rise =
        List.replicate before 0 ++ (scan (Text.trim text)).map Parser.rise ++
          List.replicate after 0 ∧
      (scan text).length = before + (scan (Text.trimStart text)).length := by
  obtain ⟨lead, hl, hs⟩ := Text.exists_trimStart text
  obtain ⟨trail, ht, he⟩ := Text.exists_trimEnd text
  obtain ⟨before, hb⟩ :=
    exists_rise_left (fun c hc => ne_paren_of_isBlank (hl c hc)) (Text.trimStart text).toList
  obtain ⟨after, ha⟩ :=
    exists_rise_right (fun c hc => ne_paren_of_isBlank (ht c hc)) (Text.trim text).toList
  rw [← hs] at hb
  rw [← he] at ha
  refine ⟨before, after, ?_, ?_⟩
  · rw [List.append_assoc]
    exact hb.trans (congrArg _ ha)
  · have hn := congrArg List.length hb
    simpa [scan_eq_cut] using hn

end Sexpr.Token

namespace Sexpr.Parser

theorem rise_eq_one_iff {token : String} : rise token = 1 ↔ token = "(" := by
  by_cases ho : token = "("
  · simp [rise, Token.opening, ho]
  · by_cases hc : token = ")" <;> simp [rise, Token.opening, Token.closing, ho, hc]

theorem rise_eq_neg_one_iff {token : String} : rise token = -1 ↔ token = ")" := by
  by_cases hc : token = ")"
  · simp [rise, Token.opening, Token.closing, hc]
  · by_cases ho : token = "(" <;> simp [rise, Token.opening, Token.closing, ho, hc]

theorem getElem?_eq_iff_rise {tokens : List String} {token : String} {value : Int}
    (h : ∀ other, rise other = value ↔ other = token) (i : Nat) :
    tokens[i]? = some token ↔ (tokens.map rise)[i]? = some value := by
  simp [List.getElem?_map, h]

/-- Tokens with the same rises have the same parentheses in the same places. -/
theorem sameParens_of_rise {others tokens : List String}
    (h : others.map rise = tokens.map rise) : SameParens others tokens := by
  intro i
  rw [getElem?_eq_iff_rise (fun _ => rise_eq_one_iff),
    getElem?_eq_iff_rise (fun _ => rise_eq_one_iff),
    getElem?_eq_iff_rise (fun _ => rise_eq_neg_one_iff),
    getElem?_eq_iff_rise (fun _ => rise_eq_neg_one_iff), h]
  exact ⟨Iff.rfl, Iff.rfl⟩

namespace Stack

theorem outcome_error_congr {others tokens : List String} (h : SameParens others tokens)
    (error : SyntaxError) :
    outcome (feedAll {} 0 others) = .error error ↔
      outcome (feedAll {} 0 tokens) = .error error := by
  simp only [outcome_eq_error_iff, overclosed_congr h, unclosed_congr h]

/-- Words are read as atoms. -/
theorem outcome_words (count : Nat) :
    outcome (feedAll {} 0 (List.replicate count "")) =
      .ok (List.replicate count (.atom "")) := by
  refine outcome_eq_ok_iff.mpr ⟨?_, fun node hn => ?_⟩
  · induction count with
    | zero => rfl
    | succ count ih => rw [List.replicate_succ, List.flatMap_cons, ih]; rfl
  · rw [(List.mem_replicate.mp hn).2]
    intro token ht
    rw [List.mem_singleton.mp ht]
    decide

/-- Words before and after tokens change neither whether they are read nor, but for those before it,
the place of the closing token that is not expected. -/
theorem outcome_between_words {tokens : List String} (hu : ¬ Unclosed tokens) (before after : Nat) :
    ((∃ nodes, outcome (feedAll {} 0 tokens) = .ok nodes) ∧
      ∃ nodes, outcome (feedAll {} 0
        (List.replicate before "" ++ tokens ++ List.replicate after "")) = .ok nodes) ∨
    ∃ p : Nat, outcome (feedAll {} 0 tokens) = .error (.unexpected ")" (some p)) ∧
      outcome (feedAll {} 0 (List.replicate before "" ++ tokens ++ List.replicate after "")) =
        .error (.unexpected ")" (some (before + p : Nat))) := by
  rw [List.append_assoc, outcome_append_of_ok (outcome_words before), List.length_replicate]
  rcases outcome_cases tokens with ⟨p, -, -, he⟩ | ⟨hu', -⟩ | ⟨-, nodes, he⟩
  · refine .inr ⟨p, he, ?_⟩
    rw [outcome_append_of_unexpected he]
    rfl
  · exact absurd hu' hu
  · refine .inl ⟨⟨nodes, he⟩, ?_⟩
    rw [outcome_append_of_ok he, outcome_words]
    exact ⟨_, rfl⟩

end Stack

end Sexpr.Parser

namespace Sexpr.Reader

/-- A line that opens no more groups than it closes is read exactly if it is read with its ends
trimmed. An error is the same, but for the tokens before it that the line loses at its start. -/
theorem all_trim_cases {line : String} (hb : Token.balance line ≤ 0) :
    ((∃ node, all (Text.trim line) = .success node) ∧ ∃ node, all line = .success node) ∨
    ∃ before p : Nat, all (Text.trim line) = .failure (.unexpected ")" (some p)) ∧
      all line = .failure (.unexpected ")" (some (before + p : Nat))) ∧
      (Token.scan line).length = before + (Token.scan (Text.trimStart line)).length := by
  obtain ⟨before, after, hr, hn⟩ := Token.exists_rise_trim line
  have hs : Parser.SameParens (Token.scan line)
      (List.replicate before "" ++ Token.scan (Text.trim line) ++ List.replicate after "") := by
    refine Parser.sameParens_of_rise ?_
    rw [hr]
    simp [Parser.rise, Token.opening, Token.closing]
  have hu : ¬ Parser.Unclosed (Token.scan (Text.trim line)) := by
    intro hu
    have hd := hu.2
    rw [Token.depth_scan, Token.balance_trim] at hd
    omega
  rcases Parser.Stack.outcome_between_words hu before after with
    ⟨⟨nodes, ht⟩, others, ho⟩ | ⟨p, ht, ho⟩
  · refine .inl ⟨⟨.group nodes, by rw [all_eq_gather, ht]; rfl⟩, ?_⟩
    -- An error of the line would be an error of the tokens with the same parentheses.
    cases hl : Parser.Stack.outcome (Parser.Stack.feedAll {} 0 (Token.scan line)) with
    | error error =>
      rw [Parser.Stack.outcome_error_congr hs, ho] at hl
      cases hl
    | ok nodes => exact ⟨.group nodes, by rw [all_eq_gather, hl]; rfl⟩
  · refine .inr ⟨before, p, by rw [all_eq_gather, ht]; rfl, ?_, hn⟩
    rw [all_eq_gather, (Parser.Stack.outcome_error_congr hs _).mpr ho]
    rfl

/-- On a line that is read, trimming its ends changes nothing exactly if they are spaces. -/
theorem all_trim_eq_iff {line : String} {node : Node} (h : all line = .success node) :
    all (Text.trim line) = all line ↔ Text.SpacedEnds line := by
  obtain ⟨nodes, rfl⟩ := Parser.exists_group_of_all h
  rw [← Token.scan_trim_eq_iff]
  constructor
  · intro he
    have hl := (Parser.all_eq_success_iff.mp h).1
    have ht := (Parser.all_eq_success_iff.mp (he.trans h)).1
    exact ht.symm.trans hl
  · intro hs
    exact congrArg (fun tokens => (Parser.all tokens).1) hs

end Sexpr.Reader

namespace Sexpr.Session

/-- The outcome that a session computes for a line given to it at the first prompt of an entry. -/
theorem reading?_action (format : Format) (verbose : Bool) {line : String}
    (hb : Token.balance line ≤ 0) (hc : isComment line = false) (hf : isFarewell line = false)
    (hv : Text.lower (Text.trim line) ≠ "verbose-mode") :
    (action { format, verbose } line).reading? =
      if Text.trim line = "" then none else some (Reader.all (Text.trim line)) := by
  have ht : entryText [line] = Text.trim line := by
    rw [entryText, String.intercalate_singleton]
  have ha : action { format, verbose } line = .ofText (Text.trim line) := by
    rcases action_cases { format, verbose } line with ⟨h, -⟩ | ⟨h, -⟩ | ⟨-, ha⟩ | ⟨h, -⟩
    · exact absurd h (by simp [hf])
    · exact absurd h (by simp [hc])
    · rwa [List.nil_append, ht] at ha
    · exact absurd h (by simp only [Int.zero_add]; omega)
  rw [ha, Action.ofText, if_neg hv]
  split <;> rfl

/-- What is printed for a line that is read is what the session shows of the outcome. -/
theorem output_of_reading {session : Session} {line : String} {reading : Reading}
    (h : (session.action line).reading? = some reading) (hq : session.verbose = false) :
    (session.accept line).output = printed (shown session.format reading) := by
  rw [accept_eq_perform]
  cases ha : session.action line with
  | read text =>
    rw [ha] at h
    obtain rfl := Option.some.inj h
    simp [perform, display, hq, Reader.all, Reader.read, Reader.group]
  | leave | skip | collect | pass | switch => rw [ha] at h; cases h

/-- A line is an entry by itself and no command, and not only spaces. A session that is given it
at the first prompt computes the outcome of the reader exactly if the blanks at its ends are
spaces, where the reader finds no error, and exactly if no token is lost at its start, where the
reader finds one. -/
theorem reading_agrees_iff (format : Format) (verbose : Bool) {line : String}
    (hb : Token.balance line ≤ 0) (hs : ∃ c ∈ line.toList, c ≠ ' ') (hc : isComment line = false)
    (hf : isFarewell line = false) (hv : Text.lower (Text.trim line) ≠ "verbose-mode") :
    (∀ node, Reader.all line = .success node →
      ((action { format, verbose } line).reading? = some (Reader.all line) ↔
        Text.SpacedEnds line)) ∧
    (∀ error, Reader.all line = .failure error →
      ((action { format, verbose } line).reading? = some (Reader.all line) ↔
        (Token.scan (Text.trimStart line)).length = (Token.scan line).length)) ∧
    ∀ reading, (action { format, verbose } line).reading? = some reading →
      (accept { format, verbose := false } line).output = printed (shown format reading) := by
  have hr := reading?_action format verbose hb hc hf hv
  refine ⟨fun node hn => ?_, fun error he => ?_, fun reading hm => ?_⟩
  · rw [hr]
    split
    · rename_i ht
      refine ⟨nofun, fun ⟨n, m, he⟩ => ?_⟩
      -- Nothing but spaces would be left.
      obtain ⟨c, hm, hne⟩ := hs
      rw [he, ht] at hm
      simp only [String.toList_empty, List.nil_append, List.mem_append, List.mem_replicate] at hm
      rcases hm with hm | hm <;> exact absurd hm.2 hne
    · rw [Option.some.injEq, Reader.all_trim_eq_iff hn]
  · rcases Reader.all_trim_cases hb with ⟨-, node, hn⟩ | ⟨before, p, ht, hl, hlen⟩
    · cases he.symm.trans hn
    · have hne : Text.trim line ≠ "" := by
        intro h₀
        rw [h₀] at ht
        cases ht.symm.trans Parser.all_nil
      rw [hr, if_neg hne, ht, hl]
      simp only [Option.some.injEq, Reading.failure.injEq, SyntaxError.unexpected.injEq, true_and]
      omega
  · refine output_of_reading ?_ rfl
    rwa [reading?_action format false hb hc hf hv, ← hr]

/-- A line with a tab inside an atom and spaces at its ends, and a line with an error. -/
theorem reading_agrees_iff_each :
    (action { format := .listing, verbose := false } "  (a\tb) c ").reading? =
        some (.success (.group [.group [.atom "a\tb"], .atom "c"])) ∧
      Reader.all "  (a\tb) c " = .success (.group [.group [.atom "a\tb"], .atom "c"]) ∧
      (action { format := .listing, verbose := false } "\tb ) \t").reading? =
        some (.failure (.unexpected ")" (some 1))) ∧
      Reader.all "\tb ) \t" = .failure (.unexpected ")" (some 1)) := by
  have ha : Reader.all "  (a\tb) c " = .success (.group [.group [.atom "a\tb"], .atom "c"]) := by
    rw [Reader.all_eq_gather]
    rfl
  have hb : Reader.all "\tb ) \t" = .failure (.unexpected ")" (some 1)) := by
    rw [Reader.all_eq_gather]
    rfl
  have hs := ((reading_agrees_iff .listing false (by decide : Token.balance "  (a\tb) c " ≤ 0)
    ⟨'a', by decide, by decide⟩ (by decide) (by decide) (by decide)).1 _ ha).mpr
      ⟨2, 1, by decide⟩
  have hf := ((reading_agrees_iff .listing false (by decide : Token.balance "\tb ) \t" ≤ 0)
    ⟨'b', by decide, by decide⟩ (by decide) (by decide) (by decide)).2.1 _ hb).mpr (by decide)
  exact ⟨ha ▸ hs, ha, hb ▸ hf, hb⟩

/-- A tab at the end of a line is a part of an atom for the reader, but a session trims it. -/
theorem reading_differs_after_tab :
    Token.balance "a\t" ≤ 0 ∧ (∃ c ∈ "a\t".toList, c ≠ ' ') ∧ isComment "a\t" = false ∧
      isFarewell "a\t" = false ∧ Text.lower (Text.trim "a\t") ≠ "verbose-mode" ∧
      (action { format := .listing, verbose := false } "a\t").reading? =
        some (.success (.group [.atom "a"])) ∧
      (accept { format := .listing, verbose := false } "a\t").output = "a\n" ∧
      Reader.all "a\t" = .success (.group [.atom "a\t"]) ∧
      (action { format := .listing, verbose := false } "a\t").reading? ≠
        some (Reader.all "a\t") := by
  have hr : (action { format := .listing, verbose := false } "a\t").reading? =
      some (.success (.group [.atom "a"])) := by
    rw [reading?_action .listing false (by decide) (by decide) (by decide) (by decide),
      if_neg (by decide), Reader.all_eq_gather]
    rfl
  have ha : Reader.all "a\t" = .success (.group [.atom "a\t"]) := by
    rw [Reader.all_eq_gather]
    rfl
  refine ⟨by decide, ⟨'a', by decide, by decide⟩, by decide, by decide, by decide, hr, ?_, ha, ?_⟩
  · rw [output_of_reading hr rfl]
    simp only [shown, List.map, Format.node, Node.listing, Layout.render_eq_text, Layout.text]
    decide
  · rw [hr, ha]
    simp

end Sexpr.Session
