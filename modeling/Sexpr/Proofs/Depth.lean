import Sexpr.Proofs.Stack

/-!
# Depth and errors

The number of groups that are open is the depth of the tokens so far: how many more opening than
closing ones there are (`Stack.depth_of_feedAll_ok`). So the first closing token that takes the
depth below zero is the one that is not expected (`Stack.depth_of_feedAll_error`), tokens that end
at a depth above zero end too early, and all others are read (`Stack.outcome_cases`). Which of the
three it is shows in the places of the parentheses alone (`depth_congr`), and the other way round in
the outcome (`balanced_of_all`, `unclosed_of_all`).
-/

namespace Sexpr.Parser

/-! ## Depth -/

/-- How many more opening than closing tokens are among the first ones. -/
def depth (tokens : List String) (count : Nat) : Int :=
  ((tokens.take count).count "(" : Int) - ((tokens.take count).count ")" : Int)

/-- A closing token that takes the depth below zero. -/
def Overclosed (tokens : List String) (position : Nat) : Prop :=
  tokens[position]? = some ")" ∧ depth tokens (position + 1) < 0

instance (tokens : List String) (position : Nat) : Decidable (Overclosed tokens position) :=
  inferInstanceAs (Decidable (_ ∧ _))

/-- Every closing token has an opening one, but not the other way round. -/
def Unclosed (tokens : List String) : Prop :=
  (∀ i ≤ tokens.length, 0 ≤ depth tokens i) ∧ 0 < depth tokens tokens.length

/-- Every closing token has an opening one, and the other way round. -/
def Balanced (tokens : List String) : Prop :=
  (∀ i ≤ tokens.length, 0 ≤ depth tokens i) ∧ depth tokens tokens.length = 0

/-- What one token adds to the depth. -/
def rise (token : String) : Int :=
  if token = Token.opening then 1 else if token = Token.closing then -1 else 0

theorem depth_zero (tokens : List String) : depth tokens 0 = 0 := rfl

theorem depth_cons (token : String) (rest : List String) (i : Nat) :
    depth (token :: rest) (i + 1) = rise token + depth rest i := by
  simp only [depth, List.take_succ_cons, List.count_cons, beq_iff_eq]
  by_cases ho : token = "("
  · subst ho
    simp [rise, Token.opening]
    omega
  by_cases hc : token = ")"
  · subst hc
    simp [rise, Token.opening, Token.closing]
    omega
  · simp [rise, Token.opening, Token.closing, ho, hc]

/-- A bound on the depth after a token bounds it from before the token on. -/
theorem depth_cons_nonneg {height : Int} {token : String} {rest : List String} {n : Nat}
    (hh : 0 ≤ height) (h : ∀ i ≤ n, 0 ≤ height + rise token + depth rest i) :
    ∀ i ≤ n + 1, 0 ≤ height + depth (token :: rest) i := by
  intro i hi
  cases i with
  | zero => rw [depth_zero]; omega
  | succ i =>
    rw [depth_cons]
    have := h i (Nat.le_of_succ_le_succ hi)
    omega

theorem depth_of_length_le {tokens : List String} {i : Nat} (h : tokens.length ≤ i) :
    depth tokens i = depth tokens tokens.length := by
  simp only [depth, List.take_of_length_le h, List.take_length]

theorem depth_succ (tokens : List String) (i : Nat) :
    depth tokens (i + 1) = depth tokens i +
      if tokens[i]? = some "(" then 1 else if tokens[i]? = some ")" then -1 else 0 := by
  induction tokens generalizing i with
  | nil => simp [depth]
  | cons token rest ih =>
    cases i with
    | zero =>
      rw [depth_cons, depth_zero, depth_zero, Int.add_zero, Int.zero_add, List.getElem?_cons_zero]
      simp only [rise, Option.some.injEq]
      congr
    | succ i =>
      rw [depth_cons, depth_cons, ih, List.getElem?_cons_succ]
      omega

theorem depth_append_of_le {left right : List String} {i : Nat} (h : i ≤ left.length) :
    depth (left ++ right) i = depth left i := by
  rw [depth, depth, List.take_append_of_le_length h]

theorem depth_append_length_add (left right : List String) (i : Nat) :
    depth (left ++ right) (left.length + i) = depth left left.length + depth right i := by
  simp only [depth, List.take_length_add_append, List.take_length, List.count_append]
  omega

theorem depth_nonneg {tokens : List String} (h : ∀ i ≤ tokens.length, 0 ≤ depth tokens i)
    (i : Nat) : 0 ≤ depth tokens i := by
  by_cases hi : i ≤ tokens.length
  · exact h i hi
  · rw [depth_of_length_le (Nat.le_of_not_le hi)]
    exact h _ (Nat.le_refl _)

theorem not_overclosed {tokens : List String} (h : ∀ i ≤ tokens.length, 0 ≤ depth tokens i)
    (position : Nat) : ¬ Overclosed tokens position := by
  intro ho
  have := depth_nonneg h (position + 1)
  have := ho.2
  omega

/-! ## The height of a stack -/

namespace Stack

theorem length_groups_add (stack : Stack) (node : Node) :
    (stack.add node).groups.length = stack.groups.length := by
  obtain ⟨groups, nodes⟩ := stack
  cases groups <;> rfl

theorem rise_of_feed_some {stack next : Stack} {token : String}
    (h : stack.feed token = some next) :
    (next.groups.length : Int) = stack.groups.length + rise token := by
  rcases feed_cases h with ⟨rfl, rfl⟩ | ⟨children, outer, nodes, rfl, rfl, rfl⟩ | ⟨ho, hc, rfl⟩
  · rw [show rise Token.opening = 1 from rfl]
    rfl
  · rw [length_groups_add, show rise Token.closing = -1 from rfl]
    simp only [List.length_cons]
    omega
  · rw [length_groups_add]
    simp [rise, ho, hc]

/-- As long as tokens are taken, the depth is the number of open groups. -/
theorem depth_of_feedAll_ok {stack last : Stack} {position : Int} {tokens : List String}
    (h : stack.feedAll position tokens = .ok last) :
    (∀ i ≤ tokens.length, 0 ≤ stack.groups.length + depth tokens i) ∧
      (last.groups.length : Int) = stack.groups.length + depth tokens tokens.length := by
  refine feedAll_ok_induction ?_ ?_ h
  · refine ⟨fun i hi => ?_, ?_⟩
    · rw [Nat.le_zero.mp hi, depth_zero]
      omega
    · rw [List.length_nil, depth_zero]
      omega
  · rintro stack next token rest hf ⟨hd, hl⟩
    rw [rise_of_feed_some hf] at hd hl
    refine ⟨depth_cons_nonneg (by omega) hd, ?_⟩
    rw [List.length_cons, depth_cons]
    omega

/-- A token that is not taken is the first one to take the depth below zero. -/
theorem depth_of_feedAll_error {tokens : List String} :
    ∀ {stack : Stack} {position stop : Int}, stack.feedAll position tokens = .error stop →
      ∃ k : Nat, stop = position + k ∧ tokens[k]? = some Token.closing ∧
        stack.groups.length + depth tokens (k + 1) < 0 ∧
        ∀ i ≤ k, 0 ≤ stack.groups.length + depth tokens i := by
  induction tokens with
  | nil => intro stack position stop h; cases h
  | cons token rest ih =>
    intro stack position stop h
    rw [feedAll] at h
    cases hf : stack.feed token with
    | none =>
      rw [hf] at h
      obtain rfl := Except.error.inj h
      obtain ⟨rfl, hg⟩ := feed_eq_none hf
      refine ⟨0, by omega, rfl, ?_, fun i hi => ?_⟩
      · rw [hg, depth_cons, depth_zero]
        decide
      · rw [Nat.le_zero.mp hi, depth_zero]
        omega
    | some next =>
      rw [hf] at h
      obtain ⟨k, rfl, hk, hn, hp⟩ := ih h
      rw [rise_of_feed_some hf] at hn hp
      refine ⟨k + 1, by omega, hk, ?_, depth_cons_nonneg (by omega) hp⟩
      rw [depth_cons]
      omega

/-- The outcome, by the depth of the tokens. -/
theorem outcome_cases (tokens : List String) :
    (∃ p : Nat, Overclosed tokens p ∧ (∀ q < p, ¬ Overclosed tokens q) ∧
      outcome (feedAll {} 0 tokens) = .error (.unexpected ")" (some p))) ∨
    (Unclosed tokens ∧ outcome (feedAll {} 0 tokens) = .error .endOfInput) ∨
    (Balanced tokens ∧ ∃ nodes, outcome (feedAll {} 0 tokens) = .ok nodes) := by
  cases hf : feedAll {} 0 tokens with
  | error stop =>
    obtain ⟨k, rfl, hk, hn, hp⟩ := depth_of_feedAll_error hf
    simp only [List.length_nil, Int.natCast_zero, Int.zero_add] at hn hp
    refine .inl ⟨k, ⟨hk, hn⟩, fun q hq ho => ?_, ?_⟩
    · have := hp (q + 1) hq
      have := ho.2
      omega
    · rw [Int.zero_add]
      rfl
  | ok last =>
    obtain ⟨hd, hl⟩ := depth_of_feedAll_ok hf
    simp only [List.length_nil, Int.natCast_zero, Int.zero_add] at hd hl
    by_cases hg : last.groups = []
    · rw [hg] at hl
      exact .inr (.inr ⟨⟨hd, hl.symm⟩, last.nodes.reverse, by simp [outcome, hg]⟩)
    · have := List.length_pos_iff.mpr hg
      exact .inr (.inl ⟨⟨hd, by omega⟩, by simp [outcome, hg]⟩)

theorem outcome_of_overclosed {tokens : List String} {p : Nat} (ho : Overclosed tokens p)
    (hq : ∀ q < p, ¬ Overclosed tokens q) :
    outcome (feedAll {} 0 tokens) = .error (.unexpected ")" (some p)) := by
  rcases outcome_cases tokens with ⟨r, ho', hq', he⟩ | ⟨hu, -⟩ | ⟨hb, -⟩
  · obtain rfl : p = r := by
      rcases Nat.lt_trichotomy p r with hlt | heq | hgt
      · exact absurd ho (hq' p hlt)
      · exact heq
      · exact absurd ho' (hq r hgt)
    exact he
  · exact absurd ho (not_overclosed hu.1 p)
  · exact absurd ho (not_overclosed hb.1 p)

theorem outcome_of_unclosed {tokens : List String} (h : Unclosed tokens) :
    outcome (feedAll {} 0 tokens) = .error .endOfInput := by
  rcases outcome_cases tokens with ⟨p, ho, -⟩ | ⟨-, he⟩ | ⟨hb, -⟩
  · exact absurd ho (not_overclosed h.1 p)
  · exact he
  · exact absurd hb.2 (Int.ne_of_gt h.2)

theorem outcome_of_balanced {tokens : List String} (h : Balanced tokens) :
    ∃ nodes, outcome (feedAll {} 0 tokens) = .ok nodes := by
  rcases outcome_cases tokens with ⟨p, ho, -⟩ | ⟨hu, -⟩ | ⟨-, he⟩
  · exact absurd ho (not_overclosed h.1 p)
  · exact absurd h.2 (Int.ne_of_gt hu.2)
  · exact he

/-- The error of tokens, by their depth. -/
theorem outcome_eq_error_iff {tokens : List String} {error : SyntaxError} :
    outcome (feedAll {} 0 tokens) = .error error ↔
      (∃ p : Nat, (Overclosed tokens p ∧ ∀ q < p, ¬ Overclosed tokens q) ∧
        error = .unexpected ")" (some p)) ∨ Unclosed tokens ∧ error = .endOfInput := by
  constructor
  · intro h
    rcases outcome_cases tokens with ⟨p, ho, hq, he⟩ | ⟨hu, he⟩ | ⟨-, nodes, he⟩
    · exact .inl ⟨p, ⟨ho, hq⟩, Except.error.inj (h.symm.trans he)⟩
    · exact .inr ⟨hu, Except.error.inj (h.symm.trans he)⟩
    · cases h.symm.trans he
  · rintro (⟨p, ⟨ho, hq⟩, rfl⟩ | ⟨hu, rfl⟩)
    · exact outcome_of_overclosed ho hq
    · exact outcome_of_unclosed hu

end Stack

theorem balanced_of_all {tokens : List String} {node : Node}
    (h : (all tokens).1 = .success node) : Balanced tokens := by
  rw [all_eq] at h
  rcases Stack.outcome_cases tokens with ⟨p, -, -, he⟩ | ⟨-, he⟩ | ⟨hb, -⟩
  · rw [he] at h; cases h
  · rw [he] at h; cases h
  · exact hb

theorem unclosed_of_all {tokens : List String} (h : (all tokens).1 = .failure .endOfInput) :
    Unclosed tokens := by
  rw [all_eq, gather_eq_failure] at h
  rcases Stack.outcome_eq_error_iff.mp h with ⟨p, -, he⟩ | ⟨hu, -⟩
  · cases he
  · exact hu

/-! ## Where the parentheses are -/

/-- The same parentheses stand in the same places. -/
def SameParens (others tokens : List String) : Prop :=
  ∀ i : Nat, (others[i]? = some "(" ↔ tokens[i]? = some "(") ∧
    (others[i]? = some ")" ↔ tokens[i]? = some ")")

section Congr

variable {others tokens : List String} (h : SameParens others tokens)

include h

theorem depth_congr (i : Nat) : depth others i = depth tokens i := by
  induction i with
  | zero => rfl
  | succ i ih => simp only [depth_succ, ih, (h i).1, (h i).2]

theorem overclosed_congr (p : Nat) : Overclosed others p ↔ Overclosed tokens p := by
  rw [Overclosed, Overclosed, (h p).2, depth_congr h]

/-- Tokens after the last parenthesis change no depth. -/
theorem depth_length_congr :
    depth others others.length = depth tokens tokens.length := by
  have hn : others.length ≤ max others.length tokens.length := Nat.le_max_left _ _
  have hm : tokens.length ≤ max others.length tokens.length := Nat.le_max_right _ _
  rw [← depth_of_length_le hn, ← depth_of_length_le hm, depth_congr h]

theorem unclosed_congr : Unclosed others ↔ Unclosed tokens := by
  rw [Unclosed, Unclosed, depth_length_congr h]
  refine and_congr_left fun _ => ⟨fun hd i _ => ?_, fun hd i _ => ?_⟩
  · rw [← depth_congr h]
    exact depth_nonneg hd i
  · rw [depth_congr h]
    exact depth_nonneg hd i

end Congr

/-- The three ways in which the parentheses of tokens can fit exclude each other and decide the
outcome; what the other tokens are takes no part in it. -/
theorem all_classified (tokens : List String) :
    ((∃ p, Overclosed tokens p) ∨ Unclosed tokens ∨ Balanced tokens) ∧
    ¬ ((∃ p, Overclosed tokens p) ∧ Unclosed tokens) ∧
    ¬ ((∃ p, Overclosed tokens p) ∧ Balanced tokens) ∧
    ¬ (Unclosed tokens ∧ Balanced tokens) ∧
    (∀ p : Nat, Overclosed tokens p → (∀ q < p, ¬ Overclosed tokens q) →
      (all tokens).1 = .failure (.unexpected ")" (some p))) ∧
    (Unclosed tokens → (all tokens).1 = .failure .endOfInput) ∧
    (Balanced tokens → ∃ nodes, (all tokens).1 = .success (.group nodes)) ∧
    ∀ others : List String, SameParens others tokens →
      (all others).1.error? = (all tokens).1.error? := by
  refine ⟨?_, fun ⟨⟨p, ho⟩, hu⟩ => not_overclosed hu.1 p ho,
    fun ⟨⟨p, ho⟩, hb⟩ => not_overclosed hb.1 p ho, fun ⟨hu, hb⟩ => Int.ne_of_gt hu.2 hb.2,
    fun p ho hq => ?_, fun hu => ?_, fun hb => ?_, fun others hs => ?_⟩
  · rcases Stack.outcome_cases tokens with ⟨p, ho, -⟩ | ⟨hu, -⟩ | ⟨hb, -⟩
    · exact .inl ⟨p, ho⟩
    · exact .inr (.inl hu)
    · exact .inr (.inr hb)
  · rw [all_eq, Stack.outcome_of_overclosed ho hq]
    rfl
  · rw [all_eq, Stack.outcome_of_unclosed hu]
    rfl
  · obtain ⟨nodes, he⟩ := Stack.outcome_of_balanced hb
    rw [all_eq, he]
    exact ⟨nodes, rfl⟩
  · apply Option.ext
    intro error
    simp only [all_eq, error?_gather, Stack.outcome_eq_error_iff, overclosed_congr hs,
      unclosed_congr hs]

theorem all_classified_stray :
    (all ["(", "a", ")", ")", "("]).1 = .failure (.unexpected ")" (some 3)) :=
  (all_classified ["(", "a", ")", ")", "("]).2.2.2.2.1 3 (by decide) (by decide)

end Sexpr.Parser
