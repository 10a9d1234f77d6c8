import Sexpr.Cursor
import Sexpr.Proofs.Grammar

/-!
# Reading by recursive descent

The grammar of trees, read from a position by recursion: a tree is an atom, or an opening token
with trees after it up to a closing token (`descend`, `descendAll`). The position after a tree is
further on, and not past the end of the tokens; a `Descent` carries the proof of it, which is what
the recursion ends by.

`Parser.datum` keeps a stack of open groups in place of the recursion and has a shortcut for empty
groups. Here it is the recursive reader:

* `datum_eq_descend`: from every position and below any open groups, both end with the same
  outcome at the same position;
* `descend_sound`: a tree that is read has the tokens between the two positions, a stray closing
  token is where reading stops, and tokens that are missing are missed at the end;
* `datum_unparse`: the tokens of a tree are read as it, whatever follows them.
-/

namespace Sexpr.Parser

/-! ## The recursive reader -/

/-- The end of reading by descent from a position: what was read, with the position after it, or
an error, with the position where it was found. -/
inductive Descent (α : Type) (tokens : List String) (position : Nat) where
  | done (value : α) (next : Nat) (advances : position < next) (within : next ≤ tokens.length)
  | failed (error : SyntaxError) (stop : Nat)

namespace Descent

variable {α β : Type} {tokens : List String} {start position : Nat}

/-- What was read, as a part of what is read from an earlier position. -/
def map (f : α → β) (h : start ≤ position) :
    Descent α tokens position → Descent β tokens start
  | done value next advances within => done (f value) next (Nat.lt_of_le_of_lt h advances) within
  | failed error stop => failed error stop

/-- The outcome, and the position where reading ended. -/
def outcome : Descent Node tokens position → Reading × Nat
  | done node next _ _ => (.success node, next)
  | failed error stop => (.failure error, stop)

/-- The same as a step of reading below open groups. -/
def step (groups : List (List Node)) : Descent Node tokens position → Step
  | done node next _ _ => settle node groups next (tokens.drop next)
  | failed error stop =>
    ⟨.failure error, stop, tokens.drop stop, if error = .endOfInput then [] else [.stray stop]⟩

end Descent

mutual

/-- Reads a tree from a position. -/
def descend (tokens : List String) (position : Nat) : Descent Node tokens position :=
  if h : position < tokens.length then
    if tokens[position] = Token.closing then
      .failed (.unexpected tokens[position] (some position)) position
    else if tokens[position] = Token.opening then
      (descendAll tokens (position + 1)).map .group (Nat.le_succ position)
    else .done (.atom tokens[position]) (position + 1) (Nat.lt_succ_self position) h
  else .failed .endOfInput position
termination_by (tokens.length - position, 0)

/-- Reads the trees of a group from a position, and the closing token after them. -/
def descendAll (tokens : List String) (position : Nat) : Descent (List Node) tokens position :=
  if h : position < tokens.length then
    if tokens[position] = Token.closing then
      .done [] (position + 1) (Nat.lt_succ_self position) h
    else
      match descend tokens position with
      | .failed error stop => .failed error stop
      | .done child next advances _ =>
        (descendAll tokens next).map (child :: ·) (Nat.le_of_lt advances)
  else .failed .endOfInput position
termination_by (tokens.length - position, 1)

end

/-! ## The stack in place of the recursion -/

mutual

/-- Reading a tree with a stack of open groups is reading it by descent, if a closing token is not
for one of these groups. -/
theorem datum_eq_descend (tokens : List String) (position : Nat) (groups : List (List Node))
    (h : groups ≠ [] → tokens[position]? ≠ some Token.closing) :
    datum groups position (tokens.drop position) = (descend tokens position).step groups := by
  rw [descend]
  split
  · rename_i hp
    rw [List.drop_eq_getElem_cons hp]
    split
    · rename_i hc
      have hg : groups = [] := by
        refine Decidable.by_contra fun hg => h hg ?_
        rw [List.getElem?_eq_getElem hp, hc]
      rw [hg, hc, datum_stray, Descent.step, List.drop_eq_getElem_cons hp, hc]
      rfl
    · split
      · rename_i ho
        have hr := datum_eq_descendAll tokens (position + 1) [] groups
        rw [ho, datum_opening]
        refine hr.trans ?_
        cases descendAll tokens (position + 1) <;> rfl
      · rename_i hc ho
        exact datum_word ho hc groups position _
  · rename_i hp
    rw [List.drop_eq_nil_of_le (Nat.le_of_not_lt hp), datum_nil, Descent.step,
      List.drop_eq_nil_of_le (Nat.le_of_not_lt hp)]
    rfl
termination_by (tokens.length - position, 0)

/-- Reading on in an open group is reading the rest of its trees by descent. -/
theorem datum_eq_descendAll (tokens : List String) (position : Nat) (siblings : List Node)
    (outer : List (List Node)) :
    datum (siblings :: outer) position (tokens.drop position) =
      ((descendAll tokens position).map (fun children => .group (siblings.reverse ++ children))
        (Nat.le_refl position)).step outer := by
  rw [descendAll]
  split
  · rename_i hp
    rw [List.drop_eq_getElem_cons hp]
    split
    · rename_i hc
      rw [hc, datum_closing, Descent.map, Descent.step, List.append_nil]
      rfl
    · rename_i hc
      have hc' : tokens[position]? ≠ some Token.closing := by
        rw [List.getElem?_eq_getElem hp]
        exact fun he => hc (Option.some.inj he)
      rw [← List.drop_eq_getElem_cons hp, datum_eq_descend tokens position _ fun _ => hc']
      cases descend tokens position with
      | failed error stop => rfl
      | done child next advances within =>
        -- The child joins its siblings, and the trees after it are read from the next position.
        have hr := datum_eq_descendAll tokens next (child :: siblings) outer
        refine hr.trans ?_
        dsimp only
        cases descendAll tokens next with
        | failed error stop => rfl
        | done children last advances' within' =>
          simp only [Descent.map, Descent.step, List.reverse_cons, List.append_assoc,
            List.singleton_append]
  · rename_i hp
    rw [List.drop_eq_nil_of_le (Nat.le_of_not_lt hp), datum_nil, Descent.map, Descent.step,
      List.drop_eq_nil_of_le (Nat.le_of_not_lt hp)]
    rfl
termination_by (tokens.length - position, 1)

end

/-! ## What a descent tells of the tokens -/

/-- What was read has the tokens up to the position after it, and no parenthesis as an atom. Reading
stops at a closing token that is not expected, or at the end of the tokens. -/
def Descent.Sound {α : Type} {tokens : List String} {position : Nat}
    (word leaves : α → List String) : Descent α tokens position → Prop
  | done value next _ _ =>
    tokens.drop position = word value ++ tokens.drop next ∧
      ∀ token ∈ leaves value, token ≠ Token.opening ∧ token ≠ Token.closing
  | failed error stop =>
    (error = .endOfInput ∧ stop = max position tokens.length) ∨
      (error = .unexpected Token.closing (some stop) ∧ position ≤ stop ∧
        tokens[stop]? = some Token.closing)

/-- What is read after some tokens, as a part of what is read with them. -/
theorem Descent.Sound.map {α β : Type} {tokens : List String} {start position : Nat}
    {word leaves : α → List String} {descent : Descent α tokens position}
    (hs : descent.Sound word leaves) {f : α → β} {word' leaves' : β → List String}
    (h : start ≤ position) (hp : position ≤ tokens.length) {lead : List String}
    (hd : tokens.drop start = lead ++ tokens.drop position)
    (hw : ∀ value, word' (f value) = lead ++ word value)
    (hl : ∀ value, ∀ token ∈ leaves' (f value), token ∈ leaves value ∨
      (token ≠ Token.opening ∧ token ≠ Token.closing)) :
    (descent.map f h).Sound word' leaves' := by
  cases descent with
  | done value next advances within =>
    obtain ⟨ht, hv⟩ := hs
    refine ⟨?_, fun token hm => ?_⟩
    · rw [hd, ht, hw, List.append_assoc]
    · rcases hl value token hm with hm' | hn
      · exact hv token hm'
      · exact hn
  | failed error stop =>
    rcases hs with ⟨he, hm⟩ | ⟨he, hle, hc⟩
    · exact .inl ⟨he, by omega⟩
    · exact .inr ⟨he, Nat.le_trans h hle, hc⟩

mutual

theorem descend_sound (tokens : List String) (position : Nat) :
    (descend tokens position).Sound Node.unparse Node.leaves := by
  rw [descend]
  split
  · rename_i hp
    have hd := List.drop_eq_getElem_cons hp
    split
    · rename_i hc
      refine .inr ⟨by rw [hc], Nat.le_refl position, ?_⟩
      rw [List.getElem?_eq_getElem hp, hc]
    · rename_i hc
      split
      · rename_i ho
        have hl : tokens.drop position = [Token.opening] ++ tokens.drop (position + 1) := by
          rw [hd, ho]
          rfl
        refine (descendAll_sound tokens (position + 1)).map _ hp hl ?_ ?_
        · intro children
          rw [Node.unparse_group]
          rfl
        · intro children token hm
          rw [Node.leaves_group] at hm
          exact .inl hm
      · rename_i ho
        refine ⟨hd, fun token hm => ?_⟩
        rw [List.mem_singleton.mp hm]
        exact ⟨ho, hc⟩
  · exact .inl ⟨rfl, by omega⟩
termination_by (tokens.length - position, 0)

theorem descendAll_sound (tokens : List String) (position : Nat) :
    (descendAll tokens position).Sound
      (fun children => children.flatMap Node.unparse ++ [Token.closing])
      (fun children => children.flatMap Node.leaves) := by
  rw [descendAll]
  split
  · rename_i hp
    split
    · rename_i hc
      refine ⟨?_, by simp⟩
      rw [List.drop_eq_getElem_cons hp, hc]
      rfl
    · have hs := descend_sound tokens position
      revert hs
      cases descend tokens position with
      | failed error stop => exact id
      | done child next advances within =>
        rintro ⟨hd, hl⟩
        refine (descendAll_sound tokens next).map _ within hd ?_ ?_
        · intro children
          simp
        · intro children token hm
          rw [List.flatMap_cons, List.mem_append] at hm
          rcases hm with hm | hm
          · exact .inr (hl token hm)
          · exact .inl hm
  · exact .inl ⟨rfl, by omega⟩
termination_by (tokens.length - position, 1)

end

/-! ## The tokens of a tree -/

/-- The tokens of trees in an open group are read as further children of it, if those of each
are read as it. -/
theorem datum_flatMap {nodes : List Node}
    (h : ∀ node ∈ nodes, ∀ (groups : List (List Node)) (position : Int) (rest : List String),
      datum groups position (node.unparse ++ rest) =
        settle node groups (position + node.unparse.length) rest)
    (outer : List (List Node)) :
    ∀ (siblings : List Node) (position : Int) (rest : List String),
      datum (siblings :: outer) position (nodes.flatMap Node.unparse ++ rest) =
        datum ((nodes.reverse ++ siblings) :: outer)
          (position + (nodes.flatMap Node.unparse).length) rest := by
  induction nodes with
  | nil => intro siblings position rest; simp
  | cons node nodes ih =>
    intro siblings position rest
    rw [List.flatMap_cons, List.append_assoc, h node List.mem_cons_self, settle,
      ih fun n hn => h n (List.mem_cons_of_mem _ hn), List.reverse_cons, List.append_assoc,
      List.length_append, Int.natCast_add, Int.add_assoc]
    rfl

/-- The tokens of a tree are read as this tree, whatever follows them. -/
theorem datum_unparse (node : Node) (h : Plain node) :
    ∀ (groups : List (List Node)) (position : Int) (rest : List String),
      datum groups position (node.unparse ++ rest) =
        settle node groups (position + node.unparse.length) rest := by
  induction node with
  | atom token =>
    intro groups position rest
    obtain ⟨ho, hc⟩ := h token (List.mem_singleton_self _)
    exact datum_word ho hc groups position rest
  | group children ih =>
    intro groups position rest
    rw [Node.unparse_group, List.cons_append, List.append_assoc, datum_opening,
      datum_flatMap fun child hm => ih child hm (h.child hm), List.singleton_append,
      datum_closing, List.append_nil, List.reverse_reverse]
    congr 1
    simp only [List.length_cons, List.length_append, List.length_nil, Int.natCast_add]
    omega

end Sexpr.Parser

namespace Sexpr.Cursor

/-! ## Cursors -/

theorem datum_of_nat (tokens : List String) (position : Nat) :
    datum { tokens, position } =
      .ok (Parser.datum [] position (tokens.drop position),
        { tokens, position := (Parser.datum [] position (tokens.drop position)).position }) := by
  rw [datum, upcoming, if_pos (Int.natCast_nonneg position)]
  rfl

/-- Tokens that are followed by those from a place on end at this place. -/
theorem drop_take_of_drop {tokens word : List String} {position next : Nat}
    (h : tokens.drop position = word ++ tokens.drop next) (hn : next ≤ tokens.length) :
    (tokens.take next).drop position = word := by
  have hl := congrArg List.length h
  simp only [List.length_append, List.length_drop] at hl
  rw [List.drop_take, h, List.take_left' (by omega)]

/-- A tree is read from its tokens, whatever comes after them. -/
theorem datum_of_drop {tokens : List String} {position : Nat} {node : Node}
    (h : tokens.drop position = node.unparse) (hp : Parser.Plain node) (more : List String)
    (hn : position ≤ tokens.length) :
    datum { tokens := tokens ++ more, position } =
      .ok (⟨.success node, tokens.length, more, []⟩,
        { tokens := tokens ++ more, position := tokens.length }) := by
  have hl := congrArg List.length h
  rw [List.length_drop] at hl
  have he : (position : Int) + node.unparse.length = tokens.length := by omega
  rw [datum_of_nat, List.drop_append_of_le_length hn, h, Parser.datum_unparse node hp,
    Parser.settle, he]

/-- From any position, a cursor reads what is read by descent and stops at the same position. That
is never before the first one. A tree has the tokens in between and is read whatever comes after
them; an unexpected token is the one at the position; without enough tokens all of them are read. -/
theorem datum_agrees_descend (tokens : List String) (position : Nat) :
    ∃ (step : Parser.Step) (next : Nat),
      datum { tokens, position } = .ok (step, { tokens, position := next }) ∧
      (Parser.descend tokens position).outcome = (step.reading, next) ∧
      position ≤ next ∧
      (∀ node, step.reading = .success node →
        position < next ∧ next ≤ tokens.length ∧
        (tokens.take next).drop position = node.unparse ∧
        ∀ more, ∃ again : Parser.Step,
          datum { tokens := tokens.take next ++ more, position } =
            .ok (again, { tokens := tokens.take next ++ more, position := next }) ∧
          again.reading = .success node) ∧
      (∀ token found, step.reading = .failure (.unexpected token found) →
        token = ")" ∧ found = some (next : Int) ∧ next < tokens.length ∧
        tokens[next]? = some ")") ∧
      (step.reading = .failure .endOfInput → next = max position tokens.length) := by
  have hd := Parser.datum_eq_descend tokens position [] (fun h => absurd rfl h)
  have hs := Parser.descend_sound tokens position
  rw [datum_of_nat, hd]
  cases hr : Parser.descend tokens position with
  | done node next advances within =>
    rw [hr] at hs
    obtain ⟨ht, hp⟩ := hs
    have hu := drop_take_of_drop ht within
    have hl : (tokens.take next).length = next := List.length_take_of_le within
    refine ⟨_, next, rfl, rfl, Nat.le_of_lt advances, ?_, ?_, ?_⟩
    · rintro _ ⟨⟩
      refine ⟨advances, within, hu, fun more => ?_⟩
      have hm := datum_of_drop hu hp more (by omega)
      rw [hl] at hm
      exact ⟨_, hm, rfl⟩
    · intro token found h
      cases h
    · intro h
      cases h
  | failed error stop =>
    rw [hr] at hs
    refine ⟨_, stop, rfl, rfl, ?_, ?_, ?_, ?_⟩
    · rcases hs with ⟨-, hm⟩ | ⟨-, hle, -⟩
      · omega
      · exact hle
    · intro node h
      cases h
    · intro token found h
      rcases hs with ⟨he, -⟩ | ⟨he, -, hc⟩
      · cases he.symm.trans (Reading.failure.inj h)
      · cases he.symm.trans (Reading.failure.inj h)
        exact ⟨rfl, rfl, (List.getElem?_eq_some_iff.mp hc).1, hc⟩
    · intro h
      rcases hs with ⟨-, hm⟩ | ⟨he, -, -⟩
      · exact hm
      · cases he.symm.trans (Reading.failure.inj h)

end Sexpr.Cursor
