import Sexpr.Proofs.Grammar
import Sexpr.Proofs.Waiting

/-!
# A program line by line

A session cuts a program into entries at the ends of lines, where no group is open, and reads each
entry by itself. In tokens of which every closing one has an opening one (`Parser.Opened`), such a
cut falls between two trees: what stands before it is balanced, and what stands after it is again
such tokens (`Parser.Opened.cut`).

So a line of the program makes a session show the trees that it completes (`Following.line`), and
all lines make it show trees whose tokens, with those of the lines still at hand, are the tokens of
the program (`Following.lines`). Since no tokens are those of two lists of trees, a whole program
is shown as the trees that it is read as.
-/

namespace Sexpr.Parser

/-- Every closing token has an opening one. -/
def Opened (tokens : List String) : Prop :=
  ∀ i ≤ tokens.length, 0 ≤ depth tokens i

/-- Where the depth is back at zero, the tokens before are balanced, and those after them may stand
alone. -/
theorem Opened.cut {left right : List String} (h : Opened (left ++ right))
    (hd : depth left left.length ≤ 0) : Balanced left ∧ Opened right := by
  have hl : ∀ i ≤ left.length, 0 ≤ depth left i := by
    intro i hi
    rw [← depth_append_of_le hi]
    exact depth_nonneg h i
  have h₀ : depth left left.length = 0 := by
    have := hl left.length (Nat.le_refl _)
    omega
  refine ⟨⟨hl, h₀⟩, fun i _ => ?_⟩
  have := depth_nonneg h (left.length + i)
  rw [depth_append_length_add, h₀] at this
  omega

end Sexpr.Parser

namespace Sexpr.Session

/-- A line of a program: one that a session neither skips nor obeys, with no blanks but spaces. -/
structure ProgramLine (line : String) : Prop where
  spaces : Text.OnlySpaces line
  not_comment : isComment line = false
  not_farewell : isFarewell line = false
  not_switch : Text.lower (Text.trim line) ≠ "verbose-mode"

instance (line : String) : Decidable (ProgramLine line) :=
  decidable_of_iff
    (Text.OnlySpaces line ∧ isComment line = false ∧ isFarewell line = false ∧
      Text.lower (Text.trim line) ≠ "verbose-mode")
    ⟨fun ⟨hb, hc, hf, hs⟩ => ⟨hb, hc, hf, hs⟩, fun ⟨hb, hc, hf, hs⟩ => ⟨hb, hc, hf, hs⟩⟩

/-! ## The lines of an entry -/

theorem scan_entryText {lines : List String} (h : ∀ line ∈ lines, Text.OnlySpaces line) :
    Token.scan (entryText lines) = lines.flatMap Token.scan := by
  rw [entryText, Token.scan_trim (.intercalate h), Token.scan_intercalate]

/-- An entry of a program is no command. -/
theorem ProgramLine.entry_not_switch {session : Session} {line : String} (hl : ProgramLine line)
    (hw : session.Waiting) (hd : session.depth + Token.balance line ≤ 0) :
    Text.lower (entryText (session.pending ++ [line])) ≠ "verbose-mode" := by
  by_cases hp : session.pending = []
  · rw [hp, List.nil_append, entryText, String.intercalate_singleton]
    exact hl.not_switch
  · exact hw.entry_not_switch hp hd

/-! ## What lines make a session show -/

/-- A session that follows a program: it waits, it does not show tokens, and the lines at hand have
no blanks but spaces. -/
structure Following (session : Session) : Prop where
  waiting : session.Waiting
  quiet : session.verbose = false
  spaces : ∀ line ∈ session.pending, Text.OnlySpaces line

/-- On a line, a session shows trees and no error, and goes on to the next session. The tokens of
the line, and of those at hand before it, are those of the trees and of the lines at hand after
it. -/
structure ShowsOn (session : Session) (line : String) (nodes : List Node) (next : Session) :
    Prop where
  next_eq : (session.accept line).next = some next
  format_eq : next.format = session.format
  output_eq : (session.accept line).output = printed (nodes.map session.format.node)
  success : ∀ reading ∈ (session.action line).reading?, reading.isSuccess = true
  plain : ∀ node ∈ nodes, Parser.Plain node
  tokens_eq : (session.pending ++ [line]).flatMap Token.scan =
    nodes.flatMap Node.unparse ++ next.pending.flatMap Token.scan

/-- The same on lines one after the other. -/
structure Shows (session : Session) (lines : List String) (nodes : List Node) (last : Session) :
    Prop where
  after_eq : session.after (lines.map .line) = some last
  output_eq : String.join ((session.turns (lines.map .line)).map (·.output)) =
    printed (nodes.map session.format.node)
  success : ∀ reading ∈ session.readings (lines.map .line), reading.isSuccess = true
  plain : ∀ node ∈ nodes, Parser.Plain node
  tokens_eq : (session.pending ++ lines).flatMap Token.scan =
    nodes.flatMap Node.unparse ++ last.pending.flatMap Token.scan

theorem printed_append (left right : List String) :
    printed (left ++ right) = printed left ++ printed right := by
  simp only [printed, List.map_append, String.join_append]

theorem Shows.nil (session : Session) : Shows session [] [] session where
  after_eq := rfl
  output_eq := rfl
  success := by simp [readings]
  plain := by simp
  tokens_eq := by simp

/-- What is shown on a line comes before what is shown on the lines after it. -/
theorem ShowsOn.cons {session next last : Session} {line : String} {lines : List String}
    {done nodes : List Node} (h : ShowsOn session line done next)
    (hr : Shows next lines nodes last) : Shows session (line :: lines) (done ++ nodes) last where
  after_eq := by
    rw [List.map_cons, after, step, h.next_eq]
    exact hr.after_eq
  output_eq := by
    rw [List.map_cons, turns, step, h.next_eq, List.map_cons, String.join_cons, hr.output_eq,
      turn, h.output_eq, h.format_eq, List.map_append, printed_append]
  success := by
    intro reading hm
    rw [List.map_cons, readings, h.next_eq, List.mem_append] at hm
    rcases hm with hm | hm
    · exact h.success reading (Option.mem_toList.mp hm)
    · exact hr.success reading hm
  plain := by
    intro node hm
    rcases List.mem_append.mp hm with hm | hm
    · exact h.plain node hm
    · exact hr.plain node hm
  tokens_eq := by
    have ht := hr.tokens_eq
    rw [List.flatMap_append] at ht
    rw [List.append_cons, List.flatMap_append, h.tokens_eq, List.append_assoc, ht,
      List.flatMap_append, List.append_assoc]

/-! ## Lines of a program -/

/-- A session that shows the trees of a text. -/
theorem output_display {session : Session} {text : String} {nodes : List Node}
    (hq : session.verbose = false) (h : Reader.all text = .success (.group nodes)) :
    (session.display text).output = printed (nodes.map session.format.node) := by
  have hr : (Parser.all (Token.scan text)).1 = .success (.group nodes) := h
  simp [display, hq, hr, shown]

/-- A line that completes an entry makes a session show the trees of the entry. -/
theorem Following.complete {session : Session} {line : String} {nodes : List Node}
    (h : session.Following) (hl : ProgramLine line)
    (hd : session.depth + Token.balance line ≤ 0)
    (ha : session.action line = .ofText (entryText (session.pending ++ [line])))
    (hn : Reader.all (entryText (session.pending ++ [line])) = .success (.group nodes)) :
    (session.accept line).next = some session.fresh ∧
      (session.accept line).output = printed (nodes.map session.format.node) ∧
      ∀ reading ∈ (session.action line).reading?, reading.isSuccess = true := by
  rw [accept_eq_perform, ha]
  rcases ofText_cases (entryText (session.pending ++ [line])) with ⟨he, ht⟩ | ⟨hs, -⟩ | ht
  · rw [he] at hn
    obtain rfl : nodes = [] := by
      cases hn.symm.trans Parser.all_nil
      rfl
    rw [ht]
    exact ⟨rfl, rfl, by simp [Action.reading?]⟩
  · exact absurd hs (hl.entry_not_switch h.waiting hd)
  · rw [ht]
    refine ⟨rfl, output_display h.quiet hn, ?_⟩
    simp [Action.reading?, hn, Reading.isSuccess]

/-- A line of a program makes a session show trees and follow the program. -/
theorem Following.line {session : Session} {line : String} (h : session.Following)
    (hl : ProgramLine line) {rest : List String}
    (ho : Parser.Opened ((session.pending ++ [line]).flatMap Token.scan ++ rest)) :
    ∃ nodes next, next.Following ∧ ShowsOn session line nodes next ∧
      Parser.Opened (next.pending.flatMap Token.scan ++ rest) := by
  have hs : ∀ other ∈ session.pending ++ [line], Text.OnlySpaces other := by
    intro other hm
    rcases List.mem_append.mp hm with hm | hm
    · exact h.spaces other hm
    · rw [List.mem_singleton.mp hm]
      exact hl.spaces
  rcases action_cases session line with ⟨hf, -⟩ | ⟨hc, -⟩ | ⟨hd, ha⟩ | ⟨hd, ha⟩
  · exact absurd hf (by simp [hl.not_farewell])
  · exact absurd hc (by simp [hl.not_comment])
  · -- The entry is complete, and so are its trees.
    have ht := scan_entryText hs
    have hz : Parser.depth (Token.scan (entryText (session.pending ++ [line])))
        (Token.scan (entryText (session.pending ++ [line]))).length ≤ 0 := by
      rw [Token.depth_scan, h.waiting.balance_entryText]
      exact hd
    rw [← ht] at ho
    obtain ⟨hb, hr⟩ := ho.cut hz
    obtain ⟨nodes, hn⟩ := Parser.Stack.outcome_of_balanced hb
    rw [← Parser.gather_eq_success, ← Reader.all_eq_gather] at hn
    obtain ⟨hu, hp⟩ := Parser.all_eq_success_iff.mp hn
    obtain ⟨hx, hout, hsuc⟩ := h.complete hl hd ha hn
    refine ⟨nodes, session.fresh, ⟨.of_nothing rfl rfl, h.quiet, by simp [fresh]⟩,
      ⟨hx, rfl, hout, hsuc, hp, ?_⟩, hr⟩
    rw [← ht, ← hu]
    exact (List.append_nil _).symm
  · -- A group is still open, and the line joins those at hand.
    have hx : (session.accept line).next = some { session with
        pending := session.pending ++ [line], depth := session.depth + Token.balance line } := by
      rw [accept_eq_perform, ha, perform]
    refine ⟨[], _, ⟨h.waiting.accept hx, h.quiet, hs⟩, ⟨hx, rfl, ?_, ?_, by simp, rfl⟩, ho⟩
    · rw [accept_eq_perform, ha]
      rfl
    · simp [ha, Action.reading?]

/-- The lines of a program make a session show trees and follow the program. -/
theorem Following.lines (lines : List String) :
    ∀ {session : Session}, session.Following → (∀ line ∈ lines, ProgramLine line) →
      Parser.Opened ((session.pending ++ lines).flatMap Token.scan) →
      ∃ nodes last, last.Following ∧ Shows session lines nodes last := by
  induction lines with
  | nil =>
    intro session h _ _
    exact ⟨[], session, h, .nil session⟩
  | cons line rest ih =>
    intro session h hl ho
    rw [List.append_cons, List.flatMap_append] at ho
    obtain ⟨done, next, hf, hs, ho'⟩ := h.line (hl line List.mem_cons_self) ho
    rw [← List.flatMap_append] at ho'
    obtain ⟨nodes, last, hf', hr⟩ := ih hf (fun l hm => hl l (List.mem_cons_of_mem _ hm)) ho'
    exact ⟨done ++ nodes, last, hf', hs.cons hr⟩

/-! ## Whole programs -/

/-- The groups that are open after lines are those that are open in all their tokens. -/
theorem Shows.depth_eq {session last : Session} {lines : List String} {nodes : List Node}
    (h : Shows session lines nodes last) (hw : last.Waiting) :
    Parser.depth ((session.pending ++ lines).flatMap Token.scan)
      ((session.pending ++ lines).flatMap Token.scan).length = last.depth := by
  have hn : (Parser.all (nodes.flatMap Node.unparse)).1 = .success (.group nodes) :=
    Parser.all_eq_success_iff.mpr ⟨rfl, h.plain⟩
  rw [h.tokens_eq, List.length_append, Parser.depth_append_length_add,
    (Parser.balanced_of_all hn).2, ← Token.scan_intercalate, Token.depth_scan, ← hw.depth_eq,
    Int.zero_add]

/-- A session on inputs prints trees, one to a line, and reads no entry in which there is an error;
the inputs end at a prompt. -/
def PrintsTrees (session : Session) (inputs : List Input) (nodes : List Node) (prompt : String) :
    Prop :=
  ∃ turns, session.run inputs = ⟨turns ++ [⟨prompt, "\nExiting Lisp REPL.\n", []⟩], 0⟩ ∧
    String.join (turns.map (·.output)) =
      String.join (nodes.map fun node => session.format.reading (.success node) ++ "\n") ∧
    ∀ reading ∈ session.readings inputs, reading.isSuccess = true

theorem Shows.printsTrees {session last : Session} {lines : List String} {nodes : List Node}
    (h : Shows session lines nodes last) :
    session.PrintsTrees (lines.map .line) nodes last.prompt := by
  have hr := run_append_of_after [] h.after_eq
  rw [List.append_nil] at hr
  refine ⟨_, hr, ?_, h.success⟩
  rw [h.output_eq, printed, List.map_map]
  rfl

/-- A program that is given to a session line by line is printed as the trees that it is read as
in one piece. If it ends too early, the trees that are printed are those of a part that stands at
its start, and the session asks for the rest. -/
theorem run_prints_program (format : Format) (lines : List String)
    (h : ∀ line ∈ lines, ProgramLine line) :
    (∀ nodes, Reader.all (" ".intercalate lines) = .success (.group nodes) →
      PrintsTrees { format, verbose := false } (lines.map .line) nodes ">>> ") ∧
    (Reader.all (" ".intercalate lines) = .failure .endOfInput →
      ∃ nodes, PrintsTrees { format, verbose := false } (lines.map .line) nodes "... " ∧
        (∀ node ∈ nodes, Parser.Plain node) ∧
        nodes.flatMap Node.unparse <+: Token.scan (" ".intercalate lines)) := by
  have hf : Following { format, verbose := false } := ⟨.of_nothing rfl rfl, rfl, by simp⟩
  have he : Reader.all (" ".intercalate lines) = (Parser.all (lines.flatMap Token.scan)).1 := by
    rw [← Token.scan_intercalate]
    rfl
  rw [he, Token.scan_intercalate]
  refine ⟨fun nodes hr => ?_, fun hr => ?_⟩
  · have hb := Parser.balanced_of_all hr
    obtain ⟨shown, last, hl, hs⟩ := hf.lines lines h hb.1
    have hp : last.pending = [] := by
      rw [hl.waiting.pending_eq_nil_iff, ← hs.depth_eq hl.waiting]
      exact hb.2
    have ht := hs.tokens_eq
    rw [hp, List.flatMap_nil, List.append_nil] at ht
    have hr' := Parser.all_eq_success_iff.mpr ⟨ht.symm, hs.plain⟩
    obtain rfl : nodes = shown := by simpa using hr.symm.trans hr'
    have hq : last.prompt = ">>> " := by
      rw [prompt, hp]
      rfl
    rw [← hq]
    exact hs.printsTrees
  · have hu := Parser.unclosed_of_all hr
    obtain ⟨nodes, last, hl, hs⟩ := hf.lines lines h hu.1
    have hp : last.pending ≠ [] := by
      rw [ne_eq, hl.waiting.pending_eq_nil_iff, ← hs.depth_eq hl.waiting]
      exact Int.ne_of_gt hu.2
    rw [← (prompt_eq_iff last).mpr hp]
    exact ⟨nodes, hs.printsTrees, hs.plain, _, hs.tokens_eq.symm⟩

/-- A tree over two lines with a second one on the last of them, a blank line and a third tree;
and a tree before one that is not complete. -/
theorem run_prints_program_each :
    PrintsTrees { format := .canonical, verbose := false }
        [.line "(a", .line " b) c", .line "  ", .line "d"]
        [.group [.atom "a", .atom "b"], .atom "c", .atom "d"] ">>> " ∧
      ∃ nodes, PrintsTrees { format := .json, verbose := false }
          [.line "a", .line "(b", .line "()"] nodes "... " ∧
        (∀ node ∈ nodes, Parser.Plain node) ∧
        nodes.flatMap Node.unparse <+: ["a", "(", "b", "(", ")"] := by
  have hr : Reader.all (" ".intercalate ["(a", " b) c", "  ", "d"]) =
      .success (.group [.group [.atom "a", .atom "b"], .atom "c", .atom "d"]) := by
    rw [Reader.all_eq_gather]
    rfl
  have hu : Reader.all (" ".intercalate ["a", "(b", "()"]) = .failure .endOfInput := by
    rw [Reader.all_eq_gather]
    rfl
  exact ⟨(run_prints_program .canonical ["(a", " b) c", "  ", "d"] (by decide)).1 _ hr,
    (run_prints_program .json ["a", "(b", "()"] (by decide)).2 hu⟩

end Sexpr.Session
