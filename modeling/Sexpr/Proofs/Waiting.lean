import Sexpr.Proofs.Action
import Sexpr.Proofs.Append
import Sexpr.Proofs.Entry

/-!
# Waiting for the rest of an entry

A session goes on collecting lines as long as it has counted more opening than closing parentheses
in them. The count is what the reader goes by too: a text with more opening parentheses is not
read (`Reader.all_of_balance_pos`), and the end of input is not what is wrong with any other text
(`Reader.all_of_balance_nonpos`). A session that waits has the lines at hand counted, and at least
one group is open in them (`Session.Waiting`); every line keeps it so (`Waiting.accept`).
-/

namespace Sexpr.Reader

/-- A text with more opening than closing parentheses is not read. -/
theorem all_of_balance_pos {text : String} (h : 0 < Token.balance text) (node : Node) :
    all text ≠ .success node := by
  intro hs
  have hd := (Parser.balanced_of_all hs).2
  rw [Token.depth_scan] at hd
  omega

/-- Any other text is read or has a closing parenthesis that is not expected. -/
theorem all_of_balance_nonpos {text : String} (h : Token.balance text ≤ 0) :
    (∃ nodes, all text = .success (.group nodes)) ∨
      ∃ position : Nat, all text = .failure (.unexpected ")" (some position)) := by
  rw [all_eq_gather]
  rcases Parser.Stack.outcome_cases (Token.scan text) with ⟨p, -, -, ho⟩ | ⟨hu, -⟩ | ⟨-, nodes, ho⟩
  · exact .inr ⟨p, by rw [ho]; rfl⟩
  · have hd := hu.2
    rw [Token.depth_scan] at hd
    omega
  · exact .inl ⟨nodes, by rw [ho]; rfl⟩

end Sexpr.Reader

namespace Sexpr.Session

/-- A session as it waits for a line: the depth is the balance of the lines at hand, and if there
are any, a group is open. -/
structure Waiting (session : Session) : Prop where
  depth_eq : session.depth = Token.balance (" ".intercalate session.pending)
  depth_pos : session.pending ≠ [] → 1 ≤ session.depth

theorem Waiting.of_nothing {session : Session} (hp : session.pending = [])
    (hd : session.depth = 0) : session.Waiting := by
  refine ⟨?_, fun h => absurd hp h⟩
  rw [hp, hd]
  rfl

theorem Waiting.pending_eq_nil_iff {session : Session} (h : session.Waiting) :
    session.pending = [] ↔ session.depth = 0 := by
  constructor
  · intro hp
    rw [h.depth_eq, hp]
    rfl
  · intro hd
    refine Decidable.by_contra fun hp => ?_
    have := h.depth_pos hp
    omega

/-- Whatever a line does, the session waits again, or has ended. -/
theorem Waiting.accept {session next : Session} {line : String} (h : session.Waiting)
    (hn : (session.accept line).next = some next) : next.Waiting := by
  rw [accept_eq_perform] at hn
  rcases action_cases session line with ⟨-, -, ha⟩ | ⟨-, ha⟩ | ⟨-, ha⟩ | ⟨hd, ha⟩
  · rw [ha] at hn
    cases hn
  · rw [ha] at hn
    obtain rfl := Option.some.inj hn
    exact h
  · obtain ⟨clear, hc, hp, hd⟩ :=
      next_of_ofText session line (entryText (session.pending ++ [line]))
    rw [ha, hc] at hn
    obtain rfl := Option.some.inj hn
    exact .of_nothing hp hd
  · rw [ha] at hn
    obtain rfl := Option.some.inj hn
    refine ⟨?_, fun _ => hd⟩
    rw [Token.balance_intercalate_append, ← h.depth_eq]

theorem Waiting.step {session next : Session} {input : Input} (h : session.Waiting)
    (hn : (session.step input).next = some next) : next.Waiting := by
  cases input with
  | line text => exact h.accept hn
  | interrupt => cases hn

theorem Waiting.after {inputs : List Input} {last : Session} :
    ∀ {session : Session}, session.Waiting → session.after inputs = some last → last.Waiting := by
  induction inputs with
  | nil =>
    intro session h ha
    obtain rfl := Option.some.inj ha
    exact h
  | cons input rest ih =>
    intro session h ha
    rw [Session.after] at ha
    cases hn : (session.step input).next with
    | none => rw [hn] at ha; cases ha
    | some next =>
      rw [hn] at ha
      exact ih (h.step hn) ha

theorem Waiting.balance_entryText {session : Session} (h : session.Waiting) (line : String) :
    Token.balance (entryText (session.pending ++ [line])) =
      session.depth + Token.balance line := by
  rw [entryText, Token.balance_trim, Token.balance_intercalate_append, ← h.depth_eq]

/-- An entry that is read is complete. -/
theorem Waiting.balance_of_read {session : Session} {line text : String} (h : session.Waiting)
    (hr : session.action line = .read text) : Token.balance text ≤ 0 := by
  obtain ⟨hd, rfl⟩ := text_of_read hr
  rw [h.balance_entryText]
  exact hd

/-- An entry of several lines is no command: the line that completes it has a closing
parenthesis. -/
theorem Waiting.entry_not_switch {session : Session} {line : String} (h : session.Waiting)
    (hp : session.pending ≠ []) (hd : session.depth + Token.balance line ≤ 0) :
    Text.lower (entryText (session.pending ++ [line])) ≠ "verbose-mode" := by
  have hb : Token.balance line < 0 := by
    have := h.depth_pos hp
    omega
  have hm : ')' ∈ (" ".intercalate (session.pending ++ [line])).toList :=
    (Text.mem_intercalate (by decide) _).mpr
      ⟨line, List.mem_append_right _ (List.mem_singleton_self line),
        Token.mem_closing_of_balance_neg hb⟩
  have hv := Text.mem_lower (by decide) (by decide) (Text.mem_trim Text.isBlank_closing hm)
  intro he
  rw [← entryText, he] at hv
  exact absurd hv (by decide)

theorem prompt_eq_iff (session : Session) : session.prompt = "... " ↔ session.pending ≠ [] := by
  rw [prompt]
  cases session.pending <;> simp

/-- After any inputs, a session prompts for more of an entry exactly while it holds lines of one;
it has counted their parentheses, more of them open, and the reader does not take them. Whenever it
reads an entry, the reader takes it or finds a closing parenthesis that it does not expect. -/
theorem waiting_agrees_reading {format : Format} {verbose : Bool} {inputs : List Input}
    {session : Session} (h : after { format, verbose } inputs = some session) :
    (session.prompt = "... " ↔ session.pending ≠ []) ∧
    session.depth = Token.balance (" ".intercalate session.pending) ∧
    (session.pending ≠ [] → 1 ≤ session.depth) ∧
    (session.prompt = "... " →
      ∀ node, Reader.all (" ".intercalate session.pending) ≠ .success node) ∧
    ∀ line, session.accept line = session.perform line (session.action line) ∧
      ∀ text, session.action line = .read text →
        (∃ nodes, Reader.all text = .success (.group nodes)) ∨
          ∃ position : Nat, Reader.all text = .failure (.unexpected ")" (some position)) := by
  have hw : session.Waiting := Waiting.after (.of_nothing rfl rfl) h
  refine ⟨prompt_eq_iff session, hw.depth_eq, hw.depth_pos, fun hp => ?_,
    fun line => ⟨accept_eq_perform session line, fun text hr => ?_⟩⟩
  · have hd := hw.depth_pos ((prompt_eq_iff session).mp hp)
    rw [hw.depth_eq] at hd
    exact Reader.all_of_balance_pos hd
  · exact Reader.all_of_balance_nonpos (hw.balance_of_read hr)

/-- Two lines of an entry with a comment between them, and the line that completes it. -/
theorem waiting_agrees_reading_nested :
    after { format := .listing, verbose := false } [.line "(a", .line "; ))", .line "(b"] =
        some { format := .listing, verbose := false, pending := ["(a", "(b"], depth := 2 } ∧
      (∀ node, Reader.all (" ".intercalate ["(a", "(b"]) ≠ .success node) ∧
      ((∃ nodes, Reader.all "(a (b ))" = .success (.group nodes)) ∨
        ∃ position : Nat, Reader.all "(a (b ))" = .failure (.unexpected ")" (some position))) := by
  have ha : after { format := .listing, verbose := false }
      [.line "(a", .line "; ))", .line "(b"] =
        some { format := .listing, verbose := false, pending := ["(a", "(b"], depth := 2 } := by
    decide
  obtain ⟨-, -, -, hp, hr⟩ := waiting_agrees_reading ha
  exact ⟨ha, hp (by decide), (hr "))").2 "(a (b ))" (by decide)⟩

end Sexpr.Session
