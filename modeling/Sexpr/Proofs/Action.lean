import Sexpr.Reader
import Sexpr.Session

/-!
# What a session does

A session does one of six things with a line (`Session.Action`): it leaves, skips a comment,
collects the line for an entry that goes on, passes over an entry of blanks, switches its mode, or
reads the text of an entry. Which one it is (`Session.action`) and what comes of it
(`Session.perform`) are told apart here, and together they are `Session.accept`
(`accept_eq_perform`), so that what holds of every line is proved action by action.

Along inputs, `Session.after` is the session that waits after them, `Session.turns` are the turns
up to there and `Session.readings` the outcomes of the entries that were read; a run on these and
further inputs is a run that goes on from there (`run_append_of_after`).
-/

namespace Sexpr.Session

/-- What a session can do with a line. -/
inductive Action where
  | leave
  | skip
  | collect
  | pass
  | switch
  | read (text : String)
  deriving DecidableEq, Repr

/-- The text of an entry. -/
def entryText (lines : List String) : String :=
  Text.trim (" ".intercalate lines)

/-- What is done with the text of a complete entry. -/
def Action.ofText (text : String) : Action :=
  if text = "" then .pass
  else if Text.lower text = "verbose-mode" then .switch
  else .read text

/-- What a session does with a line. -/
def action (session : Session) (line : String) : Action :=
  if isFarewell line && session.pending.isEmpty then .leave
  else if isComment line then .skip
  else if session.depth + Token.balance line ≤ 0 then
    .ofText (entryText (session.pending ++ [line]))
  else .collect

/-- What comes of it. -/
def perform (session : Session) (line : String) : Action → Response
  | .leave => ⟨printed ["Exiting Lisp REPL."], [], none⟩
  | .skip => ⟨"", [], some session⟩
  | .collect =>
    ⟨"", [], some { session with
      pending := session.pending ++ [line], depth := session.depth + Token.balance line }⟩
  | .pass => ⟨"", [], some session.fresh⟩
  | .switch =>
    ⟨printed ["[mode] >>> Verbose mode " ++ (if !session.verbose then "ON" else "OFF")], [],
      some { session.fresh with verbose := !session.verbose }⟩
  | .read text => session.display text

theorem entry_eq_perform (session : Session) (lines : List String) (line : String) :
    session.entry lines = session.perform line (.ofText (entryText lines)) := by
  rw [entry, Action.ofText, entryText]
  dsimp only
  split
  · rfl
  · split <;> rfl

/-- Handling a line is doing what is done with it. -/
theorem accept_eq_perform (session : Session) (line : String) :
    session.accept line = session.perform line (session.action line) := by
  rw [accept, action]
  split
  · rfl
  · split
    · rfl
    · dsimp only
      split
      · exact entry_eq_perform session _ line
      · rfl

/-- A line asks to leave, or is a comment, or completes an entry, or leaves a group open. -/
theorem action_cases (session : Session) (line : String) :
    (isFarewell line = true ∧ session.pending = [] ∧ session.action line = .leave) ∨
    (isComment line = true ∧ session.action line = .skip) ∨
    (session.depth + Token.balance line ≤ 0 ∧
      session.action line = .ofText (entryText (session.pending ++ [line]))) ∨
    (0 < session.depth + Token.balance line ∧ session.action line = .collect) := by
  rw [action]
  split
  · rename_i hf
    rw [Bool.and_eq_true, List.isEmpty_iff] at hf
    exact .inl ⟨hf.1, hf.2, rfl⟩
  · split
    · exact .inr (.inl ⟨‹_›, rfl⟩)
    · split
      · exact .inr (.inr (.inl ⟨‹_›, rfl⟩))
      · exact .inr (.inr (.inr ⟨by omega, rfl⟩))

/-- A complete entry is blank, or a command, or is read. -/
theorem ofText_cases (text : String) :
    (text = "" ∧ Action.ofText text = .pass) ∨
    (Text.lower text = "verbose-mode" ∧ Action.ofText text = .switch) ∨
    Action.ofText text = .read text := by
  rw [Action.ofText]
  split
  · exact .inl ⟨‹_›, rfl⟩
  · split
    · exact .inr (.inl ⟨‹_›, rfl⟩)
    · exact .inr (.inr rfl)

/-- What is read is the text of the lines at hand and the last one, which leaves no group open. -/
theorem text_of_read {session : Session} {line text : String}
    (h : session.action line = .read text) :
    session.depth + Token.balance line ≤ 0 ∧ text = entryText (session.pending ++ [line]) := by
  rcases action_cases session line with ⟨-, -, ha⟩ | ⟨-, ha⟩ | ⟨hd, ha⟩ | ⟨-, ha⟩
  · cases ha.symm.trans h
  · cases ha.symm.trans h
  · refine ⟨hd, ?_⟩
    rcases ofText_cases (entryText (session.pending ++ [line])) with ⟨-, ht⟩ | ⟨-, ht⟩ | ht
    · cases (ha.trans ht).symm.trans h
    · cases (ha.trans ht).symm.trans h
    · exact (Action.read.inj ((ha.trans ht).symm.trans h)).symm
  · cases ha.symm.trans h

/-- After a complete entry nothing is at hand, and the session goes on. -/
theorem next_of_ofText (session : Session) (line text : String) :
    ∃ next, (session.perform line (.ofText text)).next = some next ∧ next.pending = [] ∧
      next.depth = 0 := by
  rcases ofText_cases text with ⟨-, ht⟩ | ⟨-, ht⟩ | ht
  · exact ⟨session.fresh, by rw [ht]; rfl, rfl, rfl⟩
  · exact ⟨{ session.fresh with verbose := !session.verbose }, by rw [ht]; rfl, rfl, rfl⟩
  · exact ⟨session.fresh, by rw [ht]; rfl, rfl, rfl⟩

/-! ## Along inputs -/

/-- The session that waits after inputs, if it has not ended. -/
def after (session : Session) : List Input → Option Session
  | [] => some session
  | input :: rest =>
    match (session.step input).next with
    | none => none
    | some next => next.after rest

/-- The turns of a session on inputs. -/
def turns (session : Session) : List Input → List Turn
  | [] => []
  | input :: rest =>
    session.turn (session.step input) ::
      match (session.step input).next with
      | none => []
      | some next => next.turns rest

/-- The outcome of the entry that is read, if one is. -/
def Action.reading? : Action → Option Reading
  | .read text => some (Reader.all text)
  | _ => none

/-- The outcomes of the entries that a session reads on inputs. -/
def readings (session : Session) : List Input → List Reading
  | [] => []
  | .interrupt :: _ => []
  | .line text :: rest =>
    (session.action text).reading?.toList ++
      match (session.accept text).next with
      | none => []
      | some next => next.readings rest

/-- A run on inputs and more of them is the turns on the former and a run on the latter. -/
theorem run_append_of_after {inputs : List Input} (more : List Input) {last : Session} :
    ∀ {session : Session}, session.after inputs = some last →
      session.run (inputs ++ more) =
        ⟨session.turns inputs ++ (last.run more).turns, (last.run more).unread⟩ := by
  induction inputs with
  | nil =>
    intro session h
    obtain rfl := Option.some.inj h
    rfl
  | cons input rest ih =>
    intro session h
    rw [after] at h
    rw [List.cons_append, run, turns]
    cases hn : (session.step input).next with
    | none => rw [hn] at h; cases h
    | some next =>
      rw [hn] at h
      simp only [ih h, List.cons_append]

end Sexpr.Session
