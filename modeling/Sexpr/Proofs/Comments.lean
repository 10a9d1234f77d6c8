import Sexpr.Proofs.Action
import Sexpr.Proofs.Entry

/-!
# Comments in a session

A comment is a line whose first character that is not blank is a semicolon. No command starts with
one (`isFarewell_of_isComment`), so a session does nothing on a comment but ask again, whatever
lines it holds and whatever parentheses the comment has (`accept_of_isComment`).

Comments can be put between the inputs of a session anywhere (`withComments`): before each input,
and after the last. The turns are then the same as before, each after one turn for every comment
before its input, with the prompt of that turn and nothing printed (`run_with_comments`).
-/

namespace Sexpr.Session

/-- A comment has its semicolon after it is trimmed. -/
theorem mem_trim_of_isComment {line : String} (h : isComment line = true) :
    ';' ∈ (Text.trim line).toList := by
  rw [isComment, beq_iff_eq] at h
  have hm : ';' ∈ line.toList := (List.dropWhile_sublist _).mem (List.mem_of_mem_head? h)
  exact Text.mem_trim (by decide) hm

theorem isFarewell_iff (line : String) :
    isFarewell line = true ↔ Text.trim line = "exit" ∨ Text.trim line = "quit" := by
  rw [isFarewell, Bool.or_eq_true, beq_iff_eq, beq_iff_eq]

theorem isFarewell_of_isComment {line : String} (h : isComment line = true) :
    isFarewell line = false := by
  have hm := mem_trim_of_isComment h
  rw [← Bool.not_eq_true, isFarewell_iff]
  rintro (he | he)
  · rw [he] at hm
    exact absurd hm (by decide)
  · rw [he] at hm
    exact absurd hm (by decide)

/-- A session does nothing on a comment. -/
theorem accept_of_isComment (session : Session) {line : String} (h : isComment line = true) :
    session.accept line = ⟨"", [], some session⟩ := by
  rw [accept, isFarewell_of_isComment h, h]
  rfl

/-! ## Comments between inputs -/

/-- A line that is a comment. -/
abbrev Comment := { line : String // isComment line = true }

/-- A comment as an input. -/
def Comment.input (comment : Comment) : Input :=
  .line comment.1

/-- The turn of a comment: there is a prompt, and nothing is printed. -/
def skipAt (prompt : String) : Turn :=
  ⟨prompt, "", []⟩

/-- Inputs with comments before each of them and after the last. -/
def withComments (marked : List (List Comment × Input)) (final : List Comment) : List Input :=
  marked.flatMap (fun item => item.1.map Comment.input ++ [item.2]) ++ final.map Comment.input

/-- Turns with those of comments before each of them, at its prompt. -/
def withSkips (gaps : List (List Comment)) (turns : List Turn) : List Turn :=
  (gaps.zipWith (fun gap turn => gap.map (fun _ => skipAt turn.prompt) ++ [turn]) turns).flatten

theorem withComments_cons (gap : List Comment) (input : Input)
    (marked : List (List Comment × Input)) (final : List Comment) :
    withComments ((gap, input) :: marked) final =
      gap.map Comment.input ++ input :: withComments marked final := by
  simp [withComments]

/-- No input and no comment is lost. -/
theorem length_withComments (marked : List (List Comment × Input)) (final : List Comment) :
    (withComments marked final).length =
      (marked.map Prod.snd).length + (marked.map Prod.fst ++ [final]).flatten.length := by
  induction marked with
  | nil => simp [withComments]
  | cons item marked ih =>
    rw [withComments_cons, List.length_append, List.length_cons, ih]
    simp only [List.map_cons, List.cons_append, List.flatten_cons, List.length_append,
      List.length_cons, List.length_map]
    omega

theorem withSkips_cons (gap : List Comment) (gaps : List (List Comment)) (turn : Turn)
    (turns : List Turn) :
    withSkips (gap :: gaps) (turn :: turns) =
      gap.map (fun _ => skipAt turn.prompt) ++ turn :: withSkips gaps turns := by
  simp [withSkips]

theorem withSkips_nil (gaps : List (List Comment)) : withSkips gaps [] = [] := by
  simp [withSkips]

/-- Comments at a prompt are answered one by one, and the session goes on as if they were not
there. -/
theorem run_comments_append (session : Session) (comments : List Comment) (rest : List Input) :
    session.run (comments.map Comment.input ++ rest) =
      ⟨comments.map (fun _ => skipAt session.prompt) ++ (session.run rest).turns,
        (session.run rest).unread⟩ := by
  induction comments with
  | nil => rfl
  | cons comment comments ih =>
    rw [List.map_cons, List.cons_append, run, Comment.input, step,
      accept_of_isComment session comment.2]
    dsimp only
    rw [ih]
    rfl

/-- Comments anywhere between the inputs of a session add one turn each, with the prompt of the
turn that follows and nothing printed, as far as the session reads them; all other turns are as
they are without comments. -/
theorem run_with_comments (session : Session) (marked : List (List Comment × Input))
    (final : List Comment) :
    let plain := session.run (marked.map Prod.snd)
    let gaps := marked.map Prod.fst ++ [final]
    session.run (withComments marked final) =
      ⟨withSkips gaps plain.turns,
        plain.unread + (gaps.drop plain.turns.length).flatten.length⟩ := by
  dsimp only
  induction marked generalizing session with
  | nil =>
    have hr := run_comments_append session final []
    rw [List.append_nil] at hr
    rw [withComments, List.flatMap_nil, List.nil_append, hr]
    simp only [List.map_nil, List.nil_append, run, withSkips_cons, withSkips_nil]
    rfl
  | cons item marked ih =>
    obtain ⟨gap, input⟩ := item
    rw [withComments_cons, run_comments_append, List.map_cons, List.map_cons, List.cons_append,
      run, run]
    cases hn : (session.step input).next with
    | none =>
      -- The session ends here, and what comes after is not read, comments or not.
      simp only [withSkips_cons, withSkips_nil, length_withComments, List.length_singleton,
        List.drop_one, List.tail_cons]
      rfl
    | some next =>
      dsimp only
      rw [ih next, withSkips_cons]
      rfl

end Sexpr.Session
