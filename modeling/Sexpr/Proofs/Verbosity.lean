import Sexpr.Command

/-!
# What the level of records decides

Standard error is written from notices: log records, of which those from a level on are shown, and
text that always is. Everything the command does is settled before a level is looked at, so the
level decides on the records and on nothing else (`Command.covers_outcome`): a lower level shows
those of a higher one and more, in the same order.

The level comes from a setting and from the arguments that ask for all records. Both can be changed
in this way (`Command.level_irrelevant`), the arguments only where no session is asked for: a session
shows tokens besides.
-/

namespace Sexpr

/-! ## Records by level -/

/-- Nothing is reported below the level for debugging. -/
theorem Record.isShown_debug (report : Record) : report.isShown .debug = true := by
  cases report <;> rfl

/-- What is shown from a level on is shown from a lower one on. -/
theorem Record.isShown_of_le {report : Record} {low high : Level} (h : low.weight ≤ high.weight)
    (hs : report.isShown high = true) : report.isShown low = true :=
  decide_eq_true (Nat.le_trans h (of_decide_eq_true hs))

theorem Level.threshold_le {low high : Option String}
    (h : (threshold low false).weight ≤ (threshold high false).weight) (verbose : Bool) :
    (threshold low verbose).weight ≤ (threshold high verbose).weight := by
  cases verbose with
  | false => exact h
  | true => exact Nat.le_refl _

namespace Notice

/-- Whether a notice is shown from a level on. -/
def isShown (threshold : Level) : Notice → Bool
  | record report => report.isShown threshold
  | text _ => true

/-- The text of a notice that is shown. -/
def full : Notice → String
  | record report => report.message ++ "\n"
  | text words => words

/-- The record that a notice is. -/
def record? : Notice → Option Record
  | record report => some report
  | text _ => none

/-- The text of notices that are shown. -/
def write (notices : List Notice) : String :=
  String.join (notices.map full)

/-- The text among notices that is no record. -/
def plainText (notices : List Notice) : String :=
  String.join (notices.map plain)

/-- The records among notices. -/
def records (notices : List Notice) : List Record :=
  notices.filterMap record?

/-- The notices that are shown from a level on. -/
def display (threshold : Level) (notices : List Notice) : List Notice :=
  notices.filter (isShown threshold)

theorem write_cons (notice : Notice) (rest : List Notice) :
    write (notice :: rest) = notice.full ++ write rest := String.join_cons

theorem plainText_cons (notice : Notice) (rest : List Notice) :
    plainText (notice :: rest) = notice.plain ++ plainText rest := String.join_cons

variable (threshold : Level)

theorem display_cons (notice : Notice) (rest : List Notice) :
    display threshold (notice :: rest) =
      if notice.isShown threshold then notice :: display threshold rest
      else display threshold rest := List.filter_cons

/-- Only a record is not shown, and it is no text of its own. -/
theorem plain_of_hidden {notice : Notice} (h : ¬notice.isShown threshold = true) :
    notice.plain = "" := by
  cases notice with
  | record report => rfl
  | text words => exact absurd rfl h

theorem shown_eq (notice : Notice) :
    notice.shown threshold = if notice.isShown threshold then notice.full else "" := by
  cases notice <;> rfl

/-- What is written is the text of the notices that are shown. -/
theorem join_shown (notices : List Notice) :
    String.join (notices.map (shown threshold)) = write (display threshold notices) := by
  induction notices with
  | nil => rfl
  | cons notice rest ih =>
    rw [List.map_cons, String.join_cons, ih, shown_eq, display_cons]
    split
    · rw [write_cons]
    · rw [String.empty_append]

theorem plainText_display (notices : List Notice) :
    plainText (display threshold notices) = plainText notices := by
  induction notices with
  | nil => rfl
  | cons notice rest ih =>
    rw [display_cons, plainText_cons, ← ih]
    split
    · rw [plainText_cons]
    · rename_i h
      rw [plain_of_hidden threshold h, String.empty_append]

/-- The notices that are shown from one level on are among those shown from another, in their order,
if each record of them is. -/
theorem display_sublist {quiet loud : Level} (notices : List Notice)
    (h : ∀ report : Record, report.isShown quiet = true → report.isShown loud = true) :
    (display quiet notices).Sublist (display loud notices) := by
  have hi : ∀ notice : Notice, notice.isShown quiet = true → notice.isShown loud = true := by
    intro notice hq
    cases notice with
    | record report => exact h report hq
    | text words => rfl
  have hf : display quiet notices = (display loud notices).filter (isShown quiet) := by
    rw [display, display, List.filter_filter]
    refine List.filter_congr fun notice _ => ?_
    cases hq : notice.isShown quiet with
    | true => rw [hi notice hq, Bool.and_self]
    | false => rw [Bool.false_and]
  rw [hf]
  exact List.filter_sublist

end Notice

namespace Command

/-! ## Ends of the command -/

/-- What the command leaves behind, and the notices that its standard error was written from. -/
structure Ending where
  result : Result
  notices : List Notice
  stderr_eq : result.stderr = Notice.write notices

/-- The end of an outcome, with records shown as the setting for the level says. -/
def Outcome.ending (outcome : Outcome) (setting : Option String) : Ending where
  result := outcome.result setting
  notices := Notice.display (Level.threshold setting outcome.verbose) outcome.notices
  stderr_eq := Notice.join_shown _ _

/-- Runs the command, and keeps apart the notices that are shown. -/
def ending (arguments : List String) (input : String) (setting : Option String) (files : Files) :
    Except Abort Ending :=
  match perform files input (plan arguments) with
  | .error reason => .error reason
  | .ok outcome => .ok (outcome.ending setting)

/-- One end covers another if both break off for the same reason, or the two differ in nothing but
log records, and those that the other shows are among those that the one shows, in their order. -/
inductive Covers : Except Abort Ending → Except Abort Ending → Prop
  | abort (reason : Abort) : Covers (.error reason) (.error reason)
  | ending {loud quiet : Ending} (status : loud.result.status = quiet.result.status)
    (stdout : loud.result.stdout = quiet.result.stdout)
    (files : loud.result.files = quiet.result.files)
    (plain : Notice.plainText loud.notices = Notice.plainText quiet.notices)
    (notices : quiet.notices.Sublist loud.notices)
    (records : (Notice.records quiet.notices).Sublist (Notice.records loud.notices)) :
    Covers (.ok loud) (.ok quiet)

/-- Outcomes that differ by the wish for all records at most differ in the records shown only. -/
theorem covers_outcome (outcome : Outcome) {loud quiet : Option String} {more less : Bool}
    (h : ∀ report : Record, report.isShown (Level.threshold quiet less) = true →
      report.isShown (Level.threshold loud more) = true) :
    Covers (.ok ({ outcome with verbose := more }.ending loud))
      (.ok ({ outcome with verbose := less }.ending quiet)) := by
  have hd := Notice.display_sublist outcome.notices h
  refine .ending rfl rfl rfl ?_ hd (hd.filterMap _)
  exact (Notice.plainText_display _ _).trans (Notice.plainText_display _ _).symm

theorem run_eq_ending (arguments : List String) (input : String) (setting : Option String)
    (files : Files) :
    run arguments input setting files =
      (ending arguments input setting files).map Ending.result := by
  rw [run, ending]
  cases perform files input (plan arguments) <;> rfl

theorem plan_of_parse {arguments : List String} {settings : Arguments.Settings}
    (h : Arguments.parse arguments = .ok settings) : plan arguments = planOf settings := by
  cases arguments with
  | nil =>
    cases h
    rfl
  | cons argument rest => simp only [plan, h, List.isEmpty_cons, Bool.false_eq_true, if_false]

/-- Where a source is read once, or nothing can be done, the wish for all records is not looked
at. -/
theorem planOf_once {settings : Arguments.Settings} (hs : settings.source ≠ none)
    (hi : settings.interactive = false) :
    (∃ reason, ∀ verbose, planOf { settings with verbose } = .abort reason) ∨
      ∃ request, ∀ verbose, planOf { settings with verbose } = .read request verbose := by
  obtain ⟨source, hs⟩ := Option.ne_none_iff_exists'.mp hs
  cases hf : settings.format with
  | none => exact .inl ⟨.noFormat, fun verbose => by simp only [planOf]⟩
  | some format =>
    refine .inr ⟨⟨source, settings.literal, format, if settings.everything then .all else .first,
      settings.output⟩, fun verbose => ?_⟩
    simp only [planOf, hs, hi, Bool.false_eq_true, if_false]

theorem outcome_eq (run : Run) (verbose : Bool) :
    run.outcome verbose = { run.outcome false with verbose } := by
  simp only [Run.outcome]
  cases run.result <;> rfl

/-- Neither the setting for the level nor, where a source is read once, the wish for all records
makes a difference to anything but the log records on standard error: a lower level shows those of
a higher one and more, and who asks for all records is shown those of any level. -/
theorem level_irrelevant :
    (∀ arguments input setting files, run arguments input setting files =
      (ending arguments input setting files).map Ending.result) ∧
    (∀ arguments input files low high,
      (Level.threshold low false).weight ≤ (Level.threshold high false).weight →
      Covers (ending arguments input low files) (ending arguments input high files)) ∧
    ∀ (settings : Arguments.Settings) (loud quiet : List String),
      settings.source ≠ none → settings.interactive = false →
      Arguments.parse loud = .ok { settings with verbose := true } →
      Arguments.parse quiet = .ok { settings with verbose := false } →
      ∀ input files left right,
        Covers (ending loud input left files) (ending quiet input right files) := by
  refine ⟨run_eq_ending, fun arguments input files low high h => ?_,
    fun settings loud quiet hs hi hl hq input files left right => ?_⟩
  · rw [ending, ending]
    cases perform files input (plan arguments) with
    | error reason => exact .abort reason
    | ok outcome =>
      exact covers_outcome outcome fun report =>
        Record.isShown_of_le (Level.threshold_le h outcome.verbose)
  · rw [ending, ending, plan_of_parse hl, plan_of_parse hq]
    rcases planOf_once hs hi with ⟨reason, hp⟩ | ⟨request, hp⟩
    · rw [hp, hp]
      exact .abort reason
    · rw [hp, hp]
      simp only [perform]
      rw [outcome_eq _ true]
      exact covers_outcome _ fun report _ => report.isShown_debug

/-- A level in lower case against the default, and all records against those of a level. -/
theorem level_irrelevant_each :
    (Level.threshold (some "debug") false).weight ≤ (Level.threshold none false).weight ∧
    Covers (ending ["-s", "a b)"] "" (some "debug") {}) (ending ["-s", "a b)"] "" none {}) ∧
    Arguments.parse ["-s", "a b)", "--verb"] =
      .ok { source := some "a b)", literal := true, verbose := true } ∧
    Arguments.parse ["-s", "a b)"] = .ok { source := some "a b)", literal := true } ∧
    Covers (ending ["-s", "a b)", "--verb"] "" none {})
      (ending ["-s", "a b)"] "" (some "Info") {}) := by
  obtain ⟨-, hl, ho⟩ := level_irrelevant
  have hw : (Level.threshold (some "debug") false).weight ≤
    (Level.threshold none false).weight := by decide
  exact ⟨hw, hl ["-s", "a b)"] "" {} _ _ hw, rfl, rfl,
    ho { source := some "a b)", literal := true } ["-s", "a b)", "--verb"] ["-s", "a b)"] nofun rfl
      rfl rfl "" {} _ _⟩

end Command

end Sexpr
