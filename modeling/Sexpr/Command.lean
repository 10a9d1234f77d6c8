import Sexpr.Arguments
import Sexpr.Reader
import Sexpr.Session
import Sexpr.Source

/-!
# The command

The command reads one source and shows or writes the outcome, or runs an interactive session. Its
effects are values: the text for standard output, the notices for standard error in order, and
the file tree afterwards. Which records are shown depends on a level, and nothing else does.
-/

namespace Sexpr

/-- An item for standard error: a log record, or text that is always shown. -/
inductive Notice where
  | record (report : Record)
  | text (words : String)
  deriving DecidableEq

namespace Notice

/-- The text of a notice when records are shown from a level on. -/
def shown (threshold : Level) : Notice → String
  | record report => if report.isShown threshold then report.message ++ "\n" else ""
  | text words => words

/-- The text of a notice when no records are shown. -/
def plain : Notice → String
  | record _ => ""
  | text words => words

end Notice

namespace Command

/-- A source to read once, and where its outcome goes. -/
structure Request where
  source : String
  literal : Bool := false
  format : Format := .listing
  scope : Scope := .first
  output : Option String := none

/-- The end of reading a source: the texts and the file tree it leaves, and the exit status or the
fault that cut it short. -/
structure Run where
  stdout : String := ""
  notices : List Notice := []
  files : Files
  result : Except Fault Nat

/-- The mark before messages of errors. -/
def errorMark : String := "[error] >>> "

/-- Writes an outcome to a path, or shows it if there is none. An empty path counts as none. -/
def deliver (files : Files) (format : Format) (output : String) (notices : List Notice) :
    Option String → Run
  | none => { stdout := output, notices, files, result := .ok 0 }
  | some path =>
    if path = "" then { stdout := output, notices, files, result := .ok 0 }
    else
      match files.write path (Text.Utf8.encode output.toList) with
      | .error error => { notices, files, result := .error (.unusable path error) }
      | .ok written =>
        { notices := notices ++ [.record (.wrote format path)], files := written, result := .ok 0 }

/-- Reads a source once. Nothing is written unless a tree was read. -/
def once (files : Files) (request : Request) : Run :=
  match Source.text files request.source request.literal with
  | .error fault => { files, result := .error fault }
  | .ok (text, loaded) =>
    let (reading, log) := Reader.read request.scope text
    let notices := (loaded ++ log).map .record
    match reading with
    | .failure error =>
      { notices := notices ++ [.text (errorMark ++ request.format.error error ++ "\n")], files,
        result := .ok 1 }
    | .success node =>
      deliver files request.format (request.format.node node ++ "\n") notices request.output

/-- The end of the command, before it is decided which records are shown. -/
structure Outcome where
  status : Nat
  stdout : String := ""
  notices : List Notice := []
  files : Files
  verbose : Bool := false

/-- The outcome of reading a source once: a fault is shown and gives status one. -/
def Run.outcome (run : Run) (verbose : Bool) : Outcome :=
  match run.result with
  | .ok status =>
    { status, stdout := run.stdout, notices := run.notices, files := run.files, verbose }
  | .error fault =>
    { status := 1, stdout := run.stdout,
      notices := run.notices ++ [.text (errorMark ++ fault.message ++ "\n")],
      files := run.files, verbose }

/-- The outcome of an interactive session on the lines of a text. -/
def converse (files : Files) (input : String) (format : Format) (verbose : Bool) : Outcome :=
  let transcript := ({ format, verbose } : Session).run (Session.inputs input)
  { status := 0, stdout := Session.banner format ++ transcript.output,
    notices := transcript.log.map .record, files, verbose }

/-- Why the command breaks off without an exit status. -/
inductive Abort where
  | noFormat
  deriving DecidableEq, Repr

/-- The message of a break. -/
def Abort.message : Abort → String
  | .noFormat => "'list' object has no attribute 'lower'"

/-- What the arguments ask the command to do. -/
inductive Plan where
  | refuse (problem : Arguments.Problem)
  | help
  | abort (reason : Abort)
  | session (format : Format) (verbose : Bool)
  | read (request : Request) (verbose : Bool)

/-- The plan of settings: a session if one is asked for or there is no source. Nothing can be done
without a format. -/
def planOf (settings : Arguments.Settings) : Plan :=
  match settings.format, settings.source with
  | none, _ => .abort .noFormat
  | some format, none => .session format settings.verbose
  | some format, some source =>
    if settings.interactive then .session format settings.verbose
    else
      .read ⟨source, settings.literal, format, if settings.everything then .all else .first,
        settings.output⟩ settings.verbose

/-- The plan of arguments; without any, a session. -/
def plan (arguments : List String) : Plan :=
  if arguments.isEmpty then .session .listing false
  else
    match Arguments.parse arguments with
    | .error (.problem problem) => .refuse problem
    | .error .help => .help
    | .ok settings => planOf settings

/-- Carries out a plan. -/
def perform (files : Files) (input : String) : Plan → Except Abort Outcome
  | .refuse problem => .ok { status := 2, notices := [.text problem.report], files }
  | .help => .ok { status := 0, stdout := Arguments.help, files }
  | .abort reason => .error reason
  | .session format verbose => .ok (converse files input format verbose)
  | .read request verbose => .ok ((once files request).outcome verbose)

/-- What the command leaves behind. -/
structure Result where
  status : Nat
  stdout : String
  stderr : String
  files : Files

/-- The result of an outcome, with records shown as the setting for the level says. -/
def Outcome.result (outcome : Outcome) (setting : Option String) : Result :=
  let threshold := Level.threshold setting outcome.verbose
  ⟨outcome.status, outcome.stdout, String.join (outcome.notices.map (·.shown threshold)),
    outcome.files⟩

/-- Runs the command on arguments, standard input, a setting for the level of records, and a file
tree. -/
def run (arguments : List String) (input : String) (setting : Option String) (files : Files) :
    Except Abort Result :=
  match perform files input (plan arguments) with
  | .error reason => .error reason
  | .ok outcome => .ok (outcome.result setting)

end Command

end Sexpr
