import Sexpr.Command

/-!
# Program

Runs the command on the arguments of the process, its standard streams and its files. Everything
that is decided is decided by `Command`; this module only moves bytes. A session talks line by
line, so it is driven by `Session.step` here.
-/

namespace Sexpr

/-- Shows records on standard error from a level on. -/
def showRecords (threshold : Level) (log : List Record) : IO Unit := do
  for record in log do
    IO.eprint ((Notice.record record).shown threshold)

/-- A line without the line feed at its end. -/
def withoutLineFeed (line : String) : String :=
  if line.toList.getLast? = some '\n' then String.ofList line.toList.dropLast else line

/-- Goes on with a session until it stops. -/
partial def Session.talk (threshold : Level) (session : Session) : IO Unit := do
  IO.print session.prompt
  (← IO.getStdout).flush
  let line ← (← IO.getStdin).getLine
  let response := if line.isEmpty then stop else session.accept (withoutLineFeed line)
  showRecords threshold response.log
  IO.print response.output
  match response.next with
  | none => pure ()
  | some next => next.talk threshold

/-- The reason that the operating system gives for not using a path. The code of a directory comes
with either sign. -/
def pathErrorOf : IO.Error → PathError
  | .inappropriateType _ code _ => if code = 21 ∨ code = -21 then .isDirectory else .notDirectory
  | _ => .missing

/-- A file tree with directories on the way to a path, and at the path what is known of it. -/
def treeAround (files : Files) (path : String) (known : Except PathError (List UInt8)) : Files :=
  let (before, last, _) := Files.cut path
  let descend (reached : Files × List String) (name : String) : Files × List String :=
    let names := reached.2 ++ [name]
    (reached.1.put names .directory, names)
  let (files, names) := (before.filter (· != "")).foldl descend (files, [])
  match known with
  | .ok bytes => files.put (names ++ [last]) (.file bytes)
  | .error .isDirectory => files.put (names ++ [last]) .directory
  | .error .notDirectory => files.put names (.file [])
  | .error _ => files

/-- The file tree as far as a request looks at it. -/
def probe (request : Command.Request) : IO Files := do
  let files := match request.output with
    | some path => treeAround {} path (.error .missing)
    | none => {}
  if request.literal then return files
  try
    let bytes ← IO.FS.readBinFile request.source
    return treeAround files request.source (.ok bytes.toList)
  catch error =>
    let reason := pathErrorOf error
    return if reason = .missing then files else treeAround files request.source (.error reason)

/-- Writes what a run changed. A run whose output cannot be written ends with that fault, and
without the record of writing it. -/
def commit (before : Files) (path : String) (run : Command.Run) : IO Command.Run := do
  try
    for (_, bytes) in run.files.changes before do
      IO.FS.writeBinFile path bytes.toByteArray
    return run
  catch error =>
    return { run with
      notices := run.notices.dropLast, result := .error (.unusable path (pathErrorOf error)) }

/-- Carries out a request on the files of the process. -/
def attempt (request : Command.Request) (verbose : Bool) (setting : Option String) : IO UInt32 := do
  let before ← probe request
  let run ← commit before (request.output.getD "") (Command.once before request)
  let result := (run.outcome verbose).result setting
  IO.eprint result.stderr
  IO.print result.stdout
  return result.status.toUInt32

/-- Carries out a plan. -/
def execute (setting : Option String) : Command.Plan → IO UInt32
  | .read request verbose => attempt request verbose setting
  | .session format verbose => do
    IO.print (Session.banner format)
    Session.talk (Level.threshold setting verbose) { format, verbose }
    return 0
  | plan =>
    match Command.perform {} "" plan with
    | .error reason => do
      IO.eprintln reason.message
      return 1
    | .ok outcome => do
      let result := outcome.result setting
      IO.eprint result.stderr
      IO.print result.stdout
      return result.status.toUInt32

end Sexpr

/-- Runs the command. -/
def main (arguments : List String) : IO UInt32 := do
  Sexpr.execute (← IO.getEnv "LOGLEVEL") (Sexpr.Command.plan arguments)
