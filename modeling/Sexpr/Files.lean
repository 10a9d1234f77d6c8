import Sexpr.Text.Quoted
import Sexpr.Text.Utf8

/-!
# File trees

A file tree holds regular files and directories by their path from the root, and the directory
from which relative paths start. Reading a file leaves the tree as it is; writing gives a new
tree. Both say exactly why a path cannot be used.
-/

namespace Sexpr

/-- What stands at a path. -/
inductive FileEntry where
  | file (bytes : List UInt8)
  | directory
  deriving DecidableEq

/-- Files and directories by the names on their path from the root, and the directory where
relative paths start. -/
structure Files where
  entries : List (List String × FileEntry) := []
  base : List String := []

/-- Why a path cannot be used. -/
inductive PathError where
  | missing
  | notDirectory
  | isDirectory
  | nameTooLong
  | nullByte
  deriving DecidableEq, Repr

/-- The message of an error at a path. -/
def PathError.message (error : PathError) (path : String) : String :=
  match error with
  | .missing => "[Errno 2] No such file or directory: " ++ Text.Quoted.encode path
  | .notDirectory => "[Errno 20] Not a directory: " ++ Text.Quoted.encode path
  | .isDirectory => "[Errno 21] Is a directory: " ++ Text.Quoted.encode path
  | .nameTooLong => "[Errno 36] File name too long: " ++ Text.Quoted.encode path
  | .nullByte => "embedded null byte"

namespace Files

/-- What stands at the names of a path; the root is a directory. -/
def entry? (files : Files) (names : List String) : Option FileEntry :=
  if names.isEmpty then some .directory else files.entries.lookup names

/-- The tree with an entry at the names of a path, in place of one that is there. -/
def put (files : Files) (names : List String) (entry : FileEntry) : Files :=
  if files.entries.any (·.1 == names) then
    { files with
      entries := files.entries.map fun old => if old.1 == names then (names, entry) else old }
  else { files with entries := files.entries ++ [(names, entry)] }

/-- The most bytes that one name on a path may have. -/
def nameLimit : Nat := 255

/-- The number of bytes that a path has to stay below. -/
def pathLimit : Nat := 4096

/-- Follows names from a directory to the directory that they lead to. An empty name and a dot
stay, two dots go up. -/
def descend (files : Files) (directory : List String) : List String → Except PathError (List String)
  | [] => .ok directory
  | name :: rest =>
    if name = "" ∨ name = "." then files.descend directory rest
    else if name = ".." then files.descend directory.dropLast rest
    else if nameLimit < name.utf8ByteSize then .error .nameTooLong
    else
      match files.entry? (directory ++ [name]) with
      | none => .error .missing
      | some (.file _) => .error .notDirectory
      | some .directory => files.descend (directory ++ [name]) rest

/-- Adds one character to the name at hand, which comes first and reversed, or starts a name after
a slash. -/
def segment (names : List (List Char)) (c : Char) : List (List Char) :=
  match names with
  | [] => [[c]]
  | name :: before => if c = '/' then [] :: name :: before else (c :: name) :: before

/-- The names between the slashes of a path, empty ones included. -/
def segments (path : String) : List String :=
  (path.toList.foldl segment [[]]).reverse.map fun name => String.ofList name.reverse

/-- A path cut at its slashes: the names before the last, the last, and whether slashes follow
it. -/
def cut (path : String) : List String × String × Bool :=
  let names := segments path
  let tail := names.reverse.dropWhile (· == "")
  match tail with
  | [] => ([], "", true)
  | last :: before => (before.reverse, last, names.length ≠ tail.length)

/-- The directory where a path starts. -/
def start (files : Files) (path : String) : List String :=
  if path.toList.head? = some '/' then [] else files.base

/-- The place that a path names: a directory that exists, a name in it unless the path is that
directory itself, and whether slashes follow the name. -/
def locate (files : Files) (path : String) : Except PathError (List String × Option String × Bool) :=
  if path.toList.contains '\x00' then .error .nullByte
  else if path = "" then .error .missing
  else if pathLimit ≤ path.utf8ByteSize then .error .nameTooLong
  else do
    let (before, last, slashed) := cut path
    let directory ← files.descend (files.start path) before
    if last = "" ∨ last = "." ∨ last = ".." then
      pure (← files.descend directory [last], none, slashed)
    else if nameLimit < last.utf8ByteSize then .error .nameTooLong
    else pure (directory, some last, slashed)

/-- The bytes of the file at a path. -/
def read (files : Files) (path : String) : Except PathError (List UInt8) := do
  let (directory, name, slashed) ← files.locate path
  match name with
  | none => .error .isDirectory
  | some name =>
    match files.entry? (directory ++ [name]) with
    | none => .error .missing
    | some .directory => .error .isDirectory
    | some (.file bytes) => if slashed then .error .notDirectory else .ok bytes

/-- The tree with a file of these bytes at a path, in place of a file that is there. -/
def write (files : Files) (path : String) (bytes : List UInt8) : Except PathError Files := do
  let (directory, name, slashed) ← files.locate path
  match name with
  | none => .error .isDirectory
  | some name =>
    if slashed then .error .isDirectory
    else
      match files.entry? (directory ++ [name]) with
      | some .directory => .error .isDirectory
      | _ => .ok (files.put (directory ++ [name]) (.file bytes))

/-- The tree with an entry at a path below the base, and with directories on the way to it. -/
def add (files : Files) (path : String) (entry : FileEntry) : Files :=
  let names := (segments path).filter (· != "")
  let parents := (List.range (names.length - 1)).map fun count => names.take (count + 1)
  (parents.foldl (fun files parent => files.put (files.base ++ parent) .directory) files).put
    (files.base ++ names) entry

/-- The files below the base, by their path from there, that another tree does not have with the
same bytes. -/
def changes (files before : Files) : List (String × List UInt8) :=
  files.entries.filterMap fun (names, entry) =>
    match entry with
    | .directory => none
    | .file bytes =>
      if before.entry? names = some entry ∨ names.take files.base.length ≠ files.base then none
      else some ("/".intercalate (names.drop files.base.length), bytes)

end Files

end Sexpr
