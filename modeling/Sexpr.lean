import Sexpr.Command
import Sexpr.Cursor
import Sexpr.Dynamic.Draft
import Sexpr.Dynamic.Recipe
import Sexpr.Emitter
import Sexpr.Main
import Sexpr.Proofs.Building
import Sexpr.Proofs.Descent
import Sexpr.Proofs.Exit
import Sexpr.Proofs.FixedPoint
import Sexpr.Proofs.Identity
import Sexpr.Proofs.Independence
import Sexpr.Proofs.LineLayout
import Sexpr.Proofs.Literal
import Sexpr.Proofs.Lossless
import Sexpr.Proofs.Program
import Sexpr.Proofs.Reporting
import Sexpr.Proofs.Showing
import Sexpr.Proofs.Traversal
import Sexpr.Proofs.Trimming
import Sexpr.Proofs.Verbosity
