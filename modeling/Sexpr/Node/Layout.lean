import Sexpr.Json
import Sexpr.Node.Event
import Sexpr.Text.Quoted

/-!
# Written trees

A layout says how a tree is written: each token through `leaf`, each group between `opening` and
`closing`, with `separator` between neighbours. `Layout.render` writes from the events of a walk
and carries one flag, whether a separator is due; `Layout.text` is the same by recursion.

Four layouts are used: the bracket listing, canonical text that can be read back, the literal form
that tells any two trees apart, and JSON.
-/

namespace Sexpr

/-- How a tree is written. -/
structure Layout where
  leaf : String → String
  opening : String
  closing : String
  separator : String

namespace Layout

/-- A tree being written: the text so far, and whether a separator is due before the next item. -/
structure Draft where
  text : String := ""
  separatorDue : Bool := false

/-- The text so far, with a separator if one is due. -/
def Draft.separated (draft : Draft) (separator : String) : String :=
  if draft.separatorDue then draft.text ++ separator else draft.text

/-- Writes one event. -/
def write (layout : Layout) (draft : Draft) : Node.Event → Draft
  | .atom token => ⟨draft.separated layout.separator ++ layout.leaf token, true⟩
  | .enter _ => ⟨draft.separated layout.separator ++ layout.opening, false⟩
  | .leave => ⟨draft.text ++ layout.closing, true⟩

/-- The written form of a tree, from the events of a walk. -/
def render (layout : Layout) (node : Node) : String :=
  (node.walk.foldl layout.write {}).text

mutual

/-- The written form of a tree. -/
def text (layout : Layout) : Node → String
  | .atom token => layout.leaf token
  | .group children => layout.opening ++ textAll layout children ++ layout.closing

/-- The written forms of trees in a row, with separators between them. -/
def textAll (layout : Layout) : List Node → String
  | [] => ""
  | [node] => text layout node
  | node :: next :: rest =>
    text layout node ++ layout.separator ++ textAll layout (next :: rest)

end

/-- The bracket listing, such as `[1, [2, 3]]`. -/
def listing : Layout := ⟨id, "[", "]", ", "⟩

/-- Canonical text, such as `(1 (2 3))`. -/
def canonical : Layout := ⟨id, Token.opening, Token.closing, " "⟩

/-- The literal form, such as `Group([Atom('1'), Group([])])`. -/
def literal : Layout :=
  ⟨fun token => "Atom(" ++ Text.Quoted.encode token ++ ")", "Group([", "])", ", "⟩

end Layout

namespace Node

/-- The bracket listing of a tree. -/
def listing (node : Node) : String := Layout.listing.render node

/-- The canonical text of a tree. -/
def canonical (node : Node) : String := Layout.canonical.render node

/-- The literal form of a tree. -/
def literal (node : Node) : String := Layout.literal.render node

end Node

end Sexpr
