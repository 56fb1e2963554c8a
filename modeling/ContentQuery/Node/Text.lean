import ContentQuery.Name
import ContentQuery.Node.Basic
import ContentQuery.Value.Text

/-!
# Text of query trees

A tree as it is shown in messages and log records. Trees that nest deep are cut off.
-/

namespace ContentQuery.Node

/-- Levels that are shown; below them stands an ellipsis. -/
def shownDepth : Nat := 32

mutual

/-- The text of a node that stands at a level. -/
def textAt (level : Nat) (node : Node) : String :=
  if shownDepth ≤ level then "..."
  else
    match node with
    | identifier name _ => Name.encode name
    | constant value _ => value.text
    | bindVariable reference _ => reference
    | literal text => text
    | function name params => name ++ "(" ++ ", ".intercalate (textAllAt (level + 1) params) ++ ")"
    | comparison op l r => textAt (level + 1) l ++ " " ++ op.token ++ " " ++ textAt (level + 1) r
    | lone op .left l => textAt (level + 1) l ++ " " ++ op.token
    | lone op .right r => op.token ++ " " ++ textAt (level + 1) r
    | conjunction op l r =>
      "(" ++ textAt (level + 1) l ++ ") " ++ op.operator.token ++ " (" ++ textAt (level + 1) r ++ ")"
    | negation x => "NOT (" ++ textAt (level + 1) x ++ ")"

def textAllAt (level : Nat) : List Node → List String
  | [] => []
  | node :: rest => textAt level node :: textAllAt level rest

end

def text (node : Node) : String :=
  textAt 0 node

end ContentQuery.Node
