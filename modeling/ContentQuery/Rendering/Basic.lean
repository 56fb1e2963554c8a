import ContentQuery.Rendering.Script

/-!
# Rendering

A resolved tree becomes the text of a query in a dialect, with its parameters. Several trees can be
rendered one after the other into one query; parameters are numbered through.
-/

namespace ContentQuery

/-- What has been rendered so far. -/
structure Rendering where
  setting : Setting
  pieces : List Piece := []

namespace Rendering

/-- Renders one more tree, and gives the tree as it was rendered. -/
def accept (r : Rendering) (node : Node) : Except QueryError (Rendering × Node) :=
  (node.script r.setting).outcome.map fun pieces =>
    ({ r with pieces := r.pieces ++ pieces }, node.settled r.setting)

def finish (r : Rendering) (d : Dialect) : Rendered :=
  .ofPieces d r.pieces

end Rendering

def Node.render (d : Dialect) (env : Setting) (node : Node) : Except QueryError Rendered :=
  (Rendering.accept ⟨env, []⟩ node).map fun (r, _) => r.finish d

end ContentQuery
