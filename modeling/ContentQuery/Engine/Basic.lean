import ContentQuery.Rendering.Basic
import ContentQuery.Text.Escaped

/-!
# Engines

An engine translates query trees for one dialect: it resolves the types of properties and renders the
resolved tree.
-/

namespace ContentQuery

structure Engine where
  dialect : Dialect
  options : RenderOptions := {}

namespace Engine

def translate (e : Engine) (schema : Schema) (bindings : Bindings) (node : Node) :
    Except QueryError Rendered := do
  let resolved ← node.resolve schema e.options.maxDepth
  resolved.render e.dialect ⟨bindings, e.options⟩

def detailed (e : Engine) : String :=
  "QueryEngine \x7b dialect: " ++ Text.escaped e.dialect.name ++
    ", options: RenderOptions \x7b inline_variables: " ++
    (if e.options.inlineVariables then "true" else "false") ++
    ", max_depth: " ++ toString e.options.maxDepth ++ " \x7d \x7d"

end Engine

end ContentQuery
