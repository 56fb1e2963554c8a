import ContentQuery.Node.Basic

/-!
# Visitors

A visitor says what replaces each kind of node. The walk goes through a tree from left to right and
rebuilds it from the replacements; what a visitor does not override stays as it is.
-/

namespace ContentQuery

/-- Replacements in a monad. Nodes with parts are given with the walk through their parts, which yields
the same node around the replaced parts. -/
structure Visitor (m : Type → Type) [Monad m] where
  identifier : Node → m Node := pure
  /-- Constants and variables. -/
  value : Node → m Node := pure
  literal : Node → m Node := pure
  function : Node → m Node → m Node := fun _ walk => walk
  comparison : Node → m Node → m Node := fun _ walk => walk
  conjunction : Node → m Node → m Node := fun _ walk => walk

namespace Node

variable {m : Type → Type} [Monad m]

mutual

/-- What a visitor makes of a tree. -/
def accept (v : Visitor m) : Node → m Node
  | identifier name tag => v.identifier (identifier name tag)
  | constant value tag => v.value (constant value tag)
  | bindVariable reference tag => v.value (bindVariable reference tag)
  | literal text => v.literal (literal text)
  | function name params =>
    v.function (function name params) do
      let params ← acceptAll v params
      return function name params
  | comparison op l r =>
    v.comparison (comparison op l r) do
      let l ← accept v l
      let r ← accept v r
      return comparison op l r
  | lone op side x =>
    v.comparison (lone op side x) do
      let x ← accept v x
      return lone op side x
  | conjunction op l r =>
    v.conjunction (conjunction op l r) do
      let l ← accept v l
      let r ← accept v r
      return conjunction op l r
  | negation x =>
    v.conjunction (negation x) do
      let x ← accept v x
      return negation x

def acceptAll (v : Visitor m) : List Node → m (List Node)
  | [] => return []
  | node :: rest => do
    let node ← accept v node
    let rest ← acceptAll v rest
    return node :: rest

end

end Node

end ContentQuery
