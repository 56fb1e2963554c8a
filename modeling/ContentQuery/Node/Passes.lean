import ContentQuery.Node.Build
import ContentQuery.Node.Visitor

/-!
# Passes

Visitors for common jobs: taking a census of operands, replacing or refusing parts of a tree.
-/

namespace ContentQuery.Visitor

abbrev Pass := Except QueryError

/-- A pass that may fail and takes notes. -/
abbrev NotingPass := StateT (List String) Pass

def identity : Visitor Pass where

def note (label : String) (node : Node) : NotingPass Node := do
  modify (· ++ [label ++ " " ++ node.text])
  return node

/-- Notes every operand, in the order of the walk. -/
def census : Visitor NotingPass where
  identifier := note "id"
  value node := note (match node with | .bindVariable .. => "var" | _ => "val") node
  literal := note "lit"

def zero : Node :=
  .ofValue (.int ⟨.i32, 0, by decide, by decide⟩)

/-- Replaces every verbatim fragment by zero. -/
def scrub : Visitor Pass where
  literal _ := return zero

def rejectFunctions : Visitor Pass where
  function node walk :=
    match node with
    | .function name _ => .error (.invalidArgument (.refused name))
    | _ => walk

/-- Puts a negation around every comparison. -/
def negate : Visitor Pass where
  comparison _ walk := do
    let node ← walk
    return .negation node

/-- Replaces every variable by its comparison with the property of the same name. -/
def expand : Visitor Pass where
  value node :=
    match node with
    | .bindVariable reference _ => do
      let property ← Node.ofName (variableName reference)
      return .comparison .eq property node
    | _ => return node

end ContentQuery.Visitor
