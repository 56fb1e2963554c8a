import ContentQuery.Operator
import ContentQuery.TypeTag
import ContentQuery.Value.Basic

/-!
# Query trees

A condition on the properties of content nodes. The type admits only trees that make sense as syntax:
a comparison has one operand or two, and a conjunction has both.
-/

namespace ContentQuery

/-- The operators that join conditions. `not` with two operands can be written but not rendered. -/
inductive Connective where
  | and | or | not
  deriving Repr, DecidableEq

def Connective.operator : Connective → Operator
  | and => .and
  | or => .or
  | not => .not

/-- Where the operand of a comparison stands that has only one. -/
inductive Side where
  | left | right
  deriving Repr, DecidableEq

inductive Node where
  /-- A property, by its decoded name. -/
  | identifier (name : String) (tag : Option TypeTag)
  | constant (value : Value) (tag : Option TypeTag)
  /-- A variable to be bound, as it is written: with or without the marker in front. -/
  | bindVariable (reference : String) (tag : Option TypeTag)
  /-- A fragment that is copied as it is. -/
  | literal (text : String)
  | function (name : String) (params : List Node)
  | comparison (op : Operator) (left right : Node)
  /-- A comparison with one operand missing. -/
  | lone (op : Operator) (side : Side) (operand : Node)
  | conjunction (op : Connective) (left right : Node)
  | negation (operand : Node)

def bindMarker : Char := ':'

def variableName (reference : String) : String :=
  match reference.toList with
  | c :: rest => if c = bindMarker then String.ofList rest else reference
  | [] => reference

namespace Node

instance : Inhabited Node := ⟨constant .null none⟩

/-- The operator of a node; operands have none. -/
def op? : Node → Option Operator
  | identifier .. | constant .. | bindVariable .. | literal _ => none
  | function .. => some .func
  | comparison op .. => some op
  | lone op .. => some op
  | conjunction op .. => some op.operator
  | negation _ => some .not

/-- Properties and functions of them. -/
def isReference : Node → Bool
  | identifier .. | function .. => true
  | _ => false

/-- The type that a property, constant or variable was given. -/
def tag? : Node → Option TypeTag
  | identifier _ tag | constant _ tag | bindVariable _ tag => tag
  | _ => none

/-- The comparison with its reference on the left: `5 < age` becomes `age > 5`. -/
def normalized : Node → Node
  | comparison op l r =>
    if !l.isReference && r.isReference then comparison op.reverse r l else comparison op l r
  | lone op .right x => if x.isReference then lone op.reverse .left x else lone op .right x
  | node => node

/-- Induction on a tree, with the hypothesis for every parameter of a function. -/
@[induction_eliminator]
theorem induct {motive : Node → Prop}
    (identifier : ∀ name tag, motive (identifier name tag))
    (constant : ∀ value tag, motive (constant value tag))
    (bindVariable : ∀ reference tag, motive (bindVariable reference tag))
    (literal : ∀ text, motive (literal text))
    (function : ∀ name params, (∀ p ∈ params, motive p) → motive (function name params))
    (comparison : ∀ op l r, motive l → motive r → motive (comparison op l r))
    (lone : ∀ op side x, motive x → motive (lone op side x))
    (conjunction : ∀ op l r, motive l → motive r → motive (conjunction op l r))
    (negation : ∀ x, motive x → motive (negation x)) (node : Node) : motive node :=
  @Node.rec motive (fun params => ∀ p ∈ params, motive p) identifier constant bindVariable literal
    function comparison lone conjunction negation (fun _ h => (List.not_mem_nil h).elim)
    (fun _ _ head tail _ h => (List.mem_cons.mp h).elim (fun e => e ▸ head) (tail _)) node

end Node

end ContentQuery
