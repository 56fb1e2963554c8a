import ContentQuery.Bindings.Basic
import ContentQuery.Rendering.Piece
import ContentQuery.Resolution
import ContentQuery.Value.CaseFolding

/-!
# Scripts

The script of a resolved tree is the sequence of its pieces, up to the first fault. No dialect has a
part in it.
-/

namespace ContentQuery

structure RenderOptions where
  /-- Values of variables are written into the query, and there are no parameters. -/
  inlineVariables : Bool := false
  /-- How deep comparisons and conjunctions may nest. -/
  maxDepth : Nat := defaultMaxDepth

/-- What rendering looks up while it goes through a tree. -/
structure Setting where
  bindings : Bindings
  options : RenderOptions

/-- What rendering remembers from the operators that it has come through. -/
structure Context where
  /-- The operand is the list of an `IN`. -/
  inList : Bool := false
  /-- The operand is compared without regard to case. -/
  foldCase : Bool := false
  deriving Repr, DecidableEq

/-- Pieces up to the first fault. -/
abbrev Script := Trail QueryError Piece

namespace Script

def text (s : String) : Except QueryError Piece :=
  .ok (.word s)

def invalid (fault : QueryFault) (node : Node) : Script :=
  [.error (.invalidQuery fault node)]

/-! ### Values -/

def separated : List Piece → List Piece
  | [] => []
  | [p] => [p]
  | p :: rest => p :: .word ", " :: separated rest

/-- The pieces of a value that `item` makes a piece of. In the place of a list, a list becomes its
elements in parentheses, the empty list becomes a list that holds only NULL, and any other value
becomes a list of one. -/
def placed (inList : Bool) (item : Value → Piece) (v : Value) : List Piece :=
  if inList then
    match v with
    | .list [] => [.word "(NULL)"]
    | .list items => .word "(" :: (separated (items.map item) ++ [.word ")"])
    | v => [.word "(", item v, .word ")"]
  else [item v]

/-- The pieces of a value under the type that its node was given. -/
def ofValue (ctx : Context) (tag : TypeTag) (node : Node) (item : Value → Piece) (v : Value) :
    Script :=
  match Value.coerce tag v with
  | .error mismatch => invalid (.typeMismatch mismatch) node
  | .ok w => (placed ctx.inList item (if ctx.foldCase then w.foldCase else w)).map .ok

def ofVariable (env : Setting) (ctx : Context) (tag : TypeTag) (reference : String) (node : Node) :
    Script :=
  let name := variableName reference
  match env.bindings name with
  | none => invalid (.unboundVariable name) node
  | some v => ofValue ctx tag node (if env.options.inlineVariables then .constant else .param name) v

/-! ### Operators -/

/-- Whether an operand stands for NULL: a null constant, or a variable bound to null. -/
def isNull (env : Setting) : Node → Bool
  | .constant value _ => value.isNull
  | .bindVariable reference _ =>
    match env.bindings (variableName reference) with
    | some value => value.isNull
    | none => false
  | _ => false

/-- The test for NULL that an operator becomes. -/
def nullTest? : Operator → Option String
  | .eq => some " IS NULL"
  | .ne => some " IS NOT NULL"
  | _ => none

/-- Operators that cannot stand between the operands of a comparison. -/
def isNoComparison (op : Operator) : Bool :=
  op.isBoolean || op == .func

/-- A script that depends on what came before it, and the context that it leaves. -/
abbrev Continued := Context → Script × Context

/-- An operand inside the function that its operator applies to it. -/
def operand (op : Operator) (inner : Continued) : Continued := fun ctx =>
  match op.operandFunction? with
  | none => inner ctx
  | some name =>
    let (s, ctx) := inner { ctx with foldCase := name == caseFolding }
    (text (name ++ "(") :: s ++ [text ")"], { ctx with foldCase := false })

def joined (op : Operator) (left right : Continued) : Continued := fun ctx =>
  let (s, ctx) := operand op left ctx
  let (t, ctx) := operand op right { ctx with inList := op == .isIn }
  (s ++ text (" " ++ op.token ++ " ") :: t, { ctx with inList := false })

/-- An operand tested for NULL, or the fault of an operator that has no such test. -/
def tested (op : Operator) (inner : Continued) (fault : Script) : Continued := fun ctx =>
  match nullTest? op with
  | none => (fault, ctx)
  | some keyword =>
    let (s, ctx) := inner ctx
    (s ++ [text keyword], ctx)

/-- A condition below `level` others, unless it nests too deep. -/
@[macro_inline] def nested (env : Setting) (level : Nat) (node : Node) (ctx : Context)
    (below : Script × Context) : Script × Context :=
  if env.options.maxDepth ≤ level then (invalid (.tooDeep env.options.maxDepth) node, ctx) else below

def ofNode (env : Setting) (level : Nat) (node : Node) : Continued := fun ctx =>
  match node with
  | .identifier name none => ([.error (.inconsistent (.untypedIdentifier (.identifier name none)))], ctx)
  | .identifier name (some _) => ([.ok (.column name)], ctx)
  | .constant value none => ([.error (.inconsistent (.untypedValue (.constant value none)))], ctx)
  | .constant value (some tag) => (ofValue ctx tag (.constant value (some tag)) .constant value, ctx)
  | .bindVariable reference none =>
    ([.error (.inconsistent (.untypedValue (.bindVariable reference none)))], ctx)
  | .bindVariable reference (some tag) =>
    (ofVariable env ctx tag reference (.bindVariable reference (some tag)), ctx)
  | .literal text => ([.ok (.verbatim text)], ctx)
  | .function name params => (invalid (.unsupportedFunction name) (.function name params), ctx)
  | .comparison op l r =>
    nested env level (.comparison op l r) ctx <|
      if isNoComparison op then (invalid (.unsupportedOperator op) (.comparison op l r), ctx)
      else
        let left := ofNode env (level + 1) l
        let right := ofNode env (level + 1) r
        if !l.isReference && r.isReference then
          let op' := op.reverse
          if isNull env l then
            tested op' right (invalid (.nullOperand op') (.comparison op' r l)) ctx
          else joined op' right left ctx
        else if isNull env r then
          tested op left (invalid (.nullOperand op) (.comparison op l r)) ctx
        else joined op left right ctx
  | .lone op side x =>
    nested env level (.lone op side x) ctx <|
      if isNoComparison op then (invalid (.unsupportedOperator op) (.lone op side x), ctx)
      else
        let turned := side == .right && x.isReference
        let op' := if turned then op.reverse else op
        let side' := if turned then .left else side
        tested op' (ofNode env (level + 1) x) (invalid .missingOperand (.lone op' side' x)) ctx
  | .conjunction op l r =>
    nested env level (.conjunction op l r) ctx <|
      match op with
      | .not => ([.error (.inconsistent (.leftOperand op))], ctx)
      | .and | .or =>
        let (s, ctx) := ofNode env (level + 1) l ctx
        let (t, ctx) := ofNode env (level + 1) r ctx
        (text "(" :: s ++ text (") " ++ op.operator.token ++ " (") :: t ++ [text ")"], ctx)
  | .negation x =>
    nested env level (.negation x) ctx <|
      let (s, ctx) := ofNode env (level + 1) x ctx
      (text "NOT (" :: s ++ [text ")"], ctx)

end Script

namespace Node

def script (env : Setting) (node : Node) : Script :=
  (Script.ofNode env 0 node {}).1

/-- The tree as it was rendered: references on the left, and comparisons with NULL without their
second operand. -/
def settled (env : Setting) : Node → Node
  | comparison op l r =>
    let left := settled env l
    let right := settled env r
    if !l.isReference && r.isReference then
      if Script.isNull env l then lone op.reverse .left right
      else comparison op.reverse right left
    else if Script.isNull env r then lone op .left left
    else comparison op left right
  | lone op side x =>
    lone (if side == .right && x.isReference then op.reverse else op) .left (settled env x)
  | conjunction op l r => conjunction op (settled env l) (settled env r)
  | negation x => negation (settled env x)
  | node => node

end Node

end ContentQuery
