import ContentQuery.Error
import ContentQuery.Text.Blank

/-!
# Building query trees

The parts of a tree from what a query holds: encoded names, references, operators by name. Names and
fragments must not be blank, and an operator must have the operands it needs.
-/

namespace ContentQuery

def Operator.ofText (s : String) : Except QueryError Operator :=
  match ofText? s with
  | some op => .ok op
  | none => .error (.invalidArgument (.unknownOperator (Text.trim s)))

def TypeTag.ofText (s : String) : Except QueryError TypeTag :=
  match ofText? s with
  | some tag => .ok tag
  | none => .error (.invalidArgument (.unknownType s))

namespace Node

/-- The node, unless the text that it is made of is blank. -/
def unlessBlank (part : NamePart) (text : String) (node : Node) : Except QueryError Node :=
  if Text.isBlank text then .error (.invalidArgument (.blank part)) else .ok node

def ofName (encoded : String) : Except QueryError Node :=
  let name := Name.decode encoded
  unlessBlank .identifierName name (identifier name none)

def ofValue (value : Value) : Node :=
  constant value none

/-- A constant that is an integer whatever it is compared with. -/
def ofInteger (value : Value) : Node :=
  constant value (some .forceInteger)

def ofReference (reference : String) : Except QueryError Node :=
  unlessBlank .variableName (variableName reference) (bindVariable reference none)

def ofLiteral (text : String) : Except QueryError Node :=
  unlessBlank .literalText text (literal text)

def call (name : String) (params : List Node) : Except QueryError Node :=
  unlessBlank .functionName name (function name params)

/-- A comparison of which one operand may be missing. -/
def compare? (op : Operator) : Option Node → Option Node → Except QueryError Node
  | some l, some r => .ok (comparison op l r)
  | some l, none => .ok (lone op .left l)
  | none, some r => .ok (lone op .right r)
  | none, none => .error (.invalidArgument (.noOperand op))

/-- A conjunction; only `NOT` may do without a left operand. -/
def conjoin (op : Operator) (left : Option Node) (right : Node) : Except QueryError Node :=
  match op, left with
  | .and, some l => .ok (conjunction .and l right)
  | .or, some l => .ok (conjunction .or l right)
  | .not, some l => .ok (conjunction .not l right)
  | .not, none => .ok (negation right)
  | .and, none | .or, none => .error (.invalidArgument (.noLeftOperand op))
  | _, _ => .error (.invalidArgument (.notBoolean op))

end Node

end ContentQuery
