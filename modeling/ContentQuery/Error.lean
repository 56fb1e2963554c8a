import ContentQuery.Node.Text
import ContentQuery.Value.Coercion

/-!
# Errors

Everything that can go wrong, by cause, and the message for each cause.
-/

namespace ContentQuery

/-- A text that must show something. -/
inductive NamePart where
  | identifierName | variableName | literalText | functionName
  deriving Repr, DecidableEq

def NamePart.label : NamePart → String
  | identifierName => "identifier name"
  | variableName => "variable name"
  | literalText => "literal text"
  | functionName => "function name"

/-- An argument that cannot be used. -/
inductive ArgumentFault where
  | blank (part : NamePart)
  | noOperand (op : Operator)
  | notBoolean (op : Operator)
  | noLeftOperand (op : Operator)
  | unknownOperator (text : String)
  | unknownType (text : String)
  | engineExists (name : String)
  | refused (what : String)

def ArgumentFault.message : ArgumentFault → String
  | blank part => part.label ++ " must not be blank"
  | noOperand op => "comparison '" ++ op.token ++ "' needs at least one operand"
  | notBoolean op => "'" ++ op.token ++ "' is not a boolean operator"
  | noLeftOperand op => "'" ++ op.token ++ "' requires a left operand"
  | unknownOperator text => "Unknown operator: " ++ text
  | unknownType text => "Unknown type tag: " ++ text
  | engineExists name => "Engine with name '" ++ name ++ "' already registered"
  | refused what => what

/-- Why a tree is no valid query. -/
inductive QueryFault where
  | unknownProperty (name : String)
  | unboundVariable (name : String)
  | unsupportedFunction (name : String)
  | unsupportedOperator (op : Operator)
  | typeMismatch (mismatch : Mismatch)
  | missingOperand
  | nullOperand (op : Operator)
  | tooDeep (limit : Nat)

def QueryFault.message : QueryFault → String
  | unknownProperty name => "unknown property '" ++ name ++ "'"
  | unboundVariable name => "unbound variable '" ++ name ++ "'"
  | unsupportedFunction name => "function '" ++ name ++ "' is not supported"
  | unsupportedOperator op => "operator '" ++ op.token ++ "' is not supported in a comparison"
  | typeMismatch m => "cannot convert " ++ m.value.text ++ " to " ++ m.expected.name
  | missingOperand => "comparison is missing an operand"
  | nullOperand op => "operator '" ++ op.token ++ "' cannot compare with NULL"
  | tooDeep limit => "expression depth exceeds maximum of " ++ toString limit

/-- A tree that cannot be rendered although resolution let it pass. -/
inductive ConsistencyFault where
  | untypedIdentifier (node : Node)
  | untypedValue (node : Node)
  | leftOperand (op : Connective)

def ConsistencyFault.message : ConsistencyFault → String
  | untypedIdentifier node =>
    "identifier `" ++ node.text ++ "` reached rendering without a resolved type"
  | untypedValue node => "value `" ++ node.text ++ "` reached rendering without a resolved type"
  | leftOperand op => "conjunction '" ++ op.operator.token ++ "' with left operand"

/-- Data that no value represents. -/
inductive SerialFault where
  | variantWithFields (type variant : String)
  | unsupported (kind : String)
  | keyNotText (key : Value)
  | valueWithoutKey
  | custom (text : String)

def SerialFault.message : SerialFault → String
  | variantWithFields type variant =>
    "Enum variant " ++ type ++ "::" ++ variant ++ " with fields cannot be bound"
  | unsupported kind => kind ++ " is not supported"
  | keyNotText key => "Map key must be string, got " ++ key.detailed
  | valueWithoutKey => "Missing key for value"
  | custom text => text

inductive QueryError where
  | invalidArgument (fault : ArgumentFault)
  /-- The fault of a query and the node that it was found at. -/
  | invalidQuery (fault : QueryFault) (node : Node)
  | inconsistent (fault : ConsistencyFault)
  | serialization (fault : SerialFault)

namespace QueryError

def message : QueryError → String
  | invalidArgument fault => "Invalid Argument: " ++ fault.message
  | invalidQuery fault node => "Invalid Query: " ++ fault.message ++ " in `" ++ node.text ++ "`"
  | inconsistent fault => "Internal Consistency Error: " ++ fault.message
  | serialization fault => "Serialization Error: " ++ fault.message

/-- Whether the error rejects a whole query, and not an attempt to build one. -/
def rejectsQuery : QueryError → Bool
  | invalidQuery .. | inconsistent _ => true
  | invalidArgument _ | serialization _ => false

end QueryError

end ContentQuery
