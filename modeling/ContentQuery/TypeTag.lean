import ContentQuery.Text.Blank

/-!
# Property types

The types that a content property can have.
-/

namespace ContentQuery

inductive TypeTag where
  | string | long | double | decimal | boolean | date | dateTime | binary
  /-- The identifier of another content node, written like a string. -/
  | reference
  /-- An integer, whatever the type of the property. -/
  | forceInteger
  deriving Repr, DecidableEq

namespace TypeTag

def all : List TypeTag :=
  [string, long, double, decimal, boolean, date, dateTime, binary, reference, forceInteger]

def name : TypeTag → String
  | string => "string"
  | long => "long"
  | double => "double"
  | decimal => "decimal"
  | boolean => "boolean"
  | date => "date"
  | dateTime => "datetime"
  | binary => "binary"
  | reference => "reference"
  | forceInteger => "force_integer"

/-- The type that a text names, in any case and between blanks. Some types have a second name. -/
def ofText? (s : String) : Option TypeTag :=
  let lower := String.ofList ((Text.trim s).toList.map Char.toLower)
  if lower = "integer" ∨ lower = "int" then some long
  else if lower = "timestamp" then some dateTime
  else all.find? (·.name = lower)

end TypeTag

end ContentQuery
