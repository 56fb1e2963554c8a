import ContentQuery.Text.Blank
import ContentQuery.Text.Split

/-!
# Operators

The catalog of operators: how each is written, and which operator keeps the meaning of a comparison
when its operands trade places.
-/

namespace ContentQuery

inductive Operator where
  | gt | ge | eq | ne | le | lt | like | and | or | not | func | isIn
  deriving Repr, DecidableEq

/-- The function that makes texts comparable without regard to case. -/
def caseFolding : String := "UPPER"

namespace Operator

/-- The catalog in order. -/
def all : List Operator :=
  [gt, ge, eq, ne, le, lt, like, and, or, not, func, isIn]

def token : Operator → String
  | gt => ">"
  | ge => ">="
  | eq => "="
  | ne => "<>"
  | le => "<="
  | lt => "<"
  | like => "LIKE"
  | and => "AND"
  | or => "OR"
  | not => "NOT"
  | func => "FUNC"
  | isIn => "IN"

def name : Operator → String
  | gt => "GT"
  | ge => "GE"
  | eq => "EQ"
  | ne => "NE"
  | le => "LE"
  | lt => "LT"
  | like => "LIKE"
  | and => "AND"
  | or => "OR"
  | not => "NOT"
  | func => "FUNC"
  | isIn => "IN"

/-- The operator after its operands trade places. -/
def reverse : Operator → Operator
  | gt => lt
  | ge => le
  | le => ge
  | lt => gt
  | op => op

/-- The function applied to both operands before they are compared. -/
def operandFunction? : Operator → Option String
  | like => some caseFolding
  | _ => none

def isOrdering (op : Operator) : Bool :=
  op ∈ [gt, ge, le, lt]

def isBoolean (op : Operator) : Bool :=
  op ∈ [and, or, not]

/-- The operator that a text names by token or by name, in any case and between blanks. -/
def ofText? (s : String) : Option Operator :=
  let s := Text.trim s
  (all.find? fun op => Text.sameIgnoringCase op.token s || Text.sameIgnoringCase op.name s).or
    (if s = "!=" then some ne else if s = "==" then some eq else none)

end Operator

end ContentQuery
