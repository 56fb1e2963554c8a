import ContentQuery.Table
import ContentQuery.Value.Basic

/-!
# Equality of values

Values of different kinds are different. Binary and decimal numbers are compared as numbers, lists
element by element, maps key by key.
-/

namespace ContentQuery.Value

mutual

def same : Value → Value → Bool
  | null, null => true
  | bool a, bool b => a == b
  | char a, char b => a == b
  | str a, str b => a == b
  | int a, int b => a == b
  | single a, single b => a.sameNumber b
  | double a, double b => a.sameNumber b
  | bytes a, bytes b => a == b
  | date a, date b => a == b
  | dateTime a, dateTime b => a == b
  | dateTimeUtc a, dateTimeUtc b => a == b
  | decimal a, decimal b => a.sameNumber b
  | list a, list b => sameAll a b
  | map a, map b => a.length == b.length && sameEntries a b
  | _, _ => false

def sameAll : List Value → List Value → Bool
  | [], [] => true
  | v :: rest, w :: rest' => v.same w && sameAll rest rest'
  | _, _ => false

def sameEntries : List (String × Value) → Table Value → Bool
  | [], _ => true
  | (key, v) :: rest, table =>
    (match table.get? key with
      | some w => v.same w
      | none => false) && sameEntries rest table

end

end ContentQuery.Value
