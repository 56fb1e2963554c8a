import ContentQuery.Bindings.CaseStyle
import ContentQuery.Table
import ContentQuery.Value.Basic

/-!
# Bindings

The values of a query's variables. A variable that is bound to null is bound.
-/

namespace ContentQuery

/-- The value of each bound variable, by name. -/
abbrev Bindings := String → Option Value

namespace Bindings

def empty : Bindings := fun _ => none

/-- Variables are bound under their exact names. -/
def ofTable (table : Table Value) : Bindings :=
  table.get?

end Bindings

namespace Value

/-- The value under a key of a map, or under the key's form with underscores. -/
def member? (v : Value) (key : String) : Option Value :=
  match v with
  | map entries =>
    let table : Table Value := entries
    (table.get? key).or ((CaseStyle.snake? key).bind table.get?)
  | _ => none

/-- The value at the end of a path of keys. -/
def follow? (v : Value) : List String → Option Value
  | [] => some v
  | key :: rest => (v.member? key).bind (follow? · rest)

/-- The value that a map, taken as bindings, has for a variable: under the whole name, or at the end of
the path whose keys are joined by dots. -/
def lookup? (v : Value) (name : String) : Option Value :=
  (v.member? name).or <|
    match Text.splitOnce '.' name.toList with
    | none => none
    | some (head, rest) =>
      v.follow? (String.ofList head :: (Text.splitOn '.' rest).map String.ofList)

end Value

def Bindings.ofValue (v : Value) : Bindings :=
  v.lookup?

end ContentQuery
