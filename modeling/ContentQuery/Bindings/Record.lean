import ContentQuery.Bindings.CaseStyle
import ContentQuery.Table
import ContentQuery.Value.Basic

/-!
# Records as bindings

The map that a record is bound as. Each field stands under its key, and under the key's form with
capitals where no field has that key.
-/

namespace ContentQuery

structure AttributeItem where
  word : String
  value : Option String := none

/-- An attribute of a field: a new key, or a list of items. -/
inductive FieldAttribute where
  | key (name : String)
  | items (items : List AttributeItem)

/-- An attribute that cannot be read. -/
inductive AttributeFault where
  | unknownItem
  | missingValue
  | strayValue
  deriving Repr, DecidableEq

def AttributeFault.message : AttributeFault → String
  | unknownItem => "expected `ignore` or `rename = \"...\"`"
  | missingValue => "expected `=`"
  | strayValue => "expected `,`"

structure FieldPlan where
  key : String
  ignored : Bool := false
  deriving Repr, DecidableEq

namespace FieldPlan

/-- The text without any mark of a raw identifier in front. -/
def stripRaw : List Char → List Char
  | 'r' :: '#' :: rest => stripRaw rest
  | s => s

/-- A field without attributes has its own name as key. -/
def ofIdentifier (identifier : String) : FieldPlan :=
  ⟨String.ofList (stripRaw identifier.toList), false⟩

/-- The plan after an item; later items override earlier ones. -/
def addItem (plan : FieldPlan) (item : AttributeItem) : Except AttributeFault FieldPlan :=
  if item.word = "ignore" then
    match item.value with
    | none => .ok { plan with ignored := true }
    | some _ => .error .strayValue
  else if item.word = "rename" then
    match item.value with
    | some name => .ok { plan with key := name }
    | none => .error .missingValue
  else .error .unknownItem

def addAttribute (plan : FieldPlan) : FieldAttribute → Except AttributeFault FieldPlan
  | .key name => .ok { plan with key := name }
  | .items items => items.foldlM addItem plan

def make (identifier : String) (attributes : List FieldAttribute) :
    Except AttributeFault FieldPlan :=
  attributes.foldlM addAttribute (ofIdentifier identifier)

end FieldPlan

structure Field where
  key : String
  value : Value

namespace Record

/-- The dictionary after a field: its key, and its alias if that key is free. -/
def add (dictionary : Dictionary Value) (field : Field) : Dictionary Value :=
  let camel := CaseStyle.camel field.key
  let dictionary := if camel = field.key then dictionary else dictionary.insertNew camel field.value
  dictionary.insert field.key field.value

def dictionary (fields : List Field) : Dictionary Value :=
  fields.foldl add .empty

theorem dictionary_append_singleton (fs : List Field) (f : Field) :
    dictionary (fs ++ [f]) = add (dictionary fs) f := by
  rw [dictionary, dictionary, List.foldl_append]
  rfl

def value (fields : List Field) : Value :=
  .map (dictionary fields).entries

structure Declared where
  identifier : String
  attributes : List FieldAttribute := []
  value : Value

/-- The fields that are not ignored, under their keys. -/
def fields : List Declared → Except AttributeFault (List Field)
  | [] => .ok []
  | d :: rest => do
    let plan ← FieldPlan.make d.identifier d.attributes
    let rest ← fields rest
    return if plan.ignored then rest else ⟨plan.key, d.value⟩ :: rest

def bind (declared : List Declared) : Except AttributeFault Value :=
  (fields declared).map value

end Record

end ContentQuery
