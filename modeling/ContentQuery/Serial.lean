import ContentQuery.Error
import ContentQuery.Table

/-!
# Serialized data

The shapes that data can be handed over in, and the value that each is bound as. Wrappers leave no
trace, and a variant that carries fields has no value.
-/

namespace ContentQuery

mutual

inductive Serial where
  /-- Nothing: unit, or an absent optional. -/
  | unit
  | scalar (v : Value)
  /-- A scalar of a kind that values do not have. -/
  | unsupported (kind : String)
  /-- Data that cannot be read, with a message of its own. -/
  | failing (text : String)
  /-- Data inside an optional, a wrapper or a variant that carries one value. -/
  | wrapped (inner : Serial)
  | unitVariant (variant : String)
  | sequence (items : List Serial)
  | tupleVariant (type variant : String) (items : List Serial)
  /-- A map, by the keys and values that are given for it in turn. -/
  | map (steps : List MapStep)
  | record (fields : List (String × Serial))
  | recordVariant (type variant : String) (fields : List (String × Serial))

inductive MapStep where
  | key (k : Serial)
  | value (v : Serial)

end

namespace Serial

def ofEntries (entries : List (Serial × Serial)) : Serial :=
  map (entries.flatMap fun (k, v) => [.key k, .value v])

/-- Scalars keep their kind, but dates, times and decimals are handed over as texts. -/
def scalarValue : Value → Value
  | .date d => .str d.text
  | .dateTime dt => .str dt.localText
  | .dateTimeUtc dt => .str (dt.localText ++ "Z")
  | .decimal d => .str d.text
  | v => v

def keyText : Value → Except QueryError String
  | .str s => .ok s
  | .char c => .ok c.toString
  | v => .error (.serialization (.keyNotText v))

mutual

/-- The value that the data is bound as. The first fault in the order of the data counts. -/
def toValue : Serial → Except QueryError Value
  | unit => .ok .null
  | scalar v => .ok (scalarValue v)
  | unsupported kind => .error (.serialization (.unsupported kind))
  | failing text => .error (.serialization (.custom text))
  | wrapped inner => inner.toValue
  | unitVariant variant => .ok (.str variant)
  | sequence items => (toValues items).map .list
  | tupleVariant type variant _ | recordVariant type variant _ =>
    .error (.serialization (.variantWithFields type variant))
  | map steps => (addSteps steps .empty none).map fun entered => .map entered.entries
  | record fields => (addFields fields .empty).map fun entered => .map entered.entries

def toValues : List Serial → Except QueryError (List Value)
  | [] => .ok []
  | item :: rest => do
    let v ← item.toValue
    let vs ← toValues rest
    return v :: vs

/-- What is entered after the steps; a value goes under the last key given for it. -/
def addSteps : List MapStep → Dictionary Value → Option String → Except QueryError (Dictionary Value)
  | [], entered, _ => .ok entered
  | .key k :: rest, entered, _ => do
    let v ← k.toValue
    let key ← keyText v
    addSteps rest entered (some key)
  | .value data :: rest, entered, key? => do
    let v ← data.toValue
    match key? with
    | none => .error (.serialization .valueWithoutKey)
    | some key => addSteps rest (entered.insert key v) none

def addFields : List (String × Serial) → Dictionary Value → Except QueryError (Dictionary Value)
  | [], entered => .ok entered
  | (name, data) :: rest, entered => do
    let v ← data.toValue
    addFields rest (entered.insert name v)

end

end Serial

end ContentQuery
