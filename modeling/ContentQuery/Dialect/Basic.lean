import ContentQuery.Calendar.Written
import ContentQuery.Dialect.Reserved
import ContentQuery.Name
import ContentQuery.Text.Hex
import ContentQuery.Text.Quoted
import ContentQuery.Value.Text

/-!
# Dialects

How the parts of a rendered query are spelled for one back end. A dialect that leaves a part out
spells it as the standard does.
-/

namespace ContentQuery

/-- Whether a name, or the rest of one, can stand as a bare column name. -/
def isBareFrom (first : Bool) : List Char → Bool
  | [] => true
  | c :: rest => c != ':' && c != '-' && c != '.' && Name.isPlain c first && isBareFrom false rest

def isBareName (name : String) : Bool :=
  !isReserved name && isBareFrom true name.toList

/-- Two capital hexadecimal digits for each byte. -/
def hexText (b : List UInt8) : String :=
  String.ofList (b.flatMap fun n => Text.hexDigits 2 n.toNat)

structure Dialect where
  name : String
  /-- The placeholder of a parameter, by its number from one and its name. -/
  placeholder : Nat → String → String
  quoteIdentifier : String → String := Text.quoted '"' (· == '"')
  identifier : String → String := fun name =>
    if isBareName name then name else quoteIdentifier name
  quoteString : String → String := Text.apostrophed
  boolLiteral : Bool → String := fun b => if b then "TRUE" else "FALSE"
  dateLiteral : Date → String := fun d => "DATE '" ++ d.text ++ "'"
  dateTimeLiteral : DateTime → String := fun dt => "TIMESTAMP '" ++ dt.text " " .exact ++ "'"
  bytesLiteral : List UInt8 → String := fun b => "X'" ++ hexText b ++ "'"

namespace Dialect

mutual

def literal (d : Dialect) : Value → String
  | .null => "NULL"
  | .bool b => d.boolLiteral b
  | .char c => d.quoteString c.toString
  | .str s => d.quoteString s
  | .int n => n.text
  | .single x => x.text
  | .double x => x.text
  | .bytes b => d.bytesLiteral b
  | .date day => d.dateLiteral day
  | .dateTime dt => d.dateTimeLiteral dt
  | .dateTimeUtc dt => d.dateTimeLiteral dt
  | .decimal x => x.text
  | .list items => Value.parenthesized (literals d items)
  | .map entries => d.quoteString (Value.map entries).text

def literals (d : Dialect) : List Value → List String
  | [] => []
  | v :: rest => d.literal v :: literals d rest

end

theorem literals_eq_map (d : Dialect) (items : List Value) : d.literals items = items.map d.literal := by
  induction items with
  | nil => rfl
  | cons v rest ih => rw [literals, ih, List.map_cons]

end Dialect

end ContentQuery
