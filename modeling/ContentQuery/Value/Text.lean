import ContentQuery.Calendar.Written
import ContentQuery.Number.Written
import ContentQuery.Text.Escaped
import ContentQuery.Text.Quoted
import ContentQuery.Value.Basic

/-!
# Text of values

The plain form appears in queries and in messages about them. The detailed form names the kind of
every value; it appears in log records and in messages about values that cannot be bound.
-/

namespace ContentQuery.Value

def parenthesized (parts : List String) : String :=
  "(" ++ ", ".intercalate parts ++ ")"

mutual

def text : Value → String
  | null => "null"
  | bool b => if b then "true" else "false"
  | char c => "'" ++ c.toString ++ "'"
  | str s => Text.apostrophed s
  | int n => n.text
  | single x => x.text
  | double x => x.text
  | bytes b => "<" ++ toString b.length ++ " bytes>"
  | date d => "'" ++ d.text ++ "'"
  | dateTime dt => "'" ++ dt.text "T" .omitted ++ "'"
  | dateTimeUtc dt => "'" ++ dt.universalText ++ "'"
  | decimal d => d.text
  | list items => parenthesized (textAll items)
  | map entries => "<map of " ++ toString entries.length ++ ">"

def textAll : List Value → List String
  | [] => []
  | v :: rest => v.text :: textAll rest

end

mutual

def detailed : Value → String
  | null => "Null"
  | bool b => "Bool(" ++ (if b then "true" else "false") ++ ")"
  | char c => "Char(" ++ Text.escapedQuote c ++ ")"
  | str s => "Str(" ++ Text.escaped s ++ ")"
  | int n => n.kind.label ++ "(" ++ n.text ++ ")"
  | single x => "F32(" ++ x.detailed ++ ")"
  | double x => "F64(" ++ x.detailed ++ ")"
  | bytes b => "Bytes([" ++ ", ".intercalate (b.map fun n => toString n.toNat) ++ "])"
  | date d => "Date(" ++ d.text ++ ")"
  | dateTime dt => "DateTime(" ++ dt.localText ++ ")"
  | dateTimeUtc dt => "DateTimeUtc(" ++ dt.localText ++ "Z)"
  | decimal d => "Decimal(" ++ d.text ++ ")"
  | list items => "List([" ++ ", ".intercalate (detailedAll items) ++ "])"
  | map entries => "Map(\x7b" ++ ", ".intercalate (detailedEntries entries) ++ "\x7d)"

def detailedAll : List Value → List String
  | [] => []
  | v :: rest => v.detailed :: detailedAll rest

def detailedEntries : List (String × Value) → List String
  | [] => []
  | (key, v) :: rest => (Text.escaped key ++ ": " ++ v.detailed) :: detailedEntries rest

end

end ContentQuery.Value
