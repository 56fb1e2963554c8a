import ContentQuery.Calendar.Basic
import ContentQuery.Decimal.Basic
import ContentQuery.Number.Binary

/-!
# Values

The payload of a constant or of a bound variable.
-/

namespace ContentQuery

inductive Value where
  | null
  | bool (b : Bool)
  | char (c : Char)
  | str (s : String)
  | int (n : Integer)
  | single (x : Single)
  | double (x : Double)
  | bytes (b : List UInt8)
  | date (d : Date)
  /-- A date and time without a zone. -/
  | dateTime (dt : DateTime)
  /-- A date and time in universal time. -/
  | dateTimeUtc (dt : DateTime)
  | decimal (d : Decimal)
  | list (items : List Value)
  /-- Entries by key. Of several under one key the first counts. -/
  | map (entries : List (String × Value))

namespace Value

instance : Inhabited Value := ⟨null⟩

def isNull : Value → Bool
  | null => true
  | _ => false

/-- The integer as a signed 64-bit word, for an integer that fits. -/
def toSigned64? : Value → Option Integer
  | int n => n.toSigned64?
  | _ => none

/-- The number as a 64-bit binary number: a narrower one exactly, an integer that fits a signed 64-bit
word to the nearest. -/
def toDouble? : Value → Option Double
  | single x => some x.widened
  | double x => some x
  | v => v.toSigned64?.map fun n => Binary.ofInt .double n.val

/-- Induction on a value, with the hypothesis for every element of a list and every entry of a map. -/
@[induction_eliminator]
theorem induct {motive : Value → Prop}
    (null : motive null) (bool : ∀ b, motive (bool b)) (char : ∀ c, motive (char c))
    (str : ∀ s, motive (str s)) (int : ∀ n, motive (int n)) (single : ∀ x, motive (single x))
    (double : ∀ x, motive (double x)) (bytes : ∀ b, motive (bytes b)) (date : ∀ d, motive (date d))
    (dateTime : ∀ dt, motive (dateTime dt)) (dateTimeUtc : ∀ dt, motive (dateTimeUtc dt))
    (decimal : ∀ d, motive (decimal d))
    (list : ∀ items, (∀ v ∈ items, motive v) → motive (list items))
    (map : ∀ entries, (∀ e ∈ entries, motive e.2) → motive (map entries)) (v : Value) : motive v :=
  @Value.rec motive (fun items => ∀ v ∈ items, motive v) (fun entries => ∀ e ∈ entries, motive e.2)
    (fun e => motive e.2) null bool char str int single double bytes date dateTime dateTimeUtc decimal
    list map (fun _ h => (List.not_mem_nil h).elim)
    (fun _ _ head tail _ h => (List.mem_cons.mp h).elim (fun e => e ▸ head) (tail _))
    (fun _ h => (List.not_mem_nil h).elim)
    (fun _ _ head tail _ h => (List.mem_cons.mp h).elim (fun e => e ▸ head) (tail _))
    (fun _ _ h => h) v

end Value

end ContentQuery
