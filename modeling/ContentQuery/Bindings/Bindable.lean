import ContentQuery.Table
import ContentQuery.Value.Basic

/-!
# Data that can be bound

The value that each kind of data is bound as. An absent optional is null, and a present one leaves no
trace; a list of bytes is a list of integers.
-/

namespace ContentQuery

class Bindable (α : Type) where
  toValue : α → Value

namespace Bindable

instance : Bindable Value := ⟨id⟩
instance : Bindable Unit := ⟨fun _ => .null⟩
instance : Bindable Bool := ⟨.bool⟩
instance : Bindable Char := ⟨.char⟩
instance : Bindable String := ⟨.str⟩
instance : Bindable Integer := ⟨.int⟩
instance : Bindable Single := ⟨.single⟩
instance : Bindable Double := ⟨.double⟩
instance : Bindable Date := ⟨.date⟩
instance : Bindable DateTime := ⟨.dateTime⟩
instance : Bindable Decimal := ⟨.decimal⟩

variable {α : Type} [Bindable α]

instance : Bindable (Option α) where
  toValue
    | none => .null
    | some a => toValue a

instance : Bindable (List α) where
  toValue items := .list (items.map toValue)

instance : Bindable (Table α) where
  toValue table := .map (table.map fun (key, a) => (key, toValue a))

end Bindable

end ContentQuery
