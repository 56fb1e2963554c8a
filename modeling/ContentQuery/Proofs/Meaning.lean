import ContentQuery.Proofs.Nulls
import Mathlib.Data.Bool.Basic
import Mathlib.Order.Lattice

/-!
# The meaning of comparisons

A comparison that is put in order trades its operands and reverses its operator. Under a total order that
keeps the truth of equalities and inequalities. `LIKE` and `IN` are their own reverse although their operands
have different parts, so they mean something else once the operands have traded places.
-/

namespace ContentQuery

/-- Whether a text matches a pattern: `%` stands for any text, `_` for any one character, and every other
character for itself. -/
def matchesPattern : (pattern text : List Char) → Bool
  | [], text => text.isEmpty
  | '%' :: pattern, text => text.tails.any (matchesPattern pattern)
  | '_' :: pattern, _ :: text => matchesPattern pattern text
  | c :: pattern, d :: text => c == d && matchesPattern pattern text
  | _ :: _, [] => false

/-- How values are taken where a text or a list belongs. -/
structure Reading (α : Type) where
  text : α → List Char
  items : α → List α

variable {α : Type} [LinearOrder α] {reading : Reading α} {op : Operator} {l r : Node}

/-- The truth of a comparison of two values; the operators that stand between no values have none. -/
def Operator.truth? (reading : Reading α) (op : Operator) (a b : α) : Option Bool :=
  match op with
  | gt => some (a > b)
  | ge => some (a ≥ b)
  | eq => some (a = b)
  | ne => some (a ≠ b)
  | le => some (a ≤ b)
  | lt => some (a < b)
  | like => some (matchesPattern (reading.text b) (reading.text a))
  | isIn => some (a ∈ reading.items b)
  | and | or | not | func => none

/-- The truth of a comparison whose operands have the given values. -/
def Node.truth? (reading : Reading α) (values : Node → α) : Node → Option Bool
  | comparison op l r => op.truth? reading (values l) (values r)
  | _ => none

theorem Operator.truth?_reverse (symmetric : op ≠ .like ∧ op ≠ .isIn) (a b : α) :
    op.reverse.truth? reading b a = op.truth? reading a b := by
  cases op with
  | like => exact absurd rfl symmetric.1
  | isIn => exact absurd rfl symmetric.2
  | eq => exact congrArg some (decide_eq_decide.mpr eq_comm)
  | ne => exact congrArg some (decide_eq_decide.mpr ne_comm)
  | _ => rfl

/-- References are the pattern `%` and a list, and other operands the text `a%` and an item of the list. -/
def Reading.parted : Reading Bool where
  text isReference := if isReference then ['%'] else ['a', '%']
  items isReference := if isReference then [false] else []

namespace Node

theorem normalized_changes_truth (trade : l.turned r = true) (parted : op = .like ∨ op = .isIn) :
    (comparison op l r).normalized.truth? .parted isReference ≠
      (comparison op l r).truth? .parted isReference := by
  have sides : l.isReference = false ∧ r.isReference = true := by simpa [turned] using trade
  rw [normalized_comparison, if_pos trade, truth?, truth?, sides.1, sides.2]
  rcases parted with rfl | rfl
  · decide
  · decide

/-- A comparison keeps its truth under all values exactly if it is in order already, or its operator treats
both operands alike. -/
theorem normalized_keeps_truth_iff (op : Operator) (l r : Node) :
    (∀ (α : Type) [LinearOrder α] (reading : Reading α) (values : Node → α),
      (comparison op l r).normalized.truth? reading values =
        (comparison op l r).truth? reading values) ↔
      l.turned r = false ∨ (op ≠ .like ∧ op ≠ .isIn) := by
  constructor
  · intro kept
    cases trade : l.turned r with
    | false => exact .inl rfl
    | true =>
      refine .inr (not_or.mp fun parted => ?_)
      exact normalized_changes_truth trade parted (kept Bool .parted isReference)
  · intro h α _ reading values
    rw [normalized_comparison]
    cases trade : l.turned r with
    | false => rw [if_neg Bool.false_ne_true]
    | true =>
      have symmetric := h.resolve_left (by simp [trade])
      rw [if_pos rfl]
      exact Operator.truth?_reverse symmetric (values l) (values r)

/-- A pattern in front of a property, and an item in front of a list. -/
theorem normalized_like_in :
    let pattern : Node := .comparison .like (.constant (.str "a%") none) (.identifier "name" none)
    let item : Node := .comparison .isIn (.bindVariable ":score" none) (.identifier "scores" none)
    pattern.truth? .parted isReference = some true ∧
      pattern.normalized.truth? .parted isReference = some false ∧
        item.truth? .parted isReference = some true ∧
          item.normalized.truth? .parted isReference = some false := by
  decide

end Node

end ContentQuery
