import ContentQuery.Text.CaseMap
import ContentQuery.Value.Basic

/-!
# Case folding of values

Texts in upper case, so that texts that differ only in case become equal.
-/

namespace ContentQuery.Value

mutual

/-- The value with its texts in upper case, at any depth of lists. -/
def foldCase : Value → Value
  | str s => str (Text.upper s)
  | char c => str (String.ofList (Text.upperChar c))
  | list items => list (foldCaseAll items)
  | v => v

def foldCaseAll : List Value → List Value
  | [] => []
  | v :: rest => v.foldCase :: foldCaseAll rest

end

end ContentQuery.Value
