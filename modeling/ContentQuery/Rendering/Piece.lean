import ContentQuery.Dialect.Basic

/-!
# Pieces of a rendered query

A rendered query before it is spelled: what stands where, but not yet how a dialect writes it. Only
words and verbatim fragments are text already.
-/

namespace ContentQuery

inductive Piece where
  /-- Fixed text: a keyword, an operator, punctuation. -/
  | word (text : String)
  | column (name : String)
  | constant (value : Value)
  /-- A parameter, by the name of its variable and its value. -/
  | param (name : String) (value : Value)
  /-- A fragment copied from the query. -/
  | verbatim (text : String)

/-- The text of a query, its parameters in the order of their placeholders, and the fragments that
were copied into it. -/
structure Rendered where
  sql : String
  params : List (String × Value)
  verbatim : List String

namespace Piece

/-- The text of a piece; `seq` is the number of a parameter. -/
def spell (d : Dialect) (seq : Nat) : Piece → String
  | word text => text
  | column name => d.identifier name
  | constant value => d.literal value
  | param name _ => d.placeholder seq name
  | verbatim text => text

def param? : Piece → Option (String × Value)
  | param name value => some (name, value)
  | _ => none

def verbatim? : Piece → Option String
  | verbatim text => some text
  | _ => none

/-- The texts of the pieces. The first parameter has the number `seq` and each the next. -/
def spellFrom (d : Dialect) (seq : Nat) : List Piece → List String
  | [] => []
  | p :: rest => p.spell d seq :: spellFrom d (if p.param?.isSome then seq + 1 else seq) rest

theorem spellFrom_append (d : Dialect) (seq : Nat) (ps qs : List Piece) :
    spellFrom d seq (ps ++ qs) =
      spellFrom d seq ps ++ spellFrom d (seq + (ps.filterMap param?).length) qs := by
  induction ps generalizing seq with
  | nil => rfl
  | cons p ps ih =>
    rw [List.cons_append, spellFrom, ih, spellFrom, List.cons_append, List.filterMap_cons]
    cases p.param? with
    | none => rfl
    | some _ => simp [Nat.add_right_comm, Nat.add_assoc]

end Piece

namespace Rendered

def ofPieces (d : Dialect) (pieces : List Piece) : Rendered where
  sql := String.join (Piece.spellFrom d 1 pieces)
  params := pieces.filterMap Piece.param?
  verbatim := pieces.filterMap Piece.verbatim?

end Rendered

end ContentQuery
