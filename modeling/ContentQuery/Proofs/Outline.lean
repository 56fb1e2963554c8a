import ContentQuery.Node.Basic
import ContentQuery.Proofs.Composition

/-!
# Outlines

How the clauses of a condition are joined and negated. Every part stands in parentheses, so the
outline can be read back from its text, unless a clause is taken for something joined or negated.
-/

namespace ContentQuery

inductive Outline where
  | clause (text : String)
  | joined (op : Connective) (left right : Outline)
  | negated (inner : Outline)
  deriving Repr, DecidableEq

namespace Operator

variable {op op' : Operator} {x y : List Char}

theorem solid_token (op : Operator) : Solid op.token.toList := by
  cases op <;> decide

theorem eq_of_token_eq (h : op.token = op'.token) : op = op' := by
  cases op <;> cases op' <;> first | rfl | exact absurd h (by decide)

theorem eq_of_token_append (h : op.token.toList ++ ' ' :: x = op'.token.toList ++ ' ' :: y) :
    op = op' ∧ x = y := by
  have blank (s : List Char) : Delimits (' ' :: s) := by
    simp [Delimits]
  obtain ⟨tokens, rest⟩ := op.solid_token.eq_of_append op'.solid_token (blank x) (blank y) h
  exact ⟨eq_of_token_eq (String.toList_inj.mp tokens), (List.cons.inj rest).2⟩

end Operator

namespace Connective

/-- What stands between the parentheses around the parts. -/
def joint (op : Connective) : List Char :=
  ' ' :: (op.operator.token.toList ++ [' '])

theorem inert_joint (op : Connective) : Inert op.joint := by
  cases op <;> decide

theorem joint_ne_nil (op : Connective) : op.joint ≠ [] := by
  simp [joint]

theorem eq_of_joint_append {op op' : Connective} {x y : List Char}
    (h : op.joint ++ '(' :: x = op'.joint ++ '(' :: y) : op = op' ∧ x = y := by
  simp only [joint, List.cons_append, List.append_assoc, List.nil_append] at h
  obtain ⟨same, rest⟩ := Operator.eq_of_token_append (List.cons.inj h).2
  refine ⟨?_, (List.cons.inj rest).2⟩
  cases op <;> cases op' <;> first | rfl | cases same

end Connective

namespace Outline

def spell : Outline → String
  | clause text => text
  | joined op l r => "(" ++ l.spell ++ (") " ++ op.operator.token ++ " (") ++ r.spell ++ ")"
  | negated x => "NOT (" ++ x.spell ++ ")"

def negation : List Char :=
  "NOT (".toList

theorem toList_spell_joined (op : Connective) (l r : Outline) :
    (joined op l r).spell.toList =
      '(' :: (l.spell.toList ++ ')' :: (op.joint ++ '(' :: (r.spell.toList ++ [')']))) := by
  simp [spell, Connective.joint]

theorem toList_spell_negated (x : Outline) :
    (negated x).spell.toList = negation ++ (x.spell.toList ++ [')']) := by
  simp [spell, negation]

/-- A text that does not begin like anything joined or negated. -/
structure IsClauseText (lx : Lexer) (s : List Char) : Prop where
  settled : Settled lx s
  notNegated : ¬ negation <+: s
  notJoined : ∀ op a, Settled lx a → ¬ '(' :: (a ++ ')' :: Connective.joint op) <+: s

def IsReadable (lx : Lexer) : Outline → Prop
  | clause text => IsClauseText lx text.toList
  | joined _ l r => l.IsReadable lx ∧ r.IsReadable lx
  | negated x => x.IsReadable lx

variable {lx : Lexer} {o o' l r x : Outline}

theorem IsReadable.settled (h : o.IsReadable lx) : Settled lx o.spell.toList := by
  induction o with
  | clause text => exact IsClauseText.settled h
  | joined op l r ihl ihr =>
    have front : Composed lx False l.spell.toList False := .of_settled (ihl h.1)
    have back : Composed lx False r.spell.toList False := .of_settled (ihr h.2)
    have parts := (front.enclosed.between op.inert_joint op.joint_ne_nil back.enclosed).settled
    rw [toList_spell_joined]
    simpa using parts
  | negated x ih =>
    have word : Inert "NOT ".toList := by decide
    have inner : Composed lx False x.spell.toList False := .of_settled (ih h)
    have part := (inner.enclosed.inert_append word).settled
    rw [toList_spell_negated]
    simpa [negation] using part

theorem spell_joined_ne_clause {op : Connective} {text : String} (hl : l.IsReadable lx)
    (clause : IsClauseText lx text.toList) : (joined op l r).spell ≠ text := by
  rintro rfl
  refine clause.notJoined op _ hl.settled ?_
  rw [toList_spell_joined]
  exact ⟨'(' :: (r.spell.toList ++ [')']), by simp⟩

theorem spell_negated_ne_clause {text : String} (clause : IsClauseText lx text.toList) :
    (negated x).spell ≠ text := by
  rintro rfl
  refine clause.notNegated ?_
  rw [toList_spell_negated]
  exact List.prefix_append ..

theorem spell_joined_ne_negated {op : Connective} : (joined op l r).spell ≠ (negated x).spell := by
  intro same
  have chars := congrArg String.toList same
  rw [toList_spell_joined, toList_spell_negated] at chars
  cases chars

/-- Readable outlines with the same text are the same. -/
theorem eq_of_spell_eq (h : o.IsReadable lx) (h' : o'.IsReadable lx) (same : o.spell = o'.spell) :
    o = o' := by
  induction o generalizing o' with
  | clause text =>
    cases o' with
    | clause text' => exact congrArg clause same
    | joined op l r => exact absurd same.symm (spell_joined_ne_clause h'.1 h)
    | negated x => exact absurd same.symm (spell_negated_ne_clause h)
  | joined op l r ihl ihr =>
    cases o' with
    | clause text' => exact absurd same (spell_joined_ne_clause h.1 h')
    | negated x => exact absurd same spell_joined_ne_negated
    | joined op' l' r' =>
      have chars := congrArg String.toList same
      rw [toList_spell_joined, toList_spell_joined] at chars
      obtain ⟨left, behind⟩ := h.1.settled.eq_of_closed h'.1.settled (List.cons.inj chars).2
      obtain ⟨rfl, inside⟩ := Connective.eq_of_joint_append behind
      obtain ⟨right, -⟩ := h.2.settled.eq_of_closed h'.2.settled inside
      have first : l = l' := ihl h.1 h'.1 (String.toList_inj.mp left)
      have second : r = r' := ihr h.2 h'.2 (String.toList_inj.mp right)
      rw [first, second]
  | negated x ih =>
    cases o' with
    | clause text' => exact absurd same (spell_negated_ne_clause h')
    | joined op l r => exact absurd same.symm spell_joined_ne_negated
    | negated x' =>
      have chars := congrArg String.toList same
      rw [toList_spell_negated, toList_spell_negated] at chars
      have inner : x.spell.toList = x'.spell.toList :=
        List.append_cancel_right (List.append_cancel_left chars)
      have parts : x = x' := ih h h' (String.toList_inj.mp inner)
      rw [parts]

end Outline

end ContentQuery
