import ContentQuery.Dialect.Builtin
import ContentQuery.Proofs.Numbering
import ContentQuery.Proofs.Rendering.Invariance
import ContentQuery.Proofs.Translation
import ContentQuery.Proofs.Typing

/-!
# Rendering a tree again

The tree that is given back beside a query has its references on the left and no operands that stand for
NULL. There is nothing left to turn in it or to drop, so it is rendered to the same query and given back
unchanged.
-/

namespace ContentQuery

variable {d : Dialect} {env : Setting} {schema : Schema} {limit : Nat} {op : Operator} {l r x node : Node}

namespace Node

/-! ### Trees that the constructors admit -/

/-- What the constructors make of the parts of a node. Types are given only later. -/
def remade : Node → Except QueryError Node
  | identifier name tag => unlessBlank .identifierName name (identifier name tag)
  | constant value tag => .ok (constant value tag)
  | bindVariable reference tag =>
    unlessBlank .variableName (variableName reference) (bindVariable reference tag)
  | literal text => ofLiteral text
  | function name params => call name params
  | comparison op l r => compare? op (some l) (some r)
  | lone op .left x => compare? op (some x) none
  | lone op .right x => compare? op none (some x)
  | conjunction op l r => conjoin op.operator (some l) r
  | negation x => conjoin .not none x

/-- No constructor objects to any node of the tree. -/
def IsMade (node : Node) : Prop :=
  ∀ n ∈ node.subnodes, n.remade = .ok n

theorem unlessBlank_eq_ok_iff {part : NamePart} {text : String} :
    unlessBlank part text x = .ok node ↔ Text.isBlank text = false ∧ node = x := by
  unfold unlessBlank
  cases Text.isBlank text with
  | true => simp
  | false => simp [eq_comm]

theorem isMade_identifier {name : String} {tag : Option TypeTag} :
    (identifier name tag).IsMade ↔ Text.isBlank name = false := by
  simp [IsMade, subnodes, remade, unlessBlank_eq_ok_iff]

theorem isMade_constant (value : Value) (tag : Option TypeTag) : (constant value tag).IsMade := by
  simp [IsMade, subnodes, remade]

theorem isMade_bindVariable {reference : String} {tag : Option TypeTag} :
    (bindVariable reference tag).IsMade ↔ Text.isBlank (variableName reference) = false := by
  simp [IsMade, subnodes, remade, unlessBlank_eq_ok_iff]

theorem isMade_literal {text : String} : (literal text).IsMade ↔ Text.isBlank text = false := by
  simp [IsMade, subnodes, remade, ofLiteral, unlessBlank_eq_ok_iff]

theorem isMade_function {name : String} {params : List Node} :
    (function name params).IsMade ↔ Text.isBlank name = false ∧ ∀ p ∈ params, p.IsMade := by
  unfold IsMade
  rw [forall_mem_subnodes_function]
  simp [remade, call, unlessBlank_eq_ok_iff]

theorem isMade_comparison : (comparison op l r).IsMade ↔ l.IsMade ∧ r.IsMade := by
  unfold IsMade
  rw [forall_mem_subnodes_comparison]
  exact and_iff_right rfl

theorem isMade_lone {side : Side} : (lone op side x).IsMade ↔ x.IsMade := by
  unfold IsMade
  rw [forall_mem_subnodes_lone]
  cases side <;> exact and_iff_right rfl

theorem isMade_conjunction {op : Connective} : (conjunction op l r).IsMade ↔ l.IsMade ∧ r.IsMade := by
  unfold IsMade
  rw [forall_mem_subnodes_conjunction]
  cases op <;> exact and_iff_right rfl

theorem isMade_negation : (negation x).IsMade ↔ x.IsMade := by
  unfold IsMade
  rw [forall_mem_subnodes_negation]
  exact and_iff_right rfl

theorem Built.isMade (h : node.Built) : node.IsMade := by
  induction h with
  | name h =>
    obtain ⟨text, rfl⟩ := unlessBlank_eq_ok_iff.mp h
    exact isMade_identifier.mpr text
  | value v | integer v => exact isMade_constant v _
  | reference h =>
    obtain ⟨text, rfl⟩ := unlessBlank_eq_ok_iff.mp h
    exact isMade_bindVariable.mpr text
  | literal h =>
    obtain ⟨text, rfl⟩ := unlessBlank_eq_ok_iff.mp h
    exact isMade_literal.mpr text
  | call parts h ih =>
    obtain ⟨text, rfl⟩ := unlessBlank_eq_ok_iff.mp h
    exact isMade_function.mpr ⟨text, ih⟩
  | @compare op l r node left right h ihl ihr =>
    cases l with
    | some l =>
      cases r with
      | some r =>
        cases h
        exact isMade_comparison.mpr ⟨ihl l rfl, ihr r rfl⟩
      | none =>
        cases h
        exact isMade_lone.mpr (ihl l rfl)
    | none =>
      cases r with
      | some r =>
        cases h
        exact isMade_lone.mpr (ihr r rfl)
      | none => cases h
  | @conjoin op l r node left right h ihl ihr =>
    cases l with
    | some l => cases op <;> cases h <;> exact isMade_conjunction.mpr ⟨ihl l rfl, ihr⟩
    | none =>
      cases op <;> cases h
      exact isMade_negation.mpr ihr

/-! ### What resolution and rendering keep -/

theorem isMade_adopt (tag : Option TypeTag) (node : Node) : (node.adopt tag).IsMade = node.IsMade := by
  refine apply_adopt (fun value old new => ?_) (fun reference old new => ?_) tag node
  · exact propext (iff_of_true (isMade_constant value old) (isMade_constant value new))
  · rw [isMade_bindVariable, isMade_bindVariable]

theorem IsMade.typed (schema : Schema) (h : node.IsMade) : (node.typed schema).IsMade := by
  induction node with
  | identifier name tag =>
    cases tag with
    | none => exact isMade_identifier.mpr (isMade_identifier.mp h)
    | some _ => exact h
  | constant | bindVariable | literal => exact h
  | function name params ih =>
    obtain ⟨text, parts⟩ := isMade_function.mp h
    rw [Node.typed, typedAll_eq_map]
    refine isMade_function.mpr ⟨text, fun p mem => ?_⟩
    obtain ⟨part, among, rfl⟩ := List.mem_map.mp mem
    exact ih part among (parts part among)
  | comparison op l r ihl ihr =>
    obtain ⟨left, right⟩ := isMade_comparison.mp h
    rw [Node.typed, isMade_comparison, isMade_adopt, isMade_adopt]
    exact ⟨ihl left, ihr right⟩
  | lone op side x ih => exact isMade_lone.mpr (ih (isMade_lone.mp h))
  | conjunction op l r ihl ihr =>
    obtain ⟨left, right⟩ := isMade_conjunction.mp h
    exact isMade_conjunction.mpr ⟨ihl left, ihr right⟩
  | negation x ih => exact isMade_negation.mpr (ih (isMade_negation.mp h))

theorem IsMade.resolved (h : node.IsMade) (resolved : node.resolve schema limit = .ok x) : x.IsMade := by
  unfold resolve at resolved
  split at resolved
  · cases resolved
  · cases resolved
    exact h.typed schema

theorem IsMade.settled (env : Setting) (h : node.IsMade) : (node.settled env).IsMade := by
  induction node with
  | identifier | constant | bindVariable | literal | function => exact h
  | comparison op l r ihl ihr =>
    obtain ⟨left, right⟩ := isMade_comparison.mp h
    rw [Node.settled]
    split
    · split
      · exact isMade_lone.mpr (ihr right)
      · exact isMade_comparison.mpr ⟨ihr right, ihl left⟩
    · split
      · exact isMade_lone.mpr (ihl left)
      · exact isMade_comparison.mpr ⟨ihl left, ihr right⟩
  | lone op side x ih => exact isMade_lone.mpr (ih (isMade_lone.mp h))
  | conjunction op l r ihl ihr =>
    obtain ⟨left, right⟩ := isMade_conjunction.mp h
    exact isMade_conjunction.mpr ⟨ihl left, ihr right⟩
  | negation x ih => exact isMade_negation.mpr (ih (isMade_negation.mp h))

/-! ### Trees in their final form -/

/-- A comparison in its final form is kept, with its operands in theirs. -/
theorem settled_comparison_settled (ihl : (l.settled env).settled env = l.settled env)
    (ihr : (r.settled env).settled env = r.settled env) (straight : l.turned r = false)
    (notNull : Script.isNull env r = false) :
    (comparison op (l.settled env) (r.settled env)).settled env =
      comparison op (l.settled env) (r.settled env) := by
  have stays : (l.settled env).turned (r.settled env) = false := by
    unfold turned
    rwa [isReference_settled, isReference_settled]
  have keeps : Script.isNull env (r.settled env) = false := by
    rwa [Script.isNull_settled]
  rw [settled_comparison, stays, keeps, ihl, ihr]
  rfl

theorem settled_settled (env : Setting) (node : Node) :
    (node.settled env).settled env = node.settled env := by
  induction node with
  | identifier | constant | bindVariable | literal | function => rfl
  | comparison op l r ihl ihr =>
    rw [settled_comparison]
    cases turned : l.turned r with
    | true =>
      have straight := not_turned_swap turned
      rw [if_pos rfl, settled_comparison, straight]
      cases null : Script.isNull env l with
      | true => exact congrArg (lone op.reverse .left) ihr
      | false => exact settled_comparison_settled ihr ihl straight null
    | false =>
      cases null : Script.isNull env r with
      | true => exact congrArg (lone op .left) ihl
      | false => exact settled_comparison_settled ihl ihr turned null
  | lone op side x ih => exact congrArg (lone _ .left) ih
  | conjunction op l r ihl ihr => rw [settled, settled, ihl, ihr]
  | negation x ih => exact congrArg negation ih

end Node

/-! ### The second rendering -/

namespace Rendering

variable {before after : Rendering} {t u : Node}

/-- Behind anything that is rendered already, the tree that is given back is rendered as the tree itself. -/
theorem accept_again (h : before.accept t = .ok (after, u)) : before.accept u = .ok (after, u) := by
  obtain ⟨pieces, ctx, follows, rfl, rfl⟩ := accept_eq_ok_iff.mp h
  exact accept_eq_ok_iff.mpr ⟨pieces, ctx, follows.settled, rfl, (Node.settled_settled _ t).symm⟩

end Rendering

/-- The tree that is given back for a resolved tree is one that the constructors admit. It is rendered to the
same query, and given back as it is. -/
theorem renderAll_again {tree t u : Node} {out : Rendered} (made : tree.IsMade)
    (resolved : tree.resolve schema limit = .ok t) (rendered : renderAll d env [t] = .ok (out, [u])) :
    u.IsMade ∧ renderAll d env [u] = .ok (out, [u]) := by
  obtain ⟨last, accepted, rfl⟩ := renderAll_eq_ok_iff.mp rendered
  obtain ⟨after, v, rest, first, others, trees⟩ := Rendering.acceptAll_cons_eq_ok accepted
  obtain ⟨rfl, rfl⟩ := List.cons.inj trees
  constructor
  · obtain ⟨pieces, ctx, -, -, rfl⟩ := Rendering.accept_eq_ok_iff.mp first
    exact (made.resolved resolved).settled _
  · refine renderAll_eq_ok_iff.mpr ⟨last, ?_, rfl⟩
    rw [Rendering.acceptAll, Rendering.accept_again first]
    simp only [others]
    rfl

/-- One comparison is turned, and the other loses its variable. -/
theorem renderAll_again_turned :
    let tree : Node := .conjunction .and
      (.comparison .lt (.constant (.str "5") none) (.identifier "age" none))
      (.comparison .eq (.bindVariable ":name" none) (.identifier "name" none))
    let schema : Schema := fun name => if name = "age" then some .long else some .string
    let env : Setting := ⟨fun _ => some .null, {}⟩
    let u : Node := .conjunction .and
      (.comparison .gt (.identifier "age" (some .long)) (.constant (.str "5") (some .long)))
      (.lone .eq .left (.identifier "name" (some .string)))
    ∃ t out, tree.IsMade ∧ tree.resolve schema 64 = .ok t ∧ renderAll .mysql env [t] = .ok (out, [u]) ∧
      out.sql = "(age > 5) AND (name IS NULL)" ∧ u.IsMade ∧
        renderAll .mysql env [u] = .ok (out, [u]) := by
  intro tree schema env u
  have made : tree.IsMade := by
    refine Node.isMade_conjunction.mpr ⟨Node.isMade_comparison.mpr ⟨?_, ?_⟩,
      Node.isMade_comparison.mpr ⟨?_, ?_⟩⟩
    · exact Node.isMade_constant _ _
    · exact Node.isMade_identifier.mpr (by decide)
    · exact Node.isMade_bindVariable.mpr (by decide)
    · exact Node.isMade_identifier.mpr (by decide)
  obtain ⟨t, resolved⟩ : ∃ t, tree.resolve schema 64 = .ok t := ⟨_, rfl⟩
  obtain ⟨out, rendered, sql⟩ : ∃ out, renderAll .mysql env [tree.typed schema] = .ok (out, [u]) ∧
      out.sql = "(age > 5) AND (name IS NULL)" := ⟨_, rfl, by decide⟩
  obtain rfl : tree.typed schema = t := Except.ok.inj resolved
  exact ⟨_, out, made, resolved, rendered, sql, renderAll_again made resolved rendered⟩

end ContentQuery
