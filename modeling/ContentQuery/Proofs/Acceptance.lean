import ContentQuery.Dialect.Builtin
import ContentQuery.Proofs.Translation
import ContentQuery.Proofs.Typing
import ContentQuery.Proofs.WellFormed

/-!
# Accepted queries

A translation succeeds exactly for the well-formed trees.
-/

namespace ContentQuery

variable {env : Setting} {schema : Schema} {level : Nat} {opposite : Option Node} {second : Bool}
  {op : Operator} {l r x node : Node}

/-! ### Resolved operands -/

namespace Node

/-- What resolution makes of a node that stands opposite another. -/
def given (schema : Schema) (opposite : Option Node) (x : Node) : Node :=
  (x.typed schema).adopt (opposite.bind fun o => (o.typed schema).propertyTag?)

theorem given_none : x.given schema none = x.typed schema :=
  adopt_none (x.typed schema)

theorem isReference_given : (x.given schema opposite).isReference = x.isReference := by
  refine (apply_adopt (fun _ _ _ => rfl) (fun _ _ _ => rfl) _ _).trans ?_
  cases x with
  | identifier name tag => cases tag <;> rfl
  | _ => rfl

theorem isNull_given : Script.isNull env (x.given schema opposite) = Script.isNull env x := by
  refine (apply_adopt (fun _ _ _ => rfl) (fun _ _ _ => rfl) _ _).trans ?_
  cases x with
  | identifier name tag => cases tag <;> rfl
  | _ => rfl

theorem propertyTag?_of_isFresh (h : ∀ o ∈ opposite, o.IsFresh) :
    (opposite.bind fun o => (o.typed schema).propertyTag?) = Site.propertyTag? schema opposite := by
  cases opposite with
  | none => rfl
  | some o =>
    cases o with
    | identifier name tag =>
      cases (h _ rfl).untyped_identifier
      rfl
    | _ => rfl

end Node

open Script

/-- A condition may nest where something below it is admitted. -/
theorem nested_eq_none_iff {fault : QueryError} {below : Option QueryError} {P : Prop}
    (deep : P → level + 1 ≤ env.options.maxDepth)
    (h : level + 1 ≤ env.options.maxDepth → (below = none ↔ P)) :
    (if env.options.maxDepth ≤ level then some fault else below) = none ↔ P := by
  by_cases full : env.options.maxDepth ≤ level
  · rw [if_pos full]
    refine iff_of_false (by simp) fun p => ?_
    have room := deep p
    omega
  · rw [if_neg full]
    exact h (Nat.lt_of_not_le full)

theorem firstFault?_operands {fault : QueryError} (room : level + 1 ≤ env.options.maxDepth)
    (left : firstFault? env (level + 1) (l.given schema (some r)) = none ↔
      Admits env schema (level + 1) (some r) false l)
    (right : firstFault? env (level + 1) (r.given schema (some l)) = none ↔
      Admits env schema (level + 1) (some l) false r) :
    (if isNull env (r.given schema (some l)) then
        if (nullTest? op).isSome then firstFault? env (level + 1) (l.given schema (some r))
        else some fault
      else (firstFault? env (level + 1) (l.given schema (some r))).or
        (firstFault? env (level + 1) (r.given schema (some l)))) = none ↔
      (isNull env r = true → op = .eq ∨ op = .ne) ∧
        Admits env schema (level + 1) (some r) false l ∧
          Admits env schema (level + 1) (some l) true r := by
  rw [Node.isNull_given, Admits.second_iff room, ← left, ← right, ← nullTest?_isSome_iff]
  cases isNull env r with
  | true => cases (nullTest? op).isSome <;> simp
  | false => simp [Option.or_eq_none_iff]

theorem firstFault?_given_comparison
    (left : level + 1 ≤ env.options.maxDepth →
      (firstFault? env (level + 1) (l.given schema (some r)) = none ↔
        Admits env schema (level + 1) (some r) false l))
    (right : level + 1 ≤ env.options.maxDepth →
      (firstFault? env (level + 1) (r.given schema (some l)) = none ↔
        Admits env schema (level + 1) (some l) false r)) :
    firstFault? env level ((Node.comparison op l r).given schema opposite) = none ↔
      Admits env schema level opposite false (.comparison op l r) := by
  show firstFault? env level (.comparison op (l.given schema (some r)) (r.given schema (some l))) = none ↔ _
  have turned : (l.given schema (some r)).turned (r.given schema (some l)) = l.turned r := by
    simp only [Node.turned, Node.isReference_given]
  rw [firstFault?_comparison, turned, Admits.comparison_iff]
  refine nested_eq_none_iff (fun h => h.2.1.room) fun room => ?_
  cases compares : isNoComparison op with
  | true => simp [Node.IsAdmitted, compares]
  | false =>
    simp only [Bool.false_eq_true, if_false, Node.IsAdmitted, compares, true_and]
    cases trade : l.turned r with
    | true =>
      simp only [if_true, Bool.not_true]
      rw [firstFault?_operands room (right room) (left room), isEquality_reverse]
      exact and_congr_right fun _ => and_comm
    | false =>
      simp only [Bool.false_eq_true, if_false, Bool.not_false]
      exact firstFault?_operands room (left room) (right room)

namespace Node

theorem firstFault?_given_constant {value : Value} {tag : Option TypeTag}
    (fresh : (constant value tag).IsFresh) (opposites : ∀ o ∈ opposite, o.IsFresh) :
    firstFault? env level ((constant value tag).given schema opposite) = none ↔
      Site.Fits env schema ⟨constant value tag, opposite, false⟩ := by
  have type : (constant value tag).given schema opposite =
      constant value (Site.tag? schema ⟨constant value tag, opposite, false⟩) := by
    unfold given
    rw [propertyTag?_of_isFresh opposites]
    rcases fresh.type_constant with rfl | rfl <;> rfl
  rw [type, firstFault?_constant]
  simp [Site.Fits, Site.value?]

theorem firstFault?_given_variable {reference : String} {tag : Option TypeTag}
    (fresh : (bindVariable reference tag).IsFresh) (opposites : ∀ o ∈ opposite, o.IsFresh) :
    firstFault? env level ((bindVariable reference tag).given schema opposite) = none ↔
      Site.Fits env schema ⟨bindVariable reference tag, opposite, false⟩ := by
  have type : (bindVariable reference tag).given schema opposite =
      bindVariable reference (Site.tag? schema ⟨bindVariable reference tag, opposite, false⟩) := by
    unfold given
    rw [propertyTag?_of_isFresh opposites]
    cases fresh.untyped_variable
    rfl
  rw [type, firstFault?_bindVariable]
  simp [Site.Fits, Site.value?]

end Node

/-- What stands opposite fresh nodes is rendered without a fault exactly if it is admitted there. -/
theorem firstFault?_given (fresh : x.IsFresh) (opposites : ∀ o ∈ opposite, o.IsFresh)
    (room : level ≤ env.options.maxDepth) :
    firstFault? env level (x.given schema opposite) = none ↔
      Admits env schema level opposite false x := by
  -- An operand takes its type from what stands opposite, so that the induction has to vary it.
  induction x generalizing level opposite with
  | identifier name tag =>
    cases fresh.untyped_identifier
    rw [Admits.leaf_iff rfl rfl room]
    show firstFault? env level (.identifier name (schema name)) = none ↔ _
    cases known : schema name <;> simp [firstFault?, ofNode, Node.IsAdmitted, Node.sites, known]
  | constant value tag =>
    rw [Admits.operand_iff rfl rfl rfl room, Node.firstFault?_given_constant fresh opposites]
    simp [Node.IsAdmitted]
  | bindVariable reference tag =>
    rw [Admits.operand_iff rfl rfl rfl room, Node.firstFault?_given_variable fresh opposites]
    simp only [Bool.false_eq_true, false_and, false_or]
    refine (and_iff_right_of_imp ?_).symm
    rintro ⟨tag, v, w, -, bound, -⟩
    exact Option.isSome_of_eq_some bound
  | literal text =>
    rw [Admits.leaf_iff rfl rfl room]
    exact iff_of_true rfl ⟨trivial, by simp [Node.sites]⟩
  | function name params =>
    refine ⟨fun wrong => (by cases wrong), ?_⟩
    rintro ⟨admitted, -, -⟩
    exact (admitted _ (Node.mem_subnodes_self _)).elim
  | comparison op l r ihl ihr =>
    obtain ⟨freshLeft, freshRight⟩ := fresh.left_right rfl
    exact firstFault?_given_comparison (ihl freshLeft (by simpa using freshRight))
      (ihr freshRight (by simpa using freshLeft))
  | lone op side x ih =>
    have inner := @ih (level + 1) none (fresh.inner rfl) (by simp)
    rw [Node.given_none] at inner
    show firstFault? env level (.lone op side (x.typed schema)) = none ↔ _
    rw [firstFault?_lone, Admits.lone_iff]
    refine nested_eq_none_iff (fun h => h.2.room) fun room => ?_
    rw [← inner room, ← nullTest?_isSome_iff]
    cases compares : isNoComparison op with
    | true => cases op <;> cases compares <;> simp [nullTest?]
    | false => cases (nullTest? op).isSome <;> simp
  | conjunction op l r ihl ihr =>
    obtain ⟨freshLeft, freshRight⟩ := fresh.left_right rfl
    have left := @ihl (level + 1) none freshLeft (by simp)
    have right := @ihr (level + 1) none freshRight (by simp)
    rw [Node.given_none] at left right
    show firstFault? env level (.conjunction op (l.typed schema) (r.typed schema)) = none ↔ _
    rw [firstFault?_conjunction, Admits.conjunction_iff]
    refine nested_eq_none_iff (fun h => h.2.1.room) fun room => ?_
    rw [← left room, ← right room]
    by_cases notOp : op = .not
    · simp [notOp]
    · simp [notOp, Option.or_eq_none_iff]
  | negation x ih =>
    have inner := @ih (level + 1) none (fresh.inner rfl) (by simp)
    rw [Node.given_none] at inner
    show firstFault? env level (.negation (x.typed schema)) = none ↔ _
    rw [firstFault?_negation, Admits.negation_iff]
    refine nested_eq_none_iff (fun h => h.2.room) fun room => ?_
    rw [← inner room, true_and]

/-! ### Look-ups and translation -/

theorem fault?_unlessDeep {limit : Nat} {below : Trail QueryError PropertyFound} (room : level ≤ limit)
    (h : below.fault? = none) : (Node.unlessDeep limit level node below).fault? = none := by
  rw [Node.unlessDeep, if_neg (Nat.not_lt_of_le room), h]

/-- Resolution finds every property of an admitted tree. -/
theorem Admits.fault?_lookups (h : Admits env schema level opposite second node) :
    (node.lookups schema env.options.maxDepth level).fault? = none := by
  induction node generalizing level opposite second with
  | identifier name tag =>
    cases tag with
    | none =>
      obtain ⟨tag, known⟩ := Option.isSome_iff_exists.mp (h.admitted _ (Node.mem_subnodes_self _))
      simp [Node.lookups, known]
    | some tag => rfl
  | constant | bindVariable | literal => rfl
  | function => exact (h.admitted _ (Node.mem_subnodes_self _)).elim
  | comparison op l r ihl ihr =>
    obtain ⟨-, left, right⟩ := Admits.comparison_iff.mp h
    exact fault?_unlessDeep left.room (Trail.fault?_append_eq_none.mpr ⟨ihl left, ihr right⟩)
  | lone op side x ih =>
    obtain ⟨-, inner⟩ := Admits.lone_iff.mp h
    exact fault?_unlessDeep inner.room (ih inner)
  | conjunction op l r ihl ihr =>
    obtain ⟨-, left, right⟩ := Admits.conjunction_iff.mp h
    exact fault?_unlessDeep left.room (Trail.fault?_append_eq_none.mpr ⟨ihl left, ihr right⟩)
  | negation x ih =>
    obtain ⟨-, inner⟩ := Admits.negation_iff.mp h
    exact fault?_unlessDeep inner.room (ih inner)

/-- Translation accepts exactly the well-formed trees. -/
theorem Engine.translate_succeeds_iff {e : Engine} {bindings : Bindings} (fresh : node.IsFresh) :
    (∃ r, e.translate schema bindings node = .ok r) ↔
      WellFormed ⟨bindings, e.options⟩ schema node := by
  rw [exists_translate_eq_ok_iff, fault?_eq_none_iff, wellFormed_iff_admits]
  have rendered := @firstFault?_given ⟨bindings, e.options⟩ schema 0 none node fresh (by simp)
    (Nat.zero_le _)
  rw [Node.given_none] at rendered
  rw [rendered]
  exact and_iff_right_of_imp Admits.fault?_lookups

/-- A constant in front of its property, and a variable bound to NULL. -/
theorem Engine.translate_succeeds_iff_mixed :
    let node : Node := .conjunction .and
      (.comparison .lt (.constant (.str "5") none) (.identifier "age" none))
      (.comparison .ne (.identifier "age" none) (.bindVariable ":limit" none))
    node.IsFresh ∧ WellFormed ⟨fun _ => some .null, {}⟩ (fun _ => some .long) node := by
  intro node
  have fresh : node.IsFresh := by
    intro n mem
    simp only [node, Node.subnodes, List.cons_append, List.nil_append, List.mem_cons,
      List.not_mem_nil, or_false] at mem
    rcases mem with rfl | rfl | rfl | rfl | rfl | rfl | rfl <;> exact .inl rfl
  have accepted : ∃ r, (⟨.ansi, {}⟩ : Engine).translate (fun _ => some .long) (fun _ => some .null) node =
      .ok r := ⟨_, rfl⟩
  exact ⟨fresh, (translate_succeeds_iff fresh).mp accepted⟩

end ContentQuery
