import ContentQuery.Proofs.Offences

/-!
# Where inconsistencies come from

Resolution types every property or fails, so rendering finds a tree inconsistent for two reasons only: a
negation that has a left operand, or a constant or variable without a type that is not compared with a
property. Every other fault is that of an invalid query.
-/

namespace ContentQuery

open Script

variable {env : Setting} {schema : Schema} {level : Nat} {op : Operator} {l r x node : Node}
  {opposite : Option Node} {f : QueryError}

/-! ### Where a fault is found -/

def QueryError.IsInvalid (e : QueryError) : Prop :=
  ∃ fault node, e = .invalidQuery fault node

theorem QueryError.isInvalid_of_eq {fault : QueryFault} (h : some (.invalidQuery fault node) = some f) :
    f.IsInvalid :=
  ⟨fault, node, (Option.some.inj h).symm⟩

namespace Script

theorem fault_of_operands {e e' : Option QueryError} {fault : QueryFault}
    (h : (if isNull env r then
        if (nullTest? op).isSome then e else some (.invalidQuery fault node)
      else e.or e') = some f) :
    f.IsInvalid ∨ e = some f ∨ e' = some f := by
  split at h
  · split at h
    · exact .inr (.inl h)
    · exact .inl (QueryError.isInvalid_of_eq h)
  · rcases Option.or_eq_some_iff.mp h with first | ⟨-, second⟩
    · exact .inr (.inl first)
    · exact .inr (.inr second)

theorem fault_of_comparison (h : firstFault? env level (.comparison op l r) = some f) :
    f.IsInvalid ∨ firstFault? env (level + 1) l = some f ∨ firstFault? env (level + 1) r = some f := by
  rw [firstFault?_comparison] at h
  split at h
  · exact .inl (QueryError.isInvalid_of_eq h)
  · split at h
    · exact .inl (QueryError.isInvalid_of_eq h)
    · cases trade : l.turned r with
      | true =>
        simp only [trade, if_true] at h
        exact (fault_of_operands h).imp_right Or.symm
      | false =>
        simp only [trade, Bool.false_eq_true, if_false] at h
        exact fault_of_operands h

theorem fault_of_lone {side : Side} (h : firstFault? env level (.lone op side x) = some f) :
    f.IsInvalid ∨ firstFault? env (level + 1) x = some f := by
  rw [firstFault?_lone] at h
  split at h
  · exact .inl (QueryError.isInvalid_of_eq h)
  · split at h
    · exact .inl (QueryError.isInvalid_of_eq h)
    · split at h
      · exact .inr h
      · exact .inl (QueryError.isInvalid_of_eq h)

theorem fault_of_conjunction {op : Connective} (h : firstFault? env level (.conjunction op l r) = some f) :
    f.IsInvalid ∨ (op = .not ∧ f = .inconsistent (.leftOperand .not)) ∨
      firstFault? env (level + 1) l = some f ∨ firstFault? env (level + 1) r = some f := by
  rw [firstFault?_conjunction] at h
  split at h
  · exact .inl (QueryError.isInvalid_of_eq h)
  · split at h
    · rename_i notOp
      subst notOp
      exact .inr (.inl ⟨rfl, (Option.some.inj h).symm⟩)
    · rcases Option.or_eq_some_iff.mp h with first | ⟨-, second⟩
      · exact .inr (.inr (.inl first))
      · exact .inr (.inr (.inr second))

theorem fault_of_negation (h : firstFault? env level (.negation x) = some f) :
    f.IsInvalid ∨ firstFault? env (level + 1) x = some f := by
  rw [firstFault?_negation] at h
  split at h
  · exact .inl (QueryError.isInvalid_of_eq h)
  · exact .inr h

theorem fault_of_constant {value : Value} {tag : Option TypeTag}
    (h : firstFault? env level (.constant value tag) = some f) :
    f.IsInvalid ∨ (tag = none ∧ f = .inconsistent (.untypedValue (.constant value none))) := by
  cases tag with
  | none => exact .inr ⟨rfl, (Option.some.inj h).symm⟩
  | some type =>
    simp only [firstFault?, ofNode, fault?_ofValue] at h
    cases coerced : value.coerce type with
    | error mismatch =>
      rw [coerced] at h
      exact .inl (QueryError.isInvalid_of_eq h)
    | ok w => simp [coerced] at h

theorem fault_of_bindVariable {reference : String} {tag : Option TypeTag}
    (h : firstFault? env level (.bindVariable reference tag) = some f) :
    f.IsInvalid ∨ (tag = none ∧ f = .inconsistent (.untypedValue (.bindVariable reference none))) := by
  cases tag with
  | none => exact .inr ⟨rfl, (Option.some.inj h).symm⟩
  | some type =>
    simp only [firstFault?, ofNode, ofVariable] at h
    cases bound : env.bindings (variableName reference) with
    | none =>
      rw [bound] at h
      exact .inl (QueryError.isInvalid_of_eq h)
    | some value =>
      simp only [bound, fault?_ofValue] at h
      cases coerced : value.coerce type with
      | error mismatch =>
        rw [coerced] at h
        exact .inl (QueryError.isInvalid_of_eq h)
      | ok w => simp [coerced] at h

end Script

/-! ### Causes -/

/-- Constants and variables. -/
def Node.isValue : Node → Bool
  | constant .. | bindVariable .. => true
  | _ => false

/-- The two ways in which a node makes rendering inconsistent. -/
inductive Occurrence.Causes : Occurrence → ConsistencyFault → Prop
  | leftOperand (l r : Node) (opposite : Option Node) :
      Causes ⟨.conjunction .not l r, opposite⟩ (.leftOperand .not)
  | untyped {x : Node} {opposite : Option Node} (value : x.isValue = true) (untyped : x.tag? = none)
      (noProperty : ∀ y ∈ opposite, y.isProperty = false) : Causes ⟨x, opposite⟩ (.untypedValue x)

/-- The query is invalid, or something in the tree is inconsistent. -/
def QueryError.Explained (f : QueryError) (occurrences : List Occurrence) : Prop :=
  f.IsInvalid ∨ ∃ fault, f = .inconsistent fault ∧ ∃ o ∈ occurrences, o.Causes fault

theorem QueryError.Explained.mono {os os' : List Occurrence} (h : f.Explained os) (sub : os ⊆ os') :
    f.Explained os' := by
  rcases h with invalid | ⟨fault, rfl, o, mem, cause⟩
  · exact .inl invalid
  · exact .inr ⟨fault, rfl, o, sub mem, cause⟩

namespace Node

theorem IsKnown.of_part (h : node.IsKnown schema) (part : x ∈ node.parts) : x.IsKnown schema :=
  fun name mem => h name (mem_subnodes_of_part part mem)

theorem IsKnown.isSome_propertyType? {name : String} {tag : Option TypeTag}
    (h : (identifier name tag).IsKnown schema) : ((identifier name tag).propertyType? schema).isSome := by
  cases tag with
  | none => exact h name (mem_subnodes_self _)
  | some tag => rfl

theorem given_constant (value : Value) (tag : Option TypeTag) :
    (constant value tag).given schema opposite =
      constant value (tag.or (opposite.bind (propertyType? schema))) := by
  unfold given
  rw [bind_propertyTag?_typed]
  cases tag <;> rfl

theorem given_bindVariable (reference : String) (tag : Option TypeTag) :
    (bindVariable reference tag).given schema opposite =
      bindVariable reference (tag.or (opposite.bind (propertyType? schema))) := by
  unfold given
  rw [bind_propertyTag?_typed]
  cases tag <;> rfl

/-- Nothing that stands opposite a property lacks a type. -/
theorem isProperty_eq_false (known : ∀ y ∈ opposite, y.IsKnown schema)
    (h : opposite.bind (propertyType? schema) = none) : ∀ y ∈ opposite, y.isProperty = false := by
  rintro y rfl
  cases y with
  | identifier name tag =>
    have type := (known _ rfl).isSome_propertyType?
    rw [Option.bind_some] at h
    rw [h] at type
    cases type
  | _ => rfl

theorem explained_of_untyped (value : x.isValue = true) (untyped : x.tag? = none)
    (noProperty : ∀ y ∈ opposite, y.isProperty = false) :
    (QueryError.inconsistent (.untypedValue x)).Explained [⟨x, opposite⟩] :=
  .inr ⟨_, rfl, _, List.mem_singleton.mpr rfl, .untyped value untyped noProperty⟩

/-- A fault in a tree of known properties is that of an invalid query, or something in the tree causes it. -/
theorem explained_of_fault (known : x.IsKnown schema) (knownOpposite : ∀ y ∈ opposite, y.IsKnown schema)
    (h : firstFault? env level (x.given schema opposite) = some f) :
    f.Explained (x.occurrences opposite) := by
  induction x generalizing level opposite with
  | identifier name tag =>
    obtain ⟨type, found⟩ := Option.isSome_iff_exists.mp known.isSome_propertyType?
    have typed : (identifier name tag).given schema opposite = identifier name (some type) := by
      rw [← found]
      cases tag <;> rfl
    rw [typed] at h
    cases h
  | constant value tag =>
    rw [given_constant] at h
    rcases fault_of_constant h with invalid | ⟨untyped, rfl⟩
    · exact .inl invalid
    · obtain ⟨rfl, untyping⟩ := Option.or_eq_none_iff.mp untyped
      exact explained_of_untyped rfl rfl (isProperty_eq_false knownOpposite untyping)
  | bindVariable reference tag =>
    rw [given_bindVariable] at h
    rcases fault_of_bindVariable h with invalid | ⟨untyped, rfl⟩
    · exact .inl invalid
    · obtain ⟨rfl, untyping⟩ := Option.or_eq_none_iff.mp untyped
      exact explained_of_untyped rfl rfl (isProperty_eq_false knownOpposite untyping)
  | literal text => cases h
  | function name params => exact .inl (QueryError.isInvalid_of_eq h)
  | comparison op l r ihl ihr =>
    have knownLeft : l.IsKnown schema := known.of_part (by simp [parts])
    have knownRight : r.IsKnown schema := known.of_part (by simp [parts])
    rcases fault_of_comparison (l := l.given schema (some r)) (r := r.given schema (some l)) h with
      invalid | left | right
    · exact .inl invalid
    · exact (ihl knownLeft (by simpa using knownRight) left).mono (by simp [occurrences])
    · exact (ihr knownRight (by simpa using knownLeft) right).mono (by simp [occurrences])
  | lone op side x ih =>
    rcases fault_of_lone (x := x.typed schema) h with invalid | inner
    · exact .inl invalid
    · rw [← given_none] at inner
      exact (ih (known.of_part (by simp [parts])) (by simp) inner).mono (by simp [occurrences])
  | conjunction op l r ihl ihr =>
    rcases fault_of_conjunction (l := l.typed schema) (r := r.typed schema) h with
      invalid | ⟨rfl, rfl⟩ | left | right
    · exact .inl invalid
    · exact .inr ⟨_, rfl, _, by simp [occurrences], .leftOperand l r opposite⟩
    · rw [← given_none] at left
      exact (ihl (known.of_part (by simp [parts])) (by simp) left).mono (by simp [occurrences])
    · rw [← given_none] at right
      exact (ihr (known.of_part (by simp [parts])) (by simp) right).mono (by simp [occurrences])
  | negation x ih =>
    rcases fault_of_negation (x := x.typed schema) h with invalid | inner
    · exact .inl invalid
    · rw [← given_none] at inner
      exact (ih (known.of_part (by simp [parts])) (by simp) inner).mono (by simp [occurrences])

/-- Comparisons of two operands or of one. -/
def isComparison : Node → Bool
  | comparison .. | lone .. => true
  | _ => false

theorem parts_ne_nil (h : node.isComparison = true) : node.parts ≠ [] := by
  cases node with
  | comparison | lone => exact List.cons_ne_nil _ _
  | _ => cases h

theorem isSome_of_mem_resolved {limit : Nat} {resolved : Node} {name : String} {tag : Option TypeTag}
    (h : node.resolve schema limit = .ok resolved) (mem : identifier name tag ∈ resolved.subnodes) :
    tag.isSome = true := by
  obtain ⟨found, rfl⟩ := resolve_eq_ok_iff.mp h
  -- A schema that knows nothing resolves the tree again, so no property in it is looked up.
  have again := (resolved_again found fun _ => none).2
  have known := ((fault?_lookups_eq_none_iff [] _ (Nat.zero_le limit)).mp again).2
  cases tag with
  | some type => rfl
  | none => exact known name mem

end Node

theorem Position.isInvalid_of_offence? {p : Position} {limit : Nat} (h : p.offence? schema limit = some f) :
    f.IsInvalid := by
  unfold offence? at h
  split at h
  · split at h
    · cases h
    · exact QueryError.isInvalid_of_eq h
  · split at h
    · exact QueryError.isInvalid_of_eq h
    · cases h

theorem Node.isInvalid_of_lookups {limit : Nat} (h : (node.lookups schema limit 0).fault? = some f) :
    f.IsInvalid := by
  have offence := (fault?_lookups [] node (Nat.zero_le limit)).symm.trans h
  obtain ⟨-, p, -, -, offends, -⟩ := List.findSome?_eq_some_iff.mp offence
  exact p.isInvalid_of_offence? offends

namespace Engine

variable {e : Engine} {bindings : Bindings}

theorem explained_of_translate (h : e.translate schema bindings node = .error f) :
    f.Explained (node.occurrences none) := by
  have fault := translate_eq_error_iff.mp h
  rcases Option.or_eq_some_iff.mp fault with lookup | ⟨found, rendering⟩
  · exact .inl (Node.isInvalid_of_lookups lookup)
  · have known := ((Node.fault?_lookups_eq_none_iff [] node (Nat.zero_le _)).mp found).2
    rw [← Node.given_none] at rendering
    exact Node.explained_of_fault known (by simp) rendering

/-- Every error of a translation rejects the query, and an inconsistency has a cause in the tree. Resolution
fails for no other reason than an invalid query, although it builds every node again. What it gives to be
rendered has a type for every property and operands in every comparison. -/
theorem translate_errors (e : Engine) (schema : Schema) (bindings : Bindings) (node : Node) :
    (∀ f, e.translate schema bindings node = .error f → f.rejectsQuery = true ∧
      ∀ fault, f = .inconsistent fault → ∃ o ∈ node.occurrences none, o.Causes fault) ∧
    (∀ f, (node.descend schema e.options.maxDepth).run 0 = .error f → f.IsInvalid) ∧
    ∀ resolved, node.resolve schema e.options.maxDepth = .ok resolved →
      (node.descend schema e.options.maxDepth).run 0 = .ok (resolved, 0) ∧
        (∀ name tag, .identifier name tag ∈ resolved.subnodes → tag.isSome = true) ∧
          ∀ n ∈ resolved.subnodes, n.isComparison = true → n.parts ≠ [] := by
  refine ⟨fun f h => ?_, fun f h => ?_, fun resolved h => ?_⟩
  · rcases explained_of_translate h with ⟨fault, offends, rfl⟩ | ⟨fault, rfl, cause⟩
    · exact ⟨rfl, nofun⟩
    · refine ⟨rfl, fun other same => ?_⟩
      cases same
      exact cause
  · rw [Node.run_descend, Trail.yielding] at h
    cases found : (node.lookups schema e.options.maxDepth 0).fault? with
    | none => simp [found] at h
    | some first =>
      rw [found] at h
      cases h
      exact Node.isInvalid_of_lookups found
  · refine ⟨?_, fun name tag mem => Node.isSome_of_mem_resolved h mem, fun n _ comparison => ?_⟩
    · rw [Node.descend_eq_resolve, h]
      rfl
    · exact Node.parts_ne_nil comparison

/-- Two constants, after a comparison that has a property. -/
theorem translate_errors_constants :
    let named : Node := .comparison .eq (.identifier "name" none) (.constant (.str "a") none)
    let tree : Node := .conjunction .or named (.comparison .eq (.constant (.str "b") none) (.literal "b"))
    let e : Engine := ⟨.ansi, {}⟩
    let schema : Schema := fun _ => some .string
    let fault : ConsistencyFault := .untypedValue (.constant (.str "b") none)
    e.translate schema Bindings.empty tree = .error (.inconsistent fault) ∧
      (∃ o ∈ tree.occurrences none, o.Causes fault) ∧
        ∃ resolved, tree.resolve schema 64 = .ok resolved ∧
          ∀ name tag, .identifier name tag ∈ resolved.subnodes → tag.isSome = true := by
  intro named tree e schema fault
  have failed : e.translate schema Bindings.empty tree = .error (.inconsistent fault) := rfl
  obtain ⟨errors, -, rendered⟩ := translate_errors e schema Bindings.empty tree
  exact ⟨failed, (errors _ failed).2 _ rfl, _, rfl, (rendered _ rfl).2.1⟩

end Engine

end ContentQuery
