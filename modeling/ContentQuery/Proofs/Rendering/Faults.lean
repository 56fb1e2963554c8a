import ContentQuery.Rendering.Script

/-!
# Faults of rendering

Whether and where a script has its first fault does not depend on the context that it starts in. So
the first fault of a tree is a function of the tree alone, with one equation for each kind of node.
-/

namespace ContentQuery

/-- Whether two operands trade places before they are rendered. -/
def Node.turned (l r : Node) : Bool :=
  !l.isReference && r.isReference

theorem Node.not_turned_swap {l r : Node} (h : l.turned r = true) : r.turned l = false := by
  simp only [turned, Bool.and_eq_true] at h
  simp [turned, h.2]

namespace Operator

theorem nullTest?_reverse (op : Operator) : Script.nullTest? op.reverse = Script.nullTest? op := by
  cases op <;> rfl

theorem isNoComparison_reverse (op : Operator) :
    Script.isNoComparison op.reverse = Script.isNoComparison op := by
  cases op <;> rfl

theorem isNoComparison_of_nullTest? {op : Operator} {keyword : String}
    (h : Script.nullTest? op = some keyword) : Script.isNoComparison op = false := by
  cases op <;> first | rfl | cases h

end Operator

namespace Script

variable {env : Setting} {level : Nat} {ctx : Context} {e f : Option QueryError} {op : Operator}
  {left right inner : Continued}

/-- A comparison whose operands stand in their final places. -/
def compared (env : Setting) (level : Nat) (op : Operator) (l r : Node) : Continued := fun ctx =>
  if isNull env r then
    tested op (ofNode env (level + 1) l) (invalid (.nullOperand op) (.comparison op l r)) ctx
  else joined op (ofNode env (level + 1) l) (ofNode env (level + 1) r) ctx

theorem ofNode_comparison (env : Setting) (level : Nat) (op : Operator) (l r : Node) (ctx : Context) :
    ofNode env level (.comparison op l r) ctx =
      nested env level (.comparison op l r) ctx
        (if isNoComparison op then (invalid (.unsupportedOperator op) (.comparison op l r), ctx)
        else if l.turned r then compared env level op.reverse r l ctx
        else compared env level op l r ctx) := by
  rw [ofNode]
  rfl

/-- Reversing an operator changes nothing about its test for NULL. -/
theorem ofNode_lone (env : Setting) (level : Nat) (op : Operator) (side : Side) (x : Node)
    (ctx : Context) :
    ofNode env level (.lone op side x) ctx =
      nested env level (.lone op side x) ctx
        (if isNoComparison op then (invalid (.unsupportedOperator op) (.lone op side x), ctx)
        else tested op (ofNode env (level + 1) x)
          (invalid .missingOperand (Node.lone op side x).normalized) ctx) := by
  rw [ofNode]
  cases side with
  | left => rfl
  | right =>
    cases reference : x.isReference with
    | true => simp [tested, Operator.nullTest?_reverse, Node.normalized, reference]
    | false => simp [Node.normalized, reference]

/-! ### Faults of the parts -/

theorem fault?_ofValue (ctx : Context) (tag : TypeTag) (node : Node) (item : Value → Piece) (v : Value) :
    (ofValue ctx tag node item v).fault? =
      match v.coerce tag with
      | .error mismatch => some (.invalidQuery (.typeMismatch mismatch) node)
      | .ok _ => none := by
  unfold ofValue
  cases v.coerce tag with
  | error mismatch => rfl
  | ok w => exact Trail.fault?_map_ok _

theorem fault?_operand (h : ∀ ctx, (inner ctx).1.fault? = e) : (operand op inner ctx).1.fault? = e := by
  unfold operand
  cases op.operandFunction? with
  | none => exact h ctx
  | some name =>
    simp only [text, List.cons_append, Trail.fault?_ok_cons, Trail.fault?_append, Trail.fault?_nil,
      Option.or_none]
    exact h _

theorem fault?_joined (hl : ∀ ctx, (left ctx).1.fault? = e) (hr : ∀ ctx, (right ctx).1.fault? = f) :
    (joined op left right ctx).1.fault? = e.or f := by
  simp only [joined, text, Trail.fault?_append, Trail.fault?_ok_cons]
  rw [fault?_operand hl, fault?_operand hr]

theorem fault?_tested {fault : Script} (h : ∀ ctx, (inner ctx).1.fault? = e) :
    (tested op inner fault ctx).1.fault? = if (nullTest? op).isSome then e else fault.fault? := by
  unfold tested
  cases nullTest? op with
  | none => rfl
  | some keyword =>
    simp only [text, Trail.fault?_append, Trail.fault?_ok_cons, Trail.fault?_nil, Option.or_none]
    exact h ctx

theorem fault?_nested {node : Node} {below : Script × Context} :
    (nested env level node ctx below).1.fault? =
      if env.options.maxDepth ≤ level then some (.invalidQuery (.tooDeep env.options.maxDepth) node)
      else below.1.fault? := by
  unfold nested
  split <;> rfl

theorem fault?_compared {l r : Node} (hl : ∀ ctx, (ofNode env (level + 1) l ctx).1.fault? = e)
    (hr : ∀ ctx, (ofNode env (level + 1) r ctx).1.fault? = f) :
    (compared env level op l r ctx).1.fault? =
      if isNull env r then
        if (nullTest? op).isSome then e
        else some (.invalidQuery (.nullOperand op) (.comparison op l r))
      else e.or f := by
  unfold compared
  split
  · rw [fault?_tested hl]
    rfl
  · exact fault?_joined hl hr

/-! ### Faults of a tree -/

def firstFault? (env : Setting) (level : Nat) (node : Node) : Option QueryError :=
  (ofNode env level node {}).1.fault?

theorem fault?_ofNode (env : Setting) (level : Nat) (node : Node) (ctx : Context) :
    (ofNode env level node ctx).1.fault? = firstFault? env level node := by
  -- The context of a second part is what the first one leaves, so any two contexts are compared.
  suffices h : ∀ ctx ctx', (ofNode env level node ctx).1.fault? = (ofNode env level node ctx').1.fault? from
    h ctx {}
  clear ctx
  induction node generalizing level with
  | identifier name tag => cases tag <;> exact fun _ _ => rfl
  | constant value tag =>
    cases tag with
    | none => exact fun _ _ => rfl
    | some tag => intro ctx ctx'; simp only [ofNode, fault?_ofValue]
  | bindVariable reference tag =>
    cases tag with
    | none => exact fun _ _ => rfl
    | some tag =>
      intro ctx ctx'
      simp only [ofNode, ofVariable]
      split
      · rfl
      · simp only [fault?_ofValue]
  | literal | function => exact fun _ _ => rfl
  | comparison op l r ihl ihr =>
    intro ctx ctx'
    have hl : ∀ ctx, (ofNode env (level + 1) l ctx).1.fault? = firstFault? env (level + 1) l :=
      fun ctx => ihl (level + 1) ctx {}
    have hr : ∀ ctx, (ofNode env (level + 1) r ctx).1.fault? = firstFault? env (level + 1) r :=
      fun ctx => ihr (level + 1) ctx {}
    rw [ofNode_comparison, ofNode_comparison, fault?_nested, fault?_nested]
    congr 1
    split
    · rfl
    · split
      · rw [fault?_compared hr hl, fault?_compared hr hl]
      · rw [fault?_compared hl hr, fault?_compared hl hr]
  | lone op side x ih =>
    intro ctx ctx'
    have hx : ∀ ctx, (ofNode env (level + 1) x ctx).1.fault? = firstFault? env (level + 1) x :=
      fun ctx => ih (level + 1) ctx {}
    rw [ofNode_lone, ofNode_lone, fault?_nested, fault?_nested]
    congr 1
    split
    · rfl
    · rw [fault?_tested hx, fault?_tested hx]
  | conjunction op l r ihl ihr =>
    intro ctx ctx'
    simp only [ofNode, fault?_nested]
    cases op with
    | not => rfl
    | and | or =>
      simp only [text, List.cons_append, Trail.fault?_append, Trail.fault?_ok_cons, Trail.fault?_nil]
      rw [ihl (level + 1) ctx ctx', ihr (level + 1) _ {}, ihr (level + 1) (ofNode env (level + 1) l ctx').2 {}]
  | negation x ih =>
    intro ctx ctx'
    simp only [ofNode, fault?_nested, text, List.cons_append, Trail.fault?_append, Trail.fault?_ok_cons,
      Trail.fault?_nil]
    rw [ih (level + 1) ctx ctx']

/-! ### Equations -/

theorem firstFault?_constant {value : Value} {tag : Option TypeTag} :
    firstFault? env level (.constant value tag) = none ↔
      ∃ t w, tag = some t ∧ value.coerce t = .ok w := by
  cases tag with
  | none => simp [firstFault?, ofNode]
  | some t =>
    simp only [firstFault?, ofNode, fault?_ofValue]
    cases coerced : value.coerce t <;> simp [coerced]

theorem firstFault?_bindVariable {reference : String} {tag : Option TypeTag} :
    firstFault? env level (.bindVariable reference tag) = none ↔
      ∃ t v w, tag = some t ∧ env.bindings (variableName reference) = some v ∧ v.coerce t = .ok w := by
  cases tag with
  | none => simp [firstFault?, ofNode]
  | some t =>
    simp only [firstFault?, ofNode, ofVariable]
    cases bound : env.bindings (variableName reference) with
    | none => simp [invalid]
    | some v =>
      simp only [fault?_ofValue]
      cases coerced : v.coerce t <;> simp [coerced]

theorem firstFault?_comparison (env : Setting) (level : Nat) (op : Operator) (l r : Node) :
    firstFault? env level (.comparison op l r) =
      if env.options.maxDepth ≤ level then
        some (.invalidQuery (.tooDeep env.options.maxDepth) (.comparison op l r))
      else if isNoComparison op then
        some (.invalidQuery (.unsupportedOperator op) (.comparison op l r))
      else
        let (op, l, r) := if l.turned r then (op.reverse, r, l) else (op, l, r)
        if isNull env r then
          if (nullTest? op).isSome then firstFault? env (level + 1) l
          else some (.invalidQuery (.nullOperand op) (.comparison op l r))
        else (firstFault? env (level + 1) l).or (firstFault? env (level + 1) r) := by
  rw [firstFault?, ofNode_comparison, fault?_nested]
  congr 1
  split
  · rfl
  · split
    · exact fault?_compared (fault?_ofNode env _ r) (fault?_ofNode env _ l)
    · exact fault?_compared (fault?_ofNode env _ l) (fault?_ofNode env _ r)

theorem firstFault?_lone (env : Setting) (level : Nat) (op : Operator) (side : Side) (x : Node) :
    firstFault? env level (.lone op side x) =
      if env.options.maxDepth ≤ level then
        some (.invalidQuery (.tooDeep env.options.maxDepth) (.lone op side x))
      else if isNoComparison op then some (.invalidQuery (.unsupportedOperator op) (.lone op side x))
      else if (nullTest? op).isSome then firstFault? env (level + 1) x
      else some (.invalidQuery .missingOperand (Node.lone op side x).normalized) := by
  rw [firstFault?, ofNode_lone, fault?_nested]
  congr 1
  split
  · rfl
  · exact fault?_tested (fault?_ofNode env _ x)

theorem firstFault?_conjunction (env : Setting) (level : Nat) (op : Connective) (l r : Node) :
    firstFault? env level (.conjunction op l r) =
      if env.options.maxDepth ≤ level then
        some (.invalidQuery (.tooDeep env.options.maxDepth) (.conjunction op l r))
      else if op = .not then some (.inconsistent (.leftOperand op))
      else (firstFault? env (level + 1) l).or (firstFault? env (level + 1) r) := by
  simp only [firstFault?, ofNode, fault?_nested]
  congr 1
  cases op with
  | not => rfl
  | and | or =>
    simp only [text, List.cons_append, Trail.fault?_append, Trail.fault?_ok_cons, Trail.fault?_nil,
      Option.or_none, reduceCtorEq, if_false]
    exact congrArg (Option.or _) (fault?_ofNode env (level + 1) r _)

theorem firstFault?_negation (env : Setting) (level : Nat) (x : Node) :
    firstFault? env level (.negation x) =
      if env.options.maxDepth ≤ level then
        some (.invalidQuery (.tooDeep env.options.maxDepth) (.negation x))
      else firstFault? env (level + 1) x := by
  simp only [firstFault?, ofNode, fault?_nested, text, List.cons_append, Trail.fault?_append,
    Trail.fault?_ok_cons, Trail.fault?_nil, Option.or_none]

end Script

end ContentQuery
