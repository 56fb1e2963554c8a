import ContentQuery.Proofs.Rendering.Faults
import ContentQuery.Proofs.Subtrees

/-!
# Well-formed trees

What a tree needs to be translated. What a constant or variable needs depends on where it stands, so
well-formedness speaks of the sites of a tree.
-/

namespace ContentQuery

/-- A constant or variable of a tree, and where it stands. -/
structure Site where
  operand : Node
  /-- The other operand of the comparison, for an operand of a comparison of two. -/
  opposite : Option Node
  /-- It is the second operand of the comparison as it is rendered. -/
  second : Bool

namespace Node

mutual

/-- The greatest number of conditions on a path from the root to a leaf. -/
def height : Node → Nat
  | function _ params => heightAll params
  | comparison _ l r => max (height l) (height r) + 1
  | lone _ _ x => height x + 1
  | conjunction _ l r => max (height l) (height r) + 1
  | negation x => height x + 1
  | identifier .. | constant .. | bindVariable .. | literal _ => 0

def heightAll : List Node → Nat
  | [] => 0
  | node :: rest => max (height node) (heightAll rest)

end

mutual

/-- The constants and variables of a tree, the tree itself standing where it is said to stand. -/
def sites (opposite : Option Node) (second : Bool) : Node → List Site
  | constant value tag => [⟨constant value tag, opposite, second⟩]
  | bindVariable reference tag => [⟨bindVariable reference tag, opposite, second⟩]
  | function _ params => sitesAll params
  | comparison _ l r => sites (some r) (l.turned r) l ++ sites (some l) (!l.turned r) r
  | lone _ _ x => sites none false x
  | conjunction _ l r => sites none false l ++ sites none false r
  | negation x => sites none false x
  | identifier .. | literal _ => []

def sitesAll : List Node → List Site
  | [] => []
  | node :: rest => sites none false node ++ sitesAll rest

end

end Node

namespace Site

def propertyTag? (schema : Schema) : Option Node → Option TypeTag
  | some (.identifier name _) => schema name
  | _ => none

/-- The type of the operand: its own, or that of the property opposite. -/
def tag? (schema : Schema) (s : Site) : Option TypeTag :=
  s.operand.tag?.or (propertyTag? schema s.opposite)

def value? (bindings : Bindings) (s : Site) : Option Value :=
  match s.operand with
  | .constant value _ => some value
  | .bindVariable reference _ => bindings (variableName reference)
  | _ => none

/-- The operand is not rendered, because a comparison with it is a test for NULL. -/
def isNullTest (env : Setting) (s : Site) : Bool :=
  s.second && Script.isNull env s.operand

/-- The operand has a type and a value that the type admits. -/
def Fits (env : Setting) (schema : Schema) (s : Site) : Prop :=
  ∃ tag v w, s.tag? schema = some tag ∧ s.value? env.bindings = some v ∧ v.coerce tag = .ok w

end Site

structure WellFormed (env : Setting) (schema : Schema) (node : Node) : Prop where
  noFunction : ∀ name params, .function name params ∉ node.subnodes
  shallow : node.height ≤ env.options.maxDepth
  known : ∀ name tag, .identifier name tag ∈ node.subnodes → (schema name).isSome
  comparing : ∀ op l r, .comparison op l r ∈ node.subnodes → op ∉ [.and, .or, .not, .func]
  comparingOne : ∀ op side x, .lone op side x ∈ node.subnodes → op ∉ [.and, .or, .not, .func]
  noLeftOfNot : ∀ l r, .conjunction .not l r ∉ node.subnodes
  bound : ∀ name ∈ node.variableNames, (env.bindings name).isSome
  testingOne : ∀ op side x, .lone op side x ∈ node.subnodes → op = .eq ∨ op = .ne
  testingNull : ∀ op l r, .comparison op l r ∈ node.subnodes →
    Script.isNull env (if l.turned r then l else r) = true → op = .eq ∨ op = .ne
  fitting : ∀ s ∈ node.sites none false, s.isNullTest env = true ∨ s.Fits env schema

/-! ### Well-formedness node by node -/

def Node.IsAdmitted (env : Setting) (schema : Schema) : Node → Prop
  | .function .. => False
  | .identifier name _ => (schema name).isSome
  | .bindVariable reference _ => (env.bindings (variableName reference)).isSome
  | .comparison op l r => Script.isNoComparison op = false ∧
      (Script.isNull env (if l.turned r then l else r) = true → op = .eq ∨ op = .ne)
  | .lone op _ _ => op = .eq ∨ op = .ne
  | .conjunction op _ _ => op ≠ .not
  | .constant .. | .literal _ | .negation _ => True

structure Admits (env : Setting) (schema : Schema) (level : Nat) (opposite : Option Node)
    (second : Bool) (node : Node) : Prop where
  admitted : ∀ n ∈ node.subnodes, n.IsAdmitted env schema
  shallow : level + node.height ≤ env.options.maxDepth
  fitting : ∀ s ∈ node.sites opposite second, s.isNullTest env = true ∨ s.Fits env schema

variable {env : Setting} {schema : Schema} {level : Nat} {opposite : Option Node} {second : Bool}
  {op : Operator} {l r x node : Node}

theorem isNoComparison_eq_false_iff :
    Script.isNoComparison op = false ↔ op ∉ [Operator.and, .or, .not, .func] := by
  cases op <;> decide

theorem nullTest?_isSome_iff : (Script.nullTest? op).isSome = true ↔ op = .eq ∨ op = .ne := by
  cases op <;> simp [Script.nullTest?]

theorem isEquality_reverse : op.reverse = .eq ∨ op.reverse = .ne ↔ op = .eq ∨ op = .ne := by
  cases op <;> simp [Operator.reverse]

theorem mem_variableNames {name : String} :
    name ∈ node.variableNames ↔ ∃ reference tag, Node.bindVariable reference tag ∈ node.subnodes ∧
      variableName reference = name := by
  simp only [Node.variableNames, List.mem_filterMap]
  constructor
  · rintro ⟨n, mem, eq⟩
    cases n with
    | bindVariable reference tag => exact ⟨reference, tag, mem, Option.some.inj eq⟩
    | _ => cases eq
  · rintro ⟨reference, tag, mem, eq⟩
    exact ⟨_, mem, congrArg some eq⟩

theorem wellFormed_iff_admits : WellFormed env schema node ↔ Admits env schema 0 none false node := by
  constructor
  · intro h
    refine ⟨fun n mem => ?_, by simpa using h.shallow, h.fitting⟩
    cases n with
    | identifier name tag => exact h.known name tag mem
    | bindVariable reference tag => exact h.bound _ (mem_variableNames.mpr ⟨reference, tag, mem, rfl⟩)
    | function name params => exact h.noFunction name params mem
    | comparison op l r =>
      exact ⟨isNoComparison_eq_false_iff.mpr (h.comparing op l r mem), h.testingNull op l r mem⟩
    | lone op side x => exact h.testingOne op side x mem
    | conjunction op l r =>
      rintro rfl
      exact h.noLeftOfNot l r mem
    | constant | literal | negation => trivial
  · intro h
    exact {
      noFunction := fun _ _ mem => h.admitted _ mem
      shallow := by simpa using h.shallow
      known := fun _ _ mem => h.admitted _ mem
      comparing := fun _ _ _ mem => isNoComparison_eq_false_iff.mp (h.admitted _ mem).1
      comparingOne := fun _ _ _ mem => by
        rcases h.admitted _ mem with rfl | rfl <;> decide
      noLeftOfNot := fun _ _ mem => h.admitted _ mem rfl
      bound := fun _ mem => by
        obtain ⟨reference, tag, part, rfl⟩ := mem_variableNames.mp mem
        exact h.admitted _ part
      testingOne := fun _ _ _ mem => h.admitted _ mem
      testingNull := fun _ _ _ mem => (h.admitted _ mem).2
      fitting := h.fitting }

namespace Admits

theorem room (h : Admits env schema level opposite second node) : level ≤ env.options.maxDepth :=
  Nat.le_trans (Nat.le_add_right ..) h.shallow

theorem two_iff {o₁ o₂ : Option Node} {s₁ s₂ : Bool}
    (parts : node.subnodes = node :: (l.subnodes ++ r.subnodes))
    (above : node.height = max l.height r.height + 1)
    (places : node.sites opposite second = l.sites o₁ s₁ ++ r.sites o₂ s₂) :
    Admits env schema level opposite second node ↔ node.IsAdmitted env schema ∧
      Admits env schema (level + 1) o₁ s₁ l ∧ Admits env schema (level + 1) o₂ s₂ r := by
  constructor
  · rintro ⟨admitted, shallow, fitting⟩
    rw [parts, List.forall_mem_cons, List.forall_mem_append] at admitted
    rw [places, List.forall_mem_append] at fitting
    exact ⟨admitted.1, ⟨admitted.2.1, by omega, fitting.1⟩, ⟨admitted.2.2, by omega, fitting.2⟩⟩
  · rintro ⟨admitted, left, right⟩
    have shallowLeft := left.shallow
    have shallowRight := right.shallow
    refine ⟨?_, by omega, ?_⟩
    · rw [parts, List.forall_mem_cons, List.forall_mem_append]
      exact ⟨admitted, left.admitted, right.admitted⟩
    · rw [places, List.forall_mem_append]
      exact ⟨left.fitting, right.fitting⟩

theorem one_iff (parts : node.subnodes = node :: x.subnodes) (above : node.height = x.height + 1)
    (places : node.sites opposite second = x.sites none false) :
    Admits env schema level opposite second node ↔
      node.IsAdmitted env schema ∧ Admits env schema (level + 1) none false x := by
  constructor
  · rintro ⟨admitted, shallow, fitting⟩
    rw [parts, List.forall_mem_cons] at admitted
    rw [places] at fitting
    exact ⟨admitted.1, admitted.2, by omega, fitting⟩
  · rintro ⟨admitted, inner⟩
    have shallow := inner.shallow
    refine ⟨?_, by omega, by rw [places]; exact inner.fitting⟩
    rw [parts, List.forall_mem_cons]
    exact ⟨admitted, inner.admitted⟩

theorem comparison_iff : Admits env schema level opposite second (.comparison op l r) ↔
    (Node.comparison op l r).IsAdmitted env schema ∧
      Admits env schema (level + 1) (some r) (l.turned r) l ∧
        Admits env schema (level + 1) (some l) (!l.turned r) r :=
  two_iff rfl rfl rfl

theorem lone_iff {side : Side} : Admits env schema level opposite second (.lone op side x) ↔
    (op = .eq ∨ op = .ne) ∧ Admits env schema (level + 1) none false x :=
  one_iff rfl rfl rfl

theorem conjunction_iff {op : Connective} :
    Admits env schema level opposite second (.conjunction op l r) ↔
      op ≠ .not ∧ Admits env schema (level + 1) none false l ∧
        Admits env schema (level + 1) none false r :=
  two_iff rfl rfl rfl

theorem negation_iff : Admits env schema level opposite second (.negation x) ↔
    True ∧ Admits env schema (level + 1) none false x :=
  one_iff rfl rfl rfl

theorem leaf_iff (parts : node.subnodes = [node]) (flat : node.height = 0)
    (room : level ≤ env.options.maxDepth) :
    Admits env schema level opposite second node ↔ node.IsAdmitted env schema ∧
      ∀ s ∈ node.sites opposite second, s.isNullTest env = true ∨ s.Fits env schema := by
  constructor
  · rintro ⟨admitted, -, fitting⟩
    exact ⟨admitted node (by simp [parts]), fitting⟩
  · rintro ⟨admitted, fitting⟩
    exact ⟨by simpa [parts] using admitted, by omega, fitting⟩

theorem operand_iff (parts : x.subnodes = [x]) (flat : x.height = 0)
    (place : x.sites opposite second = [⟨x, opposite, second⟩]) (room : level ≤ env.options.maxDepth) :
    Admits env schema level opposite second x ↔ x.IsAdmitted env schema ∧
      ((second = true ∧ Script.isNull env x = true) ∨ Site.Fits env schema ⟨x, opposite, false⟩) := by
  rw [leaf_iff parts flat room, place, List.forall_mem_singleton, Site.isNullTest, Bool.and_eq_true]
  rfl

theorem congr_sites (same : x.sites opposite true = x.sites opposite false) :
    Admits env schema level opposite true x ↔ Admits env schema level opposite false x := by
  constructor
  · rintro ⟨admitted, shallow, fitting⟩
    exact ⟨admitted, shallow, same ▸ fitting⟩
  · rintro ⟨admitted, shallow, fitting⟩
    exact ⟨admitted, shallow, same ▸ fitting⟩

theorem isAdmitted_of_isNull (null : Script.isNull env x = true) : x.IsAdmitted env schema := by
  cases x with
  | constant => trivial
  | bindVariable reference tag =>
    cases bound : env.bindings (variableName reference) with
    | none => simp [Script.isNull, bound] at null
    | some value => simp [Node.IsAdmitted, bound]
  | _ => cases null

/-- The second operand of a comparison may also be NULL. -/
theorem second_iff (room : level ≤ env.options.maxDepth) :
    Admits env schema level opposite true x ↔
      Script.isNull env x = true ∨ Admits env schema level opposite false x := by
  have value (parts : x.subnodes = [x]) (flat : x.height = 0)
      (place : ∀ second, x.sites opposite second = [⟨x, opposite, second⟩]) :
      Admits env schema level opposite true x ↔
        Script.isNull env x = true ∨ Admits env schema level opposite false x := by
    rw [operand_iff parts flat (place true) room, operand_iff parts flat (place false) room]
    simp only [true_and, Bool.false_eq_true, false_and, false_or]
    rw [and_or_left, and_iff_right_of_imp isAdmitted_of_isNull]
  cases x with
  | constant | bindVariable => exact value rfl rfl fun _ => rfl
  | _ =>
    refine (congr_sites ?_).trans ?_
    · rfl
    · simp [Script.isNull]

end Admits

end ContentQuery
