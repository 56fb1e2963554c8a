import ContentQuery.Proofs.Nulls
import ContentQuery.Proofs.Offences

/-!
# The order of operands

Rendering puts the reference of a comparison on the left, so a tree may as well have it there from the start:
it is resolved to the same types, and rendered alike. Which order the operands of a comparison have does not
matter anywhere in a tree.
-/

namespace ContentQuery

open Script

variable {env : Setting} {schema : Schema} {limit level : Nat} {ctx ctx' : Context} {op : Operator}
  {node x y z l r l' r' : Node} {pieces : List Piece} {b : Bindings} {out : Rendered} {e : Engine}

theorem Operator.reverse_reverse (op : Operator) : op.reverse.reverse = op := by
  cases op <;> rfl

namespace Node

/-! ### Trees in order -/

mutual

/-- The tree with every comparison in it normalized. -/
def ordered : Node → Node
  | function name params => function name (orderedAll params)
  | comparison op l r => (comparison op (ordered l) (ordered r)).normalized
  | lone op side x => (lone op side (ordered x)).normalized
  | conjunction op l r => conjunction op (ordered l) (ordered r)
  | negation x => negation (ordered x)
  | node => node

def orderedAll : List Node → List Node
  | [] => []
  | node :: rest => ordered node :: orderedAll rest

end

theorem orderedAll_eq_map (nodes : List Node) : orderedAll nodes = nodes.map ordered := by
  induction nodes with
  | nil => rfl
  | cons node rest ih => rw [orderedAll, ih, List.map_cons]

/-- A function that does not look at the order of operands. -/
theorem apply_normalized {β : Type} {f : Node → β}
    (atComparison : ∀ op l r, l.turned r = true → f (comparison op.reverse r l) = f (comparison op l r))
    (atLone : ∀ op x, f (lone op.reverse .left x) = f (lone op .right x)) (node : Node) :
    f node.normalized = f node := by
  cases node with
  | comparison op l r =>
    rw [normalized_comparison]
    split
    · exact atComparison op l r ‹_›
    · rfl
  | lone op side x =>
    cases side with
    | left => rfl
    | right =>
      rw [normalized]
      split
      · exact atLone op x
      · rfl
  | _ => rfl

theorem isReference_normalized (node : Node) : node.normalized.isReference = node.isReference :=
  apply_normalized (fun _ _ _ _ => rfl) (fun _ _ => rfl) node

theorem isNull_normalized (node : Node) : isNull env node.normalized = isNull env node :=
  apply_normalized (fun _ _ _ _ => rfl) (fun _ _ => rfl) node

theorem isReference_ordered (node : Node) : node.ordered.isReference = node.isReference := by
  cases node with
  | comparison | lone => exact isReference_normalized _
  | _ => rfl

/-- The order that the operands of a comparison come in is lost, if one of them is a reference. -/
theorem ordered_swap (op : Operator) (one : l.isReference ≠ r.isReference) :
    (comparison op.reverse r l).ordered = (comparison op l r).ordered := by
  simp only [ordered, normalized_comparison, turned, isReference_ordered]
  cases left : l.isReference with
  | false =>
    have right : r.isReference = true := by simpa [left] using one
    simp only [right, Bool.not_true, Bool.not_false, Bool.and_self, Bool.false_eq_true, if_true, if_false]
  | true =>
    have right : r.isReference = false := by simpa [left] using one
    simp only [right, Bool.not_true, Bool.not_false, Bool.and_self, Bool.false_eq_true, if_true, if_false,
      Operator.reverse_reverse]

/-! ### Resolution -/

theorem propertyTag?_ordered (node : Node) : node.ordered.propertyTag? = node.propertyTag? := by
  cases node with
  | comparison | lone => exact apply_normalized (fun _ _ _ _ => rfl) (fun _ _ => rfl) _
  | _ => rfl

theorem adopt_normalized (tag : Option TypeTag) (condition : node.isCondition = true) :
    node.normalized.adopt tag = node.normalized := by
  refine adopt_of_isCondition tag (Eq.trans ?_ condition)
  exact apply_normalized (fun _ _ _ _ => rfl) (fun _ _ => rfl) node

theorem adopt_ordered (tag : Option TypeTag) (node : Node) :
    (node.adopt tag).ordered = node.ordered.adopt tag := by
  cases node with
  | constant value old => cases old <;> rfl
  | bindVariable reference old => cases old <;> rfl
  | comparison | lone => exact (adopt_normalized tag rfl).symm
  | _ => rfl

theorem typed_normalized (schema : Schema) (node : Node) :
    node.normalized.typed schema = (node.typed schema).normalized := by
  cases node with
  | identifier name tag => cases tag <;> rfl
  | comparison op l r =>
    have trade : (l.given schema (some r)).turned (r.given schema (some l)) = l.turned r := by
      simp only [turned, isReference_given]
    change _ = (comparison op (l.given schema (some r)) (r.given schema (some l))).normalized
    rw [normalized_comparison, normalized_comparison, trade]
    split <;> rfl
  | lone op side x =>
    cases side with
    | left => rfl
    | right =>
      have reference : (x.typed schema).isReference = x.isReference := by
        rw [← given_none, isReference_given]
      simp only [normalized, Node.typed, reference]
      split <;> rfl
  | _ => rfl

/-- Order makes no difference to the types that resolution gives. -/
theorem typed_ordered (schema : Schema) (node : Node) :
    node.ordered.typed schema = (node.typed schema).ordered := by
  induction node with
  | identifier name tag => cases tag <;> rfl
  | constant | bindVariable | literal => rfl
  | function name params ih =>
    simp only [ordered, Node.typed, typedAll_eq_map, orderedAll_eq_map, List.map_map]
    exact congrArg (function name) (List.map_congr_left ih)
  | comparison op l r ihl ihr =>
    rw [ordered, typed_normalized]
    simp only [Node.typed, ordered, ihl, ihr, propertyTag?_ordered, adopt_ordered]
  | lone op side x ih =>
    rw [ordered, typed_normalized]
    simp only [Node.typed, ordered, ih]
  | conjunction op l r ihl ihr => simp only [Node.typed, ordered, ihl, ihr]
  | negation x ih => simp only [Node.typed, ordered, ih]

theorem fault?_lookups_normalized (node : Node) :
    (node.normalized.lookups schema limit level).fault? = none ↔
      (node.lookups schema limit level).fault? = none := by
  refine iff_of_eq (apply_normalized (f := fun node => (node.lookups schema limit level).fault? = none)
    (fun op l r _ => ?_) (fun op x => ?_) node)
  · simp only [lookups, fault?_unlessDeep_eq_none_iff, Trail.fault?_append_eq_none]
    rw [@and_comm ((l.lookups schema limit (level + 1)).fault? = none)]
  · simp only [lookups, fault?_unlessDeep_eq_none_iff]

theorem fault?_lookups_ordered (node : Node) :
    (node.ordered.lookups schema limit level).fault? = none ↔
      (node.lookups schema limit level).fault? = none := by
  induction node generalizing level with
  | identifier | constant | bindVariable | literal => rfl
  | function name params ih =>
    simp only [ordered, lookups, orderedAll_eq_map, fault?_unlessDeep_eq_none_iff,
      fault?_lookupsAll_eq_none_iff, List.forall_mem_map]
    exact and_congr_right fun _ => forall₂_congr fun p mem => ih p mem
  | comparison op l r ihl ihr =>
    rw [ordered, fault?_lookups_normalized]
    simp only [lookups, fault?_unlessDeep_eq_none_iff, Trail.fault?_append_eq_none, ihl, ihr]
  | lone op side x ih =>
    rw [ordered, fault?_lookups_normalized]
    simp only [lookups, fault?_unlessDeep_eq_none_iff, ih]
  | conjunction op l r ihl ihr =>
    simp only [ordered, lookups, fault?_unlessDeep_eq_none_iff, Trail.fault?_append_eq_none, ihl, ihr]
  | negation x ih => simp only [ordered, lookups, fault?_unlessDeep_eq_none_iff, ih]

end Node

/-! ### Rendering -/

/-- Nothing that rendering looks at tells one node from the other. -/
structure Alike (env : Setting) (x y : Node) : Prop where
  isReference : x.isReference = y.isReference
  isNull : isNull env x = isNull env y
  renders : ∀ level ctx pieces ctx',
    Renders env level ctx x pieces ctx' ↔ Renders env level ctx y pieces ctx'

namespace Alike

theorem refl (x : Node) : Alike env x x := ⟨rfl, rfl, fun _ _ _ _ => .rfl⟩

theorem symm (h : Alike env x y) : Alike env y x :=
  ⟨h.isReference.symm, h.isNull.symm, fun level ctx pieces ctx' => (h.renders level ctx pieces ctx').symm⟩

theorem trans (h : Alike env x y) (h' : Alike env y z) : Alike env x z :=
  ⟨h.isReference.trans h'.isReference, h.isNull.trans h'.isNull,
    fun level ctx pieces ctx' => (h.renders level ctx pieces ctx').trans (h'.renders level ctx pieces ctx')⟩

theorem turned (left : Alike env l l') (right : Alike env r r') : l.turned r = l'.turned r' := by
  simp only [Node.turned, left.isReference, right.isReference]

theorem renders_straight (left : Alike env l l') (right : Alike env r r') (straight : l.turned r = false)
    (h : Renders env level ctx (.comparison op l r) pieces ctx') :
    Renders env level ctx (.comparison op l' r') pieces ctx' := by
  have straight' : l'.turned r' = false := (left.turned right).symm.trans straight
  cases h with
  | tested room _ null test inner =>
    exact .tested room straight' (right.isNull.symm.trans null) test ((left.renders ..).mp inner)
  | joined room compares _ notNull first second =>
    exact .joined room compares straight' (right.isNull.symm.trans notNull) ((left.renders ..).mp first)
      ((right.renders ..).mp second)
  | turned trade => simp [straight] at trade

theorem renders_comparison (left : Alike env l l') (right : Alike env r r')
    (h : Renders env level ctx (.comparison op l r) pieces ctx') :
    Renders env level ctx (.comparison op l' r') pieces ctx' := by
  cases trade : l.turned r with
  | false => exact renders_straight left right trade h
  | true =>
    cases h with
    | tested _ straight | joined _ _ straight => simp [straight] at trade
    | turned _ swapped =>
      refine .turned ((left.turned right).symm.trans trade) ?_
      exact renders_straight right left (Node.not_turned_swap trade) swapped

theorem comparison (op : Operator) (left : Alike env l l') (right : Alike env r r') :
    Alike env (.comparison op l r) (.comparison op l' r') :=
  ⟨rfl, rfl, fun _ _ _ _ => ⟨renders_comparison left right, renders_comparison left.symm right.symm⟩⟩

theorem renders_lone {side : Side} (same : Alike env x y)
    (h : Renders env level ctx (.lone op side x) pieces ctx') :
    Renders env level ctx (.lone op side y) pieces ctx' := by
  cases h with
  | lone room test inner => exact .lone room test ((same.renders ..).mp inner)

theorem lone (op : Operator) (side : Side) (h : Alike env x y) :
    Alike env (.lone op side x) (.lone op side y) :=
  ⟨rfl, rfl, fun _ _ _ _ => ⟨renders_lone h, renders_lone h.symm⟩⟩

theorem renders_conjunction {op : Connective} (left : Alike env l l') (right : Alike env r r')
    (h : Renders env level ctx (.conjunction op l r) pieces ctx') :
    Renders env level ctx (.conjunction op l' r') pieces ctx' := by
  cases h with
  | conjunction room joins first second =>
    exact .conjunction room joins ((left.renders ..).mp first) ((right.renders ..).mp second)

theorem conjunction (op : Connective) (left : Alike env l l') (right : Alike env r r') :
    Alike env (.conjunction op l r) (.conjunction op l' r') :=
  ⟨rfl, rfl, fun _ _ _ _ => ⟨renders_conjunction left right, renders_conjunction left.symm right.symm⟩⟩

theorem renders_negation (same : Alike env x y) (h : Renders env level ctx (.negation x) pieces ctx') :
    Renders env level ctx (.negation y) pieces ctx' := by
  cases h with
  | negation room inner => exact .negation room ((same.renders ..).mp inner)

theorem negation (h : Alike env x y) : Alike env (.negation x) (.negation y) :=
  ⟨rfl, rfl, fun _ _ _ _ => ⟨renders_negation h, renders_negation h.symm⟩⟩

theorem renders_normalized (node : Node) :
    Renders env level ctx node.normalized pieces ctx' ↔ Renders env level ctx node pieces ctx' := by
  refine iff_of_eq (Node.apply_normalized (f := fun node => Renders env level ctx node pieces ctx')
    (fun op l r trade => propext ⟨.turned trade, fun h => ?_⟩) (fun op x => propext ⟨?_, ?_⟩) node)
  · cases h with
    | tested _ straight | joined _ _ straight => simp [straight] at trade
    | turned _ swapped => exact swapped
  · rintro ⟨⟩
    rename_i room test inner
    exact .lone room ((Operator.nullTest?_reverse op).symm.trans test) inner
  · rintro ⟨⟩
    rename_i room test inner
    exact .lone room ((Operator.nullTest?_reverse op).trans test) inner

theorem normalized (node : Node) : Alike env node.normalized node :=
  ⟨node.isReference_normalized, node.isNull_normalized, fun _ _ _ _ => renders_normalized node⟩

theorem ordered (node : Node) : Alike env node.ordered node := by
  induction node with
  | identifier | constant | bindVariable | literal => exact .refl _
  | function name params => exact ⟨rfl, rfl, fun _ _ _ _ => ⟨nofun, nofun⟩⟩
  | comparison op l r ihl ihr => exact (normalized _).trans (comparison op ihl ihr)
  | lone op side x ih => exact (normalized _).trans (lone op side ih)
  | conjunction op l r ihl ihr => exact conjunction op ihl ihr
  | negation x ih => exact negation ih

end Alike

/-! ### Calls -/

def Node.callName? : Node → Option String
  | function name _ => some name
  | _ => none

theorem Node.untyped_callName? : UntypedReading callName? where
  typed schema node := by
    cases node with
    | identifier name tag => cases tag <;> rfl
    | _ => rfl
  adopt := apply_adopt (fun _ _ _ => rfl) (fun _ _ _ => rfl)

theorem Node.isReference_of_callName? (h : node.callName? = none) : node.isReference = node.isProperty := by
  cases node <;> first | rfl | cases h

/-- A tree that can be rendered holds no function, not even beside NULL. -/
theorem Renders.callName?_eq_none (h : Renders env level ctx node pieces ctx') :
    ∀ n ∈ node.subnodes, n.callName? = none := by
  induction h with
  | column | fragment | constant | bindVariable => simp [Node.subnodes, Node.callName?]
  | @tested _ _ _ _ l r _ _ _ _ null _ _ ih =>
    rw [Node.forall_mem_subnodes_comparison]
    refine ⟨rfl, ih, ?_⟩
    cases r with
    | constant | bindVariable => simp [Node.subnodes, Node.callName?]
    | _ => cases null
  | joined _ _ _ _ _ _ ihl ihr =>
    rw [Node.forall_mem_subnodes_comparison]
    exact ⟨rfl, ihl, ihr⟩
  | turned _ _ ih =>
    rw [Node.forall_mem_subnodes_comparison] at ih ⊢
    exact ⟨rfl, ih.2.2, ih.2.1⟩
  | lone _ _ _ ih =>
    rw [Node.forall_mem_subnodes_lone]
    exact ⟨rfl, ih⟩
  | conjunction _ _ _ _ ihl ihr =>
    rw [Node.forall_mem_subnodes_conjunction]
    exact ⟨rfl, ihl, ihr⟩
  | negation _ _ ih =>
    rw [Node.forall_mem_subnodes_negation]
    exact ⟨rfl, ih⟩

/-! ### Places in a tree -/

/-- A condition or function without one of its parts. -/
inductive Surrounding where
  | condition (f : Frame)
  | call (name : String) (before after : List Node)

namespace Surrounding

def fill : Surrounding → Node → Node
  | condition f, x => f.fill x
  | call name before after, x => .function name (before ++ x :: after)

/-- The tree with a part at a place in it. -/
def plug (path : List Surrounding) (part : Node) : Node :=
  path.foldr fill part

theorem mem_parts_fill (s : Surrounding) (x : Node) : x ∈ (s.fill x).parts := by
  cases s with
  | condition f => cases f <;> simp [fill, Frame.fill, Node.parts]
  | call name before after => simp [fill, Node.parts]

theorem mem_subnodes_plug (path : List Surrounding) {n : Node} (mem : n ∈ x.subnodes) :
    n ∈ (plug path x).subnodes := by
  induction path with
  | nil => exact mem
  | cons s path ih => exact Node.mem_subnodes_of_part (s.mem_parts_fill _) ih

theorem ordered_fill (s : Surrounding) (same : x.ordered = y.ordered) :
    (s.fill x).ordered = (s.fill y).ordered := by
  cases s with
  | condition f => cases f <;> simp only [fill, Frame.fill, Node.ordered, same]
  | call name before after =>
    simp only [fill, Node.ordered, Node.orderedAll_eq_map, List.map_append, List.map_cons, same]

theorem ordered_plug (path : List Surrounding) (same : x.ordered = y.ordered) :
    (plug path x).ordered = (plug path y).ordered := by
  induction path with
  | nil => exact same
  | cons s path ih => exact s.ordered_fill ih

end Surrounding

/-! ### Translation -/

namespace Engine

theorem translate_ordered :
    e.translate schema b node.ordered = .ok out ↔ e.translate schema b node = .ok out := by
  simp only [translate_eq_ok_iff, Node.fault?_lookups_ordered, Node.typed_ordered,
    (Alike.ordered (node.typed schema)).renders]

theorem callName?_eq_none_of_translate (h : e.translate schema b node = .ok out) :
    ∀ n ∈ node.subnodes, n.callName? = none := by
  obtain ⟨pieces, ctx, follows, -⟩ := renders_of_translate h
  have typed := List.filterMap_eq_nil_iff.mpr follows.callName?_eq_none
  rw [Node.untyped_callName?.filterMap_typed schema node] at typed
  exact List.filterMap_eq_nil_iff.mp typed

/-- A tree in order is translated like the tree itself: to the same query, or not at all. And the operands of
a comparison may trade places wherever it stands, if one of them is a property. -/
theorem translate_operand_order (e : Engine) (schema : Schema) (b : Bindings) :
    (∀ node out, e.translate schema b node.ordered = .ok out ↔ e.translate schema b node = .ok out) ∧
    ∀ path op (l r : Node), l.isProperty ≠ r.isProperty → ∀ out,
      e.translate schema b (Surrounding.plug path (.comparison op l r)) = .ok out ↔
        e.translate schema b (Surrounding.plug path (.comparison op.reverse r l)) = .ok out := by
  refine ⟨fun node out => translate_ordered, fun path op l r one out => ?_⟩
  by_cases calls : l.callName? = none ∧ r.callName? = none
  · have references : l.isReference ≠ r.isReference := by
      rwa [Node.isReference_of_callName? calls.1, Node.isReference_of_callName? calls.2]
    have same := Surrounding.ordered_plug path (Node.ordered_swap op references)
    rw [← translate_ordered, ← same, translate_ordered]
  · -- A function that stands opposite a property is rendered on neither side of it.
    have stuck {op' : Operator} {front back : Node} (h : e.translate schema b
        (Surrounding.plug path (.comparison op' front back)) = .ok out) :
        front.callName? = none ∧ back.callName? = none := by
      have parts := fun n mem => callName?_eq_none_of_translate h n (Surrounding.mem_subnodes_plug path mem)
      rw [Node.forall_mem_subnodes_comparison] at parts
      exact ⟨parts.2.1 _ front.mem_subnodes_self, parts.2.2 _ back.mem_subnodes_self⟩
    exact iff_of_false (fun h => calls (stuck h)) (fun h => calls (stuck h).symm)

/-- A variable bound to NULL in front of its property, and behind it, in a negation. -/
theorem translate_operand_order_null :
    let e : Engine := ⟨.ansi, {}⟩
    let schema : Schema := fun _ => some .string
    let b : Bindings := fun _ => some .null
    let age : Node := .identifier "age" none
    let limit : Node := .bindVariable ":limit" none
    let path : List Surrounding :=
      [.condition (.right .and (.comparison .lt (.constant (.str "5") none) age)), .condition .negated]
    limit.isProperty ≠ age.isProperty ∧
      ∃ out, e.translate schema b (Surrounding.plug path (.comparison .ne limit age)) = .ok out ∧
        e.translate schema b (Surrounding.plug path (.comparison .ne age limit)) = .ok out ∧
          out.sql = "(age > '5') AND (NOT (age IS NOT NULL))" := by
  intro e schema b age limit path
  have one : limit.isProperty ≠ age.isProperty := Bool.false_ne_true
  obtain ⟨out, h, sql⟩ : ∃ out,
      e.translate schema b (Surrounding.plug path (.comparison .ne limit age)) = .ok out ∧
        out.sql = "(age > '5') AND (NOT (age IS NOT NULL))" := ⟨_, rfl, by decide⟩
  have swapped := (translate_operand_order e schema b).2 path .ne limit age one out
  exact ⟨one, out, h, swapped.mp h, sql⟩

end Engine

end ContentQuery
