import ContentQuery.Proofs.Acceptance

/-!
# Resolved trees

Resolution changes nothing of a tree but its types, and gives a type only where there was none: to a
property the type that the schema has for it, and to a constant or variable the type of the property
opposite. So a resolved tree is resolved again by any schema, to itself.
-/

namespace ContentQuery

variable {schema : Schema} {limit level : Nat} {opposite : Option Node} {node l r x y : Node}

/-! ### Occurrences -/

/-- A node where it stands in a tree: with the other operand of the comparison of two, if it is an operand
of one. -/
structure Occurrence where
  node : Node
  opposite : Option Node

namespace Node

mutual

def occurrences (opposite : Option Node) : Node → List Occurrence
  | function name params => ⟨function name params, opposite⟩ :: occurrencesAll params
  | comparison op l r =>
    ⟨comparison op l r, opposite⟩ :: (occurrences (some r) l ++ occurrences (some l) r)
  | lone op side x => ⟨lone op side x, opposite⟩ :: occurrences none x
  | conjunction op l r =>
    ⟨conjunction op l r, opposite⟩ :: (occurrences none l ++ occurrences none r)
  | negation x => ⟨negation x, opposite⟩ :: occurrences none x
  | node => [⟨node, opposite⟩]

def occurrencesAll : List Node → List Occurrence
  | [] => []
  | node :: rest => occurrences none node ++ occurrencesAll rest

end

theorem occurrencesAll_eq_flatMap (nodes : List Node) :
    occurrencesAll nodes = nodes.flatMap (occurrences none) := by
  induction nodes with
  | nil => rfl
  | cons node rest ih => rw [occurrencesAll, ih, List.flatMap_cons]

def propertyType? (schema : Schema) : Node → Option TypeTag
  | identifier name tag => tag.or (schema name)
  | _ => none

end Node

/-- The type that a node should have after resolution: the one that it had, or else that of the schema
for a property, and that of the property opposite for a constant or variable. -/
def Occurrence.tag? (schema : Schema) (o : Occurrence) : Option TypeTag :=
  match o.node with
  | .identifier name tag => tag.or (schema name)
  | .constant _ tag | .bindVariable _ tag => tag.or (o.opposite.bind (Node.propertyType? schema))
  | _ => none

/-! ### Trees without types -/

namespace Node

mutual

def untyped : Node → Node
  | identifier name _ => identifier name none
  | constant value _ => constant value none
  | bindVariable reference _ => bindVariable reference none
  | literal text => literal text
  | function name params => function name (untypedAll params)
  | comparison op l r => comparison op (untyped l) (untyped r)
  | lone op side x => lone op side (untyped x)
  | conjunction op l r => conjunction op (untyped l) (untyped r)
  | negation x => negation (untyped x)

def untypedAll : List Node → List Node
  | [] => []
  | node :: rest => untyped node :: untypedAll rest

end

theorem untypedAll_eq_map (nodes : List Node) : untypedAll nodes = nodes.map untyped := by
  induction nodes with
  | nil => rfl
  | cons node rest ih => rw [untypedAll, ih, List.map_cons]

def tags (node : Node) : List (Option TypeTag) :=
  node.subnodes.map tag?

theorem subnodes_untyped (node : Node) : node.untyped.subnodes = node.subnodes.map untyped := by
  induction node with
  | identifier | constant | bindVariable | literal => rfl
  | function name params ih =>
    have parts : (params.map untyped).flatMap subnodes = (params.flatMap subnodes).map untyped := by
      rw [List.flatMap_map, List.map_flatMap, List.flatMap_def, List.flatMap_def,
        List.map_congr_left ih]
    simp only [untyped, subnodes, untypedAll_eq_map, subnodesAll_eq_flatMap, parts, List.map_cons]
  | comparison op l r ihl ihr | conjunction op l r ihl ihr =>
    simp only [untyped, subnodes, ihl, ihr, List.map_cons, List.map_append]
  | lone op side x ih | negation x ih => simp only [untyped, subnodes, ih, List.map_cons]

theorem length_tags_eq (same : x.untyped = y.untyped) : x.tags.length = y.tags.length := by
  have lengths := congrArg (fun node => node.subnodes.length) same
  simp only [subnodes_untyped, List.length_map] at lengths
  rw [tags, tags, List.length_map, List.length_map, lengths]

theorem tags_function (name : String) (params : List Node) :
    (function name params).tags = none :: params.flatMap tags := by
  simp only [tags, subnodes, subnodesAll_eq_flatMap, List.map_cons, List.map_flatMap]
  rfl

theorem tags_comparison (op : Operator) (l r : Node) :
    (comparison op l r).tags = none :: (l.tags ++ r.tags) :=
  congrArg (none :: ·) List.map_append

theorem tags_conjunction (op : Connective) (l r : Node) :
    (conjunction op l r).tags = none :: (l.tags ++ r.tags) :=
  congrArg (none :: ·) List.map_append

theorem tags_lone (op : Operator) (side : Side) (x : Node) : (lone op side x).tags = none :: x.tags := rfl

theorem tags_negation (x : Node) : (negation x).tags = none :: x.tags := rfl

theorem eq_and_eq_of_tags {l' r' : Node} (ihl : l.untyped = l'.untyped → l.tags = l'.tags → l = l')
    (ihr : r.untyped = r'.untyped → r.tags = r'.tags → r = r') (left : l.untyped = l'.untyped)
    (right : r.untyped = r'.untyped) (types : l.tags ++ r.tags = l'.tags ++ r'.tags) :
    l = l' ∧ r = r' := by
  obtain ⟨typesLeft, typesRight⟩ := List.append_inj types (length_tags_eq left)
  exact ⟨ihl left typesLeft, ihr right typesRight⟩

theorem eq_of_flatMap_tags_eq {nodes others : List Node}
    (ih : ∀ x ∈ nodes, ∀ y : Node, x.untyped = y.untyped → x.tags = y.tags → x = y)
    (same : nodes.map untyped = others.map untyped) (types : nodes.flatMap tags = others.flatMap tags) :
    nodes = others := by
  induction nodes generalizing others with
  | nil =>
    cases others with
    | nil => rfl
    | cons other others => cases same
  | cons node nodes rest =>
    cases others with
    | nil => cases same
    | cons other others =>
      obtain ⟨first, later⟩ := List.cons.inj same
      rw [List.flatMap_cons, List.flatMap_cons] at types
      obtain ⟨typesFirst, typesLater⟩ := List.append_inj types (length_tags_eq first)
      obtain ⟨head, tail⟩ := List.forall_mem_cons.mp ih
      rw [head other first typesFirst, rest tail later typesLater]

/-- A tree is known from its shape and its types. -/
theorem eq_of_untyped_eq (same : x.untyped = y.untyped) (types : x.tags = y.tags) : x = y := by
  -- Trees of one shape have equally many types, so the list of types falls apart at the same places.
  induction x generalizing y with
  | identifier name tag =>
    cases y <;> cases same
    cases types
    rfl
  | constant value tag =>
    cases y <;> cases same
    cases types
    rfl
  | bindVariable reference tag =>
    cases y <;> cases same
    cases types
    rfl
  | literal text =>
    cases y <;> cases same
    rfl
  | function name params ih =>
    cases y with
    | function name' params' =>
      simp only [untyped, untypedAll_eq_map, function.injEq] at same
      obtain ⟨rfl, parts⟩ := same
      rw [tags_function, tags_function, List.cons.injEq] at types
      rw [eq_of_flatMap_tags_eq (fun p mem y => ih p mem) parts types.2]
    | _ => cases same
  | comparison op l r ihl ihr =>
    cases y with
    | comparison op' l' r' =>
      obtain ⟨rfl, left, right⟩ := comparison.inj same
      rw [tags_comparison, tags_comparison, List.cons.injEq] at types
      obtain ⟨rfl, rfl⟩ := eq_and_eq_of_tags ihl ihr left right types.2
      rfl
    | _ => cases same
  | lone op side x ih =>
    cases y with
    | lone op' side' x' =>
      obtain ⟨rfl, rfl, inner⟩ := lone.inj same
      rw [ih inner (List.cons.inj types).2]
    | _ => cases same
  | conjunction op l r ihl ihr =>
    cases y with
    | conjunction op' l' r' =>
      obtain ⟨rfl, left, right⟩ := conjunction.inj same
      rw [tags_conjunction, tags_conjunction, List.cons.injEq] at types
      obtain ⟨rfl, rfl⟩ := eq_and_eq_of_tags ihl ihr left right types.2
      rfl
    | _ => cases same
  | negation x ih =>
    cases y with
    | negation x' => rw [ih (negation.inj same) (List.cons.inj types).2]
    | _ => cases same

end Node

/-! ### What resolution keeps and gives -/

namespace Node

theorem propertyTag?_typed (schema : Schema) (node : Node) :
    (node.typed schema).propertyTag? = node.propertyType? schema := by
  cases node with
  | identifier name tag => cases tag <;> rfl
  | _ => rfl

theorem untyped_adopt (tag : Option TypeTag) (node : Node) : (node.adopt tag).untyped = node.untyped :=
  apply_adopt (fun _ _ _ => rfl) (fun _ _ _ => rfl) tag node

theorem untyped_typed (schema : Schema) (node : Node) : (node.typed schema).untyped = node.untyped := by
  induction node with
  | identifier name tag => cases tag <;> rfl
  | constant | bindVariable | literal => rfl
  | function name params ih =>
    have parts : (params.map (Node.typed schema)).map untyped = params.map untyped := by
      rw [List.map_map]
      exact List.map_congr_left ih
    simp only [Node.typed, untyped, typedAll_eq_map, untypedAll_eq_map, parts]
  | comparison op l r ihl ihr => simp only [Node.typed, untyped, untyped_adopt, ihl, ihr]
  | lone op side x ih | negation x ih => simp only [Node.typed, untyped, ih]
  | conjunction op l r ihl ihr => simp only [Node.typed, untyped, ihl, ihr]

theorem bind_propertyTag?_typed (schema : Schema) (opposite : Option Node) :
    (opposite.bind fun o => (o.typed schema).propertyTag?) = opposite.bind (propertyType? schema) := by
  simp only [propertyTag?_typed]

theorem tags_given (schema : Schema) (opposite : Option Node) (x : Node) :
    (x.given schema opposite).tags = (x.occurrences opposite).map (Occurrence.tag? schema) := by
  -- Only the root takes a type from what stands opposite, and below it each operand has its own opposite.
  induction x generalizing opposite with
  | identifier name tag => cases tag <;> rfl
  | constant value tag =>
    cases tag with
    | none => exact congrArg (fun type => [type]) (bind_propertyTag?_typed schema opposite)
    | some tag => rfl
  | bindVariable reference tag =>
    cases tag with
    | none => exact congrArg (fun type => [type]) (bind_propertyTag?_typed schema opposite)
    | some tag => rfl
  | literal text => rfl
  | function name params ih =>
    have parts : params.flatMap (fun p => (p.typed schema).tags) =
        params.flatMap fun p => (p.occurrences none).map (Occurrence.tag? schema) := by
      rw [List.flatMap_def, List.flatMap_def]
      refine congrArg List.flatten (List.map_congr_left fun p mem => ?_)
      rw [← ih p mem none, given_none]
    show (function name (typedAll schema params)).tags = _
    rw [tags_function, typedAll_eq_map, List.flatMap_map, parts, occurrences, occurrencesAll_eq_flatMap,
      List.map_cons, List.map_flatMap]
    rfl
  | comparison op l r ihl ihr =>
    show (comparison op (l.given schema (some r)) (r.given schema (some l))).tags = _
    rw [tags_comparison, ihl, ihr, ← List.map_append, occurrences, List.map_cons]
    rfl
  | conjunction op l r ihl ihr =>
    show (conjunction op (l.typed schema) (r.typed schema)).tags = _
    rw [tags_conjunction, ← given_none, ← given_none (x := r), ihl, ihr, ← List.map_append, occurrences,
      List.map_cons]
    rfl
  | lone op side x ih =>
    show (lone op side (x.typed schema)).tags = _
    rw [tags_lone, ← given_none, ih, occurrences, List.map_cons]
    rfl
  | negation x ih =>
    show (negation (x.typed schema)).tags = _
    rw [tags_negation, ← given_none, ih, occurrences, List.map_cons]
    rfl

theorem tags_typed (schema : Schema) (node : Node) :
    (node.typed schema).tags = (node.occurrences none).map (Occurrence.tag? schema) := by
  rw [← given_none]
  exact tags_given schema none node

/-! ### Resolving again -/

theorem resolve_eq_ok_iff {resolved : Node} :
    node.resolve schema limit = .ok resolved ↔
      (node.lookups schema limit 0).fault? = none ∧ node.typed schema = resolved := by
  unfold resolve
  cases (node.lookups schema limit 0).fault? <;> simp

theorem fault?_unlessDeep_eq_none_iff {below : Trail QueryError PropertyFound} :
    (unlessDeep limit level node below).fault? = none ↔ level ≤ limit ∧ below.fault? = none := by
  unfold unlessDeep
  split
  · exact iff_of_false (by simp) fun h => by omega
  · exact (and_iff_right (by omega)).symm

theorem typed_adopt (schema : Schema) (tag : Option TypeTag) (node : Node) :
    (node.adopt tag).typed schema = (node.typed schema).adopt tag := by
  cases node with
  | constant value old => cases old <;> rfl
  | bindVariable reference old => cases old <;> rfl
  | identifier name old => cases old <;> rfl
  | _ => rfl

theorem propertyTag?_adopt (tag : Option TypeTag) (node : Node) :
    (node.adopt tag).propertyTag? = node.propertyTag? :=
  apply_adopt (fun _ _ _ => rfl) (fun _ _ _ => rfl) tag node

theorem adopt_adopt (tag : Option TypeTag) (node : Node) :
    (node.adopt tag).adopt tag = node.adopt tag := by
  cases node with
  | constant value old => cases old <;> cases tag <;> rfl
  | bindVariable reference old => cases old <;> cases tag <;> rfl
  | _ => rfl

theorem lookups_adopt (schema : Schema) (limit level : Nat) (tag : Option TypeTag) (node : Node) :
    (node.adopt tag).lookups schema limit level = node.lookups schema limit level :=
  apply_adopt (fun _ _ _ => rfl) (fun _ _ _ => rfl) tag node

theorem fault?_lookupsAll_eq_none_iff {params : List Node} :
    (lookupsAll schema limit level params).fault? = none ↔
      ∀ p ∈ params, (p.lookups schema limit level).fault? = none := by
  induction params with
  | nil => simp [lookupsAll]
  | cons p rest ih => rw [lookupsAll, Trail.fault?_append_eq_none, ih, List.forall_mem_cons]

/-- Once all properties are known, nothing is left to be typed or to be looked up. -/
theorem resolved_again (found : (node.lookups schema limit level).fault? = none) (schema' : Schema) :
    (node.typed schema).typed schema' = node.typed schema ∧
      ((node.typed schema).lookups schema' limit level).fault? = none := by
  induction node generalizing level with
  | identifier name tag =>
    cases tag with
    | some tag => exact ⟨rfl, rfl⟩
    | none =>
      cases known : schema name with
      | none => simp [lookups, known] at found
      | some tag =>
        have typed : (identifier name none).typed schema = identifier name (some tag) :=
          congrArg (identifier name) known
        rw [typed]
        exact ⟨rfl, rfl⟩
  | constant | bindVariable | literal => exact ⟨rfl, rfl⟩
  | function name params ih =>
    rw [lookups, fault?_unlessDeep_eq_none_iff, fault?_lookupsAll_eq_none_iff] at found
    obtain ⟨room, below⟩ := found
    have parts := fun p mem => ih p mem (below p mem)
    simp only [Node.typed, typedAll_eq_map]
    constructor
    · rw [List.map_map]
      exact congrArg (function name) (List.map_congr_left fun p mem => (parts p mem).1)
    · rw [lookups, fault?_unlessDeep_eq_none_iff, fault?_lookupsAll_eq_none_iff, List.forall_mem_map]
      exact ⟨room, fun p mem => (parts p mem).2⟩
  | comparison op l r ihl ihr =>
    rw [lookups, fault?_unlessDeep_eq_none_iff, Trail.fault?_append_eq_none] at found
    obtain ⟨room, foundLeft, foundRight⟩ := found
    obtain ⟨sameLeft, left⟩ := ihl foundLeft
    obtain ⟨sameRight, right⟩ := ihr foundRight
    -- An operand that has adopted a type is offered the same type once more.
    constructor
    · simp only [Node.typed, typed_adopt, propertyTag?_adopt, sameLeft, sameRight, adopt_adopt]
    · simp only [Node.typed]
      rw [lookups, fault?_unlessDeep_eq_none_iff, Trail.fault?_append_eq_none, lookups_adopt,
        lookups_adopt]
      exact ⟨room, left, right⟩
  | lone op side x ih | negation x ih =>
    rw [lookups, fault?_unlessDeep_eq_none_iff] at found
    obtain ⟨room, below⟩ := found
    obtain ⟨same, inner⟩ := ih below
    simp only [Node.typed, same, true_and]
    rw [lookups, fault?_unlessDeep_eq_none_iff]
    exact ⟨room, inner⟩
  | conjunction op l r ihl ihr =>
    rw [lookups, fault?_unlessDeep_eq_none_iff, Trail.fault?_append_eq_none] at found
    obtain ⟨room, foundLeft, foundRight⟩ := found
    obtain ⟨sameLeft, left⟩ := ihl foundLeft
    obtain ⟨sameRight, right⟩ := ihr foundRight
    simp only [Node.typed, sameLeft, sameRight, true_and]
    rw [lookups, fault?_unlessDeep_eq_none_iff, Trail.fault?_append_eq_none]
    exact ⟨room, left, right⟩

/-- A resolved tree is the one tree that differs from the given one in types only and has everywhere the
type that belongs there. Any schema resolves it to itself. -/
theorem resolve_exact {resolved : Node} (h : node.resolve schema limit = .ok resolved) :
    (∀ tree, tree = resolved ↔
      tree.untyped = node.untyped ∧ tree.tags = (node.occurrences none).map (Occurrence.tag? schema)) ∧
    ∀ schema', resolved.resolve schema' limit = .ok resolved := by
  obtain ⟨found, rfl⟩ := resolve_eq_ok_iff.mp h
  constructor
  · have shape := untyped_typed schema node
    have types := tags_typed schema node
    intro tree
    constructor
    · rintro rfl
      exact ⟨shape, types⟩
    · rintro ⟨sameShape, sameTypes⟩
      exact eq_of_untyped_eq (sameShape.trans shape.symm) (sameTypes.trans types.symm)
  · intro schema'
    obtain ⟨same, clean⟩ := resolved_again found schema'
    exact resolve_eq_ok_iff.mpr ⟨clean, same⟩

/-- A property after its variable, one that was typed before, and a forced integer. -/
theorem resolve_exact_partly_typed :
    let tree : Node := .conjunction .or
      (.comparison .lt (.bindVariable ":min" none) (.identifier "age" none))
      (.comparison .eq (.identifier "name" (some .reference))
        (.constant (.str "7") (some .forceInteger)))
    ∃ resolved, tree.resolve (fun _ => some .long) 2 = .ok resolved ∧ resolved.untyped = tree.untyped ∧
      resolved.tags = [none, none, some .long, some .long, none, some .reference, some .forceInteger] ∧
        resolved.resolve (fun _ => none) 2 = .ok resolved := by
  intro tree
  obtain ⟨resolved, h⟩ : ∃ resolved, tree.resolve (fun _ => some .long) 2 = .ok resolved := ⟨_, rfl⟩
  obtain ⟨unique, again⟩ := resolve_exact h
  obtain ⟨shape, types⟩ := (unique resolved).mp rfl
  exact ⟨resolved, h, shape, types, again _⟩

end Node

end ContentQuery
