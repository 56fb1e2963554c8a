import ContentQuery.Dialect.Builtin
import ContentQuery.Proofs.Inlining
import ContentQuery.Proofs.Rerendering
import ContentQuery.Proofs.Resolution
import ContentQuery.Proofs.VariableUses

/-!
# Fragments and parameters

Every fragment of a tree is copied into the query once and reported once, in the order in which it stands
there. The parameters are the variables of the tree that is given back, in their order; only what is
rendered as the list of an `IN` has a parameter for each of its elements.
-/

namespace ContentQuery

variable {d : Dialect} {env : Setting} {schema : Schema} {limit : Nat} {level : Nat} {ctx ctx' : Context}
  {node : Node} {pieces : List Piece}

namespace Script

theorem verbatim?_placed (env : Setting) (inList : Bool) (name : String) (v : Value) :
    (placed inList .constant v).filterMap Piece.verbatim? = [] ∧
      (placed inList (env.item name) v).filterMap Piece.verbatim? = [] := by
  have item (v : Value) : (env.item name v).verbatim? = none := by
    unfold Setting.item
    split <;> rfl
  rw [filterMap_placed (fun _ => rfl), filterMap_placed (fun _ => rfl)]
  simp only [item]
  simp [Piece.verbatim?]

end Script

theorem Script.fragments_eq_nil_of_isNull {x : Node} (null : isNull env x = true) : x.fragments = [] := by
  cases x <;> first | rfl | cases null

/-- A reference in front of a comparison is a property, because no function is rendered. -/
theorem Renders.fragments_eq_nil_of_reference {op : Operator} {l r : Node}
    (h : Renders env level ctx (.comparison op l r) pieces ctx') (reference : l.isReference = true) :
    l.fragments = [] := by
  have rendered : ∃ ctx₁ ps ctx₂, Renders env (level + 1) ctx₁ l ps ctx₂ := by
    cases h with
    | tested _ _ _ _ inner => exact ⟨_, _, _, inner⟩
    | joined _ _ _ _ left => exact ⟨_, _, _, left⟩
    | turned turned => simp [Node.turned, reference] at turned
  obtain ⟨ctx₁, ps, ctx₂, first⟩ := rendered
  cases first <;> first | rfl | cases reference

/-- The fragments among the pieces are those of the tree, in their order. -/
theorem Renders.verbatim?_eq (h : Renders env level ctx node pieces ctx') :
    pieces.filterMap Piece.verbatim? = node.fragments := by
  have words (text : String) : (Piece.word text).verbatim? = none := rfl
  induction h with
  | column | fragment => rfl
  | constant coerced => exact (Script.verbatim?_placed env _ "" _).1
  | bindVariable bound coerced => exact (Script.verbatim?_placed env _ _ _).2
  | tested room straight null test inner ih =>
    simp [words, ih, Script.fragments_eq_nil_of_isNull null]
  | joined room compares straight notNull left right ihl ihr =>
    simp [words, Operator.filterMap_wrap words, ihl, ihr]
  | @turned level ctx ctx' op l r pieces turned swapped ih =>
    have reference : r.isReference = true := (Bool.and_eq_true_iff.mp turned).2
    simpa [swapped.fragments_eq_nil_of_reference reference] using ih
  | lone room test inner ih => simp [words, ih]
  | conjunction room joins left right ihl ihr => simp [words, ihl, ihr]
  | negation room inner ih => simp [words, ih]

/-- Inlined, no piece is a parameter. -/
theorem Renders.param?_eq_nil (h : Renders env level ctx node pieces ctx')
    (inlines : env.options.inlineVariables = true) : pieces.filterMap Piece.param? = [] := by
  have same : env.inlining true = env := by
    unfold Setting.inlining
    rw [← inlines]
  have again := Script.renders_inlined h
  rw [same] at again
  rw [(Script.renders_unique h again).1]
  exact Piece.filterMap_param?_inlined pieces

theorem renderAll_single_eq_ok_iff {t u : Node} {out : Rendered} :
    renderAll d env [t] = .ok (out, [u]) ↔
      ∃ pieces ctx, Renders env 0 {} t pieces ctx ∧ out = .ofPieces d pieces ∧ u = t.settled env := by
  rw [renderAll_eq_ok_iff]
  constructor
  · rintro ⟨last, accepted, rfl⟩
    obtain ⟨after, v, rest, first, others, trees⟩ := Rendering.acceptAll_cons_eq_ok accepted
    obtain ⟨rfl, rfl⟩ := List.cons.inj trees
    obtain ⟨pieces, ctx, follows, rfl, rfl⟩ := Rendering.accept_eq_ok_iff.mp first
    obtain ⟨rfl, -⟩ := Prod.mk.inj (Except.ok.inj others)
    exact ⟨pieces, ctx, follows, rfl, rfl⟩
  · rintro ⟨pieces, ctx, follows, rfl, rfl⟩
    refine ⟨⟨env, pieces⟩, ?_, rfl⟩
    rw [Rendering.acceptAll, Rendering.accept_eq_ok_iff.mpr ⟨pieces, ctx, follows, rfl, rfl⟩]
    rfl

/-- The names tell of each variable that only stands inside a list how many elements it has. -/
theorem Bindings.paramNames_isList_eq_iff {b : Bindings} {uses : List VariableUse}
    (lists : ∀ v ∈ uses, v.isList = true → v.inList = true) :
    b.paramNames VariableUse.inList uses = b.paramNames VariableUse.isList uses ↔
      ∀ v ∈ uses, v.isStray = true → b.width v.name = 1 := by
  have ordered : ∀ v ∈ uses,
      (∀ w ∈ uses, w.name = v.name → b.paramCount VariableUse.inList w ≤ b.paramCount VariableUse.isList w) ∨
      ∀ w ∈ uses, w.name = v.name → b.paramCount VariableUse.isList w ≤ b.paramCount VariableUse.inList w := by
    intro v _
    unfold paramCount
    rcases Nat.le_total (b.width v.name) 1 with le | ge
    · refine .inl fun w mem same => ?_
      have listed := lists w mem
      rw [same]
      grind
    · refine .inr fun w mem same => ?_
      have listed := lists w mem
      rw [same]
      grind
  unfold paramNames
  rw [flatMap_replicate_eq_iff ordered]
  refine forall₂_congr fun v mem => ?_
  have listed := lists v mem
  unfold paramCount VariableUse.isStray
  cases list : v.isList with
  | true => simp [listed list]
  | false => cases v.inList <;> simp

/-- The fragments that a query reports are those of the tree that is given back, from left to right, and the
same as those of the tree that was given. Its parameters are named after the variables of the tree that is
given back, from left to right, where each that is rendered as a list gives its name to each of its elements.
So only the lists of an `IN` do just if the variables that stand inside of one without being it have one
element each; in a tree as it is built, or resolved, there are none. Inlined, there are no parameters. -/
theorem renderAll_accounts {tree t u : Node} {out : Rendered}
    (resolved : tree.resolve schema limit = .ok t) (rendered : renderAll d env [t] = .ok (out, [u])) :
    (out.verbatim = u.fragments ∧ u.fragments = tree.fragments) ∧
      u.variableUses.map VariableUse.name = u.variableNames ∧
        (env.options.inlineVariables = false →
          out.params.map Prod.fst = env.bindings.paramNames VariableUse.inList u.variableUses ∧
            (out.params.map Prod.fst = env.bindings.paramNames VariableUse.isList u.variableUses ↔
              ∀ v ∈ u.variableUses, v.isStray = true → env.bindings.width v.name = 1)) ∧
        (tree.TypesOpposite → ∀ v ∈ u.variableUses, v.isStray = false) ∧
        (env.options.inlineVariables = true → out.params = []) := by
  obtain ⟨pieces, ctx, follows, rfl, rfl⟩ := renderAll_single_eq_ok_iff.mp rendered
  obtain ⟨-, rfl⟩ := Node.resolve_eq_ok_iff.mp resolved
  have reported : (Rendered.ofPieces d pieces).verbatim = ((tree.typed schema).settled env).fragments :=
    follows.settled.verbatim?_eq
  refine ⟨⟨reported, ?_⟩, Node.map_name_usesIn _ _ _, fun bound => ?_, fun types v mem => ?_,
    follows.param?_eq_nil⟩
  · rw [← reported, ← Node.fragments_typed schema tree]
    exact follows.verbatim?_eq
  · rw [Rendered.names_ofPieces, follows.paramName?_eq bound false]
    exact ⟨rfl, Bindings.paramNames_isList_eq_iff fun v mem => Node.inList_of_isList (by simp) mem⟩
  · have typed : (tree.typed schema).TypesOpposite := types.typed
    have list := follows.isList_of_inList typed.parts (List.Subset.refl _) (by simp [typed.root]) mem
    cases listed : v.inList with
    | false => simp [VariableUse.isStray, listed]
    | true => simp [VariableUse.isStray, list listed]

/-- A variable that stands inside the list of an `IN`, left in an equality, gives its name to two parameters
by a list of two elements. It was typed opposite a property before. -/
theorem renderAll_stray :
    let age : Node := .identifier "age" none
    let known : Schema := fun _ => some .long
    let x : Node := .bindVariable ":x" (some .long)
    let five : Node := .ofInteger (.int ⟨.i32, 5, by decide, by decide⟩)
    let tree : Node := .comparison .isIn age (.comparison .eq x five)
    let env : Setting := ⟨fun _ => some (.list [.str "1", .str "2"]), {}⟩
    (Node.comparison .isIn age (.bindVariable ":x" none)).resolve known 64 =
        .ok (.comparison .isIn (.identifier "age" (some .long)) x) ∧
      ∃ t u out, tree.resolve known 64 = .ok t ∧ renderAll .ansi env [t] = .ok (out, [u]) ∧
        u = .comparison .isIn (.identifier "age" (some .long)) (.comparison .eq x five) ∧
        out.sql = "age IN (?, ?) = 5" ∧ u.variableNames = ["x"] ∧ out.params.map Prod.fst = ["x", "x"] := by
  intro age known x five tree env
  obtain ⟨t, u, out, resolved, rendered, given, sql, names⟩ : ∃ t u out, tree.resolve known 64 = .ok t ∧
      renderAll .ansi env [t] = .ok (out, [u]) ∧
        u = .comparison .isIn (.identifier "age" (some .long)) (.comparison .eq x five) ∧
        out.sql = "age IN (?, ?) = 5" ∧ out.params.map Prod.fst = ["x", "x"] :=
    ⟨_, _, _, rfl, rfl, rfl, by decide, by decide⟩
  exact ⟨rfl, t, u, out, resolved, rendered, given, sql, by rw [given]; rfl, names⟩

/-- A comparison is turned, another loses its variable, and a list has an element twice. -/
theorem renderAll_accounts_turned :
    let age : Node := .identifier "age" none
    let tree : Node := .conjunction .or
      (.conjunction .and (.comparison .lt (.literal "f(x)") age)
        (.comparison .eq (.literal "g(x)") (.bindVariable ":gone" none)))
      (.conjunction .and (.comparison .isIn age (.bindVariable ":ages" none))
        (.comparison .le (.bindVariable ":least" none) age))
    let env : Setting := ⟨fun name =>
      if name = "gone" then some .null
      else if name = "ages" then some (.list [.str "7", .str "7"]) else some (.str "1"), {}⟩
    ∃ t u out, tree.resolve (fun _ => some .long) 64 = .ok t ∧ renderAll .ansi env [t] = .ok (out, [u]) ∧
      out.sql = "((age > f(x)) AND (g(x) IS NULL)) OR ((age IN (?, ?)) AND (age >= ?))" ∧
        out.verbatim = ["f(x)", "g(x)"] ∧ out.params.map Prod.fst = ["ages", "ages", "least"] := by
  intro age tree env
  obtain ⟨t, u, out, resolved, rendered, sql⟩ : ∃ t u out, tree.resolve (fun _ => some .long) 64 = .ok t ∧
      renderAll .ansi env [t] = .ok (out, [u]) ∧
        out.sql = "((age > f(x)) AND (g(x) IS NULL)) OR ((age IN (?, ?)) AND (age >= ?))" :=
    ⟨_, _, _, rfl, rfl, by decide⟩
  have untyped : ∀ n ∈ tree.subnodes, n.tag? = none := by decide
  have fresh : tree.IsFresh := fun n mem => .inl (untyped n mem)
  obtain ⟨⟨reported, kept⟩, -, named, strays, -⟩ := renderAll_accounts resolved rendered
  have only : out.params.map Prod.fst = env.bindings.paramNames VariableUse.isList u.variableUses :=
    (named rfl).2.mpr fun v mem stray => by simp [strays fresh.typesOpposite v mem] at stray
  refine ⟨t, u, out, resolved, rendered, sql, ?_, ?_⟩
  · rw [reported, kept]
    rfl
  · rw [only]
    obtain ⟨-, -, -, -, rfl⟩ := renderAll_single_eq_ok_iff.mp rendered
    obtain ⟨-, rfl⟩ := Node.resolve_eq_ok_iff.mp resolved
    decide

end ContentQuery
