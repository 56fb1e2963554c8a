import ContentQuery.Proofs.Acceptance
import ContentQuery.Proofs.Nesting

/-!
# Comparisons with NULL

A comparison is tested for NULL by the operand that comes second when it is rendered. So no operator
ever has NULL on its right, and has it on its left only if the right operand is no reference and the NULL
has a type of its own.
-/

namespace ContentQuery

open Script

variable {env : Setting} {level : Nat} {ctx ctx' : Context} {op op' : Operator}
  {node x l r front back : Node} {pieces part : List Piece} {schema : Schema}

/-! ### Parts of a rendering -/

theorem Operator.part_wrap (op : Operator) (pieces : List Piece) : pieces <:+: op.wrap pieces := by
  unfold wrap
  split
  · exact ⟨[], [], by simp⟩
  · rename_i name _
    exact ⟨[.word (name ++ "(")], [.word ")"], by simp⟩

namespace Frame

theorem exists_part_of_joined (h : Renders env level ctx (.comparison op l r) pieces ctx')
    (straight : l.turned r = false) (notNull : isNull env r = false) :
    ∃ part ctx₁ ctx₂, Renders env (level + 1) ctx₁ r part ctx₂ ∧ part <:+: pieces := by
  cases h with
  | tested _ _ null => simp [notNull] at null
  | turned trade => simp [straight] at trade
  | @joined _ _ ctx₁ ctx₂ _ _ _ ps qs _ _ _ _ _ right =>
    have inside : op.wrap qs <:+: op.wrap ps ++ .word (" " ++ op.token ++ " ") :: op.wrap qs :=
      ⟨op.wrap ps ++ [.word (" " ++ op.token ++ " ")], [], by simp⟩
    exact ⟨qs, _, _, right, (op.part_wrap qs).trans inside⟩

/-- What stands in a frame is rendered in the course of rendering the frame. -/
theorem exists_part_of_fill {f : Frame} (condition : x.isCondition = true)
    (h : Renders env level ctx (f.fill x) pieces ctx') :
    ∃ part ctx₁ ctx₂, Renders env (level + 1) ctx₁ x part ctx₂ ∧ part <:+: pieces := by
  have notNull : isNull env x = false := isNull_of_isCondition condition
  have noReference := Node.isReference_of_isCondition condition
  cases f with
  | first op r =>
    cases h with
    | @tested _ _ _ _ _ _ keyword ps _ _ _ _ inner =>
      exact ⟨ps, _, _, inner, [], [.word keyword], by simp⟩
    | @joined _ _ ctx₁ ctx₂ _ _ _ ps qs _ _ _ _ left _ =>
      have inside : op.wrap ps <:+: op.wrap ps ++ .word (" " ++ op.token ++ " ") :: op.wrap qs :=
        ⟨[], .word (" " ++ op.token ++ " ") :: op.wrap qs, by simp⟩
      exact ⟨ps, _, _, left, (op.part_wrap ps).trans inside⟩
    | turned trade swapped =>
      exact exists_part_of_joined swapped (Node.not_turned_swap trade) notNull
  | second op l =>
    have straight : l.turned x = false := by simp [Node.turned, noReference]
    exact exists_part_of_joined h straight notNull
  | alone op side =>
    cases h with
    | @lone _ _ _ _ _ _ keyword ps _ _ inner => exact ⟨ps, _, _, inner, [], [.word keyword], by simp⟩
  | left op r =>
    cases h with
    | @conjunction _ _ _ _ _ _ _ ps qs _ _ left _ =>
      exact ⟨ps, _, _, left, [.word "("],
        .word (") " ++ op.operator.token ++ " (") :: (qs ++ [.word ")"]), by simp⟩
  | right op l =>
    cases h with
    | @conjunction _ _ _ _ _ _ _ ps qs _ _ _ right =>
      exact ⟨qs, _, _, right, .word "(" :: (ps ++ [.word (") " ++ op.operator.token ++ " (")]),
        [.word ")"], by simp⟩
  | negated =>
    cases h with
    | @negation _ _ _ _ ps _ inner => exact ⟨ps, _, _, inner, [.word "NOT ("], [.word ")"], by simp⟩

theorem exists_part_of_plug {path : List Frame} (condition : x.isCondition = true)
    (h : Renders env level ctx (plug path x) pieces ctx') :
    ∃ part level' ctx₁ ctx₂, Renders env level' ctx₁ x part ctx₂ ∧ part <:+: pieces := by
  induction path generalizing level ctx pieces ctx' with
  | nil => exact ⟨pieces, level, ctx, ctx', h, [], [], by simp⟩
  | cons f path ih =>
    obtain ⟨ps, ctx₁, ctx₂, inner, inside⟩ := exists_part_of_fill (isCondition_plug path condition) h
    obtain ⟨part, level', ctx₃, ctx₄, rendered, within⟩ := ih inner
    exact ⟨part, level', ctx₃, ctx₄, rendered, within.trans inside⟩

/-- A frame whose other part is resolved. -/
def typed (schema : Schema) : Frame → Frame
  | first op r => first op (r.typed schema)
  | second op l => second op (l.typed schema)
  | alone op side => alone op side
  | left op r => left op (r.typed schema)
  | right op l => right op (l.typed schema)
  | negated => negated

end Frame

theorem Node.isCondition_typed (schema : Schema) (node : Node) :
    (node.typed schema).isCondition = node.isCondition := by
  cases node with
  | identifier name tag => cases tag <;> rfl
  | _ => rfl

theorem Node.adopt_of_isCondition (tag : Option TypeTag) (condition : x.isCondition = true) :
    x.adopt tag = x := by
  cases x <;> first | rfl | cases condition

theorem Node.propertyTag?_of_isCondition (condition : x.isCondition = true) : x.propertyTag? = none := by
  cases x <;> first | rfl | cases condition

theorem Frame.typed_fill (schema : Schema) (f : Frame) (condition : x.isCondition = true) :
    (f.fill x).typed schema = (f.typed schema).fill (x.typed schema) := by
  have typed : (x.typed schema).isCondition = true := (Node.isCondition_typed schema x).trans condition
  cases f with
  | first op r | second op l =>
    simp only [fill, Node.typed, Frame.typed, Node.adopt_of_isCondition _ typed,
      Node.propertyTag?_of_isCondition typed, Node.adopt_none]
  | _ => rfl

theorem Frame.typed_plug (schema : Schema) (path : List Frame) (condition : x.isCondition = true) :
    (plug path x).typed schema = plug (path.map (Frame.typed schema)) (x.typed schema) := by
  induction path with
  | nil => rfl
  | cons f path ih =>
    show (f.fill (plug path x)).typed schema = _
    rw [typed_fill schema f (isCondition_plug path condition), ih]
    rfl

/-! ### Comparisons as they are written -/

/-- The pieces are what the node is rendered as at some place. -/
def Contributes (env : Setting) (node : Node) (pieces : List Piece) : Prop :=
  ∃ level ctx ctx', Renders env level ctx node pieces ctx'

/-- An operand with a test for NULL behind it. -/
inductive WritesTest (env : Setting) (op : Operator) (operand : Node) : List Piece → Prop
  | isNull {pieces : List Piece} (eq : op = .eq) (written : Contributes env operand pieces) :
      WritesTest env op operand (pieces ++ [.word " IS NULL"])
  | isNotNull {pieces : List Piece} (ne : op = .ne) (written : Contributes env operand pieces) :
      WritesTest env op operand (pieces ++ [.word " IS NOT NULL"])

/-- Two operands with the operator between them. -/
inductive WritesOperator (env : Setting) (op : Operator) (left right : Node) : List Piece → Prop
  | between {ps qs : List Piece} (front : Contributes env left ps) (back : Contributes env right qs) :
      WritesOperator env op left right (op.wrap ps ++ .word (" " ++ op.token ++ " ") :: op.wrap qs)

theorem WritesTest.of_nullTest? {keyword : String} (test : nullTest? op = some keyword)
    (written : Contributes env x part) : WritesTest env op x (part ++ [.word keyword]) := by
  cases op with
  | eq =>
    cases test
    exact .isNull rfl written
  | ne =>
    cases test
    exact .isNotNull rfl written
  | _ => cases test

theorem writes_of_straight (h : Renders env level ctx (.comparison op l r) pieces ctx')
    (straight : l.turned r = false) :
    if isNull env r then WritesTest env op l pieces else WritesOperator env op l r pieces := by
  cases h with
  | tested _ _ null test inner =>
    rw [if_pos null]
    exact .of_nullTest? test ⟨_, _, _, inner⟩
  | joined _ _ _ notNull left right =>
    rw [if_neg (by simp [notNull])]
    exact .between ⟨_, _, _, left⟩ ⟨_, _, _, right⟩
  | turned trade => simp [straight] at trade

theorem Node.normalized_comparison (op : Operator) (l r : Node) :
    (comparison op l r).normalized =
      if l.turned r then comparison op.reverse r l else comparison op l r := rfl

/-- Normalizing keeps the two operands in their order, or trades them. -/
theorem Node.straight_or_turned_of_normalized
    (ordered : (comparison op l r).normalized = .comparison op' front back) :
    (l.turned r = false ∧ op' = op ∧ front = l ∧ back = r) ∨
      (l.turned r = true ∧ op' = op.reverse ∧ front = r ∧ back = l) := by
  rw [normalized_comparison] at ordered
  cases trade : l.turned r with
  | false =>
    rw [trade, if_neg Bool.false_ne_true] at ordered
    obtain ⟨rfl, rfl, rfl⟩ := comparison.inj ordered
    exact .inl ⟨rfl, rfl, rfl, rfl⟩
  | true =>
    rw [trade, if_pos rfl] at ordered
    obtain ⟨rfl, rfl, rfl⟩ := comparison.inj ordered
    exact .inr ⟨rfl, rfl, rfl, rfl⟩

theorem Node.not_turned_of_normalized
    (ordered : (comparison op l r).normalized = .comparison op' front back) :
    front.turned back = false := by
  obtain ⟨straight, -, rfl, rfl⟩ | ⟨trade, -, rfl, rfl⟩ := straight_or_turned_of_normalized ordered
  · exact straight
  · exact not_turned_swap trade

/-- Resolution does not change the order of the operands. -/
theorem Node.normalized_given (schema : Schema)
    (ordered : (comparison op l r).normalized = .comparison op' front back) :
    (comparison op (l.given schema (some r)) (r.given schema (some l))).normalized =
      .comparison op' (front.given schema (some back)) (back.given schema (some front)) := by
  have same : (l.given schema (some r)).turned (r.given schema (some l)) = l.turned r := by
    simp only [turned, isReference_given]
  rw [normalized_comparison, same]
  obtain ⟨straight, rfl, rfl, rfl⟩ | ⟨trade, rfl, rfl, rfl⟩ := straight_or_turned_of_normalized ordered
  · rw [straight, if_neg Bool.false_ne_true]
  · rw [trade, if_pos rfl]

/-- A comparison whose second operand is NULL is written as a test for NULL, and any other with its
operator. -/
theorem writes_of_renders (h : Renders env level ctx (.comparison op l r) pieces ctx')
    (ordered : (Node.comparison op l r).normalized = .comparison op' front back) :
    if isNull env back then WritesTest env op' front pieces
    else WritesOperator env op' front back pieces := by
  have ahead := Node.not_turned_of_normalized ordered
  obtain ⟨straight, rfl, rfl, rfl⟩ | ⟨trade, rfl, rfl, rfl⟩ :=
    Node.straight_or_turned_of_normalized ordered
  · exact writes_of_straight h straight
  · cases h with
    | tested _ straight => simp [trade] at straight
    | joined _ _ straight => simp [trade] at straight
    | turned _ swapped => exact writes_of_straight swapped ahead

/-- NULL in front of an operator has a type of its own, because nothing opposite could give it one. -/
theorem isSome_tag?_of_isNull (written : Contributes env (front.given schema (some back)) part)
    (straight : front.turned back = false) (null : isNull env front = true) :
    back.isReference = false ∧ front.tag?.isSome = true := by
  obtain ⟨level, ctx, ctx', h⟩ := written
  have noReference : front.isReference = false := by
    cases front <;> first | rfl | cases null
  have plain : back.isReference = false := by
    simpa [Node.turned, noReference] using straight
  have untyping : (back.typed schema).propertyTag? = none := by
    cases back <;> first | rfl | cases plain
  have same : front.given schema (some back) = (front.typed schema).adopt none :=
    congrArg (fun tag => (front.typed schema).adopt tag) untyping
  rw [same, Node.adopt_none] at h
  refine ⟨plain, ?_⟩
  cases front with
  | constant value tag =>
    cases h with
    | constant => rfl
  | bindVariable reference tag =>
    cases h with
    | bindVariable => rfl
  | _ => cases null

/-! ### Queries -/

/-- The pieces stand together in the query. -/
def Rendered.Holds (d : Dialect) (out : Rendered) (part : List Piece) : Prop :=
  ∃ pieces, part <:+: pieces ∧ out = .ofPieces d pieces

namespace Engine

variable {e : Engine} {b : Bindings} {out : Rendered} {path : List Frame}

theorem exists_part_of_translate (condition : x.isCondition = true)
    (h : e.translate schema b (Frame.plug path x) = .ok out) :
    ∃ part level ctx ctx', Renders ⟨b, e.options⟩ level ctx (x.typed schema) part ctx' ∧
      out.Holds e.dialect part := by
  obtain ⟨pieces, ctx, follows, rfl⟩ := renders_of_translate h
  rw [Frame.typed_plug schema path condition] at follows
  obtain ⟨part, level, ctx₁, ctx₂, rendered, inside⟩ :=
    Frame.exists_part_of_plug ((Node.isCondition_typed schema x).trans condition) follows
  exact ⟨part, level, ctx₁, ctx₂, rendered, pieces, inside, rfl⟩

/-- In a query a comparison whose second operand is NULL is a test for NULL, and so is one with a single
operand. Any other stands with its operator between its operands, of which the second is not NULL, and
the first only if it has a type of its own and the second is no reference. -/
theorem translate_nulls (h : e.translate schema b node = .ok out) :
    (∀ path op l r op' front back, node = Frame.plug path (.comparison op l r) →
      (Node.comparison op l r).normalized = .comparison op' front back →
        ∃ part, out.Holds e.dialect part ∧
          if isNull ⟨b, e.options⟩ back then
            WritesTest ⟨b, e.options⟩ op' (front.given schema (some back)) part
          else
            WritesOperator ⟨b, e.options⟩ op' (front.given schema (some back))
                (back.given schema (some front)) part ∧
              (isNull ⟨b, e.options⟩ front = true →
                back.isReference = false ∧ front.tag?.isSome = true)) ∧
    ∀ path op side x, node = Frame.plug path (.lone op side x) →
      ∃ part, out.Holds e.dialect part ∧ WritesTest ⟨b, e.options⟩ op (x.typed schema) part := by
  constructor
  · rintro path op l r op' front back rfl ordered
    obtain ⟨part, level, ctx, ctx', rendered, holds⟩ := exists_part_of_translate rfl h
    refine ⟨part, holds, ?_⟩
    have written := writes_of_renders rendered (Node.normalized_given schema ordered)
    rw [Node.isNull_given] at written
    cases null : isNull ⟨b, e.options⟩ back with
    | true =>
      rw [null, if_pos rfl] at written
      exact written
    | false =>
      rw [null, if_neg Bool.false_ne_true] at written
      refine ⟨written, fun nullFront => ?_⟩
      cases written with
      | between left right =>
        exact isSome_tag?_of_isNull left (Node.not_turned_of_normalized ordered) nullFront
  · rintro path op side x rfl
    obtain ⟨part, level, ctx, ctx', rendered, holds⟩ := exists_part_of_translate rfl h
    refine ⟨part, holds, ?_⟩
    cases rendered with
    | lone _ test inner => exact .of_nullTest? test ⟨_, _, _, inner⟩

/-- A variable bound to NULL in front of its property, in the second part of a conjunction. -/
theorem translate_nulls_turned :
    let age : Node := .identifier "age" none
    let limit : Node := .bindVariable ":limit" none
    let tree := Frame.plug [.right .and (.lone .eq .right age)] (.comparison .ne limit age)
    let schema : Schema := fun _ => some .long
    let b : Bindings := fun _ => some .null
    ∃ out part, (⟨.ansi, {}⟩ : Engine).translate schema b tree = .ok out ∧
      out.sql = "(age IS NULL) AND (age IS NOT NULL)" ∧ out.Holds .ansi part ∧
        WritesTest ⟨b, {}⟩ .ne (age.given schema (some limit)) part := by
  intro age limit tree schema b
  obtain ⟨out, h, sql⟩ : ∃ out, (⟨.ansi, {}⟩ : Engine).translate schema b tree = .ok out ∧
      out.sql = "(age IS NULL) AND (age IS NOT NULL)" := ⟨_, rfl, by decide⟩
  obtain ⟨part, holds, written⟩ := (translate_nulls h).1 _ .ne limit age .ne age limit rfl rfl
  exact ⟨out, part, h, sql, holds, written⟩

/-- A forced integer that is NULL, in front of another forced integer. -/
theorem translate_null_in_front :
    let null : Node := .constant .null (some .forceInteger)
    let tree : Node := .comparison .eq null (.constant (.str "5") (some .forceInteger))
    let e : Engine := ⟨.ansi, {}⟩
    tree.IsFresh ∧ isNull ⟨Bindings.empty, {}⟩ null = true ∧
      e.returned? (fun _ => none) Bindings.empty tree = .ok tree ∧
        ∃ out, e.translate (fun _ => none) Bindings.empty tree = .ok out ∧ out.sql = "NULL = 5" := by
  intro null tree e
  have fresh : tree.IsFresh := by
    intro n mem
    simp only [tree, null, Node.subnodes, List.cons_append, List.nil_append, List.mem_cons,
      List.not_mem_nil, or_false] at mem
    rcases mem with rfl | rfl | rfl
    · exact .inl rfl
    · exact .inr ⟨_, rfl⟩
    · exact .inr ⟨_, rfl⟩
  exact ⟨fresh, rfl, rfl, _, rfl, by decide⟩

end Engine

end ContentQuery
