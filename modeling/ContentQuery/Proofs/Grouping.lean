import ContentQuery.Proofs.Chain
import ContentQuery.Proofs.Skeleton

/-!
# Grouping of comparisons

Parts of conjunctions stand in parentheses, but operands of comparisons do not. So the text of a query on
properties tells the chain of its tree and no more: trees that group their comparisons differently have
the same text, and among the trees that group to the right no two have.
-/

namespace ContentQuery

open Script

variable {lx : Lexer} {d : Dialect} {schema : Schema} {env : Setting} {level : Nat} {ctx ctx' : Context}
  {node x : Node} {pieces : List Piece} {tags : String → Option TypeTag} {op : Operator}

/-! ### Conditions on properties -/

/-- Properties with certain types, related and joined. -/
def Node.IsPlain (tags : String → Option TypeTag) : Node → Prop
  | identifier name tag => tag = tags name
  | comparison op l r => op ∈ Operator.relations ∧ l.IsPlain tags ∧ r.IsPlain tags
  | lone op _ x => op ∈ Operator.relations ∧ x.IsPlain tags
  | conjunction _ l r => l.IsPlain tags ∧ r.IsPlain tags
  | negation x => x.IsPlain tags
  | constant .. | bindVariable .. | literal _ | function .. => False

theorem Operator.reverse_mem_relations (h : op ∈ relations) : op.reverse ∈ relations := by
  revert op
  decide

namespace Node.IsPlain

theorem adopt (h : x.IsPlain tags) (tag : Option TypeTag) : x.adopt tag = x := by
  cases x with
  | constant | bindVariable => exact h.elim
  | _ => rfl

theorem typed (h : node.IsPlain fun _ => none) : (node.typed schema).IsPlain schema := by
  induction node with
  | identifier name tag =>
    cases h
    rfl
  | constant | bindVariable | literal | function => exact h.elim
  | comparison op l r ihl ihr =>
    simp only [Node.typed, (ihl h.2.1).adopt, (ihr h.2.2).adopt]
    exact ⟨h.1, ihl h.2.1, ihr h.2.2⟩
  | lone op side x ih => exact ⟨h.1, ih h.2⟩
  | conjunction op l r ihl ihr => exact ⟨ihl h.1, ihr h.2⟩
  | negation x ih => exact ih h

theorem isNull (h : x.IsPlain tags) : isNull env x = false := by
  cases x with
  | constant | bindVariable => exact h.elim
  | _ => rfl

end Node.IsPlain

theorem Operator.eq_or_ne_of_nullTest? {keyword : String} (h : nullTest? op = some keyword) :
    op = .eq ∨ op = .ne := by
  cases op <;> cases h
  · exact .inl rfl
  · exact .inr rfl

theorem Operator.wrap_of_mem_relations (h : op ∈ relations) (pieces : List Piece) :
    op.wrap pieces = pieces := by
  refine wrap_of_ne ?_ pieces
  rintro rfl
  exact absurd h (by decide)

theorem Operator.reverse_of_nullTest? {keyword : String} (h : nullTest? op = some keyword) :
    op.reverse = op := by
  rcases eq_or_ne_of_nullTest? h with rfl | rfl <;> rfl

/-- A tree on properties is rendered as its chain. -/
theorem isPlain_chain_of_renders (plain : node.IsPlain schema)
    (h : Renders env level ctx node pieces ctx') {rest : Chain .behind} (follows : rest.IsPlain schema) :
    ((node.settled env).chain rest).IsPlain schema := by
  induction h generalizing rest with
  | column level ctx name tag => exact ⟨⟨name, congrArg _ plain⟩, follows⟩
  | fragment | constant | bindVariable => exact plain.elim
  | tested room straight null => simp [plain.2.2.isNull] at null
  | joined room compares straight notNull left right ihl ihr =>
    rw [Node.settled_comparison, straight, notNull]
    exact ihl plain.2.1 ⟨plain.1, ihr plain.2.2 follows⟩
  | turned trade swapped ih =>
    rw [Node.settled_comparison, trade]
    exact ih ⟨Operator.reverse_mem_relations plain.1, plain.2.2, plain.2.1⟩ follows
  | lone room test inner ih =>
    refine ih plain.2 ⟨?_, follows⟩
    rw [Operator.reverse_of_nullTest? test, ite_self]
    exact Operator.eq_or_ne_of_nullTest? test
  | conjunction room joins left right ihl ihr =>
    exact ⟨ihl plain.1 trivial, ihr plain.2 trivial, follows⟩
  | negation room inner ih => exact ⟨ih plain trivial, follows⟩

theorem chars_chain_of_renders (unnumbered : d.IsUnnumbered) (plain : node.IsPlain schema)
    (h : Renders env level ctx node pieces ctx') (rest : Chain .behind) :
    ((node.settled env).chain rest).chars d = (Rendered.ofPieces d pieces).sql.toList ++ rest.chars d := by
  induction h generalizing rest with
  | column level ctx name tag =>
    simp [Node.settled, Node.chain, Chain.chars, Node.columnText, Rendered.ofPieces, Piece.spellFrom, Piece.spell]
  | fragment | constant | bindVariable => exact plain.elim
  | tested room straight null => simp [plain.2.2.isNull] at null
  | joined room compares straight notNull left right ihl ihr =>
    rw [Node.settled_comparison, straight, notNull, Operator.wrap_of_mem_relations plain.1,
      Operator.wrap_of_mem_relations plain.1]
    simp [Node.chain, Chain.chars, ihl plain.2.1, ihr plain.2.2, Rendered.sql_ofPieces_append unnumbered,
      Rendered.sql_ofPieces_word unnumbered]
  | turned trade swapped ih =>
    rw [Node.settled_comparison, trade]
    exact ih ⟨Operator.reverse_mem_relations plain.1, plain.2.2, plain.2.1⟩ rest
  | lone room test inner ih =>
    simp [Node.settled, Node.chain, Chain.chars, ih plain.2, Operator.reverse_of_nullTest? test, test,
      Rendered.sql_ofPieces_append unnumbered, Rendered.sql_ofPieces_word unnumbered,
      Rendered.sql_ofPieces_nil]
  | conjunction room joins left right ihl ihr =>
    simp [Node.settled, Node.chain, Chain.chars, Connective.joint, ihl plain.1, ihr plain.2,
      Rendered.sql_ofPieces_append unnumbered, Rendered.sql_ofPieces_word unnumbered,
      Rendered.sql_ofPieces_nil]
  | negation room inner ih =>
    simp [Node.settled, Node.chain, Chain.chars, Outline.negation, ih plain,
      Rendered.sql_ofPieces_append unnumbered, Rendered.sql_ofPieces_word unnumbered,
      Rendered.sql_ofPieces_nil]

/-! ### Trees that group to the right -/

/-- A tree that is no comparison of two operands, or such a tree with tests behind it. -/
def Node.isTerm : Node → Bool
  | comparison .. => false
  | lone _ _ x => x.isTerm
  | _ => true

/-- What stands left of an operator or a test is a term. Rendering gives back no test on the left of its
operand. -/
def Node.GroupsRight : Node → Prop
  | comparison _ l r => l.isTerm = true ∧ l.GroupsRight ∧ r.GroupsRight
  | lone _ .left x => x.isTerm = true ∧ x.GroupsRight
  | lone _ .right _ => False
  | conjunction _ l r => l.GroupsRight ∧ r.GroupsRight
  | negation x => x.GroupsRight
  | identifier .. | constant .. | bindVariable .. | literal _ | function .. => True

/-- What a chain is made into: a tree, or a tree with the operand before it. -/
def Place.Reading : Place → Type
  | operand => Node
  | behind => Node → Node

/-- The tree of a chain that groups to the right. -/
def Chain.tree : {place : Place} → Chain place → place.Reading
  | _, done => fun x => x
  | _, test op rest => fun x => rest.tree (.lone op .left x)
  | _, compare op rest => fun x => .comparison op x rest.tree
  | _, leaf node rest => rest.tree node
  | _, joined op left right rest => rest.tree (.conjunction op left.tree right.tree)
  | _, negated inner rest => rest.tree (.negation inner.tree)

/-- Grouping to the right loses nothing of a tree that does so already. -/
theorem Node.tree_chain (h : x.GroupsRight) :
    (x.chain .done).tree = x ∧ (x.isTerm = true → ∀ rest, (x.chain rest).tree = rest.tree x) := by
  induction x with
  | identifier | constant | bindVariable | literal | function => exact ⟨rfl, fun _ _ => rfl⟩
  | comparison op l r ihl ihr =>
    refine ⟨?_, fun term => by cases term⟩
    have first := (ihl h.2.1).2 h.1 (.compare op (r.chain .done))
    rw [Node.chain, first, Chain.tree, (ihr h.2.2).1]
  | lone op side x ih =>
    cases side with
    | right => exact h.elim
    | left =>
      have behind (rest : Chain .behind) : ((lone op .left x).chain rest).tree = rest.tree (lone op .left x) :=
        (ih h.2).2 h.1 (.test op rest)
      exact ⟨behind .done, fun _ => behind⟩
  | conjunction op l r ihl ihr =>
    have behind (rest : Chain .behind) :
        ((conjunction op l r).chain rest).tree = rest.tree (conjunction op l r) := by
      rw [Node.chain, Chain.tree, (ihl h.1).1, (ihr h.2).1]
    exact ⟨behind .done, fun _ => behind⟩
  | negation x ih =>
    have behind (rest : Chain .behind) : ((negation x).chain rest).tree = rest.tree (negation x) := by
      rw [Node.chain, Chain.tree, (ih h).1]
    exact ⟨behind .done, fun _ => behind⟩

theorem Node.eq_of_chain_eq {y : Node} (hx : x.GroupsRight) (hy : y.GroupsRight)
    (same : x.chain .done = y.chain .done) : x = y := by
  rw [← (tree_chain hx).1, same, (tree_chain hy).1]

/-! ### Translations -/

namespace Engine

variable {e e' : Engine} {bindings bindings' : Bindings} {node' : Node} {r r' : Rendered}

theorem exists_chain (reader : Dialect.Reader e.dialect lx) (plain : node.IsPlain fun _ => none)
    (h : e.translate schema bindings node = .ok r) :
    ∃ t, e.returned? schema bindings node = .ok t ∧ (t.chain .done).IsPlain schema ∧
      (t.chain .done).chars e.dialect = r.sql.toList := by
  obtain ⟨pieces, ctx, follows, rfl⟩ := renders_of_translate h
  have text := chars_chain_of_renders reader.isUnnumbered plain.typed follows .done
  exact ⟨_, returned?_of_translate h, isPlain_chain_of_renders plain.typed follows trivial,
    text.trans (List.append_nil _)⟩

/-- The text of a query on properties tells the chain of its tree and no more, and it tells the tree among
those that group to the right. -/
theorem sql_eq_iff_chain_eq (reader : Dialect.Reader e.dialect lx) (dialects : e'.dialect = e.dialect)
    (plain : node.IsPlain fun _ => none) (plain' : node'.IsPlain fun _ => none)
    (h : e.translate schema bindings node = .ok r) (h' : e'.translate schema bindings' node' = .ok r') :
    ∃ t t', e.returned? schema bindings node = .ok t ∧ e'.returned? schema bindings' node' = .ok t' ∧
      (r.sql = r'.sql ↔ t.chain .done = t'.chain .done) ∧
      (t.GroupsRight → t'.GroupsRight → r.sql = r'.sql → t = t') := by
  obtain ⟨q, names⟩ := reader.exists_names
  have reader' : Dialect.Reader e'.dialect lx := dialects ▸ reader
  obtain ⟨t, returned, legible, text⟩ := exists_chain reader plain h
  obtain ⟨t', returned', legible', text'⟩ := exists_chain reader' plain' h'
  rw [dialects] at text'
  have chains : r.sql = r'.sql ↔ t.chain .done = t'.chain .done := by
    rw [← String.toList_inj, ← text, ← text']
    constructor
    · intro same
      have nothing : Chain.Ends [] := by simp [Chain.Ends]
      exact (Chain.eq_of_chars_append names legible legible' nothing nothing (by simpa using same)).1
    · intro same
      rw [same]
  refine ⟨t, t', returned, returned', chains, fun right right' same => ?_⟩
  exact Node.eq_of_chain_eq right right' (chains.mp same)

/-- A comparison of a conjunction, with the property written on either side. -/
theorem sql_eq_iff_chain_eq_turned :
    let a : Node := .identifier "a" none
    let b : Node := .identifier "b" none
    let both : Node := .conjunction .and (.comparison .lt a b) (.negation b)
    let e : Engine := ⟨.mysql, {}⟩
    let schema : Schema := fun _ => some .long
    ∃ r r', e.translate schema .empty (.comparison .ge a both) = .ok r ∧
      e.translate schema .empty (.comparison .le both a) = .ok r' ∧
      ∃ t t', e.returned? schema .empty (.comparison .ge a both) = .ok t ∧
        e.returned? schema .empty (.comparison .le both a) = .ok t' ∧
        (r.sql = r'.sql ↔ t.chain .done = t'.chain .done) ∧
        (t.GroupsRight → t'.GroupsRight → r.sql = r'.sql → t = t') := by
  intro a b both e schema
  obtain ⟨r, h⟩ : ∃ r, e.translate schema .empty (.comparison .ge a both) = .ok r := ⟨_, rfl⟩
  obtain ⟨r', h'⟩ : ∃ r, e.translate schema .empty (.comparison .le both a) = .ok r := ⟨_, rfl⟩
  have reader : Dialect.Reader e.dialect .backslashed := .mysql
  have plainBoth : both.IsPlain fun _ => none := ⟨⟨by decide, rfl, rfl⟩, rfl⟩
  have plain : (Node.comparison .ge a both).IsPlain fun _ => none := ⟨by decide, rfl, plainBoth⟩
  have plain' : (Node.comparison .le both a).IsPlain fun _ => none := ⟨by decide, plainBoth, rfl⟩
  exact ⟨r, r', h, h', sql_eq_iff_chain_eq reader rfl plain plain' h h'⟩

/-- A test of a comparison for NULL, and a comparison with a test for NULL. -/
theorem grouping_lost :
    let a : Node := .identifier "a" none
    let b : Node := .identifier "b" none
    let e : Engine := ⟨.ansi, {}⟩
    let schema : Schema := fun _ => some .long
    ∃ r t t', r.sql = "a = b IS NULL" ∧
      e.translate schema .empty (.lone .eq .left (.comparison .eq a b)) = .ok r ∧
      e.translate schema .empty (.comparison .eq a (.lone .eq .left b)) = .ok r ∧
      e.returned? schema .empty (.lone .eq .left (.comparison .eq a b)) = .ok t ∧
      e.returned? schema .empty (.comparison .eq a (.lone .eq .left b)) = .ok t' ∧ t ≠ t' := by
  refine ⟨_, _, _, ?_, rfl, rfl, rfl, rfl, ?_⟩
  · decide
  · nofun

end Engine

end ContentQuery
