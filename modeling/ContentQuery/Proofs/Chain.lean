import ContentQuery.Proofs.Outline
import ContentQuery.Proofs.Spelling
import ContentQuery.Rendering.Script

/-!
# Chains

A condition as it is read from left to right: operands, the tests behind them and the operators between
them, in one chain whatever the grouping. Only parts of conjunctions are chains of their own, in
parentheses. A chain of properties can be read back from its text.
-/

namespace ContentQuery

open Script

/-- What is read next: an operand, or what stands behind one. -/
inductive Place where
  | operand | behind
  deriving Repr, DecidableEq

inductive Chain : Place → Type
  | done : Chain .behind
  | test (op : Operator) (rest : Chain .behind) : Chain .behind
  | compare (op : Operator) (rest : Chain .operand) : Chain .behind
  | leaf (node : Node) (rest : Chain .behind) : Chain .operand
  | joined (op : Connective) (left right : Chain .operand) (rest : Chain .behind) : Chain .operand
  | negated (inner : Chain .operand) (rest : Chain .behind) : Chain .operand

/-- The chain of a tree, with the rest of the chain behind it. -/
def Node.chain : Node → Chain .behind → Chain .operand
  | comparison op l r, rest => l.chain (.compare op (r.chain rest))
  | lone op _ x, rest => x.chain (.test op rest)
  | conjunction op l r, rest => .joined op (l.chain .done) (r.chain .done) rest
  | negation x, rest => .negated (x.chain .done) rest
  | node, rest => .leaf node rest

/-- Operators that compare their operands as they are. -/
def Operator.relations : List Operator :=
  [gt, ge, eq, ne, le, lt]

/-- The text of a property. -/
def Node.columnText (d : Dialect) : Node → String
  | identifier name _ => d.identifier name
  | _ => ""

namespace Chain

variable {d : Dialect} {schema : Schema} {place : Place}

/-- The text of a chain of properties. -/
def chars (d : Dialect) : {place : Place} → Chain place → List Char
  | _, done => []
  | _, test op rest => ((nullTest? op).getD "").toList ++ rest.chars d
  | _, compare op rest => ' ' :: (op.token.toList ++ ' ' :: rest.chars d)
  | _, leaf node rest => (node.columnText d).toList ++ rest.chars d
  | _, joined op left right rest =>
    '(' :: (left.chars d ++ ')' :: (op.joint ++ '(' :: (right.chars d ++ ')' :: rest.chars d)))
  | _, negated inner rest => Outline.negation ++ (inner.chars d ++ ')' :: rest.chars d)

/-- Every operand is a property with the type that the schema gives it. -/
def IsPlain (schema : Schema) : {place : Place} → Chain place → Prop
  | _, done => True
  | _, test op rest => (op = .eq ∨ op = .ne) ∧ rest.IsPlain schema
  | _, compare op rest => op ∈ Operator.relations ∧ rest.IsPlain schema
  | _, leaf node rest => (∃ name, node = .identifier name (schema name)) ∧ rest.IsPlain schema
  | _, joined _ left right rest => left.IsPlain schema ∧ right.IsPlain schema ∧ rest.IsPlain schema
  | _, negated inner rest => inner.IsPlain schema ∧ rest.IsPlain schema

end Chain

/-! ### Reading names back -/

variable {lx : Lexer} {d : Dialect} {schema : Schema} {q : Char} {a b s t x y : List Char}

theorem double_cons (q c : Char) (s : List Char) :
    Text.double (· == q) (c :: s) = c :: ((if c = q then [q] else []) ++ Text.double (· == q) s) := by
  by_cases same : c = q <;> simp [Text.double, same]

/-- A quoted text ends at the first delimiter that is not doubled. -/
theorem eq_of_double_append (hx : x.head? ≠ some q) (hy : y.head? ≠ some q)
    (h : Text.double (· == q) s ++ q :: x = Text.double (· == q) t ++ q :: y) : s = t ∧ x = y := by
  induction s generalizing t with
  | nil =>
    cases t with
    | nil => exact ⟨rfl, (List.cons.inj h).2⟩
    | cons c t =>
      rw [double_cons] at h
      obtain ⟨rfl, rfl⟩ := List.cons.inj h
      simp at hx
  | cons c s ih =>
    cases t with
    | nil =>
      rw [double_cons] at h
      obtain ⟨rfl, rfl⟩ := List.cons.inj h
      simp at hy
    | cons c' t =>
      rw [double_cons, double_cons, List.cons_append, List.cons_append, List.append_assoc,
        List.append_assoc] at h
      obtain ⟨rfl, tails⟩ := List.cons.inj h
      obtain ⟨rfl, rest⟩ := ih (List.append_cancel_left tails)
      exact ⟨rfl, rest⟩

/-- How a dialect writes names: as they are, or between a delimiter of its own. -/
structure Dialect.Names (d : Dialect) (q : Char) : Prop where
  isDelimiter : q = '"' ∨ q = '\x60'
  written : ∀ name, d.identifier name = if isBareName name then name else Text.quoted q (· == q) name

theorem Dialect.Reader.exists_names (h : Dialect.Reader d lx) : ∃ q, d.Names q := by
  cases h with
  | ansi | sqlite => exact ⟨'"', .inl rfl, fun _ => rfl⟩
  | mysql => exact ⟨'\x60', .inr rfl, fun _ => rfl⟩

namespace Dialect.Names

variable {name name' : String}

theorem not_solid (h : d.Names q) : isSolid q = false := by
  rcases h.isDelimiter with rfl | rfl <;> rfl

theorem not_delimits (h : d.Names q) : ¬ (q = ' ' ∨ q = ')') := by
  rcases h.isDelimiter with rfl | rfl <;> decide

theorem toList_of_bare (h : d.Names q) (bare : isBareName name = true) :
    (d.identifier name).toList = name.toList := by
  rw [h.written, if_pos bare]

theorem toList_of_quoted (h : d.Names q) (notBare : isBareName name = false) :
    (d.identifier name).toList = q :: (Text.double (· == q) name.toList ++ [q]) := by
  rw [h.written, notBare, if_neg Bool.false_ne_true, Text.quoted, String.toList_ofList]

/-- Where a name ends does not depend on what follows it. -/
theorem eq_of_append (h : d.Names q) (hx : Delimits x) (hy : Delimits y)
    (same : (d.identifier name).toList ++ x = (d.identifier name').toList ++ y) :
    name = name' ∧ x = y := by
  cases bare : isBareName name with
  | true =>
    rw [h.toList_of_bare bare] at same
    have solid := solid_of_isBareName bare
    cases bare' : isBareName name' with
    | true =>
      rw [h.toList_of_bare bare'] at same
      obtain ⟨chars, rest⟩ := solid.eq_of_append (solid_of_isBareName bare') hx hy same
      exact ⟨String.toList_inj.mp chars, rest⟩
    | false =>
      rw [h.toList_of_quoted bare'] at same
      exact absurd same (solid.append_ne_cons hx h.not_solid h.not_delimits _)
  | false =>
    rw [h.toList_of_quoted bare] at same
    cases bare' : isBareName name' with
    | true =>
      rw [h.toList_of_bare bare'] at same
      have solid := solid_of_isBareName bare'
      exact absurd same.symm (solid.append_ne_cons hy h.not_solid h.not_delimits _)
    | false =>
      rw [h.toList_of_quoted bare'] at same
      rw [List.cons_append, List.cons_append, List.append_assoc, List.append_assoc] at same
      have noQuote : x.head? ≠ some q := fun head => h.not_delimits (hx q head)
      have noQuote' : y.head? ≠ some q := fun head => h.not_delimits (hy q head)
      obtain ⟨chars, rest⟩ := eq_of_double_append noQuote noQuote' (List.cons.inj same).2
      exact ⟨String.toList_inj.mp chars, rest⟩

theorem ne_open (h : d.Names q) (hx : Delimits x) (rest : List Char) :
    (d.identifier name).toList ++ x ≠ '(' :: rest := by
  intro same
  cases bare : isBareName name with
  | true =>
    rw [h.toList_of_bare bare] at same
    exact (solid_of_isBareName bare).append_ne_cons hx rfl (by decide) rest same
  | false =>
    rw [h.toList_of_quoted bare] at same
    obtain ⟨rfl, -⟩ := List.cons.inj same
    rcases h.isDelimiter with wrong | wrong <;> cases wrong

/-- A column is not taken for a negation, not even one with that name. -/
theorem ne_negation (h : d.Names q) (hx : Delimits x) (rest : List Char) :
    (d.identifier name).toList ++ x ≠ Outline.negation ++ rest := by
  intro same
  cases bare : isBareName name with
  | true =>
    rw [h.toList_of_bare bare] at same
    have word : Solid "NOT".toList := by decide
    have blank : Delimits (' ' :: '(' :: rest) := by simp [Delimits]
    obtain ⟨chars, -⟩ := (solid_of_isBareName bare).eq_of_append word hx blank same
    rw [String.toList_inj.mp chars] at bare
    revert bare
    decide
  | false =>
    rw [h.toList_of_quoted bare] at same
    obtain ⟨rfl, -⟩ := List.cons.inj same
    rcases h.isDelimiter with wrong | wrong <;> cases wrong

end Dialect.Names

/-! ### Reading chains back -/

namespace Chain

variable {place : Place} {f g : Chain place} {op op' : Operator}

/-- Nothing, or the parenthesis that closes around a chain. -/
def Ends (s : List Char) : Prop :=
  ∀ c ∈ s.head?, c = ')'

theorem ends_close (s : List Char) : Ends (')' :: s) := by
  simp [Ends]

theorem Ends.ne_blank (hx : Ends x) (s : List Char) : x ≠ ' ' :: s := by
  rintro rfl
  cases hx ' ' rfl

theorem delimits_chars {rest : Chain .behind} (plain : rest.IsPlain schema) (hx : Ends x) :
    Delimits (rest.chars d ++ x) := by
  intro c head
  cases rest with
  | done => exact .inr (hx c head)
  | test op rest =>
    rcases plain.1 with rfl | rfl <;> exact .inl (Option.some.inj head).symm
  | compare op rest => exact .inl (Option.some.inj head).symm

theorem eq_of_test_append (test : op = .eq ∨ op = .ne) (test' : op' = .eq ∨ op' = .ne)
    (same : ((nullTest? op).getD "").toList ++ s = ((nullTest? op').getD "").toList ++ t) :
    op = op' ∧ s = t := by
  rcases test with rfl | rfl <;> rcases test' with rfl | rfl
  · exact ⟨rfl, List.append_cancel_left same⟩
  · simp [nullTest?] at same
  · simp [nullTest?] at same
  · exact ⟨rfl, List.append_cancel_left same⟩

theorem test_ne_compare (test : op = .eq ∨ op = .ne) (compares : op' ∈ Operator.relations) :
    ((nullTest? op).getD "").toList ++ s ≠ ' ' :: (op'.token.toList ++ ' ' :: t) := by
  -- A test goes on with a letter, and no relation is written with one.
  have letter : ∃ rest, ((nullTest? op).getD "").toList ++ s = ' ' :: 'I' :: rest := by
    rcases test with rfl | rfl <;> exact ⟨_, rfl⟩
  have signs : ∀ op ∈ Operator.relations, op.token.toList ≠ [] ∧ op.token.toList.head? ≠ some 'I' := by
    decide
  obtain ⟨rest, letter⟩ := letter
  obtain ⟨written, noLetter⟩ := signs op' compares
  rw [letter]
  intro same
  cases token : op'.token.toList with
  | nil => exact written token
  | cons c more =>
    rw [token] at same noLetter
    cases same
    exact noLetter rfl

/-- A plain chain can be read back from its text. -/
theorem eq_of_chars_append (names : d.Names q) (hf : f.IsPlain schema) (hg : g.IsPlain schema)
    (hx : Ends x) (hy : Ends y) (same : f.chars d ++ x = g.chars d ++ y) : f = g ∧ x = y := by
  -- The texts behind the chains are part of the statement: a chain in parentheses has more behind it.
  induction f generalizing x y with
  | done =>
    cases g with
    | done => exact ⟨rfl, same⟩
    | test op rest =>
      rcases hg.1 with rfl | rfl <;> exact absurd same (hx.ne_blank _)
    | compare op rest => exact absurd same (hx.ne_blank _)
  | test op rest ih =>
    cases g with
    | done =>
      rcases hf.1 with rfl | rfl <;> exact absurd same.symm (hy.ne_blank _)
    | test op' rest' =>
      simp only [chars, List.append_assoc] at same
      obtain ⟨rfl, behind⟩ := eq_of_test_append hf.1 hg.1 same
      obtain ⟨rfl, ends⟩ := ih hf.2 hg.2 hx hy behind
      exact ⟨rfl, ends⟩
    | compare op' rest' =>
      simp only [chars, List.append_assoc, List.cons_append] at same
      exact absurd same (test_ne_compare hf.1 hg.1)
  | compare op rest ih =>
    cases g with
    | done => exact absurd same.symm (hy.ne_blank _)
    | test op' rest' =>
      simp only [chars, List.append_assoc, List.cons_append] at same
      exact absurd same.symm (test_ne_compare hg.1 hf.1)
    | compare op' rest' =>
      simp only [chars, List.append_assoc, List.cons_append] at same
      obtain ⟨rfl, behind⟩ := Operator.eq_of_token_append (List.cons.inj same).2
      obtain ⟨rfl, ends⟩ := ih hf.2 hg.2 hx hy behind
      exact ⟨rfl, ends⟩
  | leaf node rest ih =>
    obtain ⟨⟨name, rfl⟩, plain⟩ := hf
    have delimited := delimits_chars (d := d) plain hx
    simp only [chars, List.append_assoc] at same
    cases g with
    | leaf node' rest' =>
      obtain ⟨⟨name', rfl⟩, plain'⟩ := hg
      simp only [chars, List.append_assoc] at same
      obtain ⟨rfl, behind⟩ := names.eq_of_append delimited (delimits_chars plain' hy) same
      obtain ⟨rfl, ends⟩ := ih plain plain' hx hy behind
      exact ⟨rfl, ends⟩
    | joined op l r rest' => exact absurd same (names.ne_open delimited _)
    | negated inner rest' =>
      simp only [chars, List.append_assoc] at same
      exact absurd same (names.ne_negation delimited _)
  | joined op l r rest ihl ihr ih =>
    cases g with
    | leaf node' rest' =>
      obtain ⟨⟨name', rfl⟩, plain'⟩ := hg
      simp only [chars, List.append_assoc] at same
      exact absurd same.symm (names.ne_open (delimits_chars plain' hy) _)
    | joined op' l' r' rest' =>
      simp only [chars, List.append_assoc, List.cons_append] at same
      obtain ⟨rfl, closed⟩ := ihl hf.1 hg.1 (ends_close _) (ends_close _) (List.cons.inj same).2
      obtain ⟨rfl, second⟩ := Connective.eq_of_joint_append (List.cons.inj closed).2
      obtain ⟨rfl, closed'⟩ := ihr hf.2.1 hg.2.1 (ends_close _) (ends_close _) second
      obtain ⟨rfl, ends⟩ := ih hf.2.2 hg.2.2 hx hy (List.cons.inj closed').2
      exact ⟨rfl, ends⟩
    | negated inner rest' => cases same
  | negated inner rest ihInner ih =>
    cases g with
    | leaf node' rest' =>
      obtain ⟨⟨name', rfl⟩, plain'⟩ := hg
      simp only [chars, List.append_assoc] at same
      exact absurd same.symm (names.ne_negation (delimits_chars plain' hy) _)
    | joined op l r rest' => cases same
    | negated inner' rest' =>
      simp only [chars, List.append_assoc, List.cons_append] at same
      obtain ⟨rfl, closed⟩ :=
        ihInner hf.1 hg.1 (ends_close _) (ends_close _) (List.append_cancel_left same)
      obtain ⟨rfl, ends⟩ := ih hf.2 hg.2 hx hy (List.cons.inj closed).2
      exact ⟨rfl, ends⟩

end Chain

end ContentQuery
