import ContentQuery.Dialect.Builtin
import ContentQuery.Proofs.Coercion
import ContentQuery.Proofs.Resolution
import ContentQuery.Proofs.Translation

/-!
# The case of patterns

Texts that a `LIKE` compares with a property of texts may as well be written in another case. Such trees
are translated to the same query with the same parameters.
-/

namespace ContentQuery

open Script

variable {schema : Schema} {b b' : Bindings} {options : RenderOptions} {limit level : Nat}
  {ctx ctx' : Context} {op : Operator} {tag : TypeTag} {pieces : List Piece}
  {node node' l l' r r' x y y' : Node}

/-- A type whose values are texts. -/
def TypeTag.isText : TypeTag → Bool
  | string | reference => true
  | _ => false

/-! ### Values -/

namespace Value

variable {v v' w : Value} {s : String}

/-- The text that a value is made of. -/
def written? : Value → Option String
  | str s => some s
  | char c => some c.toString
  | _ => none

/-- The values differ at most in the case of their texts, at any depth of lists. -/
inductive SameButCase : Value → Value → Prop
  | refl (v : Value) : SameButCase v v
  | text {v v' : Value} {s s' : String} (left : v.written? = some s) (right : v'.written? = some s')
      (same : Text.upper s = Text.upper s') : SameButCase v v'
  | list {items others : List Value} (length : items.length = others.length)
      (each : ∀ (i : Nat) (h : i < items.length) (h' : i < others.length),
        SameButCase items[i] others[i]) : SameButCase (list items) (list others)

theorem SameButCase.symm (same : v.SameButCase v') : v'.SameButCase v := by
  induction same with
  | refl v => exact .refl v
  | text left right same => exact .text right left same.symm
  | list length each ih => exact .list length.symm fun i h h' => ih i h' h

theorem isNull_of_written? (h : v.written? = some s) : v.isNull = false := by
  cases v <;> first | rfl | cases h

theorem SameButCase.isNull_eq (same : v.SameButCase v') : v.isNull = v'.isNull := by
  cases same with
  | refl => rfl
  | text left right => rw [isNull_of_written? left, isNull_of_written? right]
  | list => rfl

theorem coerce_of_written? (text : tag.isText = true) (h : v.written? = some s) :
    v.coerce tag = .ok (str s) := by
  have leaf : v.isLeaf = true := by
    cases v <;> first | rfl | cases h
  have read : v.toText? = some s := by
    cases v <;> first | exact h | cases h
  have converted : v.convert? tag = some (str s) := by
    cases tag <;> first | exact congrArg (Option.map str) read | cases text
  rw [coerce_of_isLeaf leaf, converted]

theorem coerceAll_sameButCase {items others ws : List Value} (length : items.length = others.length)
    (each : ∀ (i : Nat) (h : i < items.length) (h' : i < others.length) (w : Value),
      items[i].coerce tag = .ok w → ∃ w', others[i].coerce tag = .ok w' ∧ w.foldCase = w'.foldCase)
    (coerced : coerceAll tag items = .ok ws) :
    ∃ ws', coerceAll tag others = .ok ws' ∧ foldCaseAll ws = foldCaseAll ws' := by
  induction items generalizing others ws with
  | nil =>
    obtain rfl := List.eq_nil_of_length_eq_zero length.symm
    exact ⟨ws, coerced, rfl⟩
  | cons v rest ih =>
    cases others with
    | nil => cases length
    | cons v' rest' =>
      rw [coerceAll] at coerced
      cases first : v.coerce tag with
      | error mismatch => simp [first] at coerced
      | ok w =>
        cases later : coerceAll tag rest with
        | error mismatch => simp [first, later, Except.map] at coerced
        | ok ws₁ =>
          simp only [first, later, Except.map, Except.ok.injEq] at coerced
          obtain ⟨w', first', folds⟩ := each 0 (Nat.succ_pos _) (Nat.succ_pos _) w first
          obtain ⟨ws', later', foldsAll⟩ := ih (Nat.succ.inj length)
            (fun i h h' => each (i + 1) (Nat.succ_lt_succ h) (Nat.succ_lt_succ h')) later
          refine ⟨w' :: ws', ?_, ?_⟩
          · rw [List.getElem_cons_zero] at first'
            simp only [coerceAll, first', later', Except.map]
          · rw [← coerced, foldCaseAll, foldCaseAll, folds, foldsAll]

/-- The values that stand for them under a type of texts fold to the same value. -/
theorem SameButCase.coerce (same : v.SameButCase v') (text : tag.isText = true)
    (coerced : v.coerce tag = .ok w) :
    ∃ w', v'.coerce tag = .ok w' ∧ w.foldCase = w'.foldCase := by
  induction same generalizing w with
  | refl v => exact ⟨w, coerced, rfl⟩
  | text left right same =>
    rw [coerce_of_written? text left, Except.ok.injEq] at coerced
    refine ⟨_, coerce_of_written? text right, ?_⟩
    rw [← coerced, foldCase, foldCase, same]
  | @list items others length each ih =>
    rw [Value.coerce] at coerced ⊢
    cases items' : coerceAll tag items with
    | error mismatch => simp [items', Except.map] at coerced
    | ok ws =>
      simp only [items', Except.map, Except.ok.injEq] at coerced
      obtain ⟨ws', others', folds⟩ := coerceAll_sameButCase length (fun i h h' _ => ih i h h') items'
      refine ⟨Value.list ws', by rw [others']; rfl, ?_⟩
      rw [← coerced, foldCase, foldCase, folds]

end Value

/-! ### Trees -/

namespace Node

/-- Constants, or a variable under two bindings, whose values differ at most in case. What type they have
of their own is one of texts. -/
inductive SamePattern (b b' : Bindings) : Node → Node → Prop
  | constant {v v' : Value} {tag : Option TypeTag} (text : tag.all TypeTag.isText = true)
      (same : v.SameButCase v') : SamePattern b b' (constant v tag) (constant v' tag)
  | bindVariable {reference : String} {v v' : Value} {tag : Option TypeTag}
      (text : tag.all TypeTag.isText = true) (bound : b (variableName reference) = some v)
      (bound' : b' (variableName reference) = some v') (same : v.SameButCase v') :
      SamePattern b b' (bindVariable reference tag) (bindVariable reference tag)

/-- The trees differ at most in the case of what a `LIKE` compares with a property of texts. A variable
that has different values under the two bindings stands nowhere else. -/
inductive SameButCase (schema : Schema) (b b' : Bindings) : Node → Node → Prop
  | identifier (name : String) (tag : Option TypeTag) :
      SameButCase schema b b' (identifier name tag) (identifier name tag)
  | constant (v : Value) (tag : Option TypeTag) : SameButCase schema b b' (constant v tag) (constant v tag)
  | bindVariable {reference : String} (tag : Option TypeTag)
      (same : b (variableName reference) = b' (variableName reference)) :
      SameButCase schema b b' (bindVariable reference tag) (bindVariable reference tag)
  | literal (text : String) : SameButCase schema b b' (literal text) (literal text)
  | function (name : String) {params others : List Node} (length : params.length = others.length)
      (each : ∀ (i : Nat) (h : i < params.length) (h' : i < others.length),
        SameButCase schema b b' params[i] others[i]) :
      SameButCase schema b b' (function name params) (function name others)
  | comparison (op : Operator) {l l' r r' : Node} (left : SameButCase schema b b' l l')
      (right : SameButCase schema b b' r r') :
      SameButCase schema b b' (comparison op l r) (comparison op l' r')
  | pattern {x y y' : Node} (text : (x.propertyType? schema).any TypeTag.isText = true)
      (same : SamePattern b b' y y') :
      SameButCase schema b b' (comparison .like x y) (comparison .like x y')
  | patternInFront {x y y' : Node} (text : (x.propertyType? schema).any TypeTag.isText = true)
      (same : SamePattern b b' y y') :
      SameButCase schema b b' (comparison .like y x) (comparison .like y' x)
  | lone (op : Operator) (side : Side) {x x' : Node} (inner : SameButCase schema b b' x x') :
      SameButCase schema b b' (lone op side x) (lone op side x')
  | conjunction (op : Connective) {l l' r r' : Node} (left : SameButCase schema b b' l l')
      (right : SameButCase schema b b' r r') :
      SameButCase schema b b' (conjunction op l r) (conjunction op l' r')
  | negation {x x' : Node} (inner : SameButCase schema b b' x x') :
      SameButCase schema b b' (negation x) (negation x')

theorem propertyType?_typed (schema : Schema) (node : Node) :
    (node.typed schema).propertyType? schema = node.propertyType? schema := by
  cases node with
  | identifier name tag =>
    cases tag with
    | none => exact Option.or_self
    | some t => rfl
  | _ => rfl

theorem SamePattern.symm (same : SamePattern b b' y y') : SamePattern b' b y' y := by
  cases same with
  | constant text same => exact .constant text same.symm
  | bindVariable text bound bound' same => exact .bindVariable text bound' bound same.symm

theorem SameButCase.symm (same : SameButCase schema b b' node node') : SameButCase schema b' b node' node := by
  induction same with
  | identifier name tag => exact .identifier name tag
  | constant v tag => exact .constant v tag
  | bindVariable tag same => exact .bindVariable tag same.symm
  | literal text => exact .literal text
  | function name length each ih => exact .function name length.symm fun i h h' => ih i h' h
  | comparison op left right ihl ihr => exact .comparison op ihl ihr
  | pattern text same => exact .pattern text same.symm
  | patternInFront text same => exact .patternInFront text same.symm
  | lone op side inner ih => exact .lone op side ih
  | conjunction op left right ihl ihr => exact .conjunction op ihl ihr
  | negation inner ih => exact .negation ih

theorem exists_identifier (text : (x.propertyType? schema).any TypeTag.isText = true) :
    ∃ name tag, x = identifier name tag := by
  cases x with
  | identifier name tag => exact ⟨name, tag, rfl⟩
  | _ => cases text

namespace SamePattern

variable (same : SamePattern b b' y y')
include same

theorem turned (text : (x.propertyType? schema).any TypeTag.isText = true) : y.turned x = true := by
  obtain ⟨name, tag, rfl⟩ := exists_identifier text
  cases same <;> rfl

theorem isNull_eq : isNull ⟨b, options⟩ y = isNull ⟨b', options⟩ y' := by
  cases same with
  | constant text same => exact same.isNull_eq
  | bindVariable text bound bound' same =>
    simp only [isNull, bound, bound']
    exact same.isNull_eq

theorem typed_eq_self : y.typed schema = y := by
  cases same <;> rfl

theorem propertyTag?_eq_none : y.propertyTag? = none := by
  cases same <;> rfl

theorem adopt {tag : Option TypeTag} (text : tag.any TypeTag.isText = true) :
    SamePattern b b' (y.adopt tag) (y'.adopt tag) := by
  have textToo : tag.all TypeTag.isText = true := by
    cases tag with
    | none => rfl
    | some t => exact text
  cases same with
  | @constant v v' old own same =>
    cases old with
    | none => exact .constant textToo same
    | some t => exact .constant own same
  | @bindVariable reference v v' old own bound bound' same =>
    cases old with
    | none => exact .bindVariable textToo bound bound' same
    | some t => exact .bindVariable own bound bound' same

theorem lookups_eq_nil : y.lookups schema limit level = [] := by
  cases same <;> rfl

end SamePattern

namespace SameButCase

theorem isReference_eq (same : SameButCase schema b b' node node') : node.isReference = node'.isReference := by
  cases same <;> rfl

theorem propertyTag?_eq (same : SameButCase schema b b' node node') :
    node.propertyTag? = node'.propertyTag? := by
  cases same <;> rfl

theorem turned_eq (left : SameButCase schema b b' l l') (right : SameButCase schema b b' r r') :
    l.turned r = l'.turned r' := by
  simp only [turned, left.isReference_eq, right.isReference_eq]

theorem isNull_eq (same : SameButCase schema b b' node node') :
    isNull ⟨b, options⟩ node = isNull ⟨b', options⟩ node' := by
  cases same with
  | bindVariable tag same => simp only [isNull, same]
  | _ => rfl

theorem adopt (tag : Option TypeTag) (same : SameButCase schema b b' node node') :
    SameButCase schema b b' (node.adopt tag) (node'.adopt tag) := by
  cases same with
  | constant v old => cases old <;> exact .constant v _
  | bindVariable old same => cases old <;> exact .bindVariable _ same
  | identifier name old => exact .identifier name old
  | literal text => exact .literal text
  | function name length each => exact .function name length each
  | comparison op left right => exact .comparison op left right
  | pattern text same => exact .pattern text same
  | patternInFront text same => exact .patternInFront text same
  | lone op side inner => exact .lone op side inner
  | conjunction op left right => exact .conjunction op left right
  | negation inner => exact .negation inner

/-- Trees that differ only in case are given the same types. -/
theorem typed (same : SameButCase schema b b' node node') :
    SameButCase schema b b' (node.typed schema) (node'.typed schema) := by
  induction same with
  | identifier name tag => cases tag <;> exact .identifier name _
  | constant v tag => exact .constant v tag
  | bindVariable tag same => exact .bindVariable tag same
  | literal text => exact .literal text
  | function name length each ih =>
    simp only [Node.typed, typedAll_eq_map]
    refine .function name (by simpa using length) fun i h h' => ?_
    rw [List.getElem_map, List.getElem_map]
    exact ih i _ _
  | comparison op left right ihl ihr =>
    simp only [Node.typed]
    rw [ihl.propertyTag?_eq, ihr.propertyTag?_eq]
    exact .comparison op (ihl.adopt _) (ihr.adopt _)
  | pattern text same =>
    simp only [Node.typed, same.typed_eq_self, same.symm.typed_eq_self, same.propertyTag?_eq_none,
      same.symm.propertyTag?_eq_none, adopt_none, propertyTag?_typed]
    exact .pattern (by rwa [propertyType?_typed]) (same.adopt text)
  | patternInFront text same =>
    simp only [Node.typed, same.typed_eq_self, same.symm.typed_eq_self, same.propertyTag?_eq_none,
      same.symm.propertyTag?_eq_none, adopt_none, propertyTag?_typed]
    exact .patternInFront (by rwa [propertyType?_typed]) (same.adopt text)
  | lone op side inner ih => exact .lone op side ih
  | conjunction op left right ihl ihr => exact .conjunction op ihl ihr
  | negation inner ih => exact .negation ih

theorem fault?_lookups (same : SameButCase schema b b' node node')
    (found : (node.lookups schema limit level).fault? = none) :
    (node'.lookups schema limit level).fault? = none := by
  induction same generalizing level with
  | identifier | constant | bindVariable | literal => exact found
  | function name length each ih =>
    rw [lookups, fault?_unlessDeep_eq_none_iff, fault?_lookupsAll_eq_none_iff] at found ⊢
    refine ⟨found.1, fun q mem => ?_⟩
    obtain ⟨i, bound, rfl⟩ := List.getElem_of_mem mem
    exact ih i (length ▸ bound) bound (found.2 _ (List.getElem_mem _))
  | comparison op left right ihl ihr =>
    rw [lookups, fault?_unlessDeep_eq_none_iff, Trail.fault?_append_eq_none] at found ⊢
    exact ⟨found.1, ihl found.2.1, ihr found.2.2⟩
  | pattern text same | patternInFront text same =>
    rw [lookups, fault?_unlessDeep_eq_none_iff, Trail.fault?_append_eq_none, same.lookups_eq_nil] at found
    rw [lookups, fault?_unlessDeep_eq_none_iff, Trail.fault?_append_eq_none, same.symm.lookups_eq_nil]
    exact found
  | lone op side inner ih | negation inner ih =>
    rw [lookups, fault?_unlessDeep_eq_none_iff] at found ⊢
    exact ⟨found.1, ih found.2⟩
  | conjunction op left right ihl ihr =>
    rw [lookups, fault?_unlessDeep_eq_none_iff, Trail.fault?_append_eq_none] at found ⊢
    exact ⟨found.1, ihl found.2.1, ihr found.2.2⟩

end SameButCase

end Node

/-! ### Rendering -/

/-- Where case is folded, nothing is left of the difference. -/
theorem Node.SamePattern.renders (same : SamePattern b b' y y') (fold : ctx.foldCase = true)
    (h : Renders ⟨b, options⟩ level ctx y pieces ctx') : Renders ⟨b', options⟩ level ctx y' pieces ctx' := by
  have prepared {w w' : Value} (folds : w.foldCase = w'.foldCase) : ctx.prepare w = ctx.prepare w' := by
    simp only [Context.prepare, fold, if_true, folds]
  cases same with
  | constant text same =>
    cases h with
    | constant coerced =>
      obtain ⟨w', coerced', folds⟩ := same.coerce text coerced
      rw [prepared folds]
      exact .constant coerced'
  | bindVariable text bound bound' same =>
    cases h with
    | bindVariable found coerced =>
      obtain rfl := Option.some.inj (bound.symm.trans found)
      obtain ⟨w', coerced', folds⟩ := same.coerce text coerced
      rw [prepared folds]
      exact .bindVariable bound' coerced'

theorem Node.SameButCase.renders (same : SameButCase schema b b' node node')
    (h : Renders ⟨b, options⟩ level ctx node pieces ctx') :
    Renders ⟨b', options⟩ level ctx node' pieces ctx' := by
  induction h generalizing node' with
  | column level ctx name tag =>
    cases same
    exact .column level ctx name tag
  | fragment level ctx text =>
    cases same
    exact .fragment level ctx text
  | constant coerced =>
    cases same
    exact .constant coerced
  | bindVariable bound coerced =>
    cases same with
    | bindVariable tag same => exact .bindVariable (same.symm.trans bound) coerced
  | tested room straight null test inner ih =>
    cases same with
    | comparison op left right =>
      exact .tested room ((left.turned_eq right).symm.trans straight) (right.isNull_eq.symm.trans null) test
        (ih left)
    | pattern | patternInFront => cases test
  | joined room compares straight notNull left right ihl ihr =>
    cases same with
    | comparison op first second =>
      exact .joined room compares ((first.turned_eq second).symm.trans straight)
        (second.isNull_eq.symm.trans notNull) (ihl first) (ihr second)
    | pattern text same =>
      obtain ⟨name, tag, rfl⟩ := exists_identifier text
      exact .joined room compares rfl (same.isNull_eq.symm.trans notNull) (ihl (.identifier name tag))
        (same.renders rfl right)
    | patternInFront text same =>
      exact absurd straight (ne_of_eq_of_ne (same.turned text) Bool.noConfusion)
  | turned trade swapped ih =>
    cases same with
    | comparison op left right =>
      exact .turned ((left.turned_eq right).symm.trans trade) (ih (.comparison _ right left))
    | pattern text same =>
      obtain ⟨name, tag, rfl⟩ := exists_identifier text
      cases trade
    | patternInFront text same =>
      exact .turned (same.symm.turned text) (ih (.pattern text same))
  | lone room test inner ih =>
    cases same with
    | lone op side same => exact .lone room test (ih same)
  | conjunction room joins left right ihl ihr =>
    cases same with
    | conjunction op first second => exact .conjunction room joins (ihl first) (ihr second)
  | negation room inner ih =>
    cases same with
    | negation same => exact .negation room (ih same)

/-! ### Translation -/

namespace Engine

theorem translate_of_sameButCase {e : Engine} {r : Rendered} (same : node.SameButCase schema b b' node')
    (h : e.translate schema b node = .ok r) : e.translate schema b' node' = .ok r := by
  rw [translate_eq_ok_iff] at h ⊢
  obtain ⟨found, pieces, ctx, follows, written⟩ := h
  exact ⟨same.fault?_lookups found, pieces, ctx, same.typed.renders follows, written⟩

/-- Trees that differ only in the case of patterns are translated to the same query with the same
parameters, or both not at all. -/
theorem translate_sameButCase (e : Engine) (same : node.SameButCase schema b b' node') (r : Rendered) :
    e.translate schema b node = .ok r ↔ e.translate schema b' node' = .ok r :=
  ⟨translate_of_sameButCase same, translate_of_sameButCase same.symm⟩

/-- A list of a text and a character, and a variable whose value is a parameter. -/
theorem translate_sameButCase_bound :
    let tree (texts : Value) : Node := .conjunction .and
      (.comparison .like (.identifier "name" none) (.constant texts none))
      (.negation (.comparison .like (.bindVariable ":p" none) (.identifier "name" none)))
    let bound (s : String) : Bindings := fun name => if name = "p" then some (.str s) else none
    let known : Schema := fun _ => some .string
    let here := tree (.list [.str "Straße", .list [.char 'k', .null]])
    let there := tree (.list [.str "STRASSE", .list [.char 'K', .null]])
    here.SameButCase known (bound "bob") (bound "Bob") there ∧
      ∃ r, (⟨.ansi, {}⟩ : Engine).translate known (bound "bob") here = .ok r ∧
        (⟨.ansi, {}⟩ : Engine).translate known (bound "Bob") there = .ok r := by
  intro tree bound known here there
  have inner : (Value.list [.char 'k', .null]).SameButCase (.list [.char 'K', .null]) := by
    refine .list rfl fun i h _ => ?_
    match i, h with
    | 0, _ => exact .text rfl rfl (by decide +kernel)
    | 1, _ => exact .refl .null
  have texts : (Value.list [.str "Straße", .list [.char 'k', .null]]).SameButCase
      (.list [.str "STRASSE", .list [.char 'K', .null]]) := by
    refine .list rfl fun i h _ => ?_
    match i, h with
    | 0, _ => exact .text rfl rfl (by decide +kernel)
    | 1, _ => exact inner
  have same : here.SameButCase known (bound "bob") (bound "Bob") there :=
    .conjunction .and (.pattern rfl (.constant rfl texts))
      (.negation (.patternInFront rfl (.bindVariable rfl rfl rfl (.text rfl rfl (by decide +kernel)))))
  obtain ⟨r, h⟩ : ∃ r, (⟨.ansi, {}⟩ : Engine).translate known (bound "bob") here = .ok r := ⟨_, rfl⟩
  exact ⟨same, r, h, (translate_sameButCase ⟨.ansi, {}⟩ same r).mp h⟩

end Engine

end ContentQuery
