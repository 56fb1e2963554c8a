import ContentQuery.Proofs.Rendering.Faults

/-!
# Renderings

`Renders env level ctx node pieces ctx'` says that a node below `level` conditions, in the context
`ctx`, is rendered as `pieces` and leaves the context `ctx'`. There is one rule for each way in which a
node can be rendered, and a script without a fault follows the rules.
-/

namespace ContentQuery

namespace Operator

/-- The pieces of an operand inside the function that its operator applies to it. -/
def wrap (op : Operator) (pieces : List Piece) : List Piece :=
  match op.operandFunction? with
  | none => pieces
  | some name => .word (name ++ "(") :: pieces ++ [.word ")"]

def enter (op : Operator) (ctx : Context) : Context :=
  match op.operandFunction? with
  | none => ctx
  | some name => { ctx with foldCase := name == caseFolding }

def leave (op : Operator) (ctx : Context) : Context :=
  match op.operandFunction? with
  | none => ctx
  | some _ => { ctx with foldCase := false }

variable {op : Operator} {ctx : Context}

theorem inList_enter : (op.enter ctx).inList = ctx.inList := by
  unfold enter
  split <;> rfl

theorem operandFunction?_eq_none (h : op ≠ .like) : op.operandFunction? = none := by
  cases op <;> first | rfl | exact absurd rfl h

theorem enter_of_ne (h : op ≠ .like) (ctx : Context) : op.enter ctx = ctx := by
  rw [enter, operandFunction?_eq_none h]

theorem leave_of_ne (h : op ≠ .like) (ctx : Context) : op.leave ctx = ctx := by
  rw [leave, operandFunction?_eq_none h]

theorem wrap_of_ne (h : op ≠ .like) (pieces : List Piece) : op.wrap pieces = pieces := by
  rw [wrap, operandFunction?_eq_none h]

end Operator

open Script Trail

/-- The value that stands for a bound value in a context. -/
def Context.prepare (ctx : Context) (v : Value) : Value :=
  if ctx.foldCase then v.foldCase else v

def Setting.item (env : Setting) (name : String) : Value → Piece :=
  if env.options.inlineVariables then .constant else .param name

inductive Renders (env : Setting) : Nat → Context → Node → List Piece → Context → Prop
  | column (level : Nat) (ctx : Context) (name : String) (tag : TypeTag) :
      Renders env level ctx (.identifier name (some tag)) [.column name] ctx
  | fragment (level : Nat) (ctx : Context) (text : String) :
      Renders env level ctx (.literal text) [.verbatim text] ctx
  | constant {level : Nat} {ctx : Context} {v w : Value} {tag : TypeTag} (coerced : v.coerce tag = .ok w) :
      Renders env level ctx (.constant v (some tag)) (placed ctx.inList .constant (ctx.prepare w)) ctx
  | bindVariable {level : Nat} {ctx : Context} {reference : String} {v w : Value} {tag : TypeTag}
      (bound : env.bindings (variableName reference) = some v) (coerced : v.coerce tag = .ok w) :
      Renders env level ctx (.bindVariable reference (some tag))
        (placed ctx.inList (env.item (variableName reference)) (ctx.prepare w)) ctx
  /-- A comparison with NULL; the second operand is not rendered. -/
  | tested {level : Nat} {ctx ctx' : Context} {op : Operator} {l r : Node} {keyword : String}
      {pieces : List Piece} (room : level < env.options.maxDepth) (straight : l.turned r = false)
      (null : isNull env r = true) (test : nullTest? op = some keyword)
      (inner : Renders env (level + 1) ctx l pieces ctx') :
      Renders env level ctx (.comparison op l r) (pieces ++ [.word keyword]) ctx'
  | joined {level : Nat} {ctx ctx₁ ctx₂ : Context} {op : Operator} {l r : Node} {ps qs : List Piece}
      (room : level < env.options.maxDepth) (compares : isNoComparison op = false)
      (straight : l.turned r = false) (notNull : isNull env r = false)
      (left : Renders env (level + 1) (op.enter ctx) l ps ctx₁)
      (right : Renders env (level + 1) (op.enter { op.leave ctx₁ with inList := op == .isIn }) r qs ctx₂) :
      Renders env level ctx (.comparison op l r)
        (op.wrap ps ++ .word (" " ++ op.token ++ " ") :: op.wrap qs)
        { op.leave ctx₂ with inList := false }
  /-- A comparison whose operands trade places. -/
  | turned {level : Nat} {ctx ctx' : Context} {op : Operator} {l r : Node} {pieces : List Piece}
      (turned : l.turned r = true) (swapped : Renders env level ctx (.comparison op.reverse r l) pieces ctx') :
      Renders env level ctx (.comparison op l r) pieces ctx'
  | lone {level : Nat} {ctx ctx' : Context} {op : Operator} {side : Side} {x : Node} {keyword : String}
      {pieces : List Piece} (room : level < env.options.maxDepth) (test : nullTest? op = some keyword)
      (inner : Renders env (level + 1) ctx x pieces ctx') :
      Renders env level ctx (.lone op side x) (pieces ++ [.word keyword]) ctx'
  | conjunction {level : Nat} {ctx ctx₁ ctx₂ : Context} {op : Connective} {l r : Node}
      {ps qs : List Piece} (room : level < env.options.maxDepth) (joins : op ≠ .not)
      (left : Renders env (level + 1) ctx l ps ctx₁) (right : Renders env (level + 1) ctx₁ r qs ctx₂) :
      Renders env level ctx (.conjunction op l r)
        (.word "(" :: ps ++ .word (") " ++ op.operator.token ++ " (") :: qs ++ [.word ")"]) ctx₂
  | negation {level : Nat} {ctx ctx' : Context} {x : Node} {pieces : List Piece}
      (room : level < env.options.maxDepth) (inner : Renders env (level + 1) ctx x pieces ctx') :
      Renders env level ctx (.negation x) (.word "NOT (" :: pieces ++ [.word ")"]) ctx'

/-! ### Changes of single pieces -/

section

variable {f : Piece → Piece}

theorem Script.map_separated (words : ∀ text, f (.word text) = .word text) (pieces : List Piece) :
    (separated pieces).map f = separated (pieces.map f) := by
  induction pieces with
  | nil => rfl
  | cons p rest ih =>
    cases rest with
    | nil => rfl
    | cons q rest => simpa [separated, words] using ih

theorem Script.map_placed (words : ∀ text, f (.word text) = .word text) (inList : Bool)
    (item : Value → Piece) (v : Value) :
    (placed inList item v).map f = placed inList (fun v => f (item v)) v := by
  unfold placed
  cases inList with
  | false => rfl
  | true =>
    simp only [if_true]
    split <;> simp [map_separated words, words, Function.comp_def]

theorem Operator.map_wrap (words : ∀ text, f (.word text) = .word text) (op : Operator)
    (pieces : List Piece) : (op.wrap pieces).map f = op.wrap (pieces.map f) := by
  unfold wrap
  split <;> simp [words]

end

/-! ### Readings of single pieces -/

section

variable {β : Type} {f : Piece → Option β}

theorem Script.filterMap_separated (words : ∀ text, f (.word text) = none) (pieces : List Piece) :
    (separated pieces).filterMap f = pieces.filterMap f := by
  induction pieces with
  | nil => rfl
  | cons p rest ih =>
    cases rest with
    | nil => rfl
    | cons q rest => simp only [separated, List.filterMap_cons, words, ih]

theorem Operator.filterMap_wrap (words : ∀ text, f (.word text) = none) (op : Operator)
    (pieces : List Piece) : (op.wrap pieces).filterMap f = pieces.filterMap f := by
  unfold wrap
  split <;> simp [words]

end

namespace Script

variable {env : Setting} {level : Nat} {ctx ctx' : Context} {op : Operator} {l r node : Node}
  {pieces : List Piece}

/-! ### From scripts to renderings -/

theorem steps_operand {inner : Continued} (h : (inner (op.enter ctx)).1.fault? = none) :
    (operand op inner ctx).1.steps = op.wrap (inner (op.enter ctx)).1.steps := by
  unfold operand Operator.wrap Operator.enter at *
  cases hf : op.operandFunction? with
  | none => rfl
  | some name =>
    rw [hf] at h
    exact congrArg (_ :: ·) (steps_append _ h)

theorem operand_snd (inner : Continued) :
    (operand op inner ctx).2 = op.leave (inner (op.enter ctx)).2 := by
  unfold operand Operator.leave Operator.enter
  cases op.operandFunction? <;> rfl

theorem renders_compared (room : level < env.options.maxDepth) (compares : isNoComparison op = false)
    (straight : l.turned r = false)
    (ok : (compared env level op l r ctx).1.fault? = none)
    (left : ∀ ctx, (ofNode env (level + 1) l ctx).1.fault? = none →
      Renders env (level + 1) ctx l (ofNode env (level + 1) l ctx).1.steps (ofNode env (level + 1) l ctx).2)
    (right : ∀ ctx, (ofNode env (level + 1) r ctx).1.fault? = none →
      Renders env (level + 1) ctx r (ofNode env (level + 1) r ctx).1.steps (ofNode env (level + 1) r ctx).2) :
    Renders env level ctx (.comparison op l r) (compared env level op l r ctx).1.steps
      (compared env level op l r ctx).2 := by
  have okAt := ok
  rw [fault?_compared (fault?_ofNode env _ l) (fault?_ofNode env _ r)] at okAt
  unfold compared
  cases null : isNull env r with
  | true =>
    simp only [null, if_true] at okAt ⊢
    cases test : nullTest? op with
    | none => simp [test] at okAt
    | some keyword =>
      simp only [test, Option.isSome_some, if_true, ← fault?_ofNode env (level + 1) l ctx] at okAt
      simp only [tested, test, text, steps_append _ okAt, steps_ok_cons, steps_nil]
      exact .tested room straight null test (left ctx okAt)
  | false =>
    simp only [null, Bool.false_eq_true, if_false, Option.or_eq_none_iff] at okAt ⊢
    have okLeft := fun ctx => (fault?_ofNode env (level + 1) l ctx).trans okAt.1
    have okRight := fun ctx => (fault?_ofNode env (level + 1) r ctx).trans okAt.2
    simp only [joined, text, steps_append _ (fault?_operand okLeft), steps_ok_cons,
      steps_operand (okLeft _), steps_operand (okRight _), operand_snd]
    exact .joined room compares straight null (left _ (okLeft _)) (right _ (okRight _))

/-- A script without a fault follows the rules. -/
theorem renders_of_fault?_eq_none (ok : (ofNode env level node ctx).1.fault? = none) :
    Renders env level ctx node (ofNode env level node ctx).1.steps (ofNode env level node ctx).2 := by
  induction node generalizing level ctx with
  | identifier name tag =>
    cases tag with
    | none => cases ok
    | some tag => exact .column level ctx name tag
  | constant v tag =>
    cases tag with
    | none => cases ok
    | some tag =>
      simp only [ofNode, fault?_ofValue] at ok
      simp only [ofNode, ofValue]
      cases coerced : v.coerce tag with
      | error mismatch => simp [coerced] at ok
      | ok w =>
        simp only [steps_map_ok]
        exact .constant coerced
  | bindVariable reference tag =>
    cases tag with
    | none => cases ok
    | some tag =>
      simp only [ofNode, ofVariable] at ok ⊢
      cases bound : env.bindings (variableName reference) with
      | none => simp [bound, invalid] at ok
      | some v =>
        simp only [bound, fault?_ofValue] at ok
        simp only [ofValue]
        cases coerced : v.coerce tag with
        | error mismatch => simp [coerced] at ok
        | ok w =>
          simp only [steps_map_ok]
          exact .bindVariable bound coerced
  | literal text => exact .fragment level ctx text
  | function name params => cases ok
  | comparison op l r ihl ihr =>
    rw [ofNode_comparison, fault?_nested] at ok
    rw [ofNode_comparison]
    unfold nested
    split at ok
    · cases ok
    · rename_i room
      rw [if_neg room]
      cases compares : isNoComparison op with
      | true => simp [compares, invalid] at ok
      | false =>
        simp only [compares, Bool.false_eq_true, if_false] at ok ⊢
        have room := Nat.lt_of_not_le room
        cases trade : l.turned r with
        | true =>
          simp only [trade, if_true] at ok ⊢
          exact .turned trade (renders_compared room ((Operator.isNoComparison_reverse op).trans compares)
            (Node.not_turned_swap trade) ok (fun _ => ihr) (fun _ => ihl))
        | false =>
          simp only [trade, Bool.false_eq_true, if_false] at ok ⊢
          exact renders_compared room compares trade ok (fun _ => ihl) (fun _ => ihr)
  | lone op side x ih =>
    have okAt := (fault?_ofNode env level (.lone op side x) ctx).symm.trans ok
    rw [firstFault?_lone] at okAt
    rw [ofNode_lone]
    split at okAt
    · cases okAt
    · rename_i room
      split at okAt
      · cases okAt
      · rename_i compares
        cases test : nullTest? op with
        | none => simp [test] at okAt
        | some keyword =>
          simp only [test, Option.isSome_some, if_true] at okAt
          have okInner := (fault?_ofNode env (level + 1) x ctx).trans okAt
          simp only [nested, if_neg room, if_neg compares, tested, test, text, steps_append _ okInner,
            steps_ok_cons, steps_nil]
          exact .lone (Nat.lt_of_not_le room) test (ih okInner)
  | conjunction op l r ihl ihr =>
    have okAt := (fault?_ofNode env level (.conjunction op l r) ctx).symm.trans ok
    rw [firstFault?_conjunction] at okAt
    split at okAt
    · cases okAt
    · rename_i room
      split at okAt
      · cases okAt
      · rename_i joins
        rw [Option.or_eq_none_iff] at okAt
        have okLeft := fun ctx => (fault?_ofNode env (level + 1) l ctx).trans okAt.1
        have okRight := fun ctx => (fault?_ofNode env (level + 1) r ctx).trans okAt.2
        have rule := Renders.conjunction (Nat.lt_of_not_le room) joins (ihl (okLeft ctx)) (ihr (okRight _))
        simp only [ofNode, nested, if_neg room]
        cases op with
        | not => exact absurd rfl joins
        | and | or =>
          simp only [text, List.cons_append, List.append_assoc, steps_append _ (okLeft _),
            steps_append _ (okRight _), steps_ok_cons, steps_nil]
          simpa only [List.cons_append, List.append_assoc] using rule
  | negation x ih =>
    have okAt := (fault?_ofNode env level (.negation x) ctx).symm.trans ok
    rw [firstFault?_negation] at okAt
    split at okAt
    · cases okAt
    · rename_i room
      have okInner := (fault?_ofNode env (level + 1) x ctx).trans okAt
      simp only [ofNode, nested, if_neg room, text, List.cons_append, steps_ok_cons,
        steps_append _ okInner, steps_nil]
      exact .negation (Nat.lt_of_not_le room) (ih okInner)

/-! ### From renderings to scripts -/

theorem operand_eq {inner : Continued} (h : inner (op.enter ctx) = (pieces.map .ok, ctx')) :
    operand op inner ctx = ((op.wrap pieces).map .ok, op.leave ctx') := by
  unfold operand Operator.wrap Operator.leave Operator.enter at *
  cases hf : op.operandFunction? with
  | none =>
    rw [hf] at h
    exact h
  | some name =>
    simp only [hf] at h
    simp [h, text]

theorem ofNode_turned (trade : l.turned r = true)
    (ok : (ofNode env level (.comparison op.reverse r l) ctx).1.fault? = none) :
    ofNode env level (.comparison op l r) ctx = ofNode env level (.comparison op.reverse r l) ctx := by
  rw [ofNode_comparison] at ok ⊢
  rw [ofNode_comparison]
  rw [fault?_nested] at ok
  unfold nested
  split at ok
  · cases ok
  · rename_i room
    rw [if_neg room, if_neg room, Operator.isNoComparison_reverse]
    split
    · rename_i compares
      simp [Operator.isNoComparison_reverse, compares, invalid] at ok
    · simp [Node.not_turned_swap trade]

theorem ofNode_eq_of_renders (h : Renders env level ctx node pieces ctx') :
    ofNode env level node ctx = (pieces.map .ok, ctx') := by
  induction h with
  | column | fragment => rfl
  | constant coerced => simp [ofNode, ofValue, coerced, Context.prepare]
  | bindVariable bound coerced =>
    simp [ofNode, ofVariable, ofValue, bound, coerced, Context.prepare, Setting.item]
  | @tested level ctx ctx' op l r keyword pieces room straight null test inner ih =>
    rw [ofNode_comparison, nested, if_neg (Nat.not_le_of_lt room),
      if_neg (by simp [Operator.isNoComparison_of_nullTest? test]), if_neg (by simp [straight])]
    simp [compared, null, tested, test, ih, text]
  | @joined level ctx ctx₁ ctx₂ op l r ps qs room compares straight notNull left right ihl ihr =>
    rw [ofNode_comparison, nested, if_neg (Nat.not_le_of_lt room), if_neg (by simp [compares]),
      if_neg (by simp [straight])]
    simp [compared, notNull, joined, operand_eq ihl, operand_eq ihr, text]
  | turned trade swapped ih =>
    rw [ofNode_turned trade (by rw [ih]; exact fault?_map_ok _), ih]
  | @lone level ctx ctx' op side x keyword pieces room test inner ih =>
    rw [ofNode_lone, nested, if_neg (Nat.not_le_of_lt room),
      if_neg (by simp [Operator.isNoComparison_of_nullTest? test])]
    simp [tested, test, ih, text]
  | @conjunction level ctx ctx₁ ctx₂ op l r ps qs room joins left right ihl ihr =>
    cases op with
    | not => exact absurd rfl joins
    | and | or => simp [ofNode, nested, Nat.not_le_of_lt room, ihl, ihr, text]
  | negation room inner ih => simp [ofNode, nested, Nat.not_le_of_lt room, ih, text]

/-- The rules describe exactly the scripts without a fault. -/
theorem renders_iff :
    Renders env level ctx node pieces ctx' ↔ ofNode env level node ctx = (pieces.map .ok, ctx') := by
  constructor
  · exact ofNode_eq_of_renders
  · intro h
    have follows := renders_of_fault?_eq_none (by rw [h]; exact fault?_map_ok pieces)
    simpa [h] using follows

theorem renders_unique {qs : List Piece} {ctx'' : Context} (h : Renders env level ctx node pieces ctx')
    (h' : Renders env level ctx node qs ctx'') : pieces = qs ∧ ctx' = ctx'' := by
  obtain ⟨scripts, contexts⟩ :=
    Prod.mk.inj ((ofNode_eq_of_renders h).symm.trans (ofNode_eq_of_renders h'))
  have steps := congrArg Trail.steps scripts
  rw [steps_map_ok, steps_map_ok] at steps
  exact ⟨steps, contexts⟩

end Script

end ContentQuery
