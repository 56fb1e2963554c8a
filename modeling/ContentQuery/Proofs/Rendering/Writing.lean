import ContentQuery.Engine.Basic
import ContentQuery.Proofs.Descent
import ContentQuery.Proofs.Rendering.Invariance

/-!
# Writing in one pass

Rendering as it goes through a tree: it appends to the text of the query, asks the dialect for the spelling
of each part when it comes to it, numbers a parameter by those written before, and counts the conditions that
it is in. The pass writes what the script of the tree is spelled as, and gives back the tree as it was
rendered.
-/

namespace ContentQuery

/-- A query in the making. -/
structure Draft where
  out : Rendered
  level : Nat
  ctx : Context

/-- A pass that writes a query and may fail. -/
abbrev Writing := StateT Draft (Except QueryError)

namespace Writing

def push (text : String) : Writing Unit :=
  modify fun w => { w with out.sql := w.out.sql ++ text }

def copy (fragment : String) : Writing Unit :=
  modify fun w =>
    { w with out.sql := w.out.sql ++ fragment, out.verbatim := w.out.verbatim ++ [fragment] }

def context : Writing Context := do
  return (← get).ctx

def setContext (f : Context → Context) : Writing Unit :=
  modify fun w => { w with ctx := f w.ctx }

/-- Counts one up for a condition and back down behind it. -/
def inside (limit : Nat) (node : Node) (below : Writing Node) : Writing Node := do
  modify fun w => { w with level := w.level + 1 }
  if limit < (← get).level then throw (.invalidQuery (.tooDeep limit) node)
  let node ← below
  modify fun w => { w with level := w.level - 1 }
  return node

/-! ### Values -/

/-- Writes a value into the query; in the place of a list, it is made one. -/
def constant (d : Dialect) (v : Value) : Writing Unit := do
  match v, (← context).inList with
  | .list [], true => push "(NULL)"
  | .list items, _ => push (d.literal (.list items))
  | v, true =>
    push "("
    push (d.literal v)
    push ")"
  | v, false => push (d.literal v)

def param (d : Dialect) (name : String) (v : Value) : Writing Unit := do
  let seq := (← get).out.params.length + 1
  push (d.placeholder seq name)
  modify fun w => { w with out.params := w.out.params ++ [(name, v)] }

def paramEach (d : Dialect) (name : String) : List Value → Writing Unit
  | [] => return
  | [v] => param d name v
  | v :: rest => do
    param d name v
    push ", "
    paramEach d name rest

/-- Writes parameters for a value; in the place of a list, one for each of its elements. -/
def params (d : Dialect) (name : String) (v : Value) : Writing Unit := do
  match v, (← context).inList with
  | .list [], true => push "(NULL)"
  | .list items, true =>
    push "("
    paramEach d name items
    push ")"
  | v, true =>
    push "("
    param d name v
    push ")"
  | v, false => param d name v

/-- Writes a value under the type that its node was given. -/
def value (tag : TypeTag) (node : Node) (write : Value → Writing Unit) (v : Value) : Writing Unit := do
  match v.coerce tag with
  | .error mismatch => throw (.invalidQuery (.typeMismatch mismatch) node)
  | .ok w => write ((← context).prepare w)

def reference (d : Dialect) (env : Setting) (tag : TypeTag) (name : String) (node : Node) :
    Writing Unit := do
  match env.bindings name with
  | none => throw (.invalidQuery (.unboundVariable name) node)
  | some v => value tag node (if env.options.inlineVariables then constant d else params d name) v

/-! ### Comparisons -/

/-- An operand inside the function that its operator applies to it. -/
def operand (op : Operator) (inner : Writing Node) : Writing Node := do
  match op.operandFunction? with
  | none => inner
  | some name =>
    push (name ++ "(")
    setContext fun ctx => { ctx with foldCase := name == caseFolding }
    let node ← inner
    setContext fun ctx => { ctx with foldCase := false }
    push ")"
    return node

def tested (op : Operator) (fault : QueryError) (inner : Writing Node) : Writing Node := do
  match Script.nullTest? op with
  | none => throw fault
  | some keyword =>
    let x ← inner
    push keyword
    return .lone op .left x

/-- A comparison whose operands stand in their final places. -/
def compared (env : Setting) (op : Operator) (l r : Node) (left right : Writing Node) : Writing Node := do
  if Script.isNull env r then
    tested op (.invalidQuery (.nullOperand op) (.comparison op l r)) left
  else
    let l ← operand op left
    push (" " ++ op.token ++ " ")
    setContext fun ctx => { ctx with inList := op == .isIn }
    let r ← operand op right
    setContext fun ctx => { ctx with inList := false }
    return .comparison op l r

/-! ### Trees -/

def ofNode (d : Dialect) (env : Setting) (node : Node) : Writing Node := do
  match node with
  | .identifier name none => throw (.inconsistent (.untypedIdentifier (.identifier name none)))
  | .identifier name (some tag) =>
    push (d.identifier name)
    return .identifier name (some tag)
  | .constant v none => throw (.inconsistent (.untypedValue (.constant v none)))
  | .constant v (some tag) =>
    value tag (.constant v (some tag)) (constant d) v
    return .constant v (some tag)
  | .bindVariable text none => throw (.inconsistent (.untypedValue (.bindVariable text none)))
  | .bindVariable text (some tag) =>
    reference d env tag (variableName text) (.bindVariable text (some tag))
    return .bindVariable text (some tag)
  | .literal text =>
    copy text
    return .literal text
  | .function name params => throw (.invalidQuery (.unsupportedFunction name) (.function name params))
  | .comparison op l r =>
    inside env.options.maxDepth (.comparison op l r) <|
      if Script.isNoComparison op then
        throw (.invalidQuery (.unsupportedOperator op) (.comparison op l r))
      else if l.turned r then compared env op.reverse r l (ofNode d env r) (ofNode d env l)
      else compared env op l r (ofNode d env l) (ofNode d env r)
  | .lone op side x =>
    inside env.options.maxDepth (.lone op side x) <|
      if Script.isNoComparison op then
        throw (.invalidQuery (.unsupportedOperator op) (.lone op side x))
      else
        tested (if side == .right && x.isReference then op.reverse else op)
          (.invalidQuery .missingOperand (Node.lone op side x).normalized) (ofNode d env x)
  | .conjunction op l r =>
    inside env.options.maxDepth (.conjunction op l r) do
      match op with
      | .not => throw (.inconsistent (.leftOperand op))
      | .and | .or =>
        push "("
        let l ← ofNode d env l
        push (") " ++ op.operator.token ++ " (")
        let r ← ofNode d env r
        push ")"
        return .conjunction op l r
  | .negation x =>
    inside env.options.maxDepth (.negation x) do
      push "NOT ("
      let x ← ofNode d env x
      push ")"
      return .negation x

end Writing

/-! ### What a pass writes -/

/-- The query with pieces behind it. -/
def Rendered.followed (d : Dialect) (out : Rendered) (pieces : List Piece) : Rendered where
  sql := out.sql ++ String.join (Piece.spellFrom d (out.params.length + 1) pieces)
  params := out.params ++ pieces.filterMap Piece.param?
  verbatim := out.verbatim ++ pieces.filterMap Piece.verbatim?

variable {d : Dialect} {out : Rendered} {ps qs : List Piece}

theorem Rendered.followed_nil : out.followed d [] = out := by
  simp [followed, Piece.spellFrom]

theorem Rendered.followed_single (p : Piece) : out.followed d [p] =
    ⟨out.sql ++ p.spell d (out.params.length + 1), out.params ++ p.param?.toList,
      out.verbatim ++ p.verbatim?.toList⟩ := by
  cases p <;> simp [followed, Piece.spellFrom, Piece.param?, Piece.verbatim?]

theorem Rendered.followed_append : (out.followed d ps).followed d qs = out.followed d (ps ++ qs) := by
  have next : out.params.length + (ps.filterMap Piece.param?).length + 1 =
      out.params.length + 1 + (ps.filterMap Piece.param?).length := by omega
  simp [followed, Piece.spellFrom_append, String.append_assoc, next]

theorem Rendered.ofPieces_append :
    ofPieces d (ps ++ qs) = (ofPieces d ps).followed d qs := by
  have next : 1 + (ps.filterMap Piece.param?).length = (ps.filterMap Piece.param?).length + 1 := by omega
  simp [ofPieces, followed, Piece.spellFrom_append, next]

namespace Writing

variable {α β : Type} {p : Writing α} {q : Writing β} {f : α → Writing β} {level : Nat}
  {ctx ctx₁ ctx' : Context} {t u : Script} {a : α} {b : β}

/-- Whatever has been written, the pass comes to what is yielded along the trail, with its pieces written
behind. -/
def Writes (d : Dialect) (p : Writing α) (level : Nat) (ctx : Context) (t : Script) (a : α)
    (ctx' : Context) : Prop :=
  ∀ out, p.run ⟨out, level, ctx⟩ = t.yielding (a, ⟨out.followed d t.steps, level, ctx'⟩)

namespace Writes

theorem bind (first : Writes d p level ctx t a ctx₁) (second : Writes d (f a) level ctx₁ u b ctx') :
    Writes d (p >>= f) level ctx (t ++ u) b ctx' := by
  intro out
  rw [StateT.run_bind, first out, Trail.yielding, Trail.yielding, Trail.fault?_append]
  cases fault : t.fault? with
  | some e => rfl
  | none =>
    rw [Trail.steps_append u fault, ← Rendered.followed_append]
    exact second _

/-- What comes behind writes nothing. -/
theorem silent (first : Writes d p level ctx t a ctx₁) (second : Writes d (f a) level ctx₁ [] b ctx') :
    Writes d (p >>= f) level ctx t b ctx' := by
  have both := first.bind second
  rwa [List.append_nil] at both

theorem pure : Writes d (Pure.pure a) level ctx [] a ctx := by
  intro out
  rw [Trail.steps_nil, Rendered.followed_nil]
  rfl

theorem throw {e : QueryError} : Writes d (MonadExcept.throw e) level ctx [.error e] a ctx' :=
  fun _ => rfl

/-- One effect writes one piece. -/
theorem piece {p : Writing Unit} {x : Piece}
    (run : ∀ out, p.run ⟨out, level, ctx⟩ = .ok ((), ⟨⟨out.sql ++ x.spell d (out.params.length + 1),
      out.params ++ x.param?.toList, out.verbatim ++ x.verbatim?.toList⟩, level, ctx⟩)) :
    Writes d p level ctx [.ok x] () ctx := by
  intro out
  rw [run, Trail.yielding, Trail.fault?_ok_cons, Trail.fault?_nil, Trail.steps_ok_cons, Trail.steps_nil,
    Rendered.followed_single]

theorem text {x : Piece} {spelled : String} (noParam : x.param? = none) (noFragment : x.verbatim? = none)
    (same : ∀ seq, x.spell d seq = spelled) : Writes d (Writing.push spelled) level ctx [.ok x] () ctx := by
  refine piece fun out => ?_
  rw [same, noParam, noFragment]
  simp only [Option.toList_none, List.append_nil]
  rfl

theorem push (text : String) : Writes d (push text) level ctx [.ok (.word text)] () ctx :=
  .text rfl rfl fun _ => rfl

theorem literal (v : Value) : Writes d (.push (d.literal v)) level ctx [.ok (.constant v)] () ctx :=
  .text rfl rfl fun _ => rfl

theorem column (name : String) :
    Writes d (.push (d.identifier name)) level ctx [.ok (.column name)] () ctx :=
  .text rfl rfl fun _ => rfl

theorem copy (fragment : String) :
    Writes d (copy fragment) level ctx [.ok (.verbatim fragment)] () ctx :=
  piece fun out => by simp [Writing.copy, Piece.spell, Piece.param?, Piece.verbatim?]; rfl

theorem param (name : String) (v : Value) :
    Writes d (param d name v) level ctx [.ok (.param name v)] () ctx :=
  piece fun out => by simp [Writing.param, Piece.spell, Piece.param?, Piece.verbatim?]; rfl

theorem context : Writes d context level ctx [] ctx ctx := by
  intro out
  rw [Trail.steps_nil, Rendered.followed_nil]
  rfl

theorem setContext (f : Context → Context) : Writes d (setContext f) level ctx [] () (f ctx) := by
  intro out
  rw [Trail.steps_nil, Rendered.followed_nil]
  rfl

theorem respell (same : ∀ out : Rendered, out.followed d ps = out.followed d qs)
    (h : Writes d p level ctx (ps.map .ok) a ctx') : Writes d p level ctx (qs.map .ok) a ctx' := by
  intro out
  have written := h out
  rw [Trail.yielding, Trail.fault?_map_ok, Trail.steps_map_ok] at written ⊢
  rw [written, same]

end Writes

/-! ### Values -/

theorem join_separated (seq : Nat) (items : List Value) :
    String.join (Piece.spellFrom d seq (Script.separated (items.map .constant))) =
      ", ".intercalate (items.map d.literal) := by
  induction items with
  | nil => rfl
  | cons v rest ih =>
    cases rest with
    | nil => simp [Script.separated, Piece.spellFrom, Piece.spell]
    | cons w rest =>
      have next : String.join (Piece.spellFrom d seq (Script.separated ((v :: w :: rest).map .constant))) =
          d.literal v ++ (", " ++
            String.join (Piece.spellFrom d seq (Script.separated ((w :: rest).map .constant)))) := by
        simp only [List.map_cons, Script.separated, Piece.spellFrom, Piece.param?, Piece.spell,
          Option.isSome_none, Bool.false_eq_true, if_false, String.join_cons]
      rw [next, ih]
      simp only [List.map_cons, String.intercalate_cons_cons, String.append_assoc]

/-- The elements of a list, each spelled by itself, make the text that the list is spelled as. -/
theorem followed_list (out : Rendered) (items : List Value) :
    out.followed d [.constant (.list items)] =
      out.followed d (.word "(" :: (Script.separated (items.map .constant) ++ [.word ")"])) := by
  have onlyWords {γ : Type} {f : Piece → Option γ} (words : ∀ text, f (.word text) = none)
      (constants : ∀ v, f (.constant v) = none) :
      (Piece.word "(" :: (Script.separated (items.map .constant) ++ [.word ")"])).filterMap f = [] := by
    simp [Script.filterMap_separated words, words, constants]
  have text : String.join (Piece.spellFrom d (out.params.length + 1)
      (.word "(" :: (Script.separated (items.map .constant) ++ [.word ")"]))) =
        d.literal (.list items) := by
    simp [Piece.spellFrom, Piece.spellFrom_append, Piece.spell, join_separated, Dialect.literal,
      Dialect.literals_eq_map, Value.parenthesized, Piece.param?, String.append_assoc]
  rw [Rendered.followed_single, Rendered.followed, text, onlyWords (fun _ => rfl) (fun _ => rfl),
    onlyWords (fun _ => rfl) (fun _ => rfl)]
  rfl

theorem writes_constant (v : Value) :
    Writes d (constant d v) level ctx ((Script.placed ctx.inList .constant v).map .ok) () ctx := by
  refine Writes.context.bind (t := []) ?_
  cases inList : ctx.inList with
  | false =>
    cases v with
    | list items => cases items <;> exact .literal _
    | _ => exact .literal _
  | true =>
    cases v with
    | list items =>
      cases items with
      | nil => exact .push _
      | cons v rest => exact .respell (fun out => followed_list out (v :: rest)) (.literal _)
    | _ => exact (Writes.push "(").bind ((Writes.literal _).bind (.push ")"))

theorem writes_paramEach (name : String) (items : List Value) :
    Writes d (paramEach d name items) level ctx
      ((Script.separated (items.map (.param name))).map .ok) () ctx := by
  induction items with
  | nil => exact .pure
  | cons v rest ih =>
    cases rest with
    | nil => exact .param name v
    | cons w rest => exact (Writes.param name v).bind ((Writes.push ", ").bind ih)

theorem writes_params (name : String) (v : Value) :
    Writes d (params d name v) level ctx ((Script.placed ctx.inList (.param name) v).map .ok) () ctx := by
  refine Writes.context.bind (t := []) ?_
  cases inList : ctx.inList with
  | false =>
    cases v with
    | list items => cases items <;> exact .param name _
    | _ => exact .param name _
  | true =>
    cases v with
    | list items =>
      cases items with
      | nil => exact .push _
      | cons v rest =>
        have trail : ((Script.placed true (.param name) (.list (v :: rest))).map .ok : Script) =
            [.ok (.word "(")] ++ ((Script.separated ((v :: rest).map (.param name))).map .ok ++
              [.ok (.word ")")]) := by
          simp [Script.placed]
        rw [trail]
        exact (Writes.push "(").bind ((writes_paramEach name (v :: rest)).bind (.push ")"))
    | _ => exact (Writes.push "(").bind ((Writes.param name _).bind (.push ")"))

variable {env : Setting} {tag : TypeTag} {node : Node}

theorem writes_value {write : Value → Writing Unit} {item : Value → Piece}
    (h : ∀ w, Writes d (write w) level ctx ((Script.placed ctx.inList item w).map .ok) () ctx) (v : Value) :
    Writes d (value tag node write v) level ctx (Script.ofValue ctx tag node item v) () ctx := by
  unfold value Script.ofValue
  cases v.coerce tag with
  | error mismatch => exact .throw
  | ok w => exact Writes.context.bind (t := []) (h (ctx.prepare w))

theorem writes_reference (text : String) :
    Writes d (reference d env tag (variableName text) node) level ctx
      (Script.ofVariable env ctx tag text node) () ctx := by
  unfold reference Script.ofVariable
  dsimp only
  cases env.bindings (variableName text) with
  | none => exact .throw
  | some v =>
    cases env.options.inlineVariables with
    | true => exact writes_value writes_constant v
    | false => exact writes_value (writes_params _) v

/-! ### Comparisons -/

variable {op : Operator} {left right inner : Writing Node} {c c' : Script.Continued} {l r l' r' x : Node}

theorem writes_operand (h : ∀ ctx, Writes d inner level ctx (c ctx).1 x (c ctx).2) :
    Writes d (operand op inner) level ctx (Script.operand op c ctx).1 x (Script.operand op c ctx).2 := by
  unfold operand Script.operand
  cases op.operandFunction? with
  | none => exact h ctx
  | some name =>
    exact (Writes.push _).bind ((Writes.setContext _).bind (t := [])
      ((h _).bind ((Writes.setContext _).bind (t := []) ((Writes.push _).silent .pure))))

theorem writes_tested {e : QueryError} (h : Writes d inner level ctx (c ctx).1 x (c ctx).2) :
    Writes d (tested op e inner) level ctx (Script.tested op c [.error e] ctx).1 (.lone op .left x)
      (Script.tested op c [.error e] ctx).2 := by
  unfold tested Script.tested
  cases Script.nullTest? op with
  | none => exact .throw
  | some keyword => exact h.bind ((Writes.push _).silent .pure)

theorem writes_compared
    (hl : ∀ ctx, Writes d left (level + 1) ctx (Script.ofNode env (level + 1) l ctx).1 l'
      (Script.ofNode env (level + 1) l ctx).2)
    (hr : ∀ ctx, Writes d right (level + 1) ctx (Script.ofNode env (level + 1) r ctx).1 r'
      (Script.ofNode env (level + 1) r ctx).2) :
    Writes d (compared env op l r left right) (level + 1) ctx (Script.compared env level op l r ctx).1
      (if Script.isNull env r then .lone op .left l' else .comparison op l' r')
      (Script.compared env level op l r ctx).2 := by
  unfold compared Script.compared
  cases Script.isNull env r with
  | true => exact writes_tested (hl ctx)
  | false =>
    exact (writes_operand hl).bind ((Writes.push _).bind ((Writes.setContext _).bind (t := [])
      ((writes_operand hr).silent ((Writes.setContext _).bind (t := []) .pure))))

/-! ### Trees -/

theorem run_inside (limit : Nat) (node : Node) (below : Writing Node) (out : Rendered) :
    (inside limit node below).run ⟨out, level, ctx⟩ =
      if limit ≤ level then .error (.invalidQuery (.tooDeep limit) node)
      else (below.run ⟨out, level + 1, ctx⟩).map fun (x, w) => (x, { w with level := w.level - 1 }) := by
  unfold inside
  by_cases deep : limit < level + 1
  · rw [if_pos (Nat.le_of_lt_succ deep)]
    simp [deep]
    rfl
  · rw [if_neg (by omega)]
    simp [deep]
    rfl

theorem writes_inside {below : Writing Node} {s : Script × Context}
    (h : Writes d below (level + 1) ctx s.1 x s.2) :
    Writes d (inside env.options.maxDepth node below) level ctx (Script.nested env level node ctx s).1 x
      (Script.nested env level node ctx s).2 := by
  intro out
  rw [run_inside, h out, Script.nested]
  split
  · rfl
  · unfold Trail.yielding
    cases s.1.fault? <;> rfl

theorem writes_ofNode (node : Node) : Writes d (ofNode d env node) level ctx
    (Script.ofNode env level node ctx).1 (node.settled env) (Script.ofNode env level node ctx).2 := by
  induction node generalizing level ctx with
  | identifier name tag =>
    cases tag with
    | none => exact .throw
    | some tag => exact (Writes.column name).silent .pure
  | constant v tag =>
    cases tag with
    | none => exact .throw
    | some tag =>
      rw [ofNode, Script.ofNode]
      exact (writes_value writes_constant v).silent .pure
  | bindVariable text tag =>
    cases tag with
    | none => exact .throw
    | some tag =>
      rw [ofNode, Script.ofNode]
      exact (writes_reference text).silent .pure
  | literal text => exact (Writes.copy text).silent .pure
  | function name params => exact .throw
  | comparison op l r ihl ihr =>
    rw [Script.ofNode_comparison, Node.settled_comparison, ofNode]
    apply writes_inside
    cases Script.isNoComparison op with
    | true => exact .throw
    | false =>
      cases turned : l.turned r with
      | true =>
        rw [if_pos rfl, Node.settled_comparison, Node.not_turned_swap turned]
        exact writes_compared (fun _ => ihr) (fun _ => ihl)
      | false => exact writes_compared (fun _ => ihl) (fun _ => ihr)
  | lone op side x ih =>
    rw [ofNode, Script.ofNode]
    apply writes_inside
    cases Script.isNoComparison op with
    | true => exact .throw
    | false =>
      cases side with
      | left => exact writes_tested ih
      | right =>
        cases reference : x.isReference with
        | true =>
          simp only [Node.settled, Node.normalized, reference]
          exact writes_tested ih
        | false =>
          simp only [Node.settled, Node.normalized, reference]
          exact writes_tested ih
  | conjunction op l r ihl ihr =>
    cases op with
    | not => exact writes_inside .throw
    | and | or =>
      simp only [Script.ofNode, List.cons_append, List.append_assoc]
      exact writes_inside ((Writes.push "(").bind (ihl.bind ((Writes.push _).bind
        (ihr.bind ((Writes.push ")").silent .pure)))))
  | negation x ih =>
    exact writes_inside ((Writes.push "NOT (").bind (ih.bind ((Writes.push ")").silent .pure)))

/-- One pass behind what is rendered already does what rendering one more tree does. -/
theorem run_ofNode_eq_accept (r : Rendering) (node : Node) :
    (ofNode d r.setting node).run ⟨r.finish d, 0, {}⟩ =
      (r.accept node).map fun (next, tree) => (tree, ⟨next.finish d, 0, {}⟩) := by
  rw [writes_ofNode node, Rendering.accept, Trail.outcome, Trail.yielding, Node.script]
  cases fault : (Script.ofNode r.setting 0 node {}).1.fault? with
  | some e => rfl
  | none =>
    have follows := (Script.renders_of_fault?_eq_none fault).eq_empty
    simp only [Except.map, Rendering.finish, Rendered.ofPieces_append, follows]

end Writing

/-- A translation is what one pass writes through the resolved tree. -/
theorem Engine.translate_eq_written (e : Engine) (schema : Schema) (bindings : Bindings) (node : Node) :
    e.translate schema bindings node = do
      let resolved ← node.resolve schema e.options.maxDepth
      let (_, w) ← (Writing.ofNode e.dialect ⟨bindings, e.options⟩ resolved).run ⟨⟨"", [], []⟩, 0, {}⟩
      return w.out := by
  unfold translate
  congr 1
  funext resolved
  have written := Writing.run_ofNode_eq_accept (d := e.dialect) ⟨⟨bindings, e.options⟩, []⟩ resolved
  have empty : Rendering.finish ⟨⟨bindings, e.options⟩, []⟩ e.dialect = ⟨"", [], []⟩ := rfl
  rw [empty] at written
  rw [written, Node.render]
  cases Rendering.accept ⟨⟨bindings, e.options⟩, []⟩ resolved <;> rfl

end ContentQuery
