import ContentQuery.Proofs.Rendering.Renders

/-!
# What renderings have in common

A node is rendered alike below fewer conditions, no node sets a flag that was not set before, and a
tree is rendered like the tree that it is returned as.
-/

namespace ContentQuery

open Script

variable {env : Setting} {level level' : Nat} {ctx ctx' : Context} {node l r x : Node} {op : Operator}
  {pieces : List Piece}

theorem Renders.of_le (h : Renders env level ctx node pieces ctx') (le : level' ≤ level) :
    Renders env level' ctx node pieces ctx' := by
  induction h generalizing level' with
  | column level ctx name tag => exact .column level' ctx name tag
  | fragment level ctx text => exact .fragment level' ctx text
  | constant coerced => exact .constant coerced
  | bindVariable bound coerced => exact .bindVariable bound coerced
  | tested room straight null test inner ih =>
    exact .tested (Nat.lt_of_le_of_lt le room) straight null test (ih (Nat.succ_le_succ le))
  | joined room compares straight notNull left right ihl ihr =>
    exact .joined (Nat.lt_of_le_of_lt le room) compares straight notNull (ihl (Nat.succ_le_succ le))
      (ihr (Nat.succ_le_succ le))
  | turned turned swapped ih => exact .turned turned (ih le)
  | lone room test inner ih => exact .lone (Nat.lt_of_le_of_lt le room) test (ih (Nat.succ_le_succ le))
  | conjunction room joins left right ihl ihr =>
    exact .conjunction (Nat.lt_of_le_of_lt le room) joins (ihl (Nat.succ_le_succ le))
      (ihr (Nat.succ_le_succ le))
  | negation room inner ih => exact .negation (Nat.lt_of_le_of_lt le room) (ih (Nat.succ_le_succ le))

/-! ### Flags -/

/-- No flag is set in the first context that is not set in the second. -/
structure Context.Within (ctx ctx' : Context) : Prop where
  inList : ctx.inList = true → ctx'.inList = true
  foldCase : ctx.foldCase = true → ctx'.foldCase = true

namespace Context.Within

variable {ctx₁ ctx₂ : Context}

theorem refl (ctx : Context) : Within ctx ctx := ⟨id, id⟩

theorem trans (h : Within ctx ctx₁) (h' : Within ctx₁ ctx₂) : Within ctx ctx₂ :=
  ⟨h'.inList ∘ h.inList, h'.foldCase ∘ h.foldCase⟩

theorem eq_empty (h : Within ctx {}) : ctx = {} := by
  obtain ⟨inList, foldCase⟩ := ctx
  have noList : inList = false := by
    rw [← Bool.not_eq_true]
    exact fun set => Bool.noConfusion (h.inList set)
  have noFold : foldCase = false := by
    rw [← Bool.not_eq_true]
    exact fun set => Bool.noConfusion (h.foldCase set)
  rw [noList, noFold]

/-- Whatever an operator sets for an operand is cleared behind it. -/
theorem leave (h : Within ctx₁ (op.enter ctx)) : Within (op.leave ctx₁) ctx := by
  unfold Operator.enter at h
  unfold Operator.leave
  split at h
  · exact h
  · exact ⟨h.inList, Bool.noConfusion⟩

end Context.Within

theorem Renders.within (h : Renders env level ctx node pieces ctx') : ctx'.Within ctx := by
  induction h with
  | column | fragment | constant | bindVariable => exact .refl _
  | tested _ _ _ _ _ ih | turned _ _ ih | lone _ _ _ ih | negation _ _ ih => exact ih
  | joined _ _ _ _ _ _ ihl ihr =>
    have first := ihl.leave
    have second := ihr.leave
    exact ⟨Bool.noConfusion, fun set => first.foldCase (second.foldCase set)⟩
  | conjunction _ _ _ _ ihl ihr => exact ihr.trans ihl

theorem Renders.eq_empty (h : Renders env level {} node pieces ctx') : ctx' = {} :=
  h.within.eq_empty

/-! ### Trees as they are returned -/

theorem Node.isReference_settled (env : Setting) (node : Node) :
    (node.settled env).isReference = node.isReference := by
  cases node with
  | comparison op l r =>
    simp only [settled]
    split <;> split <;> rfl
  | _ => rfl

theorem Script.isNull_settled (env : Setting) (node : Node) :
    isNull env (node.settled env) = isNull env node := by
  cases node with
  | comparison op l r =>
    simp only [Node.settled]
    split <;> split <;> rfl
  | _ => rfl

theorem Node.settled_comparison (env : Setting) (op : Operator) (l r : Node) :
    (comparison op l r).settled env =
      if l.turned r then (comparison op.reverse r l).settled env
      else if isNull env r then lone op .left (l.settled env)
      else comparison op (l.settled env) (r.settled env) := by
  cases trade : l.turned r with
  | true =>
    have straight := Node.not_turned_swap trade
    rw [if_pos rfl]
    unfold turned at trade straight
    simp only [Node.settled, trade, straight, if_true, Bool.false_eq_true, if_false]
  | false =>
    unfold turned at trade
    simp only [Node.settled, trade, Bool.false_eq_true, if_false]

/-- A tree is rendered like the tree that it is returned as. -/
theorem Renders.settled (h : Renders env level ctx node pieces ctx') :
    Renders env level ctx (node.settled env) pieces ctx' := by
  induction h with
  | column level ctx name tag => exact .column level ctx name tag
  | fragment level ctx text => exact .fragment level ctx text
  | constant coerced => exact .constant coerced
  | bindVariable bound coerced => exact .bindVariable bound coerced
  | tested room straight null test inner ih =>
    rw [Node.settled_comparison, straight, null]
    exact .lone room test ih
  | joined room compares straight notNull left right ihl ihr =>
    rw [Node.settled_comparison, straight, notNull]
    refine .joined room compares ?_ ?_ ihl ihr
    · unfold Node.turned
      rwa [Node.isReference_settled, Node.isReference_settled]
    · rwa [isNull_settled]
  | turned turned swapped ih =>
    rw [Node.settled_comparison, turned]
    exact ih
  | @lone level ctx ctx' op side x keyword pieces room test inner ih =>
    refine .lone room ?_ ih
    split
    · rw [Operator.nullTest?_reverse, test]
    · exact test
  | conjunction room joins left right ihl ihr => exact .conjunction room joins ihl ihr
  | negation room inner ih => exact .negation room ih

end ContentQuery
