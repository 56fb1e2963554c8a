import ContentQuery.Proofs.Containment

/-!
# Composed texts

How the parts of a query are put together: from words and quoted tokens, one behind the other and in parentheses.
Whatever is put together so is settled, and two parentheses stand in it with nothing between them only where they
have been put around nothing.
-/

namespace ContentQuery

variable {lx : Lexer} {q : Char} {s a b w : List Char} {ts us : List Token} {named gap gap' : Prop}

/-! ### Tokens -/

/-- Two neighbours in a list stand in one of its parts, or meet where the parts do. -/
theorem infix_pair_append {α : Type} {x y : α} {a b : List α} :
    [x, y] <:+: a ++ b ↔ [x, y] <:+: a ∨ [x, y] <:+: b ∨ (a.getLast? = some x ∧ b.head? = some y) := by
  have short {c : α} : ¬ [x, y] <:+: [c] := fun part => by simpa using part.length_le
  induction a with
  | nil => simp
  | cons c a ih =>
    cases a with
    | nil =>
      have meets : [x, y] <+: c :: b ↔ [c].getLast? = some x ∧ b.head? = some y := by
        cases b <;> simp [List.cons_prefix_cons, eq_comm]
      rw [List.cons_append, List.infix_cons_iff, List.nil_append, meets, or_iff_right short, or_comm]
    | cons d a =>
      have begins : [x, y] <+: c :: (d :: a ++ b) ↔ [x, y] <+: c :: d :: a := by
        simp [List.cons_prefix_cons]
      have splits : [x, y] <:+: c :: d :: a ↔ [x, y] <+: c :: d :: a ∨ [x, y] <:+: d :: a := List.infix_cons_iff
      rw [List.cons_append, List.infix_cons_iff, begins, splits, List.getLast?_cons_cons, or_assoc]
      exact or_congr_right ih

/-- Two parentheses with nothing between them. -/
def Token.emptyPair : List Token :=
  [.plain '(', .plain ')']

theorem not_emptyPair_of_not_mem (none : Token.plain '(' ∉ ts) : ¬ Token.emptyPair <:+: ts :=
  fun part => none (part.subset (by simp [Token.emptyPair]))

theorem Calm.head?_ne (h : Calm (Token.outside ts)) : ts.head? ≠ some (.plain ')') := by
  cases ts with
  | nil => exact nofun
  | cons t rest =>
    rintro ⟨rfl⟩
    have level := h.level 0
    cases level

theorem Calm.getLast?_ne (h : Calm (Token.outside ts)) : ts.getLast? ≠ some (.plain '(') := by
  intro last
  obtain ⟨before, rfl⟩ := List.getLast?_eq_some_iff.mp last
  have level := h.level 0
  rw [Token.outside_append, depth?_append] at level
  obtain ⟨depth, -, opened⟩ := Option.bind_eq_some_iff.mp level
  cases opened

/-- A settled text. If it is `named`, which is to say that no name in it is blank, it is not empty, and two
parentheses stand in it with nothing between them just if it has a `gap`. -/
def Composed (lx : Lexer) (named : Prop) (s : List Char) (gap : Prop) : Prop :=
  ∃ ts, lx.Reads s ts ∧ Calm (Token.outside ts) ∧ (named → ts ≠ [] ∧ (Token.emptyPair <:+: ts ↔ gap))

namespace Composed

theorem settled (h : Composed lx named s gap) : Settled lx s := by
  obtain ⟨ts, reads, calm, -⟩ := h
  exact ⟨ts, reads, calm⟩

theorem of_settled (h : Settled lx s) : Composed lx False s gap := by
  obtain ⟨ts, reads, calm⟩ := h
  exact ⟨ts, reads, calm, False.elim⟩

theorem congr (h : Composed lx named s gap) (same : gap ↔ gap') : Composed lx named s gap' := by
  obtain ⟨ts, reads, calm, pairs⟩ := h
  exact ⟨ts, reads, calm, fun all => ⟨(pairs all).1, (pairs all).2.trans same⟩⟩

/-! ### Words and tokens -/

theorem of_plain (plain : ∀ c ∈ s, lx.opens c = false) (calm : Calm s) (some : named → s ≠ [])
    (none : '(' ∉ s) : Composed lx named s False := by
  refine ⟨s.map .plain, fun _ _ => Lexer.scan_plain plain, ?_, fun all => ⟨?_, ?_⟩⟩
  · rwa [Token.outside_map_plain]
  · simpa using some all
  · exact iff_of_false (not_emptyPair_of_not_mem (by simpa using none)) id

theorem of_inert (h : Inert s) (some : named → s ≠ []) : Composed lx named s False :=
  of_plain (fun c mem => lx.opens_of_inert (h c mem)) (.of_inert h) some (not_mem_of_inert h rfl)

theorem signed (h : Inert s) (ne : s ≠ []) : Composed lx named ('-' :: s) False := by
  refine of_plain ?_ (.signed h ne) (fun _ => List.cons_ne_nil _ _) ?_
  · rw [List.forall_mem_cons]
    exact ⟨lx.opens_dash, fun c mem => lx.opens_of_inert (h c mem)⟩
  · simpa using not_mem_of_inert h rfl

theorem quoted (opening : lx.opens q = true) :
    Composed lx named (q :: (Text.double (lx.isSpecial q) s ++ [q])) False := by
  refine ⟨_, .quoted opening, .of_inert inert_nil, fun _ => ⟨List.cons_ne_nil _ _, iff_of_false ?_ id⟩⟩
  exact not_emptyPair_of_not_mem (by simp)

/-! ### One behind the other -/

theorem append (ha : Composed lx named a gap) (hb : Composed lx named b gap')
    (head : ∀ c ∈ b.head?, lx.opens c = false) : Composed lx named (a ++ b) (gap ∨ gap') := by
  obtain ⟨ts, readsA, calmA, pairsA⟩ := ha
  obtain ⟨us, readsB, calmB, pairsB⟩ := hb
  refine ⟨ts ++ us, readsA.append readsB head, ?_, fun all => ⟨?_, ?_⟩⟩
  · rw [Token.outside_append]
    exact calmA.append calmB
  · simp [(pairsA all).1]
  · -- What ends in an opening parenthesis is not settled.
    rw [← (pairsA all).2, ← (pairsB all).2, Token.emptyPair, infix_pair_append]
    simp [calmA.getLast?_ne]

theorem inert_append (hw : Inert w) (ha : Composed lx named a gap) : Composed lx named (w ++ a) gap := by
  obtain ⟨ts, reads, calm, pairs⟩ := ha
  have outside : Token.outside (w.map .plain) = w := Token.outside_map_plain w
  have calmW : Calm (Token.outside (w.map .plain)) := by
    rw [outside]
    exact .of_inert hw
  have none : ¬ Token.emptyPair <:+: w.map .plain :=
    not_emptyPair_of_not_mem (by simpa using not_mem_of_inert hw rfl)
  refine ⟨_, .plain_append (fun c mem => lx.opens_of_inert (hw c mem)) reads, ?_, fun all => ⟨?_, ?_⟩⟩
  · rw [Token.outside_append]
    exact calmW.append calm
  · simp [(pairs all).1]
  · rw [← (pairs all).2]
    unfold Token.emptyPair at none ⊢
    rw [infix_pair_append, or_iff_right none, or_iff_left fun meet => calmW.getLast?_ne meet.1]

theorem append_inert (ha : Composed lx named a gap) (hw : Inert w) (ne : w ≠ []) :
    Composed lx named (a ++ w) gap := by
  have word : Composed lx named w False := .of_inert hw fun _ => ne
  have both := ha.append word fun c head => lx.opens_of_inert (hw c (List.mem_of_mem_head? head))
  exact both.congr (by rw [or_false])

theorem between (ha : Composed lx named a gap) (hw : Inert w) (ne : w ≠ []) (hb : Composed lx named b gap') :
    Composed lx named (a ++ (w ++ b)) (gap ∨ gap') := by
  refine ha.append (hb.inert_append hw) fun c head => ?_
  rw [List.head?_append_of_ne_nil _ ne] at head
  exact lx.opens_of_inert (hw c (List.mem_of_mem_head? head))

theorem intercalate {α : Type} {items : List α} {text : α → List Char} {gapAt : α → Prop} (hw : Inert w)
    (ne : w ≠ []) (some : named → items ≠ []) (h : ∀ x ∈ items, Composed lx named (text x) (gapAt x)) :
    Composed lx named (w.intercalate (items.map text)) (∃ x ∈ items, gapAt x) := by
  induction items with
  | nil => exact (of_inert inert_nil fun all => absurd rfl (some all)).congr (by simp)
  | cons x rest ih =>
    obtain ⟨head, tail⟩ := List.forall_mem_cons.mp h
    cases rest with
    | nil => exact (by simpa using head : Composed lx named _ _).congr (by simp)
    | cons y rest =>
      have later := ih (fun _ => List.cons_ne_nil _ _) tail
      rw [List.map_cons, List.map_cons, List.intercalate_cons_cons, List.append_assoc]
      exact (head.between hw ne later).congr (by simp)

/-! ### In parentheses -/

theorem enclosed (ha : Composed lx named a gap) : Composed lx named ('(' :: a ++ [')']) gap := by
  obtain ⟨ts, reads, calm, pairs⟩ := ha
  have plain := lx.opens_parentheses
  have closing : lx.Reads [')'] [.plain ')'] := fun _ _ =>
    Lexer.scan_plain (s := [')']) (by simp [plain.2])
  have inside := reads.append closing (by simp [plain.2])
  refine ⟨_, .plain_append (a := ['(']) (by simp [plain.1]) inside, ?_, fun all => ⟨by simp, ?_⟩⟩
  · rw [Token.outside_append, Token.outside_append, Token.outside_map_plain]
    exact calm.enclosed
  · -- Neither parenthesis meets another one inside, because something stands there.
    obtain ⟨ne, iff⟩ := pairs all
    rw [← iff, Token.emptyPair, infix_pair_append, infix_pair_append, List.head?_append_of_ne_nil _ ne]
    have short : ∀ t : Token, ¬ [Token.plain '(', Token.plain ')'] <:+: [t] := fun t part => by
      simpa using part.length_le
    simp [short, calm.getLast?_ne, calm.head?_ne]

/-- The list without elements. -/
theorem empty : Composed lx named ['(', ')'] True := by
  have plain := lx.opens_parentheses
  refine ⟨Token.emptyPair, fun _ _ => Lexer.scan_plain (s := ['(', ')']) (by simp [plain]), ?_, fun _ => ⟨?_, ?_⟩⟩
  · exact (Calm.of_inert inert_nil).enclosed
  · exact List.cons_ne_nil _ _
  · exact iff_of_true (List.infix_refl _) trivial

end Composed

end ContentQuery
