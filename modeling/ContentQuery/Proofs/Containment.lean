import ContentQuery.Proofs.Lexer
import Mathlib.Data.List.Chain

/-!
# Contained texts

A text is contained if it is a whole number of quoted tokens, its parentheses outside quotes match,
and nothing outside quotes ends the statement or starts a comment. A settled text is contained wherever
it stands, and a parenthesis behind it closes one before it.
-/

namespace ContentQuery

/-- The depth of parentheses after a text that starts at `depth`, unless one closes that was never
opened. -/
def depth? (depth : Nat) : List Char → Option Nat
  | [] => some depth
  | c :: rest =>
    if c = '(' then depth? (depth + 1) rest
    else if c = ')' then
      match depth with
      | 0 => none
      | below + 1 => depth? below rest
    else depth? depth rest

/-- A text outside quotes that cannot end the statement or hide the rest of it. -/
structure Contained (s : List Char) : Prop where
  balanced : depth? 0 s = some 0
  noSeparator : ';' ∉ s
  noLineComment : ¬ ['-', '-'] <:+: s
  noBlockComment : ¬ ['/', '*'] <:+: s

/-- A text outside quotes that is contained wherever it stands. -/
structure Calm (s : List Char) : Prop where
  level : ∀ depth, depth? depth s = some depth
  noSeparator : ';' ∉ s
  noSlash : '/' ∉ s
  dashes : s.IsChain fun a b => ¬ (a = '-' ∧ b = '-')
  noLastDash : s.getLast? ≠ some '-'

/-- Characters that mean nothing outside quotes. -/
def isInert (c : Char) : Bool :=
  c ∉ ['\'', '"', '\x60', '(', ')', ';', '/', '-']

def Inert (s : List Char) : Prop :=
  ∀ c ∈ s, isInert c = true

instance (s : List Char) : Decidable (Inert s) :=
  decidable_of_iff (s.all isInert = true) List.all_eq_true

variable {s a b : List Char} {c : Char}

@[simp] theorem inert_nil : Inert [] := by decide

theorem inert_cons : Inert (c :: s) ↔ isInert c = true ∧ Inert s :=
  List.forall_mem_cons

theorem Inert.spaced (h : Inert s) : Inert (' ' :: (s ++ [' '])) := by
  rw [inert_cons]
  refine ⟨rfl, fun c mem => ?_⟩
  rcases List.mem_append.mp mem with inside | blank
  · exact h c inside
  · rw [List.mem_singleton.mp blank]
    rfl

theorem isInert_of {p : Char → Bool} (h : p c = true)
    (marks : (['\'', '"', '\x60', '(', ')', ';', '/', '-'].all fun m => !p m) = true := by decide) :
    isInert c = true := by
  rw [isInert, decide_eq_true_eq]
  intro mem
  have refused := List.all_eq_true.mp marks c mem
  simp [h] at refused

/-- Characters of a single word. -/
def isSolid (c : Char) : Bool :=
  isInert c && c != ' '

def Solid (s : List Char) : Prop :=
  ∀ c ∈ s, isSolid c = true

instance (s : List Char) : Decidable (Solid s) :=
  decidable_of_iff (s.all isSolid = true) List.all_eq_true

theorem isSolid_of {p : Char → Bool} (h : p c = true) (blank : p ' ' = false := by decide)
    (marks : (['\'', '"', '\x60', '(', ')', ';', '/', '-'].all fun m => !p m) = true := by decide) :
    isSolid c = true := by
  have noBlank : c ≠ ' ' := by
    rintro rfl
    simp [blank] at h
  simp [isSolid, isInert_of h marks, noBlank]

theorem Solid.inert (h : Solid s) : Inert s := by
  intro c mem
  have solid := h c mem
  rw [isSolid, Bool.and_eq_true] at solid
  exact solid.1

theorem Solid.not_mem (h : Solid s) (refused : isSolid c = false) : c ∉ s :=
  fun mem => by simp [h c mem] at refused

/-- Nothing, or a character that no word holds. -/
def Delimits (s : List Char) : Prop :=
  ∀ c ∈ s.head?, c = ' ' ∨ c = ')'

theorem Delimits.not_isSolid (h : Delimits s) (head : s.head? = some c) : isSolid c = false := by
  rcases h c head with rfl | rfl <;> rfl

namespace Solid

variable {x y : List Char}

theorem append_ne_cons (ha : Solid a) (hx : Delimits x) (noWord : isSolid c = false)
    (noDelimiter : ¬ (c = ' ' ∨ c = ')')) (rest : List Char) : a ++ x ≠ c :: rest := by
  intro same
  cases a with
  | nil =>
    have head : x.head? = some c := congrArg List.head? same
    exact noDelimiter (hx c head)
  | cons first a =>
    obtain ⟨rfl, -⟩ := List.cons.inj same
    exact ha.not_mem noWord (by simp)

/-- A word ends at its delimiter. -/
theorem eq_of_append (ha : Solid a) (hb : Solid b) (hx : Delimits x) (hy : Delimits y)
    (h : a ++ x = b ++ y) : a = b ∧ x = y := by
  rcases List.append_eq_append_iff.mp h with ⟨more, rfl, goesOn⟩ | ⟨more, rfl, goesOn⟩
  · cases more with
    | nil => simpa using goesOn
    | cons c more =>
      have noWord := hx.not_isSolid (congrArg List.head? goesOn)
      exact absurd (by simp) (hb.not_mem noWord)
  · cases more with
    | nil => simpa using goesOn.symm
    | cons c more =>
      have noWord := hy.not_isSolid (congrArg List.head? goesOn)
      exact absurd (by simp) (ha.not_mem noWord)

end Solid

/-! ### Texts outside quotes -/

theorem depth?_append (depth : Nat) (a b : List Char) :
    depth? depth (a ++ b) = (depth? depth a).bind (depth? · b) := by
  induction a generalizing depth with
  | nil => rfl
  | cons c a ih =>
    simp only [List.cons_append, depth?]
    split
    · exact ih _
    · split
      · cases depth with
        | zero => rfl
        | succ below => exact ih below
      · exact ih depth

theorem depth?_cons (notOpen : c ≠ '(') (notClose : c ≠ ')') (depth : Nat) :
    depth? depth (c :: s) = depth? depth s := by
  simp [depth?, notOpen, notClose]

theorem depth?_of_inert (h : Inert s) (depth : Nat) : depth? depth s = some depth := by
  induction s with
  | nil => rfl
  | cons c s ih =>
    obtain ⟨inert, h⟩ := inert_cons.mp h
    have notOpen : c ≠ '(' := by rintro rfl; cases inert
    have notClose : c ≠ ')' := by rintro rfl; cases inert
    rw [depth?_cons notOpen notClose, ih h]

theorem not_mem_of_inert (h : Inert s) (marked : isInert c = false) : c ∉ s :=
  fun mem => by simp [h c mem] at marked

theorem isChain_dashes_of_not_mem (h : '-' ∉ s) : s.IsChain fun a b => ¬ (a = '-' ∧ b = '-') := by
  induction s with
  | nil => exact .nil
  | cons c s ih =>
    rw [List.mem_cons, not_or] at h
    exact List.IsChain.cons (ih h.2) fun _ _ both => h.1 both.1.symm

namespace Calm

theorem of_inert (h : Inert s) : Calm s where
  level := depth?_of_inert h
  noSeparator := not_mem_of_inert h rfl
  noSlash := not_mem_of_inert h rfl
  dashes := isChain_dashes_of_not_mem (not_mem_of_inert h rfl)
  noLastDash last := not_mem_of_inert h rfl (List.mem_of_getLast? last)

theorem append (ha : Calm a) (hb : Calm b) : Calm (a ++ b) where
  level depth := by rw [depth?_append, ha.level, Option.bind_some, hb.level]
  noSeparator := by simp [ha.noSeparator, hb.noSeparator]
  noSlash := by simp [ha.noSlash, hb.noSlash]
  dashes := by
    -- Two dashes could only meet at the seam.
    rw [List.isChain_append]
    refine ⟨ha.dashes, hb.dashes, ?_⟩
    rintro x last y - ⟨rfl, -⟩
    exact ha.noLastDash last
  noLastDash := by
    rw [List.getLast?_append]
    cases last : b.getLast? with
    | none => exact ha.noLastDash
    | some c => exact fun h => hb.noLastDash (last.trans h)

theorem enclosed (h : Calm s) : Calm ('(' :: s ++ [')']) where
  level depth := by
    have opened : depth? depth ('(' :: s ++ [')']) = depth? (depth + 1) (s ++ [')']) := rfl
    rw [opened, depth?_append, h.level]
    rfl
  noSeparator := by simp [h.noSeparator]
  noSlash := by simp [h.noSlash]
  dashes := by
    rw [List.isChain_append]
    refine ⟨.cons h.dashes ?_, .singleton _, ?_⟩
    · rintro _ - ⟨wrong, -⟩
      cases wrong
    · rintro _ - _ closing ⟨-, rfl⟩
      cases closing
  noLastDash := by
    rw [List.getLast?_append]
    exact fun last => by cases last

theorem signed (h : Inert s) (ne : s ≠ []) : Calm ('-' :: s) where
  level depth := by rw [depth?_cons (by decide) (by decide), depth?_of_inert h]
  noSeparator := by simp [(of_inert h).noSeparator]
  noSlash := by simp [(of_inert h).noSlash]
  dashes := (of_inert h).dashes.cons fun _ head both =>
    not_mem_of_inert h rfl (both.2 ▸ List.mem_of_mem_head? head)
  noLastDash := by
    rw [List.getLast?_cons_of_ne_nil ne]
    exact (of_inert h).noLastDash

theorem contained (h : Calm s) : Contained s where
  balanced := h.level 0
  noSeparator := h.noSeparator
  noLineComment part := by
    have dashes := h.dashes.infix part
    simp at dashes
  noBlockComment part := h.noSlash (part.subset (by simp))

end Calm

/-! ### Texts with quoted tokens -/

theorem Lexer.opens_of_inert (lx : Lexer) (h : isInert c = true) : lx.opens c = false := by
  have noApostrophe : c ≠ '\'' := by rintro rfl; cases h
  have noDelimiter : c ≠ lx.nameDelimiter := by
    rintro rfl
    rcases lx.isDelimiter with quotation | grave
    · rw [quotation] at h
      cases h
    · rw [grave] at h
      cases h
  simp [opens, noApostrophe, noDelimiter]

theorem Lexer.opens_parentheses (lx : Lexer) : lx.opens '(' = false ∧ lx.opens ')' = false := by
  rcases lx.isDelimiter with quotation | grave
  · simp [opens, quotation]
  · simp [opens, grave]

theorem Lexer.opens_dash (lx : Lexer) : lx.opens '-' = false := by
  rcases lx.isDelimiter with quotation | grave
  · simp [opens, quotation]
  · simp [opens, grave]

/-- A text of whole tokens that is calm outside quotes. -/
def Settled (lx : Lexer) (s : List Char) : Prop :=
  ∃ ts, lx.Reads s ts ∧ Calm (Token.outside ts)

namespace Settled

variable {lx : Lexer}

/-- Behind a settled text a closing parenthesis closes what stands around it. -/
theorem not_settled_closed (ha : Settled lx a) (rest : List Char) : ¬ Settled lx (a ++ ')' :: rest) := by
  obtain ⟨ts, readsA, calmA⟩ := ha
  rintro ⟨us, readsB, calmB⟩
  have closing := lx.opens_parentheses.2
  have first := readsA (')' :: rest) (by simp [closing])
  have whole := readsB [] (by simp)
  rw [List.append_nil, first] at whole
  simp only [Lexer.scan, closing, Bool.false_eq_true, if_false, Option.map_some, Option.map_map,
    Option.map_eq_some_iff] at whole
  obtain ⟨vs, -, tokens⟩ := whole
  have outside : Token.outside us = Token.outside ts ++ ')' :: Token.outside vs := by
    have goesOn : us = ts ++ .plain ')' :: vs := by simpa using tokens.symm
    rw [goesOn, Token.outside_append]
    rfl
  have level := calmB.level 0
  rw [outside, depth?_append, calmA.level] at level
  cases level

/-- Where a parenthesis closes does not depend on what follows it. -/
theorem eq_of_closed {x y : List Char} (ha : Settled lx a) (hb : Settled lx b)
    (h : a ++ ')' :: x = b ++ ')' :: y) : a = b ∧ x = y := by
  rcases List.append_eq_append_iff.mp h with ⟨between, rfl, goesOn⟩ | ⟨between, rfl, goesOn⟩
  · cases between with
    | nil => simpa using goesOn
    | cons c between =>
      obtain ⟨rfl, -⟩ := List.cons.inj goesOn
      exact absurd hb (ha.not_settled_closed between)
  · cases between with
    | nil => simpa using goesOn.symm
    | cons c between =>
      obtain ⟨rfl, -⟩ := List.cons.inj goesOn
      exact absurd ha (hb.not_settled_closed between)

end Settled

end ContentQuery
