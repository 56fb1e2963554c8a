import ContentQuery.Name
import Mathlib.Algebra.Group.Nat.Defs

/-!
# Round trip of property names

A name is read back from its encoding unless it has a latent escape: text that is an escape but for
its closing underscore, in front of a character that is escaped itself. The encoder sees no escape
there and keeps the text, but the escape of the next character starts with the missing underscore, and
the decoder sees one.
-/

namespace ContentQuery

namespace Text

variable {c : Char} {s : List Char} {k n : Nat}

/-! ### Hexadecimal numerals -/

theorem length_hexDigits (width n : Nat) : (hexDigits width n).length = width := by
  induction width generalizing n with
  | zero => rfl
  | succ width ih => rw [hexDigits, List.length_append, ih, List.length_singleton]

theorem readHex?_append (n : Nat) (s t : List Char) :
    readHex? n (s ++ t) = (readHex? n s).bind (readHex? · t) := by
  induction s generalizing n with
  | nil => rfl
  | cons c s ih =>
    simp only [List.cons_append, readHex?]
    cases hexDigit? c with
    | none => rfl
    | some d => exact ih _

theorem readHex?_hexDigits (k width n : Nat) :
    readHex? k (hexDigits width n) = some (16 ^ width * k + n % 16 ^ width) := by
  have digit : ∀ d < 16, hexDigit? (hexDigit d) = some d := by decide
  induction width generalizing n with
  | zero => simp [hexDigits, readHex?, Nat.mod_one]
  | succ width ih =>
    have last := digit _ (Nat.mod_lt n (by decide))
    have split : n % 16 ^ (width + 1) = n % 16 + 16 * (n / 16 % 16 ^ width) := by
      rw [Nat.pow_succ, Nat.mul_comm, Nat.mod_mul]
    have shift : 16 ^ (width + 1) * k = 16 * (16 ^ width * k) := by
      rw [Nat.pow_succ, Nat.mul_comm _ 16, Nat.mul_assoc]
    simp only [hexDigits, readHex?_append, ih, Option.bind_some, readHex?, last]
    rw [split, shift]
    congr 1
    omega

/-- Whatever is read has only digits. -/
theorem isSome_of_mem_of_readHex? (h : readHex? k s = some n) (mem : c ∈ s) :
    (hexDigit? c).isSome = true := by
  induction s generalizing k with
  | nil => cases mem
  | cons d s ih =>
    rw [readHex?] at h
    cases digit : hexDigit? d with
    | none => simp [digit] at h
    | some v =>
      simp only [digit] at h
      rcases List.mem_cons.mp mem with rfl | mem
      · rw [digit]
        rfl
      · exact ih h mem

theorem toNat_lt_of_hexDigit? (h : (hexDigit? c).isSome = true) : c.toNat < 0x80 := by
  unfold hexDigit? at h
  split at h
  · rename_i digit
    exact Nat.lt_of_le_of_lt (Char.isDigit_iff_toNat.mp digit).2 (by decide)
  · split at h
    · rename_i capital
      simp only [Bool.and_eq_true, decide_eq_true_eq] at capital
      exact Nat.lt_of_le_of_lt (UInt32.le_iff_toNat_le.mp capital.2) (by decide)
    · split at h
      · rename_i small
        simp only [Bool.and_eq_true, decide_eq_true_eq] at small
        exact Nat.lt_of_le_of_lt (UInt32.le_iff_toNat_le.mp small.2) (by decide)
      · cases h

end Text

namespace Name

open Text

variable {c d : Char} {s t rest digits : List Char} {first : Bool}

/-! ### Escapes -/

/-- The digits between the marks of an escape. -/
structure Spells (digits : List Char) (c : Char) : Prop where
  width : digits.length = 4 ∨ digits.length = 8
  value : readHex? 0 digits = some c.toNat

theorem isPlain_of_hexDigit? (h : (hexDigit? c).isSome = true) : isPlain c false = true := by
  have table : ∀ n < 0x80, (hexDigit? (Char.ofNat n)).isSome = true →
      isPlain (Char.ofNat n) false = true := by decide
  have small := toNat_lt_of_hexDigit? h
  rw [← Char.ofNat_toNat c] at h ⊢
  exact table _ small h

/-- What a name cannot hold at all it cannot start with. -/
theorem isPlain_true_of_false (h : isPlain c false = false) : isPlain c true = false := by
  simp only [isPlain, Bool.or_eq_false_iff] at h ⊢
  exact ⟨h.1, rfl⟩

namespace Spells

theorem isPlain (h : Spells digits c) (mem : d ∈ digits) : Name.isPlain d false = true :=
  isPlain_of_hexDigit? (isSome_of_mem_of_readHex? h.value mem)

theorem ne_of_mem (h : Spells digits c) (mem : d ∈ digits) : d ≠ '_' ∧ d ≠ 'x' := by
  have digit := isSome_of_mem_of_readHex? h.value mem
  constructor <;> (rintro rfl; cases digit)

theorem body_plain (h : Spells digits c) : ∀ d ∈ 'x' :: digits, Name.isPlain d false = true :=
  List.forall_mem_cons.mpr ⟨by decide, fun _ mem => h.isPlain mem⟩

theorem body_ne (h : Spells digits c) : ∀ d ∈ 'x' :: digits, d ≠ '_' :=
  List.forall_mem_cons.mpr ⟨by decide, fun _ mem => (h.ne_of_mem mem).1⟩

end Spells

theorem toNat_ofNat {n : Nat} (h : n.isValidChar) : (Char.ofNat n).toNat = n := by
  rw [Char.ofNat, dif_pos h]
  rfl

theorem escapeOfWidth?_eq_some_iff {width : Nat} : escapeOfWidth? width s = some (c, rest) ↔
    ∃ digits, digits.length = width ∧ readHex? 0 digits = some c.toNat ∧
      s = '_' :: 'x' :: (digits ++ '_' :: rest) := by
  constructor
  · intro h
    unfold escapeOfWidth? at h
    split at h
    · rename_i body
      split at h
      · rename_i n tail read closed
        split at h
        · rename_i valid
          cases h
          have long := congrArg List.length closed
          rw [List.length_drop, List.length_cons] at long
          refine ⟨body.take width, ?_, ?_, ?_⟩
          · rw [List.length_take]
            omega
          · rw [read, toNat_ofNat valid]
          · rw [← closed, List.take_append_drop]
        · cases h
      · cases h
    · cases h
  · rintro ⟨digits, rfl, read, rfl⟩
    have valid : c.toNat.isValidChar := c.valid
    simp [escapeOfWidth?, read, valid]

theorem escape?_eq_some_iff : escape? s = some (c, rest) ↔
    ∃ digits, Spells digits c ∧ s = '_' :: 'x' :: (digits ++ '_' :: rest) := by
  unfold escape?
  rw [Option.or_eq_some_iff, escapeOfWidth?_eq_some_iff, escapeOfWidth?_eq_some_iff]
  constructor
  · rintro (⟨digits, width, value, rfl⟩ | ⟨-, digits, width, value, rfl⟩)
    · exact ⟨digits, ⟨.inl width, value⟩, rfl⟩
    · exact ⟨digits, ⟨.inr width, value⟩, rfl⟩
  · rintro ⟨digits, spells, rfl⟩
    rcases spells.width with four | eight
    · exact .inl ⟨digits, four, spells.value, rfl⟩
    · refine .inr ⟨?_, digits, eight, spells.value, rfl⟩
      -- The fifth of eight digits stands where an escape of four digits would end.
      rw [Option.eq_none_iff_forall_ne_some]
      rintro ⟨c', rest'⟩ h
      obtain ⟨others, four, -, same⟩ := escapeOfWidth?_eq_some_iff.mp h
      simp only [List.cons.injEq, true_and] at same
      have mark : (digits ++ '_' :: rest)[4]? = some '_' := by
        rw [same, ← four, List.getElem?_append_right (Nat.le_refl _)]
        simp
      rw [List.getElem?_append_left (by omega)] at mark
      exact (spells.ne_of_mem (List.mem_of_getElem? mark)).1 rfl

/-! ### Decoding step by step -/

theorem decodeChars_nil : decodeChars [] = [] := by
  rw [decodeChars]
  split
  · rename_i c rest h
    cases h
  · rfl

theorem decodeChars_of_escape (h : escape? s = some (c, rest)) :
    decodeChars s = c :: decodeChars rest := by
  rw [decodeChars]
  split
  · rename_i c' rest' h'
    cases h.symm.trans h'
    rfl
  · rename_i h'
    cases h.symm.trans h'

theorem decodeChars_cons (h : escape? (c :: s) = none) :
    decodeChars (c :: s) = c :: decodeChars s := by
  rw [decodeChars]
  split
  · rename_i c' rest' h'
    cases h.symm.trans h'
  · rfl

theorem escape?_cons_of_ne (h : c ≠ '_') : escape? (c :: s) = none := by
  rw [Option.eq_none_iff_forall_ne_some]
  rintro ⟨d, rest⟩ h'
  obtain ⟨digits, -, same⟩ := escape?_eq_some_iff.mp h'
  exact h (List.cons.inj same).1

/-- No escape starts in a text without underscores. -/
theorem decodeChars_append (h : ∀ c ∈ s, c ≠ '_') : decodeChars (s ++ t) = s ++ decodeChars t := by
  induction s with
  | nil => rfl
  | cons c s ih =>
    obtain ⟨head, tail⟩ := List.forall_mem_cons.mp h
    rw [List.cons_append, decodeChars_cons (escape?_cons_of_ne head), ih tail, List.cons_append]

/-! ### Encoding step by step -/

theorem exists_escape_eq (c : Char) :
    ∃ digits, Spells digits c ∧ escape c = '_' :: 'x' :: (digits ++ ['_']) := by
  refine ⟨hexDigits (if c.toNat ≤ 0xFFFF then 4 else 8) c.toNat, ⟨?_, ?_⟩, rfl⟩
  · rw [length_hexDigits]
    split <;> simp
  · have bound : c.toNat < 0x110000 := by
      have valid := c.valid
      simp only [UInt32.isValidChar, Nat.isValidChar] at valid
      simp only [Char.toNat]
      omega
    rw [readHex?_hexDigits, Nat.mul_zero, Nat.zero_add]
    congr 1
    split <;> exact Nat.mod_eq_of_lt (by omega)

theorem escape?_escape (c : Char) (rest : List Char) : escape? (escape c ++ rest) = some (c, rest) := by
  obtain ⟨digits, spells, written⟩ := exists_escape_eq c
  exact escape?_eq_some_iff.mpr ⟨digits, spells, by simp [written]⟩

theorem decodeChars_escape (c : Char) (rest : List Char) :
    decodeChars (escape c ++ rest) = c :: decodeChars rest :=
  decodeChars_of_escape (escape?_escape c rest)

/-- A character is kept if it is plain and no escape starts with it. -/
theorem encodeChars_kept (unescaped : escape? (c :: rest) = none) (plain : isPlain c first = true) :
    encodeChars first (c :: rest) = c :: encodeChars false rest := by
  simp [encodeChars, unescaped, plain]

theorem encodeChars_escaped (h : (escape? (c :: rest)).isSome = true ∨ isPlain c first = false) :
    encodeChars first (c :: rest) = escape c ++ encodeChars false rest := by
  rw [encodeChars, if_neg]
  rcases h with escaped | reserved
  · simp [Option.isNone_iff_eq_none, Option.isSome_iff_ne_none.mp escaped]
  · simp [reserved]

theorem kept_or_escaped (first : Bool) (c : Char) (rest : List Char) :
    (escape? (c :: rest) = none ∧ isPlain c first = true) ∨
      ((escape? (c :: rest)).isSome = true ∨ isPlain c first = false) := by
  cases escape? (c :: rest) <;> cases isPlain c first <;> simp

/-- Encoded text without underscores has been kept. -/
theorem exists_of_encodeChars_eq_append (none : ∀ c ∈ t, c ≠ '_')
    (h : encodeChars false s = t ++ rest) : ∃ u, s = t ++ u ∧ encodeChars false u = rest := by
  induction t generalizing s with
  | nil => exact ⟨s, rfl, h⟩
  | cons c t ih =>
    obtain ⟨head, tail⟩ := List.forall_mem_cons.mp none
    cases s with
    | nil => cases h
    | cons d s =>
      rcases kept_or_escaped false d s with ⟨unescaped, plain⟩ | escaped
      · rw [encodeChars_kept unescaped plain, List.cons_append, List.cons.injEq] at h
        obtain ⟨rfl, below⟩ := h
        obtain ⟨u, rfl, left⟩ := ih tail below
        exact ⟨u, rfl, left⟩
      · rw [encodeChars_escaped escaped, escape] at h
        simp only [List.cons_append, List.cons.injEq] at h
        exact absurd h.1.symm head

theorem encodeChars_append_kept (plain : ∀ c ∈ t, isPlain c false = true) (none : ∀ c ∈ t, c ≠ '_') :
    encodeChars false (t ++ s) = t ++ encodeChars false s := by
  induction t with
  | nil => rfl
  | cons c t ih =>
    obtain ⟨plainHead, plainTail⟩ := List.forall_mem_cons.mp plain
    obtain ⟨head, tail⟩ := List.forall_mem_cons.mp none
    rw [List.cons_append, encodeChars_kept (escape?_cons_of_ne head) plainHead, ih plainTail tail,
      List.cons_append]

/-! ### Latent escapes -/

/-- The text starts with an escape but for the closing underscore, in whose place stands a character
that is escaped itself. -/
def StartsLatent (s : List Char) : Prop :=
  ∃ digits c d rest, Spells digits c ∧ isPlain d false = false ∧
    s = '_' :: 'x' :: (digits ++ d :: rest)

def HasLatentEscape (s : List Char) : Prop :=
  ∃ t, t <:+ s ∧ StartsLatent t

/-- An underscore that is kept starts no escape in the encoded text either. -/
theorem escape?_encodeChars (kept : escape? ('_' :: s) = none) (h : ¬ StartsLatent ('_' :: s)) :
    escape? ('_' :: encodeChars false s) = none := by
  rw [Option.eq_none_iff_forall_ne_some]
  rintro ⟨c, rest⟩ completed
  obtain ⟨digits, spells, same⟩ := escape?_eq_some_iff.mp completed
  rw [List.cons.injEq, ← List.cons_append] at same
  obtain ⟨u, rfl, ends⟩ := exists_of_encodeChars_eq_append spells.body_ne same.2
  have noEscape : ∀ v, u ≠ '_' :: v := by
    rintro v rfl
    have escaped : escape? ('_' :: ('x' :: digits ++ '_' :: v)) = some (c, v) :=
      escape?_eq_some_iff.mpr ⟨digits, spells, rfl⟩
    cases kept.symm.trans escaped
  cases u with
  | nil => cases ends
  | cons d v =>
    have ne : d ≠ '_' := fun e => noEscape v (by rw [e])
    rcases kept_or_escaped false d v with ⟨unescaped, plain⟩ | escaped | reserved
    · rw [encodeChars_kept unescaped plain] at ends
      exact ne (List.cons.inj ends).1
    · rw [escape?_cons_of_ne ne] at escaped
      cases escaped
    · exact h ⟨digits, c, d, v, spells, reserved, rfl⟩

theorem HasLatentEscape.of_suffix (h : HasLatentEscape t) (sub : t <:+ s) : HasLatentEscape s := by
  obtain ⟨u, below, latent⟩ := h
  exact ⟨u, below.trans sub, latent⟩

theorem decodeChars_encodeChars (first : Bool) (h : ¬ HasLatentEscape s) :
    decodeChars (encodeChars first s) = s := by
  induction s generalizing first with
  | nil => exact decodeChars_nil
  | cons c s ih =>
    have below := ih false fun latent => h (latent.of_suffix (List.suffix_cons c s))
    rcases kept_or_escaped first c s with ⟨unescaped, plain⟩ | escaped
    · rw [encodeChars_kept unescaped plain, decodeChars_cons, below]
      by_cases mark : c = '_'
      · subst mark
        exact escape?_encodeChars unescaped fun latent => h ⟨_, List.suffix_rfl, latent⟩
      · exact escape?_cons_of_ne mark
    · rw [encodeChars_escaped escaped, decodeChars_escape, below]

/-! ### What a latent escape does -/

/-- The place of a character matters to its spelling, but not to what is read back. -/
theorem decodeChars_encodeChars_true (s : List Char) :
    decodeChars (encodeChars true s) = decodeChars (encodeChars false s) := by
  cases s with
  | nil => rfl
  | cons c s =>
    rcases kept_or_escaped false c s with ⟨unescaped, plain⟩ | escaped
    · cases start : isPlain c true with
      | true => rw [encodeChars_kept unescaped start, encodeChars_kept unescaped plain]
      | false =>
        have ne : c ≠ '_' := by
          rintro rfl
          cases start
        rw [encodeChars_escaped (.inr start), encodeChars_kept unescaped plain, decodeChars_escape,
          decodeChars_cons (escape?_cons_of_ne ne)]
    · rw [encodeChars_escaped escaped, encodeChars_escaped]
      exact escaped.imp_right isPlain_true_of_false

theorem StartsLatent.escape?_eq_none (h : StartsLatent s) : escape? s = none := by
  obtain ⟨digits, c, d, rest, spells, reserved, rfl⟩ := h
  rw [Option.eq_none_iff_forall_ne_some]
  rintro ⟨c', rest'⟩ escaped
  obtain ⟨others, spells', same⟩ := escape?_eq_some_iff.mp escaped
  simp only [List.cons.injEq, true_and] at same
  -- The reserved character is neither a digit nor the closing mark.
  rcases List.append_eq_append_iff.mp same with ⟨a, rfl, left⟩ | ⟨a, rfl, left⟩
  · cases a with
    | nil =>
      cases left
      cases reserved
    | cons e a =>
      cases left
      have plain := spells'.isPlain (d := d) (by simp)
      simp [reserved] at plain
  · cases a with
    | nil =>
      cases left
      cases reserved
    | cons e a =>
      cases left
      exact (spells.ne_of_mem (by simp)).1 rfl

/-- The decoder reads the completed escape, and the digits of the one that completed it as text. -/
theorem decodeChars_latent (rest : List Char) (spells : Spells digits c) (reserved : isPlain d false = false) :
    ∃ hex, Spells hex d ∧
      decodeChars (encodeChars false ('_' :: 'x' :: (digits ++ d :: rest))) =
        c :: 'x' :: (hex ++ decodeChars ('_' :: encodeChars false rest)) := by
  have latent : StartsLatent ('_' :: ('x' :: digits ++ d :: rest)) :=
    ⟨digits, c, d, rest, spells, reserved, rfl⟩
  obtain ⟨hex, spellsNext, written⟩ := exists_escape_eq d
  have encoded : encodeChars false ('_' :: ('x' :: digits ++ d :: rest)) =
      '_' :: 'x' :: (digits ++ '_' :: ('x' :: hex ++ '_' :: encodeChars false rest)) := by
    rw [encodeChars_kept latent.escape?_eq_none (by decide),
      encodeChars_append_kept spells.body_plain spells.body_ne, encodeChars_escaped (.inr reserved), written]
    simp
  refine ⟨hex, spellsNext, ?_⟩
  rw [← List.cons_append, encoded, decodeChars_of_escape (escape?_eq_some_iff.mpr ⟨digits, spells, rfl⟩),
    decodeChars_append spellsNext.body_ne]
  rfl

theorem Spells.eq (h : Spells digits c) (h' : Spells digits d) : c = d := by
  have same := Option.some.inj (h.value.symm.trans h'.value)
  rw [← Char.ofNat_toNat c, same, Char.ofNat_toNat]

/-- What is read behind an underscore: the underscore, the start of an escape as text, or less than
there was. -/
theorem decodeChars_underscore (h : ∀ t, t <:+ s → decodeChars (encodeChars false t) = t) :
    (∃ t, decodeChars ('_' :: encodeChars false s) = '_' :: t) ∨
      (∃ c t, decodeChars ('_' :: encodeChars false s) = c :: 'x' :: t) ∨
        (decodeChars ('_' :: encodeChars false s)).length ≤ s.length := by
  cases escaped : escape? ('_' :: encodeChars false s) with
  | none => exact .inl ⟨_, decodeChars_cons escaped⟩
  | some found =>
    obtain ⟨c, u⟩ := found
    rw [decodeChars_of_escape escaped]
    obtain ⟨digits, spells, same⟩ := escape?_eq_some_iff.mp escaped
    rw [List.cons.injEq, ← List.cons_append] at same
    obtain ⟨v, rfl, left⟩ := exists_of_encodeChars_eq_append spells.body_ne same.2
    cases v with
    | nil => cases left
    | cons d v =>
      rcases kept_or_escaped false d v with ⟨unescaped, plain⟩ | reserved
      · rw [encodeChars_kept unescaped plain] at left
        have below : v <:+ 'x' :: digits ++ d :: v :=
          (List.suffix_cons d v).trans (List.suffix_append ..)
        rw [← (List.cons.inj left).2, h v below]
        refine .inr (.inr ?_)
        simp only [List.length_cons, List.length_append]
        omega
      · obtain ⟨hex, spellsNext, written⟩ := exists_escape_eq d
        rw [encodeChars_escaped reserved, written, List.cons_append, List.cons.injEq] at left
        refine .inr (.inl ⟨c, hex ++ decodeChars ('_' :: encodeChars false v), ?_⟩)
        rw [← left.2, List.cons_append, List.append_assoc, ← List.cons_append,
          decodeChars_append spellsNext.body_ne]
        rfl

/-- A text that starts with a latent escape is not read back, unless some ending of it is not. -/
theorem StartsLatent.not_read_back (h : StartsLatent s)
    (endings : ∀ t, t <:+ s → decodeChars (encodeChars false t) = t) : False := by
  obtain ⟨digits, c, d, rest, spells, reserved, rfl⟩ := h
  obtain ⟨hex, spellsNext, decoded⟩ := decodeChars_latent rest spells reserved
  have same := (endings _ List.suffix_rfl).symm.trans decoded
  simp only [List.cons.injEq, true_and] at same
  obtain ⟨rfl, same⟩ := same
  have differ : digits ≠ hex := by
    rintro rfl
    cases spells.eq spellsNext
    cases reserved
  rcases List.append_eq_append_iff.mp same with ⟨a, rfl, left⟩ | ⟨a, rfl, left⟩
  · -- The reserved character would be a digit of its own escape.
    cases a with
    | nil => exact differ (List.append_nil digits).symm
    | cons e a =>
      obtain ⟨rfl, -⟩ := List.cons.inj left
      have plain := spellsNext.isPlain (d := d) (by simp)
      simp [reserved] at plain
  · -- Digits are left, and the text after the escape would have to give them.
    have long : a = [] ∨ 2 ≤ a.length := by
      have width := spells.width
      have widthNext := spellsNext.width
      rw [List.length_append] at width
      rw [← List.length_eq_zero_iff]
      omega
    have digit (e : Char) (mem : e ∈ a) : e ≠ '_' ∧ e ≠ 'x' :=
      spells.ne_of_mem (List.mem_append_right hex mem)
    match a, long with
    | [], _ => exact differ (List.append_nil hex)
    | [_], .inr one => simp at one
    | e₁ :: e₂ :: a, _ =>
      have below : rest <:+ '_' :: 'x' :: (hex ++ (e₁ :: e₂ :: a) ++ d :: rest) :=
        ⟨'_' :: 'x' :: (hex ++ (e₁ :: e₂ :: a) ++ [d]), by simp⟩
      rcases decodeChars_underscore fun t sub => endings t (sub.trans below) with
        ⟨t, mark⟩ | ⟨e, t, start⟩ | short
      · rw [mark] at left
        exact (digit e₁ (by simp)).1 (List.cons.inj left).1.symm
      · rw [start] at left
        exact (digit e₂ (by simp)).2 (List.cons.inj (List.cons.inj left).2).1.symm
      · rw [left] at short
        simp only [List.length_append, List.length_cons] at short
        omega

/-- The names that are read back from their encodings, together with all their endings, are those
without latent escapes. -/
theorem decode_encode_iff (s : String) :
    (∀ t : String, t.toList <:+ s.toList → decode (encode t) = t) ↔ ¬ HasLatentEscape s.toList := by
  have chars (t : String) : decode (encode t) = t ↔ decodeChars (encodeChars false t.toList) = t.toList := by
    rw [decode, encode, String.toList_ofList, decodeChars_encodeChars_true, ← String.toList_inj,
      String.toList_ofList]
  constructor
  · rintro h ⟨t, sub, latent⟩
    refine latent.not_read_back fun u below => ?_
    have back := (chars (String.ofList u)).mp (h _ (by simpa using below.trans sub))
    simpa using back
  · intro h t sub
    exact (chars t).mpr (decodeChars_encodeChars false fun latent => h (latent.of_suffix sub))

/-- A blank completes the escape that is latent in front of it. The name is not read back, and another
name has the same encoding. -/
theorem latent_escape_completed :
    decode (encode "_x0020 ") ≠ "_x0020 " ∧ encode "_x0020 " = encode " x0020_" := by
  constructor <;> decide +kernel

end Name

end ContentQuery
