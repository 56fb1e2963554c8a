import ContentQuery.Proofs.NameCodec
import Mathlib.Data.List.Infix

/-!
# Names without escapes

Which names the codec leaves alone. Reading changes a name just if an escape stands in it, since an escape is
longer than the character that it stands for. Writing changes a name just if an escape stands in it or one of its
characters is not plain in its place, since what is written for such a character is longer than the character.
What has been written is plain everywhere, whatever the name was.
-/

namespace ContentQuery.Name

variable {c : Char} {s rest : List Char} {first : Bool}

/-! ### Places of escapes -/

/-- A whole escape stands at the start of the text: four or eight digits of the code of a character between the
marks. -/
def StartsEscape (s : List Char) : Prop :=
  ∃ digits c rest, Spells digits c ∧ s = '_' :: 'x' :: (digits ++ '_' :: rest)

/-- Some place of the text is the start of an escape. -/
def HasEscape (s : List Char) : Prop :=
  ∃ t, t <:+ s ∧ StartsEscape t

theorem isSome_escape?_iff : (escape? s).isSome = true ↔ StartsEscape s := by
  rw [Option.isSome_iff_exists]
  constructor
  · rintro ⟨⟨c, rest⟩, found⟩
    obtain ⟨digits, spells, written⟩ := escape?_eq_some_iff.mp found
    exact ⟨digits, c, rest, spells, written⟩
  · rintro ⟨digits, c, rest, spells, written⟩
    exact ⟨(c, rest), escape?_eq_some_iff.mpr ⟨digits, spells, written⟩⟩

instance : DecidablePred StartsEscape := fun _ => decidable_of_iff _ isSome_escape?_iff

instance : DecidablePred HasEscape := fun s =>
  decidable_of_iff (∃ t ∈ s.tails, StartsEscape t) (by simp only [HasEscape, List.mem_tails])

theorem not_hasEscape_nil : ¬ HasEscape [] := by
  rintro ⟨t, below, digits, c, rest, -, rfl⟩
  cases List.suffix_nil.mp below

theorem hasEscape_cons : HasEscape (c :: s) ↔ (escape? (c :: s)).isSome = true ∨ HasEscape s := by
  rw [isSome_escape?_iff]
  constructor
  · rintro ⟨t, below, start⟩
    rcases List.suffix_cons_iff.mp below with rfl | below
    · exact .inl start
    · exact .inr ⟨t, below, start⟩
  · rintro (start | ⟨t, below, start⟩)
    · exact ⟨_, List.suffix_rfl, start⟩
    · exact ⟨t, below.trans (List.suffix_cons c s), start⟩

/-! ### Reading -/

/-- The character that an escape stands for is shorter than the escape. -/
theorem length_lt_of_escape? (found : escape? s = some (c, rest)) : (c :: rest).length < s.length := by
  obtain ⟨digits, -, rfl⟩ := escape?_eq_some_iff.mp found
  simp only [List.length_cons, List.length_append]
  omega

theorem length_decodeChars_le (s : List Char) : (decodeChars s).length ≤ s.length := by
  fun_induction decodeChars s with
  | case1 s c rest found shorter ih =>
    have long := length_lt_of_escape? found
    rw [List.length_cons] at long ⊢
    omega
  | case2 => exact Nat.le_refl 0
  | case3 c rest found ih => exact Nat.succ_le_succ ih

theorem length_decodeChars_lt (h : HasEscape s) : (decodeChars s).length < s.length := by
  induction s with
  | nil => exact absurd h not_hasEscape_nil
  | cons c s ih =>
    cases found : escape? (c :: s) with
    | some read =>
      obtain ⟨d, rest⟩ := read
      have long := length_lt_of_escape? found
      have below := length_decodeChars_le rest
      rw [decodeChars_of_escape found, List.length_cons]
      rw [List.length_cons] at long
      omega
    | none =>
      have later : HasEscape s := (hasEscape_cons.mp h).resolve_left (by simp [found])
      rw [decodeChars_cons found]
      exact Nat.succ_lt_succ (ih later)

theorem decodeChars_of_not_hasEscape (h : ¬ HasEscape s) : decodeChars s = s := by
  induction s with
  | nil => exact decodeChars_nil
  | cons c s ih =>
    rw [hasEscape_cons, not_or, Option.not_isSome_iff_eq_none] at h
    rw [decodeChars_cons h.1, ih h.2]

theorem decodeChars_eq_self_iff : decodeChars s = s ↔ ¬ HasEscape s := by
  refine ⟨fun same escaped => ?_, decodeChars_of_not_hasEscape⟩
  have shorter := length_decodeChars_lt escaped
  rw [same] at shorter
  exact Nat.lt_irrefl _ shorter

/-- Reading that goes from one `_x` to the next: past the escape if one stands there, and else past the two
characters. -/
def decodeSkipping : List Char → List Char
  | '_' :: 'x' :: body =>
    match found : escape? ('_' :: 'x' :: body) with
    | some (c, rest) =>
      have : rest.length < body.length + 2 := length_of_escape? found
      c :: decodeSkipping rest
    | none => '_' :: 'x' :: decodeSkipping body
  | c :: rest => c :: decodeSkipping rest
  | [] => []
termination_by s => s.length

/-- No escape starts among the characters that are passed over. -/
theorem decodeSkipping_eq (s : List Char) : decodeSkipping s = decodeChars s := by
  fun_induction decodeSkipping s with
  | case1 body c rest found shorter ih => rw [decodeChars_of_escape found, ih]
  | case2 body found ih =>
    have second : escape? ('x' :: body) = none := escape?_cons_of_ne (by decide)
    rw [decodeChars_cons found, decodeChars_cons second, ih]
  | case3 c rest other ih =>
    have unescaped : escape? (c :: rest) = none := by
      rw [Option.eq_none_iff_forall_ne_some]
      rintro ⟨d, after⟩ found
      obtain ⟨digits, -, written⟩ := escape?_eq_some_iff.mp found
      obtain ⟨mark, letter⟩ := List.cons.inj written
      exact other _ mark letter
    rw [decodeChars_cons unescaped, ih]
  | case4 => rw [decodeChars_nil]

/-! ### Writing -/

/-- Every character is plain in its place; `first` says whether the text is the start of a name. -/
def PlainFrom (first : Bool) (s : List Char) : Prop :=
  ∀ i (h : i < s.length), isPlain s[i] (first && i == 0) = true

instance : DecidablePred (PlainFrom first) := fun s =>
  inferInstanceAs (Decidable (∀ i (h : i < s.length), isPlain s[i] (first && i == 0) = true))

theorem plainFrom_cons : PlainFrom first (c :: s) ↔ isPlain c first = true ∧ PlainFrom false s := by
  constructor
  · intro h
    refine ⟨?_, fun i inside => ?_⟩
    · simpa using h 0 (Nat.succ_pos s.length)
    · simpa using h (i + 1) (Nat.succ_lt_succ inside)
  · rintro ⟨head, tail⟩ i inside
    cases i with
    | zero => simpa using head
    | succ i => simpa using tail i (Nat.lt_of_succ_lt_succ inside)

theorem plainFrom_false_iff : PlainFrom false s ↔ ∀ c ∈ s, isPlain c false = true := by
  simp only [PlainFrom, Bool.false_and]
  rw [List.forall_mem_iff_forall_getElem]

theorem length_lt_escape (c : Char) : 1 < (escape c).length := by
  obtain ⟨digits, -, written⟩ := exists_escape_eq c
  rw [written]
  simp

theorem length_le_encodeChars (first : Bool) (s : List Char) :
    s.length ≤ (encodeChars first s).length := by
  induction s generalizing first with
  | nil => exact Nat.le_refl 0
  | cons c s ih =>
    have below := ih false
    rcases kept_or_escaped first c s with ⟨unescaped, plain⟩ | escaped
    · rw [encodeChars_kept unescaped plain]
      exact Nat.succ_le_succ below
    · have long := length_lt_escape c
      rw [encodeChars_escaped escaped, List.length_append, List.length_cons]
      omega

theorem encodeChars_eq_self_iff (first : Bool) :
    encodeChars first s = s ↔ ¬ HasEscape s ∧ PlainFrom first s := by
  induction s generalizing first with
  | nil => exact iff_of_true rfl ⟨not_hasEscape_nil, fun i inside => absurd inside (Nat.not_lt_zero i)⟩
  | cons c s ih =>
    rw [hasEscape_cons, plainFrom_cons, not_or]
    rcases kept_or_escaped first c s with ⟨unescaped, plain⟩ | escaped
    · rw [encodeChars_kept unescaped plain, List.cons_eq_cons, ih false]
      simp [unescaped, plain]
    · -- What is written in the place of the character is too long.
      refine iff_of_false (fun same => ?_) ?_
      · have long := length_lt_escape c
        have below := length_le_encodeChars false s
        rw [encodeChars_escaped escaped] at same
        have equal := congrArg List.length same
        rw [List.length_append, List.length_cons] at equal
        omega
      · rintro ⟨⟨unescaped, -⟩, plain, -⟩
        rcases escaped with escaped | reserved
        · exact unescaped escaped
        · simp [plain] at reserved

theorem plainFrom_encodeChars (first : Bool) (s : List Char) : PlainFrom first (encodeChars first s) := by
  induction s generalizing first with
  | nil => exact fun i inside => absurd inside (Nat.not_lt_zero i)
  | cons c s ih =>
    rcases kept_or_escaped first c s with ⟨unescaped, plain⟩ | escaped
    · rw [encodeChars_kept unescaped plain, plainFrom_cons]
      exact ⟨plain, ih false⟩
    · obtain ⟨digits, spells, written⟩ := exists_escape_eq c
      -- An escape starts with an underscore, which is plain in any place.
      have mark : isPlain '_' first = true := by cases first <;> rfl
      have body : PlainFrom false ('x' :: digits ++ '_' :: encodeChars false s) := by
        rw [plainFrom_false_iff]
        intro d mem
        rcases List.mem_append.mp mem with inside | after
        · exact spells.body_plain d inside
        · rcases List.mem_cons.mp after with rfl | later
          · rfl
          · exact plainFrom_false_iff.mp (ih false) d later
      rw [encodeChars_escaped escaped, written, List.cons_append, plainFrom_cons]
      exact ⟨mark, by simpa using body⟩

/-! ### Both ways -/

/-- Reading leaves a name alone just if no escape stands in it, and writing just if besides every character of it
is plain in its place, so that such a name is read and written back. What is written is plain in every place.
Passing over two characters where no escape is found makes no difference to what is read. -/
theorem plain_names_kept (w : String) :
    (decode w = w ↔ ¬ HasEscape w.toList) ∧
      (encode w = w ↔ ¬ HasEscape w.toList ∧ PlainFrom true w.toList) ∧
        (¬ HasEscape w.toList ∧ PlainFrom true w.toList → encode (decode w) = w) ∧
          (∀ s : String, PlainFrom true (encode s).toList) ∧
            (decode w).toList = decodeSkipping w.toList := by
  have read : decode w = w ↔ ¬ HasEscape w.toList := by
    rw [← decodeChars_eq_self_iff, decode, ← String.toList_inj, String.toList_ofList]
  have written : encode w = w ↔ ¬ HasEscape w.toList ∧ PlainFrom true w.toList := by
    rw [← encodeChars_eq_self_iff, encode, ← String.toList_inj, String.toList_ofList]
  refine ⟨read, written, fun plain => ?_, fun s => ?_, ?_⟩
  · rw [read.mpr plain.1, written.mpr plain]
  · rw [encode, String.toList_ofList]
    exact plainFrom_encodeChars true s.toList
  · rw [decode, String.toList_ofList, decodeSkipping_eq]

/-- An escape that is not closed stands inside another text that resembles one. -/
theorem plain_names_kept_look_alike :
    (¬ HasEscape "jcr:a_x_x0041-b".toList ∧ PlainFrom true "jcr:a_x_x0041-b".toList) ∧
      encode (decode "jcr:a_x_x0041-b") = "jcr:a_x_x0041-b" := by
  have plain : ¬ HasEscape "jcr:a_x_x0041-b".toList ∧ PlainFrom true "jcr:a_x_x0041-b".toList := by
    decide +kernel
  exact ⟨plain, (plain_names_kept _).2.2.1 plain⟩

end ContentQuery.Name
