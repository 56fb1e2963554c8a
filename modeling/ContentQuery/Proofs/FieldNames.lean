import ContentQuery.Bindings.CaseStyle
import ContentQuery.Proofs.Letters

/-!
# Names of fields in both styles

The name of a field is made of words with underscores between them. Its form with capitals has the same words,
and from it the name is got back. The two forms are never mixed up, because only one of them holds capitals.
-/

namespace ContentQuery.CaseStyle

open Text

variable {c : Char} {w s rest : List Char} {words : List (List Char)} {name other key snake : String}

/-- A small letter, and small letters and digits behind it. -/
def IsWord : List Char → Prop
  | [] => False
  | c :: rest => c.isLower = true ∧ ∀ l ∈ rest, l.isLower = true ∨ l.isDigit = true

instance : DecidablePred IsWord
  | [] => isFalse id
  | c :: rest =>
    decidable_of_iff ((c.isLower && rest.all fun l => l.isLower || l.isDigit) = true) (by simp [IsWord])

/-- One word or several, with single underscores between them. -/
def IsFieldName (name : String) : Prop :=
  ∃ words, words ≠ [] ∧ (∀ w ∈ words, IsWord w) ∧ name = String.ofList (['_'].intercalate words)

/-! ### Words -/

/-- A character of a word, for all that case mappings and underscores are concerned. -/
def isSmall (c : Char) : Bool :=
  !isUppercase c && !c.isUpper && c != '_'

theorem isSmall_of (h : c.isLower = true ∨ c.isDigit = true) : isSmall c = true := by
  rcases h with small | digit
  · exact of_isLower (P := fun c => isSmall c = true) (by decide) small
  · exact of_isDigit (P := fun c => isSmall c = true) (by decide) digit

theorem IsWord.isSmall (h : IsWord w) : ∀ c ∈ w, isSmall c = true := by
  cases w with
  | nil => exact h.elim
  | cons c rest =>
    obtain ⟨small, more⟩ := h
    exact List.forall_mem_cons.mpr ⟨isSmall_of (.inl small), fun l mem => isSmall_of (more l mem)⟩

theorem IsWord.isEmpty (h : IsWord w) : w.isEmpty = false := by
  cases w with
  | nil => exact h.elim
  | cons c rest => rfl

theorem IsWord.capitalized (h : IsWord w) : ∃ c rest, w = c :: rest ∧ c.isLower = true ∧
    capitalized w = c.toUpper :: rest := by
  cases w with
  | nil => exact h.elim
  | cons c rest =>
    obtain ⟨small, -⟩ := h
    refine ⟨c, rest, rfl, small, ?_⟩
    rw [CaseStyle.capitalized, upperChar_of_isLower small]
    rfl

theorem intercalate_cons (w : List Char) (words : List (List Char)) :
    ['_'].intercalate (w :: words) = w ++ words.flatMap ('_' :: ·) := by
  induction words generalizing w with
  | nil => simp [List.intercalate]
  | cons v words ih =>
    have next : ['_'].intercalate (w :: v :: words) = w ++ '_' :: ['_'].intercalate (v :: words) := by
      simp [List.intercalate]
    rw [next, ih]
    simp

theorem IsWord.not_mem (h : IsWord w) : '_' ∉ w := by
  intro mem
  have small := h.isSmall '_' mem
  cases small

theorem splitOn_words (h : ∀ v ∈ w :: words, IsWord v) :
    splitOn '_' (w ++ words.flatMap ('_' :: ·)) = w :: words := by
  induction words generalizing w with
  | nil =>
    rw [List.flatMap_nil, List.append_nil]
    exact splitOn_of_not_mem (h w (by simp)).not_mem
  | cons v words ih =>
    rw [List.flatMap_cons, List.cons_append, splitOn_append (h w (by simp)).not_mem,
      ih fun u mem => h u (by simp [List.mem_cons.mp mem])]

theorem camel_words (h : ∀ v ∈ w :: words, IsWord v) :
    camel (String.ofList (w ++ words.flatMap ('_' :: ·))) =
      String.ofList (w ++ words.flatMap capitalized) := by
  have all : (w :: words).filter (!·.isEmpty) = w :: words :=
    List.filter_eq_self.mpr fun v mem => by simp [(h v mem).isEmpty]
  rw [camel, String.toList_ofList, splitOn_words h, all]

/-! ### Back from capitals -/

theorem snakeFrom_append (h : ∀ c ∈ w, isSmall c = true) (first : Bool) (s : List Char) :
    snakeFrom first (w ++ s) = w ++ snakeFrom (first && w.isEmpty) s := by
  induction w generalizing first with
  | nil => simp
  | cons c w ih =>
    obtain ⟨small, more⟩ := List.forall_mem_cons.mp h
    have stays : isUppercase c = false := by
      rw [isSmall, Bool.and_eq_true, Bool.and_eq_true, Bool.not_eq_true'] at small
      exact small.1.1
    rw [List.cons_append, snakeFrom, stays, ih more]
    simp

theorem snakeFrom_capitalized (h : IsWord w) (s : List Char) :
    snakeFrom false (capitalized w ++ s) = '_' :: w ++ snakeFrom false s := by
  obtain ⟨c, rest, rfl, small, capital⟩ := h.capitalized
  have more : ∀ l ∈ rest, isSmall l = true := fun l mem => h.isSmall l (List.mem_cons_of_mem c mem)
  rw [capital, List.cons_append, snakeFrom, isUppercase_toUpper small, lowerChar_toUpper small,
    snakeFrom_append more]
  rfl

theorem snakeFrom_flatMap (h : ∀ v ∈ words, IsWord v) :
    snakeFrom false (words.flatMap capitalized) = words.flatMap ('_' :: ·) := by
  induction words with
  | nil => rfl
  | cons w words ih =>
    obtain ⟨word, more⟩ := List.forall_mem_cons.mp h
    rw [List.flatMap_cons, snakeFrom_capitalized word, ih more, List.flatMap_cons]

/-- No capital letter among the first 128 characters. -/
def HoldsNoCapital (name : String) : Prop :=
  ∀ c ∈ name.toList, c.isUpper = false

/-- What sets the form with capitals apart from the name. -/
structure HasCamelForm (name : String) : Prop where
  snake : snake? (camel name) = some name
  capital : ¬ HoldsNoCapital (camel name)

namespace IsFieldName

theorem exists_words (h : IsFieldName name) : ∃ w words, (∀ v ∈ w :: words, IsWord v) ∧
    name = String.ofList (w ++ words.flatMap ('_' :: ·)) := by
  obtain ⟨words, some, all, rfl⟩ := h
  cases words with
  | nil => exact absurd rfl some
  | cons w words => exact ⟨w, words, all, by rw [intercalate_cons]⟩

theorem holdsNoCapital (h : IsFieldName name) : HoldsNoCapital name := by
  obtain ⟨w, words, all, rfl⟩ := h.exists_words
  have ofWord (v : List Char) (among : v ∈ w :: words) : ∀ c ∈ v, c.isUpper = false := by
    intro c mem
    have small := (all v among).isSmall c mem
    rw [isSmall, Bool.and_eq_true, Bool.and_eq_true, Bool.not_eq_true', Bool.not_eq_true'] at small
    exact small.1.2
  intro c mem
  rw [String.toList_ofList] at mem
  rcases List.mem_append.mp mem with front | behind
  · exact ofWord w (by simp) c front
  · obtain ⟨v, among, mem⟩ := List.mem_flatMap.mp behind
    rcases List.mem_cons.mp mem with rfl | mem
    · rfl
    · exact ofWord v (List.mem_cons_of_mem w among) c mem

/-- A single word has no other form; a name of several words is got back from its form with capitals. -/
theorem camel_eq_or (h : IsFieldName name) : camel name = name ∨ HasCamelForm name := by
  obtain ⟨w, words, all, rfl⟩ := h.exists_words
  cases words with
  | nil =>
    left
    rw [camel_words all]
    rfl
  | cons v words =>
    right
    obtain ⟨word, more⟩ := List.forall_mem_cons.mp all
    obtain ⟨c, rest, same, small, capital⟩ := (more v (by simp)).capitalized
    have holds : c.toUpper ∈ w ++ (v :: words).flatMap capitalized := by
      simp [capital]
    constructor
    · have found : (w ++ (v :: words).flatMap capitalized).any isUppercase = true :=
        List.any_eq_true.mpr ⟨_, holds, isUppercase_toUpper small⟩
      rw [camel_words all, snake?, String.toList_ofList, if_pos found, snakeFrom_append word.isSmall,
        word.isEmpty, Bool.and_false, snakeFrom_flatMap more]
    · intro none
      rw [camel_words all] at none
      have no := none c.toUpper (by rwa [String.toList_ofList])
      rw [isUpper_toUpper small] at no
      cases no

/-- The form with capitals has no other. -/
theorem camel_camel (h : IsFieldName name) : camel (camel name) = camel name := by
  obtain ⟨w, words, all, rfl⟩ := h.exists_words
  obtain ⟨word, more⟩ := List.forall_mem_cons.mp all
  have noMark : '_' ∉ w ++ words.flatMap capitalized := by
    intro mem
    rcases List.mem_append.mp mem with front | behind
    · exact word.not_mem front
    · obtain ⟨v, among, mem⟩ := List.mem_flatMap.mp behind
      obtain ⟨c, rest, rfl, small, capital⟩ := (more v among).capitalized
      rw [capital] at mem
      rcases List.mem_cons.mp mem with mark | mem
      · have upper := isUpper_toUpper small
        rw [← mark] at upper
        cases upper
      · exact (more _ among).not_mem (List.mem_cons_of_mem c mem)
  have some : (w ++ words.flatMap capitalized).isEmpty = false := by
    have nonempty := word.isEmpty
    cases w with
    | nil => cases nonempty
    | cons c rest => rfl
  rw [camel_words all, camel, String.toList_ofList, splitOn_of_not_mem noMark]
  simp [some]

theorem camel_ne (h : IsFieldName name) (h' : IsFieldName other) (differs : camel name ≠ name) :
    camel name ≠ other := by
  intro same
  have form := (h.camel_eq_or).resolve_left differs
  exact form.capital (same ▸ h'.holdsNoCapital)

theorem eq_of_camel_eq (h : IsFieldName name) (h' : IsFieldName other) (same : camel name = camel other) :
    name = other := by
  rcases h.camel_eq_or with self | form
  · by_cases self' : camel other = other
    · rw [← self, same, self']
    · exact absurd (same.symm.trans self) (h'.camel_ne h self')
  · by_cases self' : camel other = other
    · have back := form.snake
      have none := h'.holdsNoCapital
      rw [← self', ← same] at none
      exact absurd none form.capital
    · have back := form.snake
      rw [same, ((h'.camel_eq_or).resolve_left self').snake] at back
      exact (Option.some.inj back).symm

end IsFieldName

/-! ### Texts in lower case -/

theorem isUpper_of_mem_snakeFrom {first : Bool} (h : c ∈ snakeFrom first s) : c.isUpper = false := by
  induction s generalizing first with
  | nil => cases h
  | cons l s ih =>
    rw [snakeFrom] at h
    rcases List.mem_append.mp h with here | below
    · cases upper : isUppercase l with
      | false =>
        rw [upper, if_neg Bool.false_ne_true, List.mem_singleton] at here
        rw [here]
        exact isUpper_of_not_isUppercase upper
      | true =>
        rw [upper, if_pos rfl] at here
        rcases List.mem_append.mp here with mark | small
        · split at mark
          · cases mark
          · rw [List.mem_singleton.mp mark]
            rfl
        · exact isUpper_of_mem_lowerChar small
    · exact ih below

theorem holdsNoCapital_of_snake? (h : snake? key = some snake) : HoldsNoCapital snake := by
  unfold snake? at h
  split at h
  · obtain rfl := Option.some.inj h
    intro c mem
    rw [String.toList_ofList] at mem
    exact isUpper_of_mem_snakeFrom mem
  · cases h

end ContentQuery.CaseStyle
