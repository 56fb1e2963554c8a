/-!
# Parts of a text

A text cut at every occurrence of a separator. There is always at least one part.
-/

namespace ContentQuery.Text

def splitOn (sep : Char) : List Char → List (List Char)
  | [] => [[]]
  | c :: rest =>
    if c = sep then [] :: splitOn sep rest
    else
      match splitOn sep rest with
      | [] => [[c]]
      | part :: parts => (c :: part) :: parts

/-- The text before the first separator and the text after it. -/
def splitOnce (sep : Char) : List Char → Option (List Char × List Char)
  | [] => none
  | c :: rest =>
    if c = sep then some ([], rest)
    else (splitOnce sep rest).map fun (head, tail) => (c :: head, tail)

variable {sep : Char} {s w part : List Char}

theorem splitOn_eq (sep : Char) (s : List Char) : splitOn sep s = s.splitOn sep := by
  induction s with
  | nil => exact (List.splitOn_nil sep).symm
  | cons c rest ih =>
    rw [List.splitOn_eq_splitOnP] at ih
    rw [splitOn, ih, List.splitOn_eq_splitOnP, List.splitOnP_cons_eq_if_modifyHead]
    by_cases here : c = sep
    · rw [if_pos here, if_pos (beq_iff_eq.mpr here)]
    · rw [if_neg here, if_neg (by rwa [beq_iff_eq])]
      obtain ⟨part, parts, some⟩ := List.exists_cons_of_ne_nil (List.splitOnP_ne_nil (· == sep) rest)
      rw [some]
      rfl

theorem splitOn_append (h : sep ∉ w) (s : List Char) :
    splitOn sep (w ++ sep :: s) = w :: splitOn sep s := by
  induction w with
  | nil => rw [List.nil_append, splitOn, if_pos rfl]
  | cons c w ih =>
    obtain ⟨other, absent⟩ := List.ne_and_not_mem_of_not_mem_cons h
    rw [List.cons_append, splitOn, if_neg (Ne.symm other), ih absent]

theorem splitOn_of_not_mem (h : sep ∉ w) : splitOn sep w = [w] := by
  induction w with
  | nil => rfl
  | cons c w ih =>
    obtain ⟨other, absent⟩ := List.ne_and_not_mem_of_not_mem_cons h
    rw [splitOn, if_neg (Ne.symm other), ih absent]

theorem not_mem_of_mem_splitOn (h : part ∈ splitOn sep s) : sep ∉ part := by
  induction s generalizing part with
  | nil =>
    rw [List.mem_singleton.mp h]
    exact List.not_mem_nil
  | cons c rest ih =>
    rw [splitOn] at h
    split at h
    · rcases List.mem_cons.mp h with rfl | later
      · exact List.not_mem_nil
      · exact ih later
    · rename_i other
      cases parts : splitOn sep rest with
      | nil =>
        rw [parts, List.mem_singleton] at h
        rw [h, List.mem_singleton]
        exact Ne.symm other
      | cons first others =>
        rw [parts] at h ih
        rcases List.mem_cons.mp h with rfl | later
        · rw [List.mem_cons, not_or]
          exact ⟨Ne.symm other, ih List.mem_cons_self⟩
        · exact ih (List.mem_cons_of_mem first later)

theorem splitOnce_append (h : sep ∉ w) (s : List Char) : splitOnce sep (w ++ sep :: s) = some (w, s) := by
  induction w with
  | nil => rw [List.nil_append, splitOnce, if_pos rfl]
  | cons c w ih =>
    obtain ⟨other, absent⟩ := List.ne_and_not_mem_of_not_mem_cons h
    rw [List.cons_append, splitOnce, if_neg (Ne.symm other), ih absent]
    rfl

theorem splitOnce_eq_none (h : sep ∉ s) : splitOnce sep s = none := by
  induction s with
  | nil => rfl
  | cons c rest ih =>
    obtain ⟨other, absent⟩ := List.ne_and_not_mem_of_not_mem_cons h
    rw [splitOnce, if_neg (Ne.symm other), ih absent]
    rfl

/-- Equality of texts in which the case of ASCII letters does not count. -/
def sameIgnoringCase (s t : String) : Bool :=
  s.toList.map Char.toLower == t.toList.map Char.toLower

end ContentQuery.Text
