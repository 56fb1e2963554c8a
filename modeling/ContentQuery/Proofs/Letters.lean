import ContentQuery.Text.CaseMap
import ContentQuery.Text.Uppercase
import Mathlib

/-!
# Letters

Capital and small ASCII letters, and what the case mappings make of them.
-/

namespace ContentQuery.Text

variable {c l : Char}

/-- What holds of every code point of a range holds of its characters. -/
theorem of_range {P : Char → Prop} {first count : Nat} (h : ∀ n ∈ List.range' first count, P (Char.ofNat n))
    (above : first ≤ c.toNat) (below : c.toNat < first + count) : P c := by
  have holds := h c.toNat (List.mem_range'_1.mpr ⟨above, below⟩)
  rwa [Char.ofNat_toNat] at holds

theorem of_isLower {P : Char → Prop} (h : ∀ n ∈ List.range' 97 26, P (Char.ofNat n))
    (small : c.isLower = true) : P c := by
  simp only [Char.isLower, Bool.and_eq_true, decide_eq_true_eq, ge_iff_le] at small
  have above : 97 ≤ c.toNat := small.1
  have below : c.toNat ≤ 122 := small.2
  exact of_range h above (by omega)

theorem of_isDigit {P : Char → Prop} (h : ∀ n ∈ List.range' 48 10, P (Char.ofNat n))
    (digit : c.isDigit = true) : P c := by
  simp only [Char.isDigit, Bool.and_eq_true, decide_eq_true_eq, ge_iff_le] at digit
  have above : 48 ≤ c.toNat := digit.1
  have below : c.toNat ≤ 57 := digit.2
  exact of_range h above (by omega)

/-! ### Small letters and their capitals -/

theorem upperChar_of_isLower (h : c.isLower = true) : upperChar c = [c.toUpper] :=
  of_isLower (P := fun c => upperChar c = [c.toUpper]) (by decide) h

theorem lowerChar_toUpper (h : c.isLower = true) : lowerChar c.toUpper = [c] :=
  of_isLower (P := fun c => lowerChar c.toUpper = [c]) (by decide) h

theorem isUppercase_toUpper (h : c.isLower = true) : isUppercase c.toUpper = true :=
  of_isLower (P := fun c => isUppercase c.toUpper = true) (by decide) h

theorem isUpper_toUpper (h : c.isLower = true) : c.toUpper.isUpper = true := by
  rw [Char.isUpper_toUpper_eq_isAlpha, Char.isAlpha, h, Bool.or_true]

/-! ### Texts in lower case -/

theorem isUpper_iff : c.isUpper = true ↔ 65 ≤ c.toNat ∧ c.toNat ≤ 90 := by
  rw [Char.isUpper, decide_eq_true_eq]
  exact Iff.rfl

theorem isUpper_eq_false (h : 90 < c.toNat) : c.isUpper = false := by
  rw [← Bool.not_eq_true, isUpper_iff]
  omega

theorem isUpper_ofNat {n : Nat} (h : 90 < n) : (Char.ofNat n).isUpper = false := by
  unfold Char.ofNat
  split
  · exact isUpper_eq_false h
  · rfl

theorem isUpper_of_not_isUppercase (h : isUppercase c = false) : c.isUpper = false := by
  unfold isUppercase at h
  split at h
  · exact h
  · rename_i beyond
    rw [isAscii, decide_eq_true_eq] at beyond
    exact isUpper_eq_false (by omega)

/-- No letter beyond ASCII has an ASCII capital as its small letter. -/
theorem lt_of_mem_mapCase {n m : Nat} (beyond : 90 < n) (h : m ∈ mapCase lowerRuns lowerExpansions n) :
    90 < m := by
  have images : ∀ r ∈ lowerRuns, 90 < r.image := by decide +kernel
  have expansions : ∀ e ∈ lowerExpansions, ∀ m ∈ e.2, 90 < m := by decide
  unfold mapCase at h
  cases found : lowerRuns.findSome? (·.map? n) with
  | some image =>
    rw [found, List.mem_singleton] at h
    obtain ⟨r, among, mapped⟩ := List.exists_of_findSome?_eq_some found
    have above := images r among
    unfold CaseRun.map? at mapped
    split at mapped
    · have shifted := Option.some.inj mapped
      omega
    · cases mapped
  | none =>
    rw [found] at h
    cases entry : lowerExpansions.lookup n with
    | none =>
      rw [entry, Option.getD_none, List.mem_singleton] at h
      omega
    | some several =>
      obtain ⟨front, behind, split, -⟩ := List.lookup_eq_some_iff.mp entry
      rw [entry] at h
      exact expansions (n, several) (by rw [split]; simp) m h

theorem isUpper_of_mem_lowerChar (h : l ∈ lowerChar c) : l.isUpper = false := by
  unfold lowerChar at h
  split at h
  · rw [List.mem_singleton.mp h]
    exact c.isUpper_toLower_eq_false
  · rename_i beyond
    rw [isAscii, decide_eq_true_eq] at beyond
    obtain ⟨m, mem, rfl⟩ := List.mem_map.mp h
    exact isUpper_ofNat (lt_of_mem_mapCase (by omega) mem)

end ContentQuery.Text
