import ContentQuery.Proofs.Integers

/-!
# Dates and times among values

A value has a date if it has a date and time, and its date is that of its date and time. A text is read as
one or the other and never as both, so it makes no difference which is tried first.
-/

namespace ContentQuery

namespace Calendar

variable {s rest : List Char} {least most n : Nat} {dt : DateTime}

/-! ### Numbers of a fixed length -/

/-- A number that needs all its digits is read alike where fewer would do. -/
theorem number_of_exact (h : number most most s = some (n, rest)) (le : least ≤ most) :
    number least most s = some (n, rest) := by
  unfold number at h ⊢
  dsimp only at h ⊢
  split at h
  · cases h
  · rename_i enough
    rw [if_neg (Nat.not_lt.mpr (le.trans (Nat.not_lt.mp enough)))]
    exact h

theorem head_of_number (pos : 0 < least) (h : number least most s = some (n, rest)) :
    ∃ c more, s = c :: more ∧ c.isDigit = true := by
  unfold number at h
  dsimp only at h
  split at h
  · cases h
  · rename_i enough
    cases s with
    | nil => simp [pos] at enough
    | cons c more =>
      refine ⟨c, more, rfl, ?_⟩
      cases most with
      | zero => simp [pos] at enough
      | succ most =>
        rw [List.take_succ_cons, List.takeWhile_cons] at enough
        by_contra other
        rw [if_neg other] at enough
        exact enough pos

theorem skipBlanks_of_number (pos : 0 < least) (h : number least most s = some (n, rest)) :
    skipBlanks s = s := by
  obtain ⟨c, more, rfl, digit⟩ := head_of_number pos h
  exact List.dropWhile_cons_of_neg (by simp [Text.isBlankChar_of_isDigit digit])

theorem looseYear_of_number (h : number 4 4 s = some (n, rest)) : looseYear s = some ((n : Int), rest) := by
  obtain ⟨c, more, rfl, digit⟩ := head_of_number (by decide) h
  unfold looseYear
  rw [skipBlanks_of_number (by decide) h]
  split
  case h_1 same =>
    obtain ⟨rfl, -⟩ := List.cons.inj same
    cases digit
  case h_2 same =>
    obtain ⟨rfl, -⟩ := List.cons.inj same
    cases digit
  case h_3 => rw [number_of_exact h (by decide), Option.map_some]

theorem looseNumber_of_number (h : number 2 2 s = some (n, rest)) : looseNumber s = some (n, rest) := by
  rw [looseNumber, skipBlanks_of_number (by decide) h, number_of_exact h (by decide)]

/-! ### Texts of dates and of times -/

theorem ne_nil_of_after {marks : List Char} (h : after marks s = some rest) : s ≠ [] := by
  rintro rfl
  cases h

/-- The interchange form begins with a date in the looser form, and goes on behind it. -/
theorem looseDate_of_interchange? (h : interchange? s = some dt) :
    ∃ date rest, looseDate s = some (date, rest) ∧ rest ≠ [] := by
  unfold interchange? at h
  obtain ⟨⟨year, s₁⟩, readYear, h⟩ := Option.bind_eq_some_iff.mp h
  obtain ⟨s₂, hyphen, h⟩ := Option.bind_eq_some_iff.mp h
  obtain ⟨⟨month, s₃⟩, readMonth, h⟩ := Option.bind_eq_some_iff.mp h
  obtain ⟨s₄, hyphen', h⟩ := Option.bind_eq_some_iff.mp h
  obtain ⟨⟨day, s₅⟩, readDay, h⟩ := Option.bind_eq_some_iff.mp h
  obtain ⟨s₆, mark, h⟩ := Option.bind_eq_some_iff.mp h
  -- Behind the mark stand three numbers, two colons, a fraction and an offset, and then nothing.
  iterate 8 obtain ⟨_, -, h⟩ := Option.bind_eq_some_iff.mp h
  obtain ⟨date, made, -⟩ := Option.bind_eq_some_iff.mp h
  refine ⟨date, s₅, ?_, ne_nil_of_after mark⟩
  simp [looseDate, looseYear_of_number readYear, hyphen, looseNumber_of_number readMonth, hyphen',
    looseNumber_of_number readDay, made]

theorem looseTime_nil : looseTime [] = none :=
  rfl

/-- A date and time in a looser form goes on behind the date, if a time has to follow its mark. -/
theorem looseDate_of_looseDateTime? {mark : List Char → Option (List Char)}
    (marks : ∀ rest, mark [] = some rest → rest = []) (h : looseDateTime? mark s = some dt) :
    ∃ date rest, looseDate s = some (date, rest) ∧ rest ≠ [] := by
  simp only [looseDateTime?, Option.bind_eq_bind, Option.bind_eq_some_iff, Prod.exists] at h
  obtain ⟨date, s₁, readDate, s₂, marked, time, s₃, readTime, -⟩ := h
  refine ⟨date, s₁, readDate, ?_⟩
  rintro rfl
  rw [marks s₂ marked, looseTime_nil] at readTime
  cases readTime

end Calendar

/-- A text with a date and a time is no text of a date alone. -/
theorem Date.ofText?_of_dateTime {s : String} {dt : DateTime} (h : DateTime.ofText? s = some dt) :
    Date.ofText? s = none := by
  obtain ⟨date, rest, readDate, more⟩ :
      ∃ date rest, Calendar.looseDate s.toList = some (date, rest) ∧ rest ≠ [] := by
    simp only [DateTime.ofText?, Option.or_eq_some_iff] at h
    rcases h with interchange | ⟨-, joined | ⟨-, spaced⟩⟩
    · exact Calendar.looseDate_of_interchange? interchange
    · exact Calendar.looseDate_of_looseDateTime? (fun _ marked => absurd rfl (Calendar.ne_nil_of_after marked)) joined
    · refine Calendar.looseDate_of_looseDateTime? (fun rest nothing => ?_) spaced
      exact (Option.some.inj nothing).symm
  cases rest with
  | nil => exact absurd rfl more
  | cons c rest => simp [Date.ofText?, readDate]

namespace Value

variable {v : Value} {dt : DateTime} {d : Date}

theorem toDate?_of_toDateTime? (h : v.toDateTime? = some dt) : v.toDate? = some dt.date := by
  cases v with
  | date d | dateTime at' | dateTimeUtc at' =>
    cases h
    rfl
  | str s =>
    rw [toDateTime?, Option.or_eq_some_iff] at h
    rw [toDate?]
    rcases h with whole | ⟨noTime, alone⟩
    · rw [Date.ofText?_of_dateTime whole, whole]
      rfl
    · obtain ⟨d, read, rfl⟩ := Option.map_eq_some_iff.mp alone
      rw [read]
      rfl
  | _ => cases h

theorem toDate?_eq_none (h : v.toDateTime? = none) : v.toDate? = none := by
  cases v with
  | date | dateTime | dateTimeUtc => cases h
  | str s =>
    rw [toDateTime?, Option.or_eq_none_iff, Option.map_eq_none_iff] at h
    rw [toDate?, h.1, h.2]
    rfl
  | _ => rfl

/-- A value has a date if it has a date and time, and the date is that of the date and time. A text in the
interchange form has both in universal time, with its offset taken back. -/
theorem coerce_date_dateTime (leaf : v.isLeaf = true) :
    ((∃ w, v.coerce .date = .ok w) ↔ ∃ w, v.coerce .dateTime = .ok w) ∧
      (∀ w, v.coerce .dateTime = .ok w →
        ∃ dt, w = dateTime dt ∧ v.coerce .date = .ok (date dt.date)) ∧
      ∀ s dt, v = str s → Calendar.interchange? (Text.trimChars s.toList) = some dt →
        v.coerce .date = .ok (date dt.date) ∧ v.coerce .dateTime = .ok (dateTime dt) := by
  have both {dt : DateTime} (read : v.toDateTime? = some dt) :
      v.coerce .date = .ok (date dt.date) ∧ v.coerce .dateTime = .ok (dateTime dt) := by
    simp [coerce_of_isLeaf leaf, convert?, read, toDate?_of_toDateTime? read]
  refine ⟨?_, fun w coerced => ?_, ?_⟩
  · cases read : v.toDateTime? with
    | none => simp [coerce_of_isLeaf leaf, convert?, read, toDate?_eq_none read]
    | some dt => exact iff_of_true ⟨_, (both read).1⟩ ⟨_, (both read).2⟩
  · cases read : v.toDateTime? with
    | none => simp [coerce_of_isLeaf leaf, convert?, read] at coerced
    | some dt =>
      rw [(both read).2] at coerced
      exact ⟨dt, (Except.ok.inj coerced).symm, (both read).1⟩
  · rintro s dt rfl read
    refine both ?_
    rw [toDateTime?, DateTime.ofText?, Text.trim, String.toList_ofList, read]
    rfl

/-- An offset that takes the first hour of a year back into the year before. -/
theorem coerce_date_dateTime_offset :
    let s := " 2024-01-01T00:30:00.5+01:00 "
    let evening : DateTime := ⟨⟨2023, 12, 31, by decide⟩, ⟨23, 30, 0, 500000000, by decide⟩⟩
    (str s).coerce .dateTime = .ok (dateTime evening) ∧
      (str s).coerce .date = .ok (date ⟨2023, 12, 31, by decide⟩) := by
  intro s evening
  have read : Calendar.interchange? (Text.trimChars s.toList) = some evening := by decide +kernel
  obtain ⟨-, -, offset⟩ := coerce_date_dateTime (v := str s) rfl
  obtain ⟨asDate, asDateTime⟩ := offset s evening rfl read
  exact ⟨asDateTime, asDate⟩

end Value

end ContentQuery
