import ContentQuery.Bindings.Basic

/-!
# Paths of keys

A variable whose name has dots in it leads from map to map, one part of the name at a time. If no key holds a
dot, then the name as a whole is never a key, nor is its form with underscores, which has the same dots. So the
parts alone decide, and every value in a map of maps is found under the keys that lead to it.
-/

namespace ContentQuery

open CaseStyle

/-! ### Parts of a name -/

namespace Text

variable {sep : Char} {s : List Char} {parts : List (List Char)}

theorem splitOn_eq_iff : splitOn sep s = parts ↔
    parts ≠ [] ∧ (∀ part ∈ parts, sep ∉ part) ∧ [sep].intercalate parts = s := by
  constructor
  · rintro rfl
    refine ⟨?_, fun part mem => not_mem_of_mem_splitOn mem, ?_⟩
    · rw [splitOn_eq, List.splitOn_eq_splitOnP]
      exact List.splitOnP_ne_nil _ s
    · rw [splitOn_eq, List.intercalate_splitOn]
  · rintro ⟨some, apart, rfl⟩
    rw [splitOn_eq, List.splitOn_intercalate sep apart some]

theorem name_parts_eq_iff {name : String} {path : List String} :
    (splitOn '.' name.toList).map String.ofList = path ↔
      path ≠ [] ∧ (∀ key ∈ path, '.' ∉ key.toList) ∧ ".".intercalate path = name := by
  have lists : (splitOn '.' name.toList).map String.ofList = path ↔
      splitOn '.' name.toList = path.map String.toList := by
    constructor
    · rintro rfl
      simp [Function.comp_def]
    · intro same
      simp [same, Function.comp_def]
  rw [lists, splitOn_eq_iff, ← String.toList_inj, String.toList_intercalate]
  simp

end Text

namespace CaseStyle

theorem dot_mem_snakeFrom {s : List Char} (h : '.' ∈ s) (first : Bool) : '.' ∈ snakeFrom first s := by
  induction s generalizing first with
  | nil => cases h
  | cons c rest ih =>
    rw [snakeFrom, List.mem_append]
    rcases List.mem_cons.mp h with rfl | later
    · left
      have small : Text.isUppercase '.' = false := by decide
      rw [small]
      exact List.mem_singleton_self _
    · exact .inr (ih later false)

theorem dot_mem_of_snake? {key snake : String} (h : snake? key = some snake) (mem : '.' ∈ key.toList) :
    '.' ∈ snake.toList := by
  unfold snake? at h
  split at h
  · obtain rfl := Option.some.inj h
    rw [String.toList_ofList]
    exact dot_mem_snakeFrom mem true
  · cases h

end CaseStyle

/-! ### Steps and paths -/

namespace Value

/-- The value under a key of a map, as it is written. -/
def child? (v : Value) (key : String) : Option Value :=
  match v with
  | map entries => Table.get? entries key
  | _ => none

/-- The value at the end of a path of keys, as they are written. -/
def at? (v : Value) : List String → Option Value
  | [] => some v
  | key :: rest => (v.child? key).bind (at? · rest)

/-- A part of a name leads to the value under that key, or, if there is no such key, to the value under the
key's form with underscores. -/
inductive StepsTo (v : Value) (key : String) (w : Value) : Prop
  | exactly (h : v.child? key = some w)
  | converted {snake : String} (free : v.child? key = none) (form : snake? key = some snake)
      (h : v.child? snake = some w)

/-- The parts of a name lead to a value, one by one. -/
inductive LeadsTo : Value → List String → Value → Prop
  | here (v : Value) : LeadsTo v [] v
  | step {v w x : Value} {key : String} {path : List String} (first : v.StepsTo key w)
      (later : LeadsTo w path x) : LeadsTo v (key :: path) x

mutual

/-- No key of a map holds a dot, at any level of maps within maps. -/
def isUndotted : Value → Bool
  | map entries => areUndotted entries
  | _ => true

def areUndotted : List (String × Value) → Bool
  | [] => true
  | (key, v) :: rest => !key.toList.contains '.' && v.isUndotted && areUndotted rest

end

variable {v w x : Value} {entries : List (String × Value)} {key name : String} {path : List String}

theorem areUndotted_iff :
    areUndotted entries = true ↔ ∀ e ∈ entries, '.' ∉ e.1.toList ∧ e.2.isUndotted = true := by
  induction entries with
  | nil => simp [areUndotted]
  | cons e rest ih => simp [areUndotted, ih, and_assoc]

theorem undotted_of_child? (h : v.isUndotted = true) (found : v.child? key = some w) :
    '.' ∉ key.toList ∧ w.isUndotted = true := by
  cases v with
  | map entries => exact areUndotted_iff.mp h (key, w) (Table.mem_of_get? found)
  | _ => cases found

theorem undotted_of_at? (h : v.isUndotted = true) (found : v.at? path = some x) :
    ∀ key ∈ path, '.' ∉ key.toList := by
  induction path generalizing v with
  | nil => simp
  | cons key rest ih =>
    obtain ⟨w, first, later⟩ := Option.bind_eq_some_iff.mp found
    obtain ⟨noDot, below⟩ := undotted_of_child? h first
    exact List.forall_mem_cons.mpr ⟨noDot, ih below later⟩

theorem leadsTo_of_at? (found : v.at? path = some x) : v.LeadsTo path x := by
  induction path generalizing v with
  | nil =>
    obtain rfl := Option.some.inj found
    exact .here v
  | cons key rest ih =>
    obtain ⟨w, first, later⟩ := Option.bind_eq_some_iff.mp found
    exact .step (.exactly first) (ih later)

/-! ### Look-ups -/

theorem member?_eq (v : Value) (key : String) :
    v.member? key = (v.child? key).or ((snake? key).bind v.child?) := by
  cases v with
  | map entries => rfl
  | _ => cases snake? key <;> rfl

theorem member?_eq_some_iff : v.member? key = some w ↔ v.StepsTo key w := by
  rw [member?_eq, Option.or_eq_some_iff, Option.bind_eq_some_iff]
  constructor
  · rintro (here | ⟨free, snake, form, there⟩)
    · exact .exactly here
    · exact .converted free form there
  · rintro (here | ⟨free, form, there⟩)
    · exact .inl here
    · exact .inr ⟨free, _, form, there⟩

theorem follow?_eq_some_iff : v.follow? path = some x ↔ v.LeadsTo path x := by
  induction path generalizing v with
  | nil =>
    rw [follow?, Option.some_inj]
    constructor
    · rintro rfl
      exact .here v
    · rintro ⟨⟩
      rfl
  | cons key rest ih =>
    rw [follow?, Option.bind_eq_some_iff]
    constructor
    · rintro ⟨w, first, later⟩
      exact .step (member?_eq_some_iff.mp first) (ih.mp later)
    · rintro ⟨⟩
      rename_i w first later
      exact ⟨w, member?_eq_some_iff.mpr first, ih.mpr later⟩

/-- A name with a dot in it is no key, in whatever style it is written. -/
theorem member?_eq_none (undotted : v.isUndotted = true) (dot : '.' ∈ key.toList) : v.member? key = none := by
  rw [Option.eq_none_iff_forall_ne_some]
  intro w found
  rcases member?_eq_some_iff.mp found with here | ⟨-, form, there⟩
  · exact (undotted_of_child? undotted here).1 dot
  · exact (undotted_of_child? undotted there).1 (dot_mem_of_snake? form dot)

theorem lookup?_eq_follow? (undotted : v.isUndotted = true) (name : String) :
    v.lookup? name = v.follow? ((Text.splitOn '.' name.toList).map String.ofList) := by
  rw [lookup?]
  by_cases dot : '.' ∈ name.toList
  · obtain ⟨head, rest, parts, apart⟩ := List.eq_append_cons_of_mem dot
    rw [member?_eq_none undotted dot, parts, Text.splitOnce_append apart, Text.splitOn_append apart]
    rfl
  · rw [Text.splitOnce_eq_none dot, Text.splitOn_of_not_mem dot, Option.or_none, List.map_singleton,
      String.ofList_toList, follow?]
    cases v.member? name with
    | none => rfl
    | some w => rfl

/-- In a map of maps whose keys hold no dots, every value is bound under the keys that lead to it, joined by dots.
Whatever is bound under a name is what the parts of the name lead to, each by the key as it is written or, where
that is none, by its form with underscores. -/
theorem lookup?_along_paths (undotted : v.isUndotted = true) :
    (∀ path x, path ≠ [] → v.at? path = some x → Bindings.ofValue v (".".intercalate path) = some x) ∧
      ∀ name x, Bindings.ofValue v name = some x ↔
        ∃ path, path ≠ [] ∧ (∀ key ∈ path, '.' ∉ key.toList) ∧ ".".intercalate path = name ∧
          v.LeadsTo path x := by
  have bound (name : String) (x : Value) : Bindings.ofValue v name = some x ↔
      ∃ path, path ≠ [] ∧ (∀ key ∈ path, '.' ∉ key.toList) ∧ ".".intercalate path = name ∧
        v.LeadsTo path x := by
    rw [Bindings.ofValue, lookup?_eq_follow? undotted, follow?_eq_some_iff]
    constructor
    · intro leads
      obtain ⟨some, apart, joined⟩ := Text.name_parts_eq_iff.mp (rfl (a := (Text.splitOn '.' name.toList).map _))
      exact ⟨_, some, apart, joined, leads⟩
    · rintro ⟨path, some, apart, joined, leads⟩
      rwa [Text.name_parts_eq_iff.mpr ⟨some, apart, joined⟩]
  refine ⟨fun path x some found => ?_, bound⟩
  exact (bound _ x).mpr ⟨path, some, undotted_of_at? undotted found, rfl, leadsTo_of_at? found⟩

/-- Null under an empty key, and a part of a name that is no key before one that is a key in both styles. -/
theorem lookup?_along_paths_styles :
    let v : Value := map [("user", map [("", null), ("first_name", str "Ada"), ("firstName", str "Bob")])]
    v.isUndotted = true ∧ v.at? ["user", ""] = some null ∧ Bindings.ofValue v "user." = some null ∧
      v.LeadsTo ["User", "firstName"] (str "Bob") ∧
        Bindings.ofValue v "User.firstName" = some (str "Bob") := by
  intro v
  have undotted : v.isUndotted = true := by decide
  have leads : v.LeadsTo ["User", "firstName"] (str "Bob") :=
    .step (@StepsTo.converted _ _ _ "user" rfl (by decide) rfl) (.step (.exactly rfl) (.here _))
  obtain ⟨along, bound⟩ := lookup?_along_paths undotted
  refine ⟨undotted, rfl, along ["user", ""] null (by decide) rfl, leads, ?_⟩
  exact (bound _ _).mpr ⟨["User", "firstName"], by decide, by decide, by decide, leads⟩

end Value

end ContentQuery
