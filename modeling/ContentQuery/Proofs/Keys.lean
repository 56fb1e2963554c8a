import ContentQuery.Bindings.Record
import Mathlib.Data.List.Induction

/-!
# Keys before aliases

What the map of a record holds under each name, whatever keys its fields have. A key is put into the map
whether it is free or not, and an alias only if it is free, so that a key drives out an alias that came before
it and is left alone by one that comes after it. Among equal keys the last counts, and among equal aliases the
first.
-/

namespace ContentQuery

open CaseStyle

namespace Record

variable {fs : List Field} {declared : List Declared}

/-! ### One field -/

theorem get?_add (d : Dictionary Value) (f : Field) (key : String) : (add d f).get? key =
    if f.key = key then some f.value
    else if camel f.key = key then some ((d.get? key).getD f.value) else d.get? key := by
  rw [add, Dictionary.get?_insert]
  by_cases own : f.key = key
  · rw [if_pos own, if_pos own]
  · rw [if_neg own, if_neg own]
    by_cases self : camel f.key = f.key
    · rw [if_pos self, self, if_neg own]
    · rw [if_neg self, Dictionary.get?_insertNew]
      split
      · rename_i form
        rw [form]
      · rfl

/-! ### All fields -/

/-- Whatever the order of the fields is, a name leads to the last field with that key, or else to the first one
with that alias. -/
theorem get?_dictionary (fs : List Field) (key : String) : (dictionary fs).get? key =
    ((fs.reverse.find? (·.key == key)).or (fs.find? (camel ·.key == key))).map Field.value := by
  -- From the right end, where the dictionary grows: the last field is the first among the keys and the last among
  -- the aliases.
  induction fs using List.reverseRecOn with
  | nil => rfl
  | append_singleton fs f ih =>
    rw [dictionary_append_singleton, get?_add, ih, List.reverse_append, List.reverse_singleton,
      List.singleton_append, List.find?_cons, List.find?_append, List.find?_singleton]
    by_cases own : f.key = key
    · rw [if_pos own, beq_iff_eq.mpr own]
      rfl
    · rw [if_neg own, beq_eq_false_iff_ne.mpr own]
      by_cases form : camel f.key = key
      · rw [if_pos form, if_pos (beq_iff_eq.mpr form)]
        cases fs.reverse.find? (·.key == key) with
        | some g => rfl
        | none =>
          cases fs.find? (camel ·.key == key) with
          | some g => rfl
          | none => rfl
      · rw [if_neg form, if_neg (by rwa [beq_iff_eq]), Option.or_none]

/-! ### Declared fields -/

/-- The field that comes of a declared one: none, if it is ignored or its attributes cannot be read. -/
def Declared.field? (d : Declared) : Option Field :=
  match FieldPlan.make d.identifier d.attributes with
  | .ok plan => if plan.ignored then none else some ⟨plan.key, d.value⟩
  | .error _ => none

theorem fields_eq_filterMap
    (readable : ∀ d ∈ declared, ∃ plan, FieldPlan.make d.identifier d.attributes = .ok plan) :
    fields declared = .ok (declared.filterMap Declared.field?) := by
  induction declared with
  | nil => rfl
  | cons d rest ih =>
    obtain ⟨⟨plan, read⟩, later⟩ := List.forall_mem_cons.mp readable
    rw [fields, read, ih later]
    change Except.ok (if plan.ignored then _ else _) = _
    cases ignored : plan.ignored with
    | true =>
      have gone : d.field? = none := by simp [Declared.field?, read, ignored]
      rw [List.filterMap_cons_none gone]
      rfl
    | false =>
      have kept : d.field? = some ⟨plan.key, d.value⟩ := by simp [Declared.field?, read, ignored]
      rw [List.filterMap_cons_some kept]
      rfl

/-- A record holds under a name what the last of its fields with that key holds. If there is none, it holds what
the first field with that alias holds, and if there is none of these either, it holds nothing. Fields that are
ignored do not count. -/
theorem bind_keys_first
    (readable : ∀ d ∈ declared, ∃ plan, FieldPlan.make d.identifier d.attributes = .ok plan) :
    ∃ entries, Record.bind declared = .ok (.map entries) ∧ (entries.map Prod.fst).Nodup ∧
      ∀ key, Table.get? entries key =
        let fs := declared.filterMap Declared.field?
        ((fs.reverse.find? (·.key == key)).or (fs.find? (camel ·.key == key))).map Field.value := by
  let held := dictionary (declared.filterMap Declared.field?)
  refine ⟨held.entries, ?_, held.distinct, get?_dictionary _⟩
  rw [Record.bind, fields_eq_filterMap readable]
  rfl

/-- Two fields have one alias, another alias is the key of a later field, and a field with that key is ignored. -/
theorem bind_keys_first_clashes :
    let declared : List Declared := [
      { identifier := "a_b", value := .str "1" },
      { identifier := "a__b", value := .str "2" },
      { identifier := "first_name", value := .str "Ada" },
      { identifier := "name", attributes := [.key "firstName"], value := .str "Bob" },
      { identifier := "firstName", attributes := [.items [{ word := "ignore" }]], value := .str "Cy" }]
    (∀ d ∈ declared, ∃ plan, FieldPlan.make d.identifier d.attributes = .ok plan) ∧
      ∃ entries, Record.bind declared = .ok (.map entries) ∧
        Table.get? entries "aB" = some (.str "1") ∧ Table.get? entries "firstName" = some (.str "Bob") ∧
          Table.get? entries "name" = none := by
  intro declared
  have readable : ∀ d ∈ declared, ∃ plan, FieldPlan.make d.identifier d.attributes = .ok plan := by
    simp only [declared, List.forall_mem_cons]
    exact ⟨⟨_, rfl⟩, ⟨_, rfl⟩, ⟨_, rfl⟩, ⟨_, rfl⟩, ⟨_, rfl⟩, by simp⟩
  obtain ⟨entries, bound, -, holds⟩ := bind_keys_first readable
  refine ⟨readable, entries, bound, ?_, ?_, ?_⟩
  · rw [holds]
    rfl
  · rw [holds]
    rfl
  · rw [holds]
    rfl

end Record

end ContentQuery
