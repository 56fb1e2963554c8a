import ContentQuery.Bindings.Basic
import ContentQuery.Bindings.Record
import ContentQuery.Proofs.FieldNames
import Mathlib.Data.List.Induction

/-!
# Aliases of fields

The map that a record is bound as has two entries for a field whose name has several words. The second adds
nothing that a lookup would not find without it, because the lookup itself goes from a name with capitals to
the name of the field.
-/

namespace ContentQuery

open CaseStyle

/-! ### Values without aliases -/

namespace CaseStyle

/-- The key is the form with capitals of another one. -/
def isAlias (keys : List String) (key : String) : Bool :=
  keys.any fun k => k != key && camel k == key

theorem isAlias_iff {keys : List String} {key : String} :
    isAlias keys key = true ↔ ∃ k ∈ keys, k ≠ key ∧ camel k = key := by
  simp [isAlias]

end CaseStyle

namespace Value

/-- Neither a list nor a map. -/
def isScalar : Value → Bool
  | list _ | map _ => false
  | _ => true

mutual

/-- The value without the entries of its maps, at any depth, whose keys are forms of other keys there. -/
def unaliased : Value → Value
  | list items => list (unaliasedAll items)
  | map entries => map (unaliasedEntries (entries.map Prod.fst) entries)
  | v => v

def unaliasedAll : List Value → List Value
  | [] => []
  | v :: rest => unaliased v :: unaliasedAll rest

def unaliasedEntries (keys : List String) : List (String × Value) → List (String × Value)
  | [] => []
  | (key, v) :: rest =>
    if isAlias keys key then unaliasedEntries keys rest
    else (key, unaliased v) :: unaliasedEntries keys rest

end

theorem unaliasedAll_eq_map (items : List Value) : unaliasedAll items = items.map unaliased := by
  induction items with
  | nil => rfl
  | cons v rest ih => rw [unaliasedAll, ih, List.map_cons]

theorem unaliased_of_isScalar {v : Value} (h : v.isScalar = true) : v.unaliased = v := by
  cases v with
  | list | map => cases h
  | _ => rfl

end Value

/-! ### Tables of fields -/

/-- Whether a variable of that name finds the field, in the map that its record is bound as. -/
def Field.answersTo (f : Field) (key : String) : Bool :=
  f.key == key || camel f.key == key

/-- The entries of a field whose key and alias are both free. -/
def Field.entries (f : Field) : Table Value :=
  if camel f.key = f.key then [(f.key, f.value)] else [(camel f.key, f.value), (f.key, f.value)]

namespace Record

variable {fs : List Field} {f g : Field} {key : String}

/-- Fields with different names. -/
structure Plain (fs : List Field) : Prop where
  names : ∀ f ∈ fs, IsFieldName f.key
  distinct : (fs.map Field.key).Nodup

theorem get?_entries (f : Field) (key : String) :
    f.entries.get? key = if f.answersTo key then some f.value else none := by
  unfold Field.entries Field.answersTo
  by_cases self : camel f.key = f.key
  · rw [if_pos self, self]
    by_cases here : f.key = key <;> simp [Table.get?, here]
  · rw [if_neg self]
    by_cases form : camel f.key = key <;> by_cases here : f.key = key <;> simp [Table.get?, form, here]

theorem get?_flatMap_entries (fs : List Field) (key : String) :
    Table.get? (fs.flatMap Field.entries) key = (fs.find? (·.answersTo key)).map Field.value := by
  induction fs with
  | nil => rfl
  | cons f fs ih =>
    rw [List.flatMap_cons, Table.get?_append, get?_entries, ih, List.find?_cons]
    cases f.answersTo key <;> rfl

/-- A field whose key and alias are both free adds its entries behind the others. -/
theorem entries_add {d : Dictionary Value} (freeKey : d.get? f.key = none)
    (freeAlias : camel f.key ≠ f.key → d.get? (camel f.key) = none) :
    (add d f).entries = d.entries ++ f.entries := by
  rw [add, Field.entries]
  by_cases self : camel f.key = f.key
  · rw [if_pos self, if_pos self, Dictionary.entries_insert freeKey]
  · have free := freeAlias self
    have stillFree : (d.insert (camel f.key) f.value).get? f.key = none := by
      rw [Dictionary.get?_insert, if_neg self, freeKey]
    rw [if_neg self, if_neg self, Dictionary.insertNew_eq free, Dictionary.entries_insert stillFree,
      Dictionary.entries_insert free, List.append_assoc]
    rfl

/-! ### Plain records -/

namespace Plain

/-- Nothing but its own key is found under the key of a field. -/
theorem answersTo_key (h : Plain fs) (mem : f ∈ fs) (among : g ∈ fs) :
    f.answersTo g.key = (f.key == g.key) := by
  unfold Field.answersTo
  by_cases self : camel f.key = f.key
  · rw [self, Bool.or_self]
  · have other : camel f.key ≠ g.key := (h.names f mem).camel_ne (h.names g among) self
    rw [beq_eq_false_iff_ne.mpr other, Bool.or_false]

/-- Nothing but its own key is found under the alias of a field. -/
theorem answersTo_alias (h : Plain fs) (mem : f ∈ fs) (among : g ∈ fs) (differs : camel g.key ≠ g.key) :
    f.answersTo (camel g.key) = (f.key == g.key) := by
  have noKey : f.key ≠ camel g.key := ((h.names g among).camel_ne (h.names f mem) differs).symm
  have one : camel f.key = camel g.key ↔ f.key = g.key :=
    ⟨(h.names f mem).eq_of_camel_eq (h.names g among), fun same => by rw [same]⟩
  rw [Field.answersTo, beq_eq_false_iff_ne.mpr noKey, Bool.false_or, Bool.eq_iff_iff, beq_iff_eq,
    beq_iff_eq, one]

/-- Nothing but a key is found under a name that holds no capitals. -/
theorem answersTo_of_holdsNoCapital (h : Plain fs) (mem : f ∈ fs) (none : HoldsNoCapital key) :
    f.answersTo key = (f.key == key) := by
  unfold Field.answersTo
  rcases (h.names f mem).camel_eq_or with self | form
  · rw [self, Bool.or_self]
  · have other : camel f.key ≠ key := fun same => form.capital (same ▸ none)
    rw [beq_eq_false_iff_ne.mpr other, Bool.or_false]

theorem init (h : Plain (fs ++ [f])) : Plain fs := by
  refine ⟨fun g mem => h.names g (List.mem_append_left _ mem), ?_⟩
  have distinct := h.distinct
  rw [List.map_append] at distinct
  exact (List.nodup_append.mp distinct).1

theorem ne_last (h : Plain (fs ++ [f])) (mem : g ∈ fs) : (g.key == f.key) = false := by
  have distinct := h.distinct
  rw [List.map_append, List.nodup_append] at distinct
  exact beq_eq_false_iff_ne.mpr
    (distinct.2.2 g.key (List.mem_map_of_mem mem) f.key (by simp))

/-- Every field finds its key and its alias free. -/
theorem entries_dictionary (h : Plain fs) : (dictionary fs).entries = fs.flatMap Field.entries := by
  induction fs using List.reverseRecOn with
  | nil => rfl
  | append_singleton fs f ih =>
    have last : f ∈ fs ++ [f] := by simp
    have before (key : String) :
        (dictionary fs).get? key = (fs.find? (·.answersTo key)).map Field.value := by
      rw [Dictionary.get?, ih h.init, get?_flatMap_entries]
    have freeKey : (dictionary fs).get? f.key = none := by
      rw [before, Option.map_eq_none_iff, List.find?_eq_none]
      intro g mem
      rw [h.answersTo_key (List.mem_append_left _ mem) last, h.ne_last mem]
      exact Bool.false_ne_true
    have freeAlias (differs : camel f.key ≠ f.key) : (dictionary fs).get? (camel f.key) = none := by
      rw [before, Option.map_eq_none_iff, List.find?_eq_none]
      intro g mem
      rw [h.answersTo_alias (List.mem_append_left _ mem) last differs, h.ne_last mem]
      exact Bool.false_ne_true
    rw [dictionary_append_singleton, entries_add freeKey freeAlias, ih h.init, List.flatMap_append,
      List.flatMap_singleton]

theorem get?_dictionary_eq_find? (h : Plain fs) (key : String) :
    (dictionary fs).get? key = (fs.find? (·.answersTo key)).map Field.value := by
  rw [Dictionary.get?, h.entries_dictionary, get?_flatMap_entries]

end Plain

/-- The value of the field of that name. -/
def valueAt? (fs : List Field) (key : String) : Option Value :=
  (fs.find? (·.key == key)).map Field.value

theorem mem_of_valueAt? {v : Value} (h : valueAt? fs key = some v) : ∃ f ∈ fs, f.key = key ∧ f.value = v := by
  obtain ⟨f, found, holds⟩ := Option.map_eq_some_iff.mp h
  have named := List.find?_some (p := fun f : Field => f.key == key) found
  exact ⟨f, List.mem_of_find?_eq_some found, beq_iff_eq.mp named, holds⟩

theorem ne_of_valueAt?_eq_none (h : valueAt? fs key = none) (mem : f ∈ fs) : f.key ≠ key := by
  rw [valueAt?, Option.map_eq_none_iff, List.find?_eq_none] at h
  exact fun same => h f mem (beq_iff_eq.mpr same)

namespace Plain

theorem get?_dictionary_eq (h : Plain fs) {other : String}
    (same : ∀ f ∈ fs, f.answersTo key = (f.key == other)) :
    (dictionary fs).get? key = valueAt? fs other := by
  have found : fs.find? (·.answersTo key) = fs.find? (·.key == other) := by
    clear h
    induction fs with
    | nil => rfl
    | cons f fs ih =>
      rw [List.find?_cons, List.find?_cons, same f (by simp), ih fun g mem => same g (by simp [mem])]
  rw [h.get?_dictionary_eq_find?, found, valueAt?]

/-- A map with aliases and one without answer alike: whoever asks for an alias is led to the key. -/
theorem member?_value (h : Plain fs) (key : String) :
    (value fs).member? key = (valueAt? fs key).or ((snake? key).bind (valueAt? fs)) := by
  show ((dictionary fs).get? key).or ((snake? key).bind (dictionary fs).get?) = _
  cases at? : valueAt? fs key with
  | some v =>
    obtain ⟨g, among, rfl, -⟩ := mem_of_valueAt? at?
    rw [h.get?_dictionary_eq fun f mem => h.answersTo_key mem among, at?]
    rfl
  | none =>
    rw [Option.none_or]
    by_cases aliased : ∃ g ∈ fs, camel g.key = key
    · obtain ⟨g, among, rfl⟩ := aliased
      have differs : camel g.key ≠ g.key := (ne_of_valueAt?_eq_none at? among).symm
      have form := ((h.names g among).camel_eq_or).resolve_left differs
      rw [h.get?_dictionary_eq fun f mem => h.answersTo_alias mem among differs, form.snake, Option.bind_some,
        Option.bind_some]
      cases back : valueAt? fs g.key with
      | some v => rfl
      | none => exact absurd rfl (ne_of_valueAt?_eq_none back among)
    · have nothing : (dictionary fs).get? key = none := by
        rw [h.get?_dictionary_eq_find?, Option.map_eq_none_iff, List.find?_eq_none]
        intro f mem answers
        rw [Field.answersTo, Bool.or_eq_true, beq_iff_eq, beq_iff_eq] at answers
        rcases answers with here | there
        · exact ne_of_valueAt?_eq_none at? mem here
        · exact aliased ⟨f, mem, there⟩
      rw [nothing, Option.none_or]
      cases snake : snake? key with
      | none => rfl
      | some s =>
        have none := holdsNoCapital_of_snake? snake
        exact h.get?_dictionary_eq fun f mem => h.answersTo_of_holdsNoCapital mem none

/-! ### Records without aliases -/

theorem isAlias_key (h : Plain fs) (mem : f ∈ fs) :
    isAlias ((fs.flatMap Field.entries).map Prod.fst) f.key = false := by
  rw [← Bool.not_eq_true, isAlias_iff]
  rintro ⟨k, isKey, ne, form⟩
  obtain ⟨e, isEntry, rfl⟩ := List.mem_map.mp isKey
  obtain ⟨g, among, entry⟩ := List.mem_flatMap.mp isEntry
  have name := h.names g among
  by_cases self : camel g.key = g.key
  · rw [Field.entries, if_pos self, List.mem_singleton] at entry
    rw [entry] at ne form
    exact ne (self.symm.trans form)
  · rw [Field.entries, if_neg self] at entry
    rcases List.mem_cons.mp entry with here | there
    · rw [here, name.camel_camel] at form
      exact name.camel_ne (h.names f mem) self form
    · rw [List.mem_singleton.mp there] at form
      exact name.camel_ne (h.names f mem) self form

theorem isAlias_camel (mem : f ∈ fs) (differs : camel f.key ≠ f.key) :
    isAlias ((fs.flatMap Field.entries).map Prod.fst) (camel f.key) = true := by
  refine isAlias_iff.mpr ⟨f.key, ?_, Ne.symm differs, rfl⟩
  refine List.mem_map_of_mem (a := (f.key, f.value)) (List.mem_flatMap.mpr ⟨f, mem, ?_⟩)
  rw [Field.entries, if_neg differs]
  simp

theorem unaliased_value (h : Plain fs) :
    (value fs).unaliased = .map (fs.map fun f => (f.key, f.value.unaliased)) := by
  have entries (keys : List String) (gs : List Field) (key : ∀ g ∈ gs, isAlias keys g.key = false)
      (form : ∀ g ∈ gs, camel g.key ≠ g.key → isAlias keys (camel g.key) = true) :
      Value.unaliasedEntries keys (gs.flatMap Field.entries) =
        gs.map fun g => (g.key, g.value.unaliased) := by
    induction gs with
    | nil => rfl
    | cons g gs ih =>
      obtain ⟨ownKey, key⟩ := List.forall_mem_cons.mp key
      obtain ⟨ownForm, form⟩ := List.forall_mem_cons.mp form
      rw [List.flatMap_cons, List.map_cons, ← ih key form, Field.entries]
      by_cases self : camel g.key = g.key
      · simp [self, Value.unaliasedEntries, ownKey]
      · simp [self, Value.unaliasedEntries, ownKey, ownForm self]
  rw [value, h.entries_dictionary, Value.unaliased,
    entries _ fs (fun f => h.isAlias_key) fun f mem => isAlias_camel mem]

theorem member?_unaliased (h : Plain fs) (key : String) :
    ((value fs).member? key).map Value.unaliased = (value fs).unaliased.member? key := by
  have get? (key : String) : Table.get? (fs.map fun f => (f.key, f.value.unaliased)) key =
      (valueAt? fs key).map Value.unaliased := by
    rw [Table.get?_map (f := Field.key) (g := fun f => f.value.unaliased), valueAt?, Option.map_map]
    rfl
  rw [h.member?_value, h.unaliased_value, Value.member?, get?, Option.map_or, Option.map_bind]
  congr 2
  funext s
  exact (get? s).symm

end Plain

end Record

end ContentQuery
