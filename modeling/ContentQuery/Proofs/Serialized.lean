import ContentQuery.Bindings.Bindable
import ContentQuery.Proofs.Records
import ContentQuery.Serial

/-!
# Records bound and serialized

A record becomes a map in two ways: it is bound, with an alias for every field of several words, or it is
serialized, without any. Both maps answer every lookup alike, and records inside records do, too.
-/

namespace ContentQuery

open CaseStyle

/-- A scalar that is bound and serialized as one value. -/
structure Scalar where
  value : Value
  serial : Serial
  agrees : serial.toValue = .ok value
  single : value.isScalar = true

/-- Data of scalars, optionals, lists and records. -/
inductive Datum where
  | scalar (s : Scalar)
  | absent
  | present (inner : Datum)
  | list (items : List Datum)
  /-- Fields by their identifiers. -/
  | record (fields : List (String × Datum))

def fieldKey (identifier : String) : String :=
  (FieldPlan.ofIdentifier identifier).key

namespace Datum

variable {x : Datum} {fields : List (String × Datum)} {items : List Datum} {v : Value} {key : String}

mutual

/-- The value that the data is bound as. -/
def bound : Datum → Value
  | scalar s => s.value
  | absent => Bindable.toValue (none : Option Value)
  | present inner => Bindable.toValue (some inner.bound)
  | list items => Bindable.toValue (boundAll items)
  | record fields => Record.value (boundFields fields)

def boundAll : List Datum → List Value
  | [] => []
  | x :: rest => x.bound :: boundAll rest

def boundFields : List (String × Datum) → List Field
  | [] => []
  | (identifier, x) :: rest => ⟨fieldKey identifier, x.bound⟩ :: boundFields rest

end

mutual

/-- The data as it is handed over to be serialized. -/
def serial : Datum → Serial
  | scalar s => s.serial
  | absent => .unit
  | present inner => .wrapped inner.serial
  | list items => .sequence (serialAll items)
  | record fields => .record (serialFields fields)

def serialAll : List Datum → List Serial
  | [] => []
  | x :: rest => x.serial :: serialAll rest

def serialFields : List (String × Datum) → List (String × Serial)
  | [] => []
  | (identifier, x) :: rest => (fieldKey identifier, x.serial) :: serialFields rest

end

theorem boundAll_eq_map (items : List Datum) : boundAll items = items.map bound := by
  induction items with
  | nil => rfl
  | cons x rest ih => rw [boundAll, ih, List.map_cons]

theorem boundFields_eq_map (fields : List (String × Datum)) :
    boundFields fields = fields.map fun f => ⟨fieldKey f.1, f.2.bound⟩ := by
  induction fields with
  | nil => rfl
  | cons f rest ih => rw [boundFields, ih, List.map_cons]

/-- Every record in the data has fields with different names of words. -/
inductive IsPlain : Datum → Prop
  | scalar (s : Scalar) : IsPlain (.scalar s)
  | absent : IsPlain .absent
  | present {inner : Datum} (h : IsPlain inner) : IsPlain (.present inner)
  | list {items : List Datum} (h : ∀ x ∈ items, IsPlain x) : IsPlain (.list items)
  | record {fields : List (String × Datum)} (names : ∀ f ∈ fields, IsFieldName (fieldKey f.1))
      (distinct : (fields.map fun f => fieldKey f.1).Nodup) (h : ∀ f ∈ fields, IsPlain f.2) :
      IsPlain (.record fields)

theorem plain_boundFields (names : ∀ f ∈ fields, IsFieldName (fieldKey f.1))
    (distinct : (fields.map fun f => fieldKey f.1).Nodup) : Record.Plain (boundFields fields) := by
  rw [boundFields_eq_map]
  constructor
  · intro f mem
    obtain ⟨g, among, rfl⟩ := List.mem_map.mp mem
    exact names g among
  · rwa [List.map_map]

/-! ### The two values of a record -/

/-- Fields without attributes are bound under their names. -/
theorem bind_record (fields : List (String × Datum)) :
    Record.bind (fields.map fun f => ⟨f.1, [], f.2.bound⟩) = .ok (record fields).bound := by
  have each : Record.fields (fields.map fun f => ⟨f.1, [], f.2.bound⟩) = .ok (boundFields fields) := by
    induction fields with
    | nil => rfl
    | cons f rest ih =>
      rw [List.map_cons, Record.fields, ih]
      rfl
  rw [Record.bind, each]
  rfl

theorem toValues_serialAll (h : ∀ x ∈ items, x.serial.toValue = .ok x.bound.unaliased) :
    Serial.toValues (serialAll items) = .ok (items.map fun x => x.bound.unaliased) := by
  induction items with
  | nil => rfl
  | cons x rest ih =>
    obtain ⟨here, more⟩ := List.forall_mem_cons.mp h
    rw [serialAll, Serial.toValues, here, ih more]
    rfl

theorem addFields_serialFields (distinct : (fields.map fun f => fieldKey f.1).Nodup)
    (h : ∀ f ∈ fields, f.2.serial.toValue = .ok f.2.bound.unaliased) (d : Dictionary Value)
    (free : ∀ f ∈ fields, d.get? (fieldKey f.1) = none) :
    ∃ entered, Serial.addFields (serialFields fields) d = .ok entered ∧
      entered.entries = d.entries ++ fields.map fun f => (fieldKey f.1, f.2.bound.unaliased) := by
  induction fields generalizing d with
  | nil => exact ⟨d, rfl, (List.append_nil _).symm⟩
  | cons f rest ih =>
    obtain ⟨here, more⟩ := List.forall_mem_cons.mp h
    obtain ⟨freeHere, freeMore⟩ := List.forall_mem_cons.mp free
    rw [List.map_cons, List.nodup_cons] at distinct
    have stillFree : ∀ g ∈ rest,
        (d.insert (fieldKey f.1) f.2.bound.unaliased).get? (fieldKey g.1) = none := by
      intro g mem
      have ne : fieldKey f.1 ≠ fieldKey g.1 := by
        intro same
        exact distinct.1 (List.mem_map.mpr ⟨g, mem, same.symm⟩)
      rw [Dictionary.get?_insert, if_neg ne, freeMore g mem]
    have step : Serial.addFields (serialFields (f :: rest)) d =
        Serial.addFields (serialFields rest) (d.insert (fieldKey f.1) f.2.bound.unaliased) := by
      simp only [serialFields, Serial.addFields, here, bind, Except.bind]
    obtain ⟨entered, rest, entries⟩ := ih distinct.2 more _ stillFree
    refine ⟨entered, step.trans rest, ?_⟩
    rw [entries, Dictionary.entries_insert freeHere, List.append_assoc, List.map_cons, List.singleton_append]

/-- Serialized, the data is what it is bound as without the aliases. -/
theorem toValue_serial (plain : x.IsPlain) : x.serial.toValue = .ok x.bound.unaliased := by
  induction plain with
  | scalar s =>
    rw [serial, bound, Value.unaliased_of_isScalar s.single]
    exact s.agrees
  | absent => rfl
  | present h ih => exact ih
  | @list items h ih =>
    have values : (bound (list items)).unaliased = .list (items.map fun x => x.bound.unaliased) := by
      rw [bound, boundAll_eq_map]
      simp [Bindable.toValue, Value.unaliased, Value.unaliasedAll_eq_map]
    rw [serial, Serial.toValue, toValues_serialAll ih, values]
    rfl
  | @record fields names distinct h ih =>
    obtain ⟨entered, taken, entries⟩ := addFields_serialFields distinct ih .empty fun f mem => rfl
    rw [serial, Serial.toValue, taken, bound, (plain_boundFields names distinct).unaliased_value,
      boundFields_eq_map, List.map_map]
    exact congrArg (Except.ok ∘ Value.map) entries

/-! ### Lookups -/

/-- A key leads to a part of the data, or nowhere, with the aliases and without them. -/
theorem member?_bound (plain : x.IsPlain) (key : String) :
    (x.bound.member? key).map Value.unaliased = x.bound.unaliased.member? key ∧
      ∀ v, x.bound.member? key = some v → ∃ y : Datum, y.IsPlain ∧ y.bound = v := by
  induction plain with
  | scalar s =>
    have nothing : s.value.member? key = none := by
      have single := s.single
      cases value : s.value with
      | map entries =>
        rw [value] at single
        cases single
      | _ => rfl
    rw [bound, Value.unaliased_of_isScalar s.single, nothing]
    exact ⟨rfl, fun v found => by cases found⟩
  | absent => exact ⟨rfl, fun v found => by cases found⟩
  | present h ih => exact ih
  | list h ih => exact ⟨rfl, fun v found => by cases found⟩
  | @record fields names distinct h ih =>
    have plain := plain_boundFields names distinct
    refine ⟨plain.member?_unaliased key, fun v found => ?_⟩
    rw [bound, plain.member?_value] at found
    have ofField {key : String} (at? : Record.valueAt? (boundFields fields) key = some v) :
        ∃ y : Datum, y.IsPlain ∧ y.bound = v := by
      obtain ⟨f, mem, -, rfl⟩ := Record.mem_of_valueAt? at?
      rw [boundFields_eq_map] at mem
      obtain ⟨g, among, rfl⟩ := List.mem_map.mp mem
      exact ⟨g.2, h g among, rfl⟩
    rcases Option.or_eq_some_iff.mp found with direct | ⟨-, led⟩
    · exact ofField direct
    · obtain ⟨snake, -, at?⟩ := Option.bind_eq_some_iff.mp led
      exact ofField at?

theorem follow?_bound (plain : x.IsPlain) (path : List String) :
    (x.bound.follow? path).map Value.unaliased = x.bound.unaliased.follow? path := by
  induction path generalizing x with
  | nil => rfl
  | cons key rest ih =>
    obtain ⟨same, parts⟩ := member?_bound plain key
    rw [Value.follow?, Value.follow?, ← same]
    cases found : x.bound.member? key with
    | none => rfl
    | some v =>
      obtain ⟨y, plain, rfl⟩ := parts v found
      exact ih plain

theorem lookup?_bound (plain : x.IsPlain) (name : String) :
    (x.bound.lookup? name).map Value.unaliased = x.bound.unaliased.lookup? name := by
  rw [Value.lookup?, Value.lookup?, ← (member?_bound plain name).1, Option.map_or]
  cases Text.splitOnce '.' name.toList with
  | none => rfl
  | some parts =>
    dsimp only
    rw [← follow?_bound plain]

/-- Whatever name is looked up in the two maps of a record, it is bound in both or in neither, and to one value
but for the aliases in it. -/
theorem lookups_alike (plain : (record fields).IsPlain) :
    ∃ bound serialized, Record.bind (fields.map fun f => ⟨f.1, [], f.2.bound⟩) = .ok bound ∧
      (record fields).serial.toValue = .ok serialized ∧
        ∀ name, (Bindings.ofValue bound name).map Value.unaliased = Bindings.ofValue serialized name :=
  ⟨_, _, bind_record fields, toValue_serial plain, lookup?_bound plain⟩

/-- A record in an optional field, and a field whose identifier is written as a raw one. -/
theorem lookups_alike_nested :
    let text (s : String) : Datum := .scalar ⟨.str s, .scalar (.str s), rfl, rfl⟩
    let owner : Datum := .record [("display_name", text "Ada"), ("tags", .list [text "x"])]
    let fields := [("min_age", text "18"), ("owner", .present owner), ("r#type", .absent)]
    (record fields).IsPlain ∧
      Bindings.ofValue (record fields).bound "owner.displayName" = some (.str "Ada") ∧
        ∃ serialized, (record fields).serial.toValue = .ok serialized ∧
          Bindings.ofValue serialized "owner.displayName" = some (.str "Ada") := by
  intro text owner fields
  have word (s : String) (h : IsWord s.toList) : IsFieldName s :=
    ⟨[s.toList], by simp, by simpa using h, by simp [List.intercalate]⟩
  have scalar (s : String) : (text s).IsPlain := .scalar _
  have inner : owner.IsPlain := by
    refine .record ?_ (by decide) ?_
    · simp only [List.forall_mem_cons]
      exact ⟨⟨["display".toList, "name".toList], by simp, by decide, by decide⟩, word "tags" (by decide),
        by simp⟩
    · simp only [List.forall_mem_cons]
      exact ⟨scalar "Ada", .list (by simpa using scalar "x"), by simp⟩
  have plain : (record fields).IsPlain := by
    refine .record ?_ (by decide) ?_
    · simp only [fields, List.forall_mem_cons]
      exact ⟨⟨["min".toList, "age".toList], by simp, by decide, by decide⟩, word "owner" (by decide),
        word "type" (by decide), by simp⟩
    · simp only [fields, List.forall_mem_cons]
      exact ⟨scalar "18", .present inner, .absent, by simp⟩
  have found : Bindings.ofValue (record fields).bound "owner.displayName" = some (.str "Ada") := by
    simp only [fields, owner, text]
    rfl
  obtain ⟨bound, serialized, bind, value, alike⟩ := lookups_alike plain
  obtain rfl := Except.ok.inj ((bind_record fields).symm.trans bind)
  refine ⟨plain, found, serialized, value, ?_⟩
  rw [← alike, found]
  rfl

end Datum

end ContentQuery
