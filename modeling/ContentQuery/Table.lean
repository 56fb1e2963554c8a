/-!
# Tables

A table holds values under keys, and the first value under a key counts. A dictionary is a table in which no key
occurs twice.
-/

namespace ContentQuery

/-- Keys with their values. Of several values under one key the first counts. -/
abbrev Table (α : Type) := List (String × α)

namespace Table

variable {α : Type}

def get? : Table α → String → Option α
  | [], _ => none
  | (k, v) :: rest, key => if k = key then some v else get? rest key

/-- The table with a value put under a key, in place of the one there before. -/
def insert : Table α → String → α → Table α
  | [], key, value => [(key, value)]
  | (k, v) :: rest, key, value =>
    if k = key then (key, value) :: rest else (k, v) :: insert rest key value

def erase (t : Table α) (key : String) : Table α :=
  t.filter (·.1 ≠ key)

/-- The table of a list of entries, of which the last under each key counts. -/
def ofEntries (entries : List (String × α)) : Table α :=
  entries.foldl (fun t (key, value) => t.insert key value) []

theorem get?_insert (t : Table α) (key other : String) (value : α) :
    (t.insert key value).get? other = if key = other then some value else t.get? other := by
  induction t with
  | nil => simp [insert, get?]
  | cons entry rest ih =>
    obtain ⟨k, v⟩ := entry
    by_cases hk : k = key <;> by_cases ho : key = other <;> grind [insert, get?]

variable {t u : Table α} {k key : String} {v : α}

theorem get?_cons : get? ((k, v) :: t) key = if k = key then some v else t.get? key :=
  rfl

theorem insert_cons (value : α) : insert ((k, v) :: t) key value =
    if k = key then (key, value) :: t else (k, v) :: t.insert key value :=
  rfl

theorem get?_append : get? (t ++ u) key = (t.get? key).or (u.get? key) := by
  induction t with
  | nil => rfl
  | cons entry rest ih =>
    rw [List.cons_append, get?_cons, get?_cons, ih]
    split <;> rfl

theorem insert_of_get?_eq_none (h : t.get? key = none) (value : α) :
    t.insert key value = t ++ [(key, value)] := by
  induction t with
  | nil => rfl
  | cons entry rest ih =>
    rw [get?_cons] at h
    split at h
    · cases h
    · rename_i ne
      rw [insert_cons, if_neg ne, ih h, List.cons_append]

theorem mem_of_get? (h : t.get? key = some v) : (key, v) ∈ t := by
  induction t with
  | nil => cases h
  | cons entry rest ih =>
    rw [get?_cons] at h
    split at h
    · rename_i same
      obtain rfl := Option.some.inj h
      exact same ▸ List.mem_cons_self
    · exact List.mem_cons_of_mem entry (ih h)

theorem mem_keys_insert {other : String} {value : α} :
    other ∈ (t.insert key value).map Prod.fst ↔ other = key ∨ other ∈ t.map Prod.fst := by
  induction t with
  | nil => rw [insert, List.map_singleton, List.mem_singleton, List.map_nil, List.mem_nil_iff, or_false]
  | cons entry rest ih =>
    rw [insert_cons]
    split
    · rename_i same
      rw [List.map_cons, List.map_cons, List.mem_cons, List.mem_cons, same, or_self_left]
    · rw [List.map_cons, List.map_cons, List.mem_cons, List.mem_cons, ih, or_left_comm]

theorem nodup_keys_insert (h : (t.map Prod.fst).Nodup) (key : String) (value : α) :
    ((t.insert key value).map Prod.fst).Nodup := by
  induction t with
  | nil => exact List.pairwise_singleton _ _
  | cons entry rest ih =>
    rw [List.map_cons, List.nodup_cons] at h
    rw [insert_cons]
    split
    · rename_i same
      rw [List.map_cons, List.nodup_cons]
      exact same ▸ h
    · rename_i other
      rw [List.map_cons, List.nodup_cons, mem_keys_insert, not_or]
      exact ⟨⟨other, h.1⟩, ih h.2⟩

theorem get?_map {β : Type} {f : β → String} {g : β → α} (items : List β) (key : String) :
    get? (items.map fun x => (f x, g x)) key = (items.find? (f · == key)).map g := by
  induction items with
  | nil => rfl
  | cons x items ih =>
    rw [List.map_cons, get?_cons, ih, List.find?_cons]
    by_cases here : f x = key
    · rw [if_pos here, beq_iff_eq.mpr here]
      rfl
    · rw [if_neg here, beq_eq_false_iff_ne.mpr here]

end Table

/-- A table in which no key occurs twice. -/
structure Dictionary (α : Type) where
  entries : Table α
  distinct : (entries.map Prod.fst).Nodup

namespace Dictionary

variable {α : Type}

def empty : Dictionary α :=
  ⟨[], List.nodup_nil⟩

def get? (d : Dictionary α) (key : String) : Option α :=
  d.entries.get? key

/-- The dictionary with a value put under a key, in place of the one there before. -/
def insert (d : Dictionary α) (key : String) (value : α) : Dictionary α :=
  ⟨d.entries.insert key value, Table.nodup_keys_insert d.distinct key value⟩

/-- The dictionary with a value put under a key that has none. -/
def insertNew (d : Dictionary α) (key : String) (value : α) : Dictionary α :=
  if (d.get? key).isSome then d else d.insert key value

theorem get?_insert (d : Dictionary α) (key other : String) (value : α) :
    (d.insert key value).get? other = if key = other then some value else d.get? other :=
  Table.get?_insert d.entries key other value

theorem get?_insertNew (d : Dictionary α) (key other : String) (value : α) :
    (d.insertNew key value).get? other =
      if key = other then some ((d.get? key).getD value) else d.get? other := by
  unfold insertNew
  cases h : d.get? key <;> by_cases ho : key = other <;> grind [get?_insert]

variable {d : Dictionary α} {key : String}

theorem entries_insert (free : d.get? key = none) (value : α) :
    (d.insert key value).entries = d.entries ++ [(key, value)] :=
  Table.insert_of_get?_eq_none free value

theorem insertNew_eq (free : d.get? key = none) (value : α) : d.insertNew key value = d.insert key value := by
  rw [insertNew, free]
  exact if_neg Bool.false_ne_true

end Dictionary

end ContentQuery
