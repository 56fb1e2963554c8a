import ContentQuery.Error
import ContentQuery.Value.Coercion
import Mathlib.Data.List.Forall2

/-!
# Coercion of nested values

A type has its own kind of value. Coercion gives every leaf of a value, however deep in lists, the value of
that kind which stands for it, and changes nothing else; the first leaf that no such value stands for is
the fault. What has been coerced is kept by the same type.
-/

namespace ContentQuery

namespace Value

variable {tag : TypeTag} {v w : Value} {f : Value → Value}

/-! ### Leaves and lists -/

/-- Neither NULL nor a list. -/
def isLeaf : Value → Bool
  | null | list _ => false
  | _ => true

mutual

/-- The leaves of a value from left to right. -/
def leaves : Value → List Value
  | null => []
  | list items => leavesAll items
  | v => [v]

def leavesAll : List Value → List Value
  | [] => []
  | v :: rest => v.leaves ++ leavesAll rest

end

/-- The lists of a value, and the places of NULL and of the leaves in them. -/
inductive Shape where
  | null
  | leaf
  | list (items : List Shape)

mutual

def shape : Value → Shape
  | null => .null
  | list items => .list (shapeAll items)
  | _ => .leaf

def shapeAll : List Value → List Shape
  | [] => []
  | v :: rest => v.shape :: shapeAll rest

end

mutual

/-- The value with other leaves. -/
def mapLeaves (f : Value → Value) : Value → Value
  | null => null
  | list items => list (mapLeavesAll f items)
  | v => f v

def mapLeavesAll (f : Value → Value) : List Value → List Value
  | [] => []
  | v :: rest => mapLeaves f v :: mapLeavesAll f rest

end

theorem leavesAll_eq_flatMap (items : List Value) : leavesAll items = items.flatMap leaves := by
  induction items with
  | nil => rfl
  | cons v rest ih => rw [leavesAll, ih, List.flatMap_cons]

theorem shapeAll_eq_map (items : List Value) : shapeAll items = items.map shape := by
  induction items with
  | nil => rfl
  | cons v rest ih => rw [shapeAll, ih, List.map_cons]

theorem mapLeavesAll_eq_map (f : Value → Value) (items : List Value) :
    mapLeavesAll f items = items.map (mapLeaves f) := by
  induction items with
  | nil => rfl
  | cons v rest ih => rw [mapLeavesAll, ih, List.map_cons]

section

variable (leaf : v.isLeaf = true)
include leaf

theorem leaves_of_isLeaf : v.leaves = [v] := by
  cases v <;> first | rfl | cases leaf

theorem shape_of_isLeaf : v.shape = .leaf := by
  cases v <;> first | rfl | cases leaf

theorem mapLeaves_of_isLeaf : v.mapLeaves f = f v := by
  cases v <;> first | rfl | cases leaf

end

/-- Cases of a value by its place in lists, with the hypothesis for every element of a list. -/
theorem induct_leaves {motive : Value → Prop} (null : motive null)
    (leaf : ∀ v, v.isLeaf = true → motive v)
    (list : ∀ items, (∀ v ∈ items, motive v) → motive (list items)) (v : Value) : motive v := by
  induction v with
  | null => exact null
  | list items ih => exact list items ih
  | _ => exact leaf _ rfl

theorem isLeaf_of_mem_leaves (h : w ∈ v.leaves) : w.isLeaf = true := by
  induction v using induct_leaves with
  | null => cases h
  | leaf v leaf =>
    rw [leaves_of_isLeaf leaf, List.mem_singleton] at h
    rwa [h]
  | list items ih =>
    rw [leaves, leavesAll_eq_flatMap, List.mem_flatMap] at h
    obtain ⟨v, among, mem⟩ := h
    exact ih v among mem

section

variable (keeps : ∀ x ∈ v.leaves, (f x).isLeaf = true)
include keeps

theorem leaves_mapLeaves : (v.mapLeaves f).leaves = v.leaves.map f := by
  induction v using induct_leaves with
  | null => rfl
  | leaf v leaf =>
    rw [leaves_of_isLeaf leaf, List.forall_mem_singleton] at keeps
    rw [mapLeaves_of_isLeaf leaf, leaves_of_isLeaf leaf, leaves_of_isLeaf keeps, List.map_singleton]
  | list items ih =>
    rw [leaves, leavesAll_eq_flatMap, List.forall_mem_flatMap] at keeps
    simp only [mapLeaves, leaves, leavesAll_eq_flatMap, mapLeavesAll_eq_map, List.flatMap_map,
      List.map_flatMap]
    exact List.flatMap_congr fun v mem => ih v mem (keeps v mem)

theorem shape_mapLeaves : (v.mapLeaves f).shape = v.shape := by
  induction v using induct_leaves with
  | null => rfl
  | leaf v leaf =>
    rw [leaves_of_isLeaf leaf, List.forall_mem_singleton] at keeps
    rw [mapLeaves_of_isLeaf leaf, shape_of_isLeaf leaf, shape_of_isLeaf keeps]
  | list items ih =>
    rw [leaves, leavesAll_eq_flatMap, List.forall_mem_flatMap] at keeps
    simp only [mapLeaves, shape, shapeAll_eq_map, mapLeavesAll_eq_map, List.map_map]
    exact congrArg Shape.list (List.map_congr_left fun v mem => ih v mem (keeps v mem))

end

theorem mapLeaves_eq_self (keeps : ∀ x ∈ v.leaves, f x = x) : v.mapLeaves f = v := by
  induction v using induct_leaves with
  | null => rfl
  | leaf v leaf =>
    rw [leaves_of_isLeaf leaf, List.forall_mem_singleton] at keeps
    rw [mapLeaves_of_isLeaf leaf, keeps]
  | list items ih =>
    rw [leaves, leavesAll_eq_flatMap, List.forall_mem_flatMap] at keeps
    rw [mapLeaves, mapLeavesAll_eq_map, List.map_congr_left fun v mem => ih v mem (keeps v mem),
      List.map_id']

/-! ### Leaves under a type -/

/-- The kind of value that a type has. -/
def isCanonical : TypeTag → Value → Bool
  | .string, str _ | .reference, str _ => true
  | .long, int n | .forceInteger, int n => n.kind == .i64
  | .double, double x => x.isFinite
  | .decimal, decimal _ => true
  | .boolean, bool _ => true
  | .date, date _ => true
  | .dateTime, dateTime _ => true
  | .binary, bytes _ => true
  | _, _ => false

theorem isLeaf_of_isCanonical (h : v.isCanonical tag = true) : v.isLeaf = true := by
  cases v <;> first | rfl | (cases tag <;> cases h)

section

variable {n : Integer}

theorem kind_of_toSigned64? (h : v.toSigned64? = some n) : n.kind = .i64 := by
  cases v <;> first | exact (Integer.ofInt?_eq_some_iff.mp h).1 | cases h

theorem kind_of_readInteger? {s : List Char} (h : readInteger? s = some n) : n.kind = .i64 := by
  unfold readInteger? at h
  dsimp only at h
  split at h
  · exact (Integer.ofInt?_eq_some_iff.mp h).1
  · cases h

theorem kind_of_truncateDouble? {x : Double} (h : truncateDouble? x = some n) : n.kind = .i64 := by
  obtain ⟨whole, -, fits⟩ := Option.bind_eq_some_iff.mp h
  exact (Integer.ofInt?_eq_some_iff.mp fits).1

theorem kind_of_toLong? (h : v.toLong? = some n) : n.kind = .i64 := by
  unfold toLong? at h
  split at h
  · exact kind_of_readInteger? h
  · split at h
    · exact kind_of_truncateDouble? h
    · cases h
  · split at h
    · exact kind_of_truncateDouble? h
    · cases h
  · split at h
    · exact (Integer.ofInt?_eq_some_iff.mp h).1
    · cases h
  · exact kind_of_toSigned64? h

theorem kind_of_toForcedInteger? (h : v.toForcedInteger? = some n) : n.kind = .i64 := by
  unfold toForcedInteger? at h
  split at h
  · exact (Integer.ofInt?_eq_some_iff.mp h).1
  · rcases Option.or_eq_some_iff.mp h with read | ⟨-, read⟩
    · exact kind_of_readInteger? read
    · obtain ⟨x, -, truncated⟩ := Option.bind_eq_some_iff.mp read
      exact kind_of_truncateDouble? truncated
  · exact kind_of_truncateDouble? h
  · exact kind_of_truncateDouble? h
  · exact (Integer.ofInt?_eq_some_iff.mp h).1
  · exact kind_of_toSigned64? h

end

theorem isFinite_of_toFinite? {x : Double} (h : v.toFinite? = some x) : x.isFinite = true :=
  (Option.filter_eq_some_iff.mp h).2

/-- A type makes only values of its own kind. -/
theorem isCanonical_of_convert? (h : v.convert? tag = some w) : w.isCanonical tag = true := by
  cases tag with
  | long =>
    obtain ⟨n, read, rfl⟩ := Option.map_eq_some_iff.mp h
    exact beq_iff_eq.mpr (kind_of_toLong? read)
  | forceInteger =>
    obtain ⟨n, read, rfl⟩ := Option.map_eq_some_iff.mp h
    exact beq_iff_eq.mpr (kind_of_toForcedInteger? read)
  | double =>
    obtain ⟨x, read, rfl⟩ := Option.map_eq_some_iff.mp h
    exact isFinite_of_toFinite? read
  | _ =>
    obtain ⟨_, -, rfl⟩ := Option.map_eq_some_iff.mp h
    rfl

theorem toSigned64?_of_kind {n : Integer} (h : n.kind = .i64) : (int n).toSigned64? = some n :=
  Integer.ofInt?_eq_some_iff.mpr ⟨h, rfl⟩

/-- A value of a type's own kind stands for itself. -/
theorem convert?_of_isCanonical (h : v.isCanonical tag = true) : v.convert? tag = some v := by
  cases tag with
  | long =>
    cases v with
    | int n => exact congrArg (Option.map int) (toSigned64?_of_kind (beq_iff_eq.mp h))
    | _ => cases h
  | forceInteger =>
    cases v with
    | int n => exact congrArg (Option.map int) (toSigned64?_of_kind (beq_iff_eq.mp h))
    | _ => cases h
  | double =>
    cases v with
    | double x => exact congrArg (Option.map double) (Option.filter_eq_some_iff.mpr ⟨rfl, h⟩)
    | _ => cases h
  | _ =>
    cases v <;> cases h
    all_goals rfl

/-! ### Nested values -/

theorem coerce_of_isLeaf (leaf : v.isLeaf = true) :
    v.coerce tag =
      match v.convert? tag with
      | some w => .ok w
      | none => .error ⟨v, tag⟩ := by
  cases v <;> first | rfl | cases leaf

/-- Whether no value of the type stands for the leaf. -/
def isRefused (tag : TypeTag) (v : Value) : Bool :=
  (v.convert? tag).isNone

/-- The value of the type that stands for the leaf. -/
def converted (tag : TypeTag) (v : Value) : Value :=
  (v.convert? tag).getD v

theorem coerceAll_eq {items : List Value}
    (each : ∀ v ∈ items, v.coerce tag =
      match v.leaves.find? (isRefused tag) with
      | some x => .error ⟨x, tag⟩
      | none => .ok (v.mapLeaves (converted tag))) :
    coerceAll tag items =
      match (items.flatMap leaves).find? (isRefused tag) with
      | some x => .error ⟨x, tag⟩
      | none => .ok (items.map (mapLeaves (converted tag))) := by
  induction items with
  | nil => rfl
  | cons v rest ih =>
    rw [List.forall_mem_cons] at each
    rw [coerceAll, each.1, ih each.2, List.flatMap_cons, List.find?_append]
    cases v.leaves.find? (isRefused tag) with
    | some x => rfl
    | none => cases (rest.flatMap leaves).find? (isRefused tag) <;> rfl

/-- Coercion takes the leaves one by one, up to the first that is refused. -/
theorem coerce_eq (tag : TypeTag) (v : Value) :
    v.coerce tag =
      match v.leaves.find? (isRefused tag) with
      | some x => .error ⟨x, tag⟩
      | none => .ok (v.mapLeaves (converted tag)) := by
  induction v using induct_leaves with
  | null => rfl
  | leaf v leaf =>
    rw [coerce_of_isLeaf leaf, leaves_of_isLeaf leaf, mapLeaves_of_isLeaf leaf, List.find?_singleton]
    unfold isRefused converted
    cases v.convert? tag <;> rfl
  | list items ih =>
    rw [coerce, coerceAll_eq ih, leaves, leavesAll_eq_flatMap, mapLeaves, mapLeavesAll_eq_map]
    cases (items.flatMap leaves).find? (isRefused tag) <;> rfl

theorem coerce_eq_ok_iff :
    v.coerce tag = .ok w ↔ v.leaves.find? (isRefused tag) = none ∧ w = v.mapLeaves (converted tag) := by
  rw [coerce_eq]
  cases v.leaves.find? (isRefused tag) <;> simp [eq_comm]

theorem coerce_eq_error_iff {m : Mismatch} :
    v.coerce tag = .error m ↔ ∃ x, v.leaves.find? (isRefused tag) = some x ∧ m = ⟨x, tag⟩ := by
  rw [coerce_eq]
  cases v.leaves.find? (isRefused tag) <;> simp [eq_comm]

/-- A leaf that is not refused is coerced to a value of the type's own kind. -/
theorem coerce_converted (leaf : v.isLeaf = true) (taken : v.isRefused tag = false) :
    v.coerce tag = .ok (v.converted tag) ∧ (v.converted tag).isCanonical tag = true := by
  rw [coerce_of_isLeaf leaf]
  unfold isRefused at taken
  unfold converted
  cases found : v.convert? tag with
  | none => simp [found] at taken
  | some w => exact ⟨rfl, isCanonical_of_convert? found⟩

theorem exists_coerce_iff :
    (∃ w, v.coerce tag = .ok w) ↔ ∀ x ∈ v.leaves, x.isRefused tag = false := by
  simp only [coerce_eq_ok_iff, exists_and_left, exists_eq, and_true, List.find?_eq_none,
    Bool.not_eq_true]

theorem isRefused_eq_false_iff (leaf : v.isLeaf = true) :
    v.isRefused tag = false ↔ ∃ w, v.coerce tag = .ok w := by
  rw [exists_coerce_iff, leaves_of_isLeaf leaf, List.forall_mem_singleton]

/-- A type keeps what has only values of its own kind. -/
theorem coerce_of_forall_isCanonical (h : ∀ x ∈ v.leaves, x.isCanonical tag = true) :
    v.coerce tag = .ok v := by
  have same {x : Value} (mem : x ∈ v.leaves) : x.convert? tag = some x := convert?_of_isCanonical (h x mem)
  refine coerce_eq_ok_iff.mpr ⟨?_, (mapLeaves_eq_self fun x mem => ?_).symm⟩
  · rw [List.find?_eq_none]
    intro x mem
    simp [isRefused, same mem]
  · rw [converted, same mem, Option.getD_some]

/-- Coercion succeeds if it does for every leaf. The result has the same lists with NULL in the same places,
and for each leaf the value of the type's own kind that the leaf is coerced to; the type keeps it. Else
the fault is that of the first leaf that is refused, and the message shows that leaf and the type. -/
theorem coerce_leafwise (tag : TypeTag) (v : Value) :
    ((∃ w, v.coerce tag = .ok w) ↔ ∀ x ∈ v.leaves, ∃ y, x.coerce tag = .ok y) ∧
      (∀ w, v.coerce tag = .ok w → w.shape = v.shape ∧
        List.Forall₂ (fun x y => x.coerce tag = .ok y ∧ y.isCanonical tag = true) v.leaves w.leaves ∧
          w.coerce tag = .ok w) ∧
      ∀ m, v.coerce tag = .error m → ∃ before x after, v.leaves = before ++ x :: after ∧
        (∀ y ∈ before, ∃ z, y.coerce tag = .ok z) ∧ (¬∃ z, x.coerce tag = .ok z) ∧ m = ⟨x, tag⟩ ∧
          (QueryFault.typeMismatch m).message = "cannot convert " ++ x.text ++ " to " ++ tag.name := by
  have taken_iff {x : Value} (mem : x ∈ v.leaves) : x.isRefused tag = false ↔ ∃ y, x.coerce tag = .ok y :=
    isRefused_eq_false_iff (isLeaf_of_mem_leaves mem)
  refine ⟨?_, fun w coerced => ?_, fun m refused => ?_⟩
  · rw [exists_coerce_iff]
    exact forall₂_congr fun x mem => taken_iff mem
  · have taken := exists_coerce_iff.mp ⟨w, coerced⟩
    obtain ⟨-, rfl⟩ := coerce_eq_ok_iff.mp coerced
    have each : ∀ x ∈ v.leaves, x.coerce tag = .ok (x.converted tag) ∧
        (x.converted tag).isCanonical tag = true :=
      fun x mem => coerce_converted (isLeaf_of_mem_leaves mem) (taken x mem)
    have keeps : ∀ x ∈ v.leaves, (x.converted tag).isLeaf = true :=
      fun x mem => isLeaf_of_isCanonical (each x mem).2
    refine ⟨shape_mapLeaves keeps, ?_, coerce_of_forall_isCanonical ?_⟩
    · rw [leaves_mapLeaves keeps, List.forall₂_map_right_iff, List.forall₂_same]
      exact each
    · rw [leaves_mapLeaves keeps, List.forall_mem_map]
      exact fun x mem => (each x mem).2
  · obtain ⟨x, first, rfl⟩ := coerce_eq_error_iff.mp refused
    obtain ⟨refused, before, after, parts, taken⟩ := List.find?_eq_some_iff_append.mp first
    have among : ∀ y ∈ before, y ∈ v.leaves := fun y mem => by simp [parts, mem]
    refine ⟨before, x, after, parts, fun y mem => (taken_iff (among y mem)).mp ?_, ?_, rfl, rfl⟩
    · simpa using taken y mem
    · rw [← taken_iff (List.mem_of_find?_eq_some first), refused]
      exact Bool.noConfusion

/-- A text, a truth value and a byte in nested lists. -/
theorem coerce_leafwise_nested :
    let three : Value := int ⟨.u8, 3, by decide, by decide⟩
    let read : Value := list [int ⟨.i64, 7, by decide, by decide⟩, null,
      list [int ⟨.i64, 3, by decide, by decide⟩]]
    (list [str "7", null, list [three]]).coerce .long = .ok read ∧ read.coerce .long = .ok read ∧
      ∃ m, (list [null, list [three, bool true], str "x"]).coerce .long = .error m ∧
        (QueryFault.typeMismatch m).message = "cannot convert true to long" := by
  intro three read
  have whole : (list [str "7", null, list [three]]).coerce .long = .ok read := rfl
  obtain ⟨-, success, -⟩ := coerce_leafwise .long (list [str "7", null, list [three]])
  obtain ⟨-, -, again⟩ := success read whole
  have mixed : (list [null, list [three, bool true], str "x"]).coerce .long =
      .error ⟨bool true, .long⟩ := rfl
  obtain ⟨-, -, failure⟩ := coerce_leafwise .long (list [null, list [three, bool true], str "x"])
  obtain ⟨before, x, after, -, -, -, fault, message⟩ := failure _ mixed
  obtain rfl : bool true = x := congrArg Mismatch.value fault
  exact ⟨whole, again, _, mixed, message⟩

end Value

end ContentQuery
