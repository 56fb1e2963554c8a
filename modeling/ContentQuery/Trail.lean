/-!
# Trails

What a pass over a tree does, in order. The pass ends at the first fault.
-/

namespace ContentQuery

/-- Steps and faults in the order in which a pass comes to them. -/
abbrev Trail (ε α : Type) := List (Except ε α)

namespace Trail

variable {ε α : Type}

def fault? : Trail ε α → Option ε
  | [] => none
  | .error e :: _ => some e
  | .ok _ :: rest => fault? rest

def steps : Trail ε α → List α
  | [] => []
  | .error _ :: _ => []
  | .ok a :: rest => a :: steps rest

/-- All steps, if there is no fault. -/
def outcome (t : Trail ε α) : Except ε (List α) :=
  match t.fault? with
  | some e => .error e
  | none => .ok t.steps

@[simp] theorem fault?_nil : fault? ([] : Trail ε α) = none := rfl

@[simp] theorem fault?_ok_cons (a : α) (t : Trail ε α) : fault? (.ok a :: t) = fault? t := rfl

@[simp] theorem fault?_error_cons (e : ε) (t : Trail ε α) : fault? (.error e :: t) = some e := rfl

@[simp] theorem steps_nil : steps ([] : Trail ε α) = [] := rfl

@[simp] theorem steps_ok_cons (a : α) (t : Trail ε α) : steps (.ok a :: t) = a :: steps t := rfl

theorem fault?_append (t u : Trail ε α) : fault? (t ++ u) = (fault? t).or (fault? u) := by
  induction t with
  | nil => rfl
  | cons step rest ih =>
    cases step with
    | error e => rfl
    | ok a => exact ih

theorem fault?_append_eq_none {t u : Trail ε α} :
    fault? (t ++ u) = none ↔ fault? t = none ∧ fault? u = none := by
  rw [fault?_append, Option.or_eq_none_iff]

/-- Nothing is lost of a part that has no fault. -/
theorem steps_append {t : Trail ε α} (u : Trail ε α) (h : fault? t = none) :
    steps (t ++ u) = steps t ++ steps u := by
  induction t with
  | nil => rfl
  | cons step rest ih =>
    cases step with
    | error e => cases h
    | ok a => exact congrArg (a :: ·) (ih h)

@[simp] theorem fault?_map_ok (as : List α) : fault? (as.map Except.ok : Trail ε α) = none := by
  induction as with
  | nil => rfl
  | cons a rest ih => exact ih

@[simp] theorem steps_map_ok (as : List α) : steps (as.map Except.ok : Trail ε α) = as := by
  induction as with
  | nil => rfl
  | cons a rest ih => exact congrArg (a :: ·) ih

theorem outcome_eq_ok_iff {t : Trail ε α} {as : List α} :
    t.outcome = .ok as ↔ fault? t = none ∧ steps t = as := by
  unfold outcome
  cases h : fault? t with
  | none => simp
  | some e => simp

theorem outcome_eq_error_iff {t : Trail ε α} {e : ε} : t.outcome = .error e ↔ fault? t = some e := by
  unfold outcome
  cases h : fault? t with
  | none => simp
  | some e => simp

end Trail

end ContentQuery
