import ContentQuery.Dialect.Builtin
import ContentQuery.Engine.Registry
import Mathlib.Data.List.Induction

/-!
# Registrations

What a registry holds after any calls that register engines, made one after the other and beginning with an
empty registry. A call reaches the default name by naming it, or through a dialect of that name. The first call
that does keeps it for good, and every later one is refused and changes nothing; under any other name the last
call counts.
-/

namespace ContentQuery

namespace Registry

/-- Registers an engine in a registry that is changed in place: the entry of the name is looked at, and written
unless it is the default one and taken. -/
def enter (name : String) (e : Engine) : EStateM QueryError Registry Unit := do
  let r ← get
  if name = defaultName ∧ (r.byName? name).isSome then
    throw (.invalidArgument (.engineExists name))
  else set (Table.insert r name e)

/-- Registering in place ends as registering by making a new registry does. If it fails, nothing has been written. -/
theorem enter_run (name : String) (e : Engine) (r : Registry) : (enter name e).run r =
    match r.registerAs name e with
    | .ok next => .ok () next
    | .error fault => .error fault r := by
  change (if name = defaultName ∧ (r.byName? name).isSome then
      throw (.invalidArgument (.engineExists name))
    else set (Table.insert r name e) : EStateM QueryError Registry Unit) r = _
  rw [registerAs]
  split <;> rfl

end Registry

/-- A call that registers an engine, under the name of its dialect or under a name that is given. -/
inductive Registration where
  | own (engine : Engine)
  | named (name : String) (engine : Engine)

namespace Registration

open Registry (defaultName)

/-- The name that the call is to register its engine under. -/
def target : Registration → String
  | own e => e.dialect.name
  | named name _ => name

def engine : Registration → Engine
  | own e => e
  | named _ e => e

/-- The registry that a call makes of another, or why it is refused. -/
def attempt : Registration → Registry → Except QueryError Registry
  | own e, r => r.register e
  | named name e, r => r.registerAs name e

/-- What the call leaves behind in place of a registry, whether it succeeds or fails. -/
def step (r : Registry) (c : Registration) : Registry :=
  match (Registry.enter c.target c.engine).run r with
  | .ok _ next => next
  | .error _ next => next

/-- What calls leave behind that begin with an empty registry. -/
def run (calls : List Registration) : Registry :=
  calls.foldl step []

/-- The call is not the first to reach the default name. -/
def IsLate (c : Registration) (earlier : List Registration) : Prop :=
  c.target = defaultName ∧ ∃ d ∈ earlier, d.target = defaultName

variable {r : Registry} {c : Registration} {calls : List Registration} {name : String}

/-! ### One call -/

theorem attempt_eq_registerAs (c : Registration) (r : Registry) :
    c.attempt r = r.registerAs c.target c.engine := by
  cases c <;> rfl

theorem attempt_of_taken (reached : c.target = defaultName) (taken : (r.byName? defaultName).isSome = true) :
    c.attempt r = .error (.invalidArgument (.engineExists defaultName)) ∧ step r c = r := by
  have refused : r.registerAs c.target c.engine = .error (.invalidArgument (.engineExists defaultName)) := by
    rw [Registry.registerAs, reached, if_pos ⟨rfl, taken⟩]
  rw [attempt_eq_registerAs, step, Registry.enter_run, refused]
  exact ⟨rfl, rfl⟩

theorem attempt_of_free (free : ¬ (c.target = defaultName ∧ (r.byName? defaultName).isSome = true)) :
    c.attempt r = .ok (step r c) ∧ step r c = Table.insert r c.target c.engine := by
  have made : r.registerAs c.target c.engine = .ok (Table.insert r c.target c.engine) := by
    rw [Registry.registerAs, if_neg]
    rintro ⟨reached, taken⟩
    exact free ⟨reached, reached ▸ taken⟩
  rw [attempt_eq_registerAs, step, Registry.enter_run, made]
  exact ⟨rfl, rfl⟩

/-- What one call does to every name. -/
theorem byName?_step (r : Registry) (c : Registration) (name : String) : (step r c).byName? name =
    if c.target = name then
      if name = defaultName then some ((r.byName? name).getD c.engine) else some c.engine
    else r.byName? name := by
  by_cases late : c.target = defaultName ∧ (r.byName? defaultName).isSome = true
  · obtain ⟨reached, taken⟩ := late
    rw [(attempt_of_taken reached taken).2, reached]
    split
    · rename_i same
      subst same
      obtain ⟨e, held⟩ := Option.isSome_iff_exists.mp taken
      rw [if_pos rfl, held]
      rfl
    · rfl
  · rw [(attempt_of_free late).2, Registry.byName?, Table.get?_insert]
    split
    · rename_i here
      split
      · -- The call succeeds at the default name because nothing stands there.
        rename_i default
        have absent : r.byName? name = none := by
          rw [here, default] at late
          rw [default]
          simpa using late
        rw [absent]
        rfl
      · rfl
    · rfl

/-! ### Calls in turn -/

theorem run_append_singleton (calls : List Registration) (c : Registration) :
    run (calls ++ [c]) = step (run calls) c := by
  rw [run, List.foldl_append]
  rfl

theorem byName?_run_default (calls : List Registration) :
    (run calls).byName? defaultName = (calls.find? (·.target == defaultName)).map engine := by
  -- From the right end: a call is of use only if none before it reached the name.
  induction calls using List.reverseRecOn with
  | nil => rfl
  | append_singleton calls c ih =>
    rw [run_append_singleton, byName?_step, ih, List.find?_append, List.find?_singleton]
    by_cases reached : c.target = defaultName
    · rw [if_pos reached, if_pos rfl, if_pos (beq_iff_eq.mpr reached)]
      cases calls.find? (·.target == defaultName) with
      | none => rfl
      | some d => rfl
    · rw [if_neg reached, if_neg (by rwa [beq_iff_eq]), Option.or_none]

theorem byName?_run_of_ne (other : name ≠ defaultName) (calls : List Registration) :
    (run calls).byName? name = (calls.reverse.find? (·.target == name)).map engine := by
  induction calls using List.reverseRecOn with
  | nil => rfl
  | append_singleton calls c ih =>
    rw [run_append_singleton, byName?_step, ih, List.reverse_append, List.reverse_singleton,
      List.singleton_append, List.find?_cons]
    by_cases here : c.target = name
    · rw [if_pos here, if_neg other, beq_iff_eq.mpr here]
      rfl
    · rw [if_neg here, beq_eq_false_iff_ne.mpr here]

theorem isLate_iff : c.IsLate calls ↔
    c.target = defaultName ∧ ((run calls).byName? defaultName).isSome = true := by
  rw [IsLate, byName?_run_default, Option.isSome_map, List.find?_isSome]
  simp only [beq_iff_eq]

/-- Whatever calls have been made, the default name leads to the engine of the first of them that reached it, and
any other name to the engine of the last one. If the next call comes late to the default name, it is refused and
leaves the registry as it was; else it succeeds, and touches no name but its own. -/
theorem run_keeps_default (calls : List Registration) :
    (∀ name ≠ defaultName,
        (run calls).byName? name = (calls.reverse.find? (·.target == name)).map engine) ∧
      (run calls).engine? = (calls.find? (·.target == defaultName)).map engine ∧
        ∀ next : Registration,
          (next.IsLate calls ∧
            next.attempt (run calls) = .error (.invalidArgument (.engineExists defaultName)) ∧
              run (calls ++ [next]) = run calls) ∨
          (¬ next.IsLate calls ∧ next.attempt (run calls) = .ok (run (calls ++ [next])) ∧
            (run (calls ++ [next])).byName? next.target = some next.engine ∧
              ∀ name ≠ next.target,
                (run (calls ++ [next])).byName? name = (run calls).byName? name) := by
  refine ⟨fun name other => byName?_run_of_ne other calls, byName?_run_default calls, fun next => ?_⟩
  rw [run_append_singleton]
  by_cases late : next.IsLate calls
  · obtain ⟨reached, taken⟩ := isLate_iff.mp late
    exact .inl ⟨late, attempt_of_taken reached taken⟩
  · obtain ⟨succeeds, written⟩ := attempt_of_free fun taken => late (isLate_iff.mpr taken)
    refine .inr ⟨late, succeeds, ?_, fun name other => ?_⟩
    · rw [written, Registry.byName?, Table.get?_insert, if_pos rfl]
    · rw [byName?_step, if_neg other.symm]

/-- The default name is reached through a dialect first, and by its name after that; another name is given to two
engines. -/
theorem run_keeps_default_indirect :
    let first : Engine := ⟨{ Dialect.ansi with name := "default" }, {}⟩
    let second : Engine := ⟨Dialect.sqlite, {}⟩
    let third : Engine := ⟨Dialect.mysql, {}⟩
    let calls := [own first, named "reports" second, own second, named "reports" third]
    "reports" ≠ defaultName ∧ (run calls).byName? "reports" = some third ∧
      (run calls).engine? = some first ∧
        (named "default" second).attempt (run calls) =
            .error (.invalidArgument (.engineExists "default")) ∧
          run (calls ++ [named "default" second]) = run calls := by
  intro first second third calls
  have other : "reports" ≠ defaultName := by decide
  obtain ⟨last, held, next⟩ := run_keeps_default calls
  refine ⟨other, last "reports" other, held, ?_⟩
  rcases next (named "default" second) with ⟨-, refused, same⟩ | ⟨free, -⟩
  · exact ⟨refused, same⟩
  · exact absurd ⟨rfl, own first, List.mem_cons_self, rfl⟩ free

end Registration

end ContentQuery
