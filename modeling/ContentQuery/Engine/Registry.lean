import ContentQuery.Engine.Basic
import ContentQuery.Table

/-!
# The registry of engines

Engines by name. The engine under the default name is registered once and for all; other names can be
given to another engine later.
-/

namespace ContentQuery

abbrev Registry := Table Engine

namespace Registry

/-- The name of the engine that is used unless another is named. -/
def defaultName : String := "default"

def byName? (r : Registry) (name : String) : Option Engine :=
  Table.get? r name

def engine? (r : Registry) : Option Engine :=
  r.byName? defaultName

def registerAs (r : Registry) (name : String) (e : Engine) : Except QueryError Registry :=
  if name = defaultName ∧ (r.byName? name).isSome then
    .error (.invalidArgument (.engineExists name))
  else .ok (Table.insert r name e)

/-- Registers an engine under the name of its dialect. -/
def register (r : Registry) (e : Engine) : Except QueryError Registry :=
  r.registerAs e.dialect.name e

end Registry

end ContentQuery
