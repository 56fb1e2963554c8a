import ContentQuery.Table
import ContentQuery.TypeTag

/-!
# Schemas

The types of the properties of a content store.
-/

namespace ContentQuery

/-- The type of each known property, by decoded name. -/
abbrev Schema := String → Option TypeTag

/-- A schema that can be changed. -/
abbrev PropertyTypes := Table TypeTag

namespace PropertyTypes

def schema (types : PropertyTypes) : Schema :=
  types.get?

end PropertyTypes

end ContentQuery
