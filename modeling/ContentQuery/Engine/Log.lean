import ContentQuery.Engine.Basic

/-!
# Log records

What an engine writes to the log: the properties that it resolved, the fragments that it copied, and
the outcome.
-/

namespace ContentQuery

inductive LogLevel where
  | trace | debug
  deriving Repr, DecidableEq

def LogLevel.label : LogLevel → String
  | trace => "TRACE"
  | debug => "DEBUG"

inductive LogSource where
  | resolve | render | engine
  deriving Repr, DecidableEq

def LogSource.label : LogSource → String
  | resolve => "resolve"
  | render => "render"
  | engine => "engine"

structure LogRecord where
  level : LogLevel
  source : LogSource
  message : String

namespace LogRecord

def ofProperty (found : PropertyFound) : LogRecord :=
  ⟨.trace, .resolve, "Resolve: property=" ++ found.name ++ ", type=" ++ found.tag.name⟩

def ofFragment (text : String) : LogRecord :=
  ⟨.debug, .render, "Render: splicing verbatim fragment `" ++ text ++ "`"⟩

def detailedParams (params : List (String × Value)) : String :=
  "[" ++ ", ".intercalate
    (params.map fun (name, value) => "(" ++ Text.escaped name ++ ", " ++ value.detailed ++ ")") ++ "]"

/-- A tree was translated, or could not be, within a time in microseconds. -/
def ofOutcome (e : Engine) (node : Node) (outcome : Except QueryError Rendered) (elapsed : String) :
    LogRecord :=
  let head := "Translate: dialect=" ++ e.dialect.name ++ ", query=" ++ node.text
  ⟨.debug, .engine,
    match outcome with
    | .ok r =>
      head ++ ", sql=" ++ r.sql ++ ", params=" ++ detailedParams r.params ++ ", elapsed=" ++ elapsed ++
        "us"
    | .error fault => head ++ ", elapsed=" ++ elapsed ++ "us, error=" ++ fault.message⟩

end LogRecord

/-- The records of translating a tree in the given time. -/
def Engine.log (e : Engine) (schema : Schema) (bindings : Bindings) (node : Node) (elapsed : String) :
    List LogRecord :=
  let found := (node.lookups schema e.options.maxDepth 0).steps
  let fragments :=
    match node.resolve schema e.options.maxDepth with
    | .ok resolved =>
      (Trail.steps (resolved.script ⟨bindings, e.options⟩)).filterMap Piece.verbatim?
    | .error _ => []
  found.map .ofProperty ++ fragments.map .ofFragment ++
    [.ofOutcome e node (e.translate schema bindings node) elapsed]

end ContentQuery
