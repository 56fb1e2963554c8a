import ContentQuery.Bindings.Bindable
import ContentQuery.Bindings.Record
import ContentQuery.Dialect.Builtin
import ContentQuery.Engine.Log
import ContentQuery.Engine.Registry
import ContentQuery.Node.Equality
import ContentQuery.Node.Passes
import ContentQuery.Serial
import ContentQuery.Proofs.Subtrees
import ContentQuery.Proofs.Rendering.Faults
import ContentQuery.Proofs.Rendering.Renders
import ContentQuery.Proofs.Rendering.Invariance
import ContentQuery.Proofs.Translation
import ContentQuery.Proofs.Lexer
import ContentQuery.Proofs.Containment
import ContentQuery.Proofs.Composition
import ContentQuery.Proofs.Spelling
import ContentQuery.Proofs.Injection
import ContentQuery.Proofs.Typing
import ContentQuery.Proofs.WellFormed
import ContentQuery.Proofs.Acceptance
import ContentQuery.Proofs.Rendering.Segments
import ContentQuery.Proofs.Inlining
import ContentQuery.Proofs.VariableUses
import ContentQuery.Proofs.Independence
import ContentQuery.Proofs.NameCodec
import ContentQuery.Proofs.Nesting
import ContentQuery.Proofs.Outline
import ContentQuery.Proofs.Clauses
import ContentQuery.Proofs.Skeleton
import ContentQuery.Proofs.Chain
import ContentQuery.Proofs.Grouping
import ContentQuery.Proofs.Nulls
import ContentQuery.Proofs.Numbering
import ContentQuery.Proofs.Substitution
import ContentQuery.Proofs.Resolution
import ContentQuery.Proofs.Descent
import ContentQuery.Proofs.Offences
import ContentQuery.Proofs.Inconsistency
import ContentQuery.Proofs.OperandOrder
import ContentQuery.Proofs.Rendering.Writing
import ContentQuery.Proofs.Dialects
import ContentQuery.Proofs.Meaning
import ContentQuery.Proofs.Quoting
import ContentQuery.Proofs.Rerendering
import ContentQuery.Proofs.FieldNames
import ContentQuery.Proofs.Records
import ContentQuery.Proofs.Serialized
import ContentQuery.Proofs.Accounting
import ContentQuery.Proofs.Coercion
import ContentQuery.Proofs.Integers
import ContentQuery.Proofs.Dates
import ContentQuery.Proofs.LetterCase
import ContentQuery.Proofs.EmptyLists
import ContentQuery.Proofs.Nearest
import ContentQuery.Proofs.Truncation
import ContentQuery.Proofs.Keys
import ContentQuery.Proofs.Paths
import ContentQuery.Proofs.Serialization
import ContentQuery.Proofs.Walk
import ContentQuery.Proofs.Passes
import ContentQuery.Proofs.Registrations
import ContentQuery.Proofs.PlainNames
