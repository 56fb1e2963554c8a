import ContentQuery.Node.Basic
import ContentQuery.Value.Equality

/-!
# Equality of query trees

Trees are equal if they have the same shape, names, operators and types, and equal constants.
-/

namespace ContentQuery.Node

mutual

def same : Node → Node → Bool
  | identifier a s, identifier b t => a == b && s == t
  | constant a s, constant b t => a.same b && s == t
  | bindVariable a s, bindVariable b t => a == b && s == t
  | literal a, literal b => a == b
  | function f ps, function g qs => f == g && sameAll ps qs
  | comparison o l r, comparison o' l' r' => o == o' && l.same l' && r.same r'
  | lone o s x, lone o' s' x' => o == o' && s == s' && x.same x'
  | conjunction o l r, conjunction o' l' r' => o == o' && l.same l' && r.same r'
  | negation x, negation x' => x.same x'
  | _, _ => false

def sameAll : List Node → List Node → Bool
  | [], [] => true
  | p :: ps, q :: qs => p.same q && sameAll ps qs
  | _, _ => false

end

end ContentQuery.Node
