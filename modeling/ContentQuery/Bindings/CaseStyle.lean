import ContentQuery.Text.CaseMap
import ContentQuery.Text.Split
import ContentQuery.Text.Uppercase

/-!
# Styles of names

Names of several words are written with underscores between the words, or with a capital at the start
of every word but the first.
-/

namespace ContentQuery.CaseStyle

open Text

/-- Every capital in lower case, with an underscore before it unless it comes first. -/
def snakeFrom (first : Bool) : List Char → List Char
  | [] => []
  | c :: rest =>
    (if isUppercase c then (if first then [] else ['_']) ++ lowerChar c else [c]) ++
      snakeFrom false rest

/-- The name with underscores, for a name that holds a capital. -/
def snake? (s : String) : Option String :=
  if s.toList.any isUppercase then some (String.ofList (snakeFrom true s.toList)) else none

def capitalized : List Char → List Char
  | [] => []
  | c :: rest => upperChar c ++ rest

/-- The name with capitals: its words that are not empty, joined. -/
def camel (s : String) : String :=
  match (splitOn '_' s.toList).filter (!·.isEmpty) with
  | [] => ""
  | first :: rest => String.ofList (first ++ rest.flatMap capitalized)

end ContentQuery.CaseStyle
