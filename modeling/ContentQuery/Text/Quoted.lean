/-!
# Quoted text

A text between two delimiters. A character that would end the text, or that means something else
inside it, is written twice.
-/

namespace ContentQuery.Text

/-- Every special character written twice, all else once. -/
def double (special : Char → Bool) (s : List Char) : List Char :=
  s.flatMap fun c => if special c then [c, c] else [c]

/-- The text between two delimiters, its special characters doubled. -/
def quoted (delimiter : Char) (special : Char → Bool) (s : String) : String :=
  String.ofList (delimiter :: (double special s.toList ++ [delimiter]))

/-- The text between apostrophes, each apostrophe inside it doubled. -/
def apostrophed (s : String) : String :=
  quoted '\'' (· == '\'') s

end ContentQuery.Text
