import ContentQuery.Text.Printable

/-!
# Escaped text

Text between delimiters in which every character that cannot be seen is written as an escape.
-/

namespace ContentQuery.Text

/-- A character inside a text that `delimiter` ends. -/
def escapedChar (delimiter : Char) (c : Char) : List Char :=
  match c with
  | '\x00' => ['\\', '0']
  | '\t' => ['\\', 't']
  | '\r' => ['\\', 'r']
  | '\n' => ['\\', 'n']
  | '\\' => ['\\', '\\']
  | c =>
    if c == delimiter then ['\\', c]
    else if isPrintable c then [c]
    else ['\\', 'u', '\x7b'] ++ Nat.toDigits 16 c.toNat ++ ['\x7d']

def escaped (s : String) : String :=
  String.ofList ('"' :: (s.toList.flatMap (escapedChar '"') ++ ['"']))

def escapedQuote (c : Char) : String :=
  String.ofList ('\'' :: (escapedChar '\'' c ++ ['\'']))

end ContentQuery.Text
