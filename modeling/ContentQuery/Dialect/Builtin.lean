import ContentQuery.Dialect.Basic

/-!
# Known dialects
-/

namespace ContentQuery.Dialect

/-- The standard, with a question mark for every parameter. -/
def ansi : Dialect where
  name := "ansi"
  placeholder _ _ := "?"

/-- Truth values are integers, dates and times are texts. -/
def sqlite : Dialect where
  name := "sqlite"
  placeholder _ _ := "?"
  boolLiteral b := if b then "1" else "0"
  dateLiteral d := "'" ++ d.text ++ "'"
  dateTimeLiteral dt := "'" ++ dt.text " " .exact ++ "'"

/-- Identifiers stand between grave accents, a backslash in a string escapes the character after it,
and dates and times are texts. -/
def mysql : Dialect where
  name := "mysql"
  placeholder _ _ := "?"
  quoteIdentifier := Text.quoted '\x60' (· == '\x60')
  quoteString := Text.quoted '\'' fun c => c == '\\' || c == '\''
  dateLiteral d := "'" ++ d.text ++ "'"
  dateTimeLiteral dt := "'" ++ dt.text " " .micro ++ "'"

end ContentQuery.Dialect
