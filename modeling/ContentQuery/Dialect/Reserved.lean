import ContentQuery.Text.Split

/-!
# Reserved words

Words that cannot stand as bare column names.
-/

namespace ContentQuery

def reservedWords : List String := [
  "ALL", "ALTER", "AND", "AS", "ASC", "BETWEEN", "BY", "CASE", "CHECK", "COLUMN", "CONSTRAINT",
  "CREATE", "CROSS", "DEFAULT", "DELETE", "DESC", "DISTINCT", "DROP", "ELSE", "END", "EXISTS",
  "FALSE", "FOR", "FOREIGN", "FROM", "FULL", "GROUP", "HAVING", "IN", "INDEX", "INNER", "INSERT",
  "INTO", "IS", "JOIN", "KEY", "LEFT", "LIKE", "LIMIT", "NOT", "NULL", "OFFSET", "ON", "OR", "ORDER",
  "OUTER", "PRIMARY", "REFERENCES", "RIGHT", "SELECT", "SET", "TABLE", "THEN", "TO", "TRUE", "UNION",
  "UNIQUE", "UPDATE", "USING", "VALUES", "WHEN", "WHERE", "WITH"]

/-- Whether a name is a reserved word in any case. -/
def isReserved (name : String) : Bool :=
  reservedWords.any (Text.sameIgnoringCase · name)

end ContentQuery
