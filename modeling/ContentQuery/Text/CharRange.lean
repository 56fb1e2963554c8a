/-!
# Ranges of characters

The tables of the character properties are lists of ranges of code points.
-/

namespace ContentQuery.Text

/-- The code points from `lo` to `hi`, both included. -/
structure CharRange where
  lo : Nat
  hi : Nat
  deriving Repr, DecidableEq

def CharRange.contains (r : CharRange) (c : Char) : Bool :=
  r.lo ≤ c.toNat && c.toNat ≤ r.hi

def inRanges (ranges : List CharRange) (c : Char) : Bool :=
  ranges.any (·.contains c)

/-- Characters below U+0080. -/
def isAscii (c : Char) : Bool :=
  c.toNat < 0x80

end ContentQuery.Text
