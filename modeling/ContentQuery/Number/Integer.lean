/-!
# Sized integers

An integer with the kind of word that holds it. The kind is kept: it shows in the detailed form of a
value, and values of different kinds are different.
-/

namespace ContentQuery

inductive IntegerKind where
  | i8 | i16 | i32 | i64 | u8 | u16 | u32 | u64
  deriving Repr, DecidableEq

namespace IntegerKind

def lo : IntegerKind → Int
  | i8 => -128
  | i16 => -32768
  | i32 => -2147483648
  | i64 => -9223372036854775808
  | u8 | u16 | u32 | u64 => 0

def hi : IntegerKind → Int
  | i8 => 127
  | i16 => 32767
  | i32 => 2147483647
  | i64 => 9223372036854775807
  | u8 => 255
  | u16 => 65535
  | u32 => 4294967295
  | u64 => 18446744073709551615

/-- The kind's name in detailed text. -/
def label : IntegerKind → String
  | i8 => "I8"
  | i16 => "I16"
  | i32 => "I32"
  | i64 => "I64"
  | u8 => "U8"
  | u16 => "U16"
  | u32 => "U32"
  | u64 => "U64"

end IntegerKind

structure Integer where
  kind : IntegerKind
  val : Int
  lo_le : kind.lo ≤ val
  le_hi : val ≤ kind.hi
  deriving DecidableEq

namespace Integer

def ofInt? (kind : IntegerKind) (n : Int) : Option Integer :=
  if h : kind.lo ≤ n ∧ n ≤ kind.hi then some ⟨kind, n, h.1, h.2⟩ else none

def text (n : Integer) : String :=
  toString n.val

/-- The value as a signed 64-bit integer, if it fits. -/
def toSigned64? (n : Integer) : Option Integer :=
  ofInt? .i64 n.val

theorem ofInt?_eq_some_iff {kind : IntegerKind} {n : Int} {m : Integer} :
    ofInt? kind n = some m ↔ m.kind = kind ∧ m.val = n := by
  unfold ofInt?
  constructor
  · intro h
    split at h
    · cases h
      exact ⟨rfl, rfl⟩
    · cases h
  · rintro ⟨rfl, rfl⟩
    rw [dif_pos ⟨m.lo_le, m.le_hi⟩]

end Integer

end ContentQuery
