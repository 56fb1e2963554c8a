import ContentQuery.Text.Alphabetic
import ContentQuery.Text.Hex
import ContentQuery.Text.Numeric

/-!
# Property names

A property name may hold any character. In its encoded form a character that a bare name cannot hold
is written `_xHHHH_`, by its code point in four hexadecimal digits, or in eight beyond `FFFF`. An
underscore that would read as the start of an escape is itself escaped.
-/

namespace ContentQuery.Name

open Text

/-- Whether a bare name may hold the character; digits, hyphens and dots not in first place. -/
def isPlain (c : Char) (first : Bool) : Bool :=
  isAlphabetic c || c == '_' || c == ':' || (!first && (isNumeric c || c == '-' || c == '.'))

/-- An escape of `width` digits at the start of a text: its character and the text after it. -/
def escapeOfWidth? (width : Nat) : List Char → Option (Char × List Char)
  | '_' :: 'x' :: body =>
    match readHex? 0 (body.take width), body.drop width with
    | some n, '_' :: rest => if n.isValidChar then some (Char.ofNat n, rest) else none
    | _, _ => none
  | _ => none

/-- An escape at the start of a text: its character and the text after it. -/
def escape? (s : List Char) : Option (Char × List Char) :=
  (escapeOfWidth? 4 s).or (escapeOfWidth? 8 s)

theorem length_of_escapeOfWidth? {width : Nat} {s rest : List Char} {c : Char}
    (h : escapeOfWidth? width s = some (c, rest)) : rest.length < s.length := by
  unfold escapeOfWidth? at h
  split at h
  · rename_i body
    split at h
    · rename_i n tail _ htail
      split at h
      · obtain ⟨-, rfl⟩ := Prod.mk.inj (Option.some.inj h)
        have hlen := congrArg List.length htail
        simp only [List.length_drop, List.length_cons] at hlen ⊢
        omega
      · cases h
    · cases h
  · cases h

theorem length_of_escape? {s rest : List Char} {c : Char} (h : escape? s = some (c, rest)) :
    rest.length < s.length := by
  rcases Option.or_eq_some_iff.1 h with h | ⟨-, h⟩
  · exact length_of_escapeOfWidth? h
  · exact length_of_escapeOfWidth? h

/-- Every escape replaced by its character, from the left. -/
def decodeChars (s : List Char) : List Char :=
  match h : escape? s with
  | some (c, rest) =>
    have := length_of_escape? h
    c :: decodeChars rest
  | none =>
    match s with
    | [] => []
    | c :: rest => c :: decodeChars rest
termination_by s.length

def escape (c : Char) : List Char :=
  ['_', 'x'] ++ hexDigits (if c.toNat ≤ 0xFFFF then 4 else 8) c.toNat ++ ['_']

/-- Every character that a bare name cannot hold replaced by its escape. -/
def encodeChars (first : Bool) : List Char → List Char
  | [] => []
  | c :: rest =>
    (if (escape? (c :: rest)).isNone && isPlain c first then [c] else escape c) ++
      encodeChars false rest

/-- The name that an encoded name stands for; text that only resembles an escape stays as it is. -/
def decode (encoded : String) : String :=
  String.ofList (decodeChars encoded.toList)

def encode (name : String) : String :=
  String.ofList (encodeChars true name.toList)

end ContentQuery.Name
