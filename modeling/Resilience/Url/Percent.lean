/-
# Percent-encoding

* `Url.EncodeSet`: the characters that are written as bytes `%XX` in a part of an address; characters
  beyond the basic ones always are.
* `Url.encodeChars`: a text with those characters encoded.
* `Url.decodeBytes`: the bytes of a text with its `%XX` read.
-/
import Resilience.Text.Quoted

namespace Resilience.Url

/-- A set of basic characters that have to be encoded. -/
abbrev EncodeSet := Char → Bool

/-- Control characters. -/
def controlSet : EncodeSet := fun c => c.toNat < 0x20 || c.toNat = 0x7f

/-- What is encoded in a fragment. -/
def fragmentSet : EncodeSet := fun c => controlSet c || c ∈ [' ', '"', '<', '>', '`']

/-- What is encoded in a query. -/
def querySet : EncodeSet := fun c => controlSet c || c ∈ [' ', '"', '#', '<', '>']

/-- What is encoded in a query of one of the special schemes. -/
def specialQuerySet : EncodeSet := fun c => querySet c || c = '\''

/-- What is encoded in a path. -/
def pathSet : EncodeSet := fun c => fragmentSet c || c ∈ ['#', '?', '^', '\x7b', '\x7d']

/-- What is encoded in a user name or password. -/
def userSet : EncodeSet := fun c =>
  pathSet c || c ∈ ['/', ':', ';', '=', '@', '[', '\\', ']', '^', '|']

/-- A byte as a percent sign and two digits. -/
def encodeByte (b : UInt8) : List Char := '%' :: (Text.hexByte b).map Char.toUpper

/-- One character, encoded if it has to be. -/
def encodeChar (set : EncodeSet) (c : Char) : List Char :=
  if c.toNat < 0x80 && !set c then [c]
  else (String.singleton c).toUTF8.data.toList.flatMap encodeByte

/-- A text with the characters of the set encoded. -/
def encodeChars (set : EncodeSet) (s : List Char) : List Char := s.flatMap (encodeChar set)

/-- The value of a digit to base sixteen. -/
def hexDigit? (c : Char) : Option Nat :=
  if '0' ≤ c ∧ c ≤ '9' then some (c.toNat - '0'.toNat)
  else if 'a' ≤ c ∧ c ≤ 'f' then some (c.toNat - 'a'.toNat + 10)
  else if 'A' ≤ c ∧ c ≤ 'F' then some (c.toNat - 'A'.toNat + 10)
  else none

/-- The bytes of a text, a percent sign with two digits read as one byte. -/
def decodeBytes : List Char → List UInt8
  | [] => []
  | [c] => (String.singleton c).toUTF8.data.toList
  | [c, d] => (String.ofList [c, d]).toUTF8.data.toList
  | c :: d :: e :: rest =>
    match c, hexDigit? d, hexDigit? e with
    | '%', some high, some low => UInt8.ofNat (high * 16 + low) :: decodeBytes rest
    | _, _, _ => (String.singleton c).toUTF8.data.toList ++ decodeBytes (d :: e :: rest)

end Resilience.Url
