/-
# Texts in bytes

* `Text.Utf8Fault`: where and how bytes stop being the encoding of a text.
* `Text.utf8Fault?`: the first such place, `none` for the encoding of a text.
* `Text.decode`: the text that bytes encode, or the fault.
-/

namespace Resilience.Text

/-- A place where bytes are not the encoding of a character. -/
inductive Utf8Fault where
  /-- The `length` bytes from `index` on begin no character. -/
  | invalid (length index : Nat)
  /-- The bytes end inside the character that begins at `index`. -/
  | incomplete (index : Nat)
deriving DecidableEq

/-- The wording of a fault. -/
def Utf8Fault.message : Utf8Fault → String
  | .invalid length index =>
    "invalid utf-8 sequence of " ++ toString length ++ " bytes from index " ++ toString index
  | .incomplete index => "incomplete utf-8 byte sequence from index " ++ toString index

/-- Whether the byte continues a character. -/
def isContinuation (b : UInt8) : Bool := 0x80 ≤ b && b ≤ 0xbf

/-- Whether `b` may follow the leading byte `lead` of a character of three bytes: no shorter form
exists, and the code point is no surrogate. -/
def secondOfThree (lead b : UInt8) : Bool :=
  isContinuation b && (lead != 0xe0 || 0xa0 ≤ b) && (lead != 0xed || b ≤ 0x9f)

/-- Whether `b` may follow the leading byte `lead` of a character of four bytes: no shorter form
exists, and the code point is in range. -/
def secondOfFour (lead b : UInt8) : Bool :=
  isContinuation b && (lead != 0xf0 || 0x90 ≤ b) && (lead != 0xf4 || b ≤ 0x8f)

/-- The first fault in bytes of which the first is at `index`. -/
def utf8FaultFrom (index : Nat) : List UInt8 → Option Utf8Fault
  | [] => none
  | a :: rest =>
    if a < 0x80 then utf8FaultFrom (index + 1) rest
    else if 0xc2 ≤ a ∧ a ≤ 0xdf then
      match rest with
      | [] => some (.incomplete index)
      | b :: rest =>
        if isContinuation b then utf8FaultFrom (index + 2) rest else some (.invalid 1 index)
    else if 0xe0 ≤ a ∧ a ≤ 0xef then
      match rest with
      | [] => some (.incomplete index)
      | [b] => some (if secondOfThree a b then .incomplete index else .invalid 1 index)
      | b :: c :: rest =>
        if !secondOfThree a b then some (.invalid 1 index)
        else if !isContinuation c then some (.invalid 2 index)
        else utf8FaultFrom (index + 3) rest
    else if 0xf0 ≤ a ∧ a ≤ 0xf4 then
      match rest with
      | [] => some (.incomplete index)
      | [b] => some (if secondOfFour a b then .incomplete index else .invalid 1 index)
      | [b, c] =>
        some (if !secondOfFour a b then .invalid 1 index
          else if isContinuation c then .incomplete index else .invalid 2 index)
      | b :: c :: d :: rest =>
        if !secondOfFour a b then some (.invalid 1 index)
        else if !isContinuation c then some (.invalid 2 index)
        else if !isContinuation d then some (.invalid 3 index)
        else utf8FaultFrom (index + 4) rest
    else some (.invalid 1 index)

/-- The first place where the bytes are not the encoding of a text. -/
def utf8Fault? (bytes : ByteArray) : Option Utf8Fault := utf8FaultFrom 0 bytes.data.toList

/-- The text that the bytes encode. -/
def decode (bytes : ByteArray) : Except Utf8Fault String :=
  match String.fromUTF8? bytes with
  | some s => .ok s
  | none => .error ((utf8Fault? bytes).getD (.incomplete bytes.size))

end Resilience.Text
