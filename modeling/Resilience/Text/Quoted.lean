/-
# Quoted text

A text is quoted between double quotes.  Tab, line feed, carriage return, NUL, the quote and the
backslash have short escapes, other characters without a shape of their own are written by their
code point, `\u{200b}`.

* `Text.quoted`: the quoted form of a text.
* `Text.quotedBytes`: the quoted form of bytes, of which only visible basic characters stand for
  themselves.
-/
import Resilience.Text.Printable

namespace Resilience.Text

/-- The digits of a number to base sixteen, in lower case. -/
def hexDigits (n : Nat) : List Char := Nat.toDigits 16 n

/-- One character between the quotes. -/
def escapeChar (c : Char) : List Char :=
  if c = '\x00' then ['\\', '0']
  else if c = '\t' then ['\\', 't']
  else if c = '\n' then ['\\', 'n']
  else if c = '\r' then ['\\', 'r']
  else if c = '"' then ['\\', '"']
  else if c = '\\' then ['\\', '\\']
  else if isPrintable c then [c]
  else ['\\', 'u', '\x7b'] ++ hexDigits c.toNat ++ ['\x7d']

/-- The text between quotes. -/
def quoted (s : String) : String :=
  String.ofList (['"'] ++ s.toList.flatMap escapeChar ++ ['"'])

/-- Two digits to base sixteen, in lower case. -/
def hexByte (b : UInt8) : List Char :=
  let digits := hexDigits b.toNat
  List.replicate (2 - digits.length) '0' ++ digits

/-- One byte between the quotes. -/
def escapeByte (b : UInt8) : List Char :=
  if b = 0 then ['\\', '0']
  else if b = 9 then ['\\', 't']
  else if b = 10 then ['\\', 'n']
  else if b = 13 then ['\\', 'r']
  else if b = 34 then ['\\', '"']
  else if b = 92 then ['\\', '\\']
  else if 32 ≤ b ∧ b < 127 then [Char.ofNat b.toNat]
  else ['\\', 'x'] ++ hexByte b

/-- Bytes between quotes, after the letter `b`. -/
def quotedBytes (bytes : ByteArray) : String :=
  String.ofList (['b', '"'] ++ bytes.data.toList.flatMap escapeByte ++ ['"'])

end Resilience.Text
