/-
# The tokens of a JSON text

A text is cut into tokens byte by byte: marks, words, numbers and strings, with white space between
them.  Whether the tokens form a document is not asked here.

* `Json.Token`, `Json.NumberText`: the tokens; a number keeps its digits, for its value is read later.
* `Json.Token.scan`: the tokens of a text, `none` where no token can be read.
* `Json.Piece.text?`: the text of a string, `none` where its pieces encode no text.
-/
import Resilience.Decimal.Reader

namespace Resilience.Json

/-- A number as it is written. -/
structure NumberText where
  negative : Bool
  whole : List Char
  fraction : Option (List Char)
  exponent : Option Int

/-- A piece of a string: a byte that stands for itself, or a code unit given by its number. -/
inductive Piece where
  | byte (b : UInt8)
  | unit (u : Nat)

/-- A token. -/
inductive Token where
  | openArray
  | closeArray
  | openObject
  | closeObject
  | comma
  | colon
  | null
  | truth (b : Bool)
  | number (n : NumberText)
  | string (text : Option String)

/-! ## Strings -/

/-- The bytes of a character. -/
def charBytes (c : Char) : List UInt8 := (String.singleton c).toUTF8.data.toList

/-- Whether a code unit is the first of a pair. -/
def isHighUnit (u : Nat) : Bool := 0xd800 ≤ u && u ≤ 0xdbff

/-- Whether a code unit is the second of a pair. -/
def isLowUnit (u : Nat) : Bool := 0xdc00 ≤ u && u ≤ 0xdfff

/-- The bytes of the text, last first, unless half of a pair stands alone. -/
def Piece.bytesOnto (done : List UInt8) : List Piece → Option (List UInt8)
  | [] => some done
  | .byte b :: rest => bytesOnto (b :: done) rest
  | [.unit u] =>
    if isHighUnit u || isLowUnit u then none
    else some ((charBytes (Char.ofNat u)).reverse ++ done)
  | .unit u :: .byte b :: rest =>
    if isHighUnit u || isLowUnit u then none
    else bytesOnto (b :: ((charBytes (Char.ofNat u)).reverse ++ done)) rest
  | .unit u :: .unit v :: rest =>
    if isHighUnit u then
      if isLowUnit v then
        let c := Char.ofNat (0x10000 + (u - 0xd800) * 0x400 + (v - 0xdc00))
        bytesOnto ((charBytes c).reverse ++ done) rest
      else none
    else if isLowUnit u then none
    else bytesOnto ((charBytes (Char.ofNat u)).reverse ++ done) (.unit v :: rest)

/-- The text that the pieces stand for. -/
def Piece.text? (pieces : List Piece) : Option String := do
  let bytes ← bytesOnto [] pieces
  String.fromUTF8? ⟨bytes.reverse.toArray⟩

/-- The value of a digit to base sixteen. -/
def hexValue? (b : UInt8) : Option Nat :=
  if 0x30 ≤ b ∧ b ≤ 0x39 then some (b.toNat - 0x30)
  else if 0x41 ≤ b ∧ b ≤ 0x46 then some (b.toNat - 0x37)
  else if 0x61 ≤ b ∧ b ≤ 0x66 then some (b.toNat - 0x57)
  else none

/-- The byte that a short escape stands for. -/
def shortEscape? (b : UInt8) : Option UInt8 :=
  if b = 0x22 ∨ b = 0x5c ∨ b = 0x2f then some b
  else if b = 0x62 then some 8
  else if b = 0x66 then some 12
  else if b = 0x6e then some 10
  else if b = 0x72 then some 13
  else if b = 0x74 then some 9
  else none

/-! ## Numbers -/

/-- The digits at the front, and the rest. -/
def spanDigits (s : List Char) : List Char × List Char :=
  (s.takeWhile Char.isDigit, s.dropWhile Char.isDigit)

/-- Reads a number: no leading zeros, digits on both sides of the point and in the exponent. -/
def NumberText.ofChars? (s : List Char) : Option NumberText :=
  let (negative, s) :=
    match s with
    | '-' :: r => (true, r)
    | r => (false, r)
  let (whole, s) := spanDigits s
  let wholeOk := whole ≠ [] ∧ (whole.head? = some '0' → whole.length = 1)
  let (fraction, s) :=
    match s with
    | '.' :: r => (some (spanDigits r).1, (spanDigits r).2)
    | r => (none, r)
  let marked := s.head? = some 'e' ∨ s.head? = some 'E'
  let exponentOk := s = [] ∨ marked
  if wholeOk ∧ fraction ≠ some [] ∧ exponentOk then
    if s = [] then some ⟨negative, whole, fraction, none⟩
    else (readExponent s).map fun e => ⟨negative, whole, fraction, some e⟩
  else none

/-! ## Scanning -/

/-- What a scan is in the middle of. -/
inductive Mode where
  | idle
  /-- In a word, whose letters are given last first. -/
  | word (letters : List Char)
  /-- In a number, whose characters are given last first. -/
  | number (chars : List Char)
  /-- In a string, whose pieces are given last first. -/
  | string (pieces : List Piece)
  | escape (pieces : List Piece)
  /-- In a string, in a code unit of which `left + 1` digits are missing. -/
  | unit (pieces : List Piece) (left : Nat) (value : Nat)

/-- Whether the byte can stand in a number. -/
def isNumberByte (b : UInt8) : Bool :=
  (0x30 ≤ b && b ≤ 0x39) || b == 0x2d || b == 0x2b || b == 0x2e || b == 0x65 || b == 0x45

/-- The token of a word. -/
def Token.ofWord? (letters : List Char) : Option Token :=
  match String.ofList letters with
  | "null" => some .null
  | "true" => some (.truth true)
  | "false" => some (.truth false)
  | _ => none

/-- Starts a token, or skips white space. -/
def Token.begin (done : List Token) (b : UInt8) : Option (List Token × Mode) :=
  if b = 0x20 ∨ b = 0x09 ∨ b = 0x0a ∨ b = 0x0d then some (done, .idle)
  else if b = 0x5b then some (.openArray :: done, .idle)
  else if b = 0x5d then some (.closeArray :: done, .idle)
  else if b = 0x7b then some (.openObject :: done, .idle)
  else if b = 0x7d then some (.closeObject :: done, .idle)
  else if b = 0x2c then some (.comma :: done, .idle)
  else if b = 0x3a then some (.colon :: done, .idle)
  else if b = 0x22 then some (done, .string [])
  else if b = 0x2d ∨ (0x30 ≤ b ∧ b ≤ 0x39) then some (done, .number [Char.ofNat b.toNat])
  else if 0x61 ≤ b ∧ b ≤ 0x7a then some (done, .word [Char.ofNat b.toNat])
  else none

/-- Reads one byte. -/
def Token.step (done : List Token) (mode : Mode) (b : UInt8) : Option (List Token × Mode) :=
  match mode with
  | .idle => begin done b
  | .word letters =>
    if 0x61 ≤ b ∧ b ≤ 0x7a then some (done, .word (Char.ofNat b.toNat :: letters))
    else do begin ((← ofWord? letters.reverse) :: done) b
  | .number chars =>
    if isNumberByte b then some (done, .number (Char.ofNat b.toNat :: chars))
    else do begin (.number (← NumberText.ofChars? chars.reverse) :: done) b
  | .string pieces =>
    if b = 0x22 then some (.string (Piece.text? pieces.reverse) :: done, .idle)
    else if b = 0x5c then some (done, .escape pieces)
    else if b < 0x20 then none
    else some (done, .string (.byte b :: pieces))
  | .escape pieces =>
    if b = 0x75 then some (done, .unit pieces 3 0)
    else (shortEscape? b).map fun c => (done, .string (.byte c :: pieces))
  | .unit pieces left value => do
    let value := value * 16 + (← hexValue? b)
    match left with
    | 0 => some (done, .string (.unit value :: pieces))
    | left + 1 => some (done, .unit pieces left value)

/-- Ends the scan. -/
def Token.finish (done : List Token) : Mode → Option (List Token)
  | .idle => some done.reverse
  | .word letters => do some ((← ofWord? letters.reverse) :: done).reverse
  | .number chars => do some (.number (← NumberText.ofChars? chars.reverse) :: done).reverse
  | _ => none

/-- Scans the rest of a text. -/
def Token.scanFrom (done : List Token) (mode : Mode) : List UInt8 → Option (List Token)
  | [] => finish done mode
  | b :: rest =>
    match step done mode b with
    | none => none
    | some (done, mode) => scanFrom done mode rest

/-- The tokens of a text. -/
def Token.scan (bytes : List UInt8) : Option (List Token) := scanFrom [] .idle bytes

end Resilience.Json
