/-
# Numbers from text

* `readNatural bound`: a natural number of at most `bound`, digits only, a leading plus allowed.
* `readDouble`: a double in positional or exponent notation, or one of the names of the special
  values; the nearest double to the written number.

Both name the first thing that is wrong, reading from the left.
-/

namespace Resilience

/-- Why a text is not a natural number of the given size. -/
inductive NaturalFault where
  | empty
  | invalidDigit
  | tooLarge
deriving DecidableEq

/-- The wording of a fault in a natural number. -/
def NaturalFault.message : NaturalFault → String
  | .empty => "cannot parse integer from empty string"
  | .invalidDigit => "invalid digit found in string"
  | .tooLarge => "number too large to fit in target type"

/-- The value of a decimal digit. -/
def digitValue? (c : Char) : Option Nat :=
  if '0' ≤ c ∧ c ≤ '9' then some (c.toNat - '0'.toNat) else none

/-- Reads digits onto `acc`, staying at or below `bound`. -/
def readDigits (bound : Nat) (acc : Nat) : List Char → Except NaturalFault Nat
  | [] => .ok acc
  | c :: rest =>
    match digitValue? c with
    | none => .error .invalidDigit
    | some d => if acc * 10 + d ≤ bound then readDigits bound (acc * 10 + d) rest else .error .tooLarge

/-- Reads a natural number of at most `bound`. -/
def readNatural (bound : Nat) (s : List Char) : Except NaturalFault Nat :=
  match s with
  | [] => .error .empty
  | ['+'] => .error .invalidDigit
  | '+' :: rest => readDigits bound 0 rest
  | _ => readDigits bound 0 s

/-- Why a text is not a double. -/
inductive DoubleFault where
  | empty
  | invalid
deriving DecidableEq

/-- The wording of a fault in a double. -/
def DoubleFault.message : DoubleFault → String
  | .empty => "cannot parse float from empty string"
  | .invalid => "invalid float literal"

/-- The number written by `digits`, all of them decimal digits. -/
def digitsValue (digits : List Char) : Nat :=
  digits.foldl (fun acc c => acc * 10 + (digitValue? c).getD 0) 0

/-- The double nearest to `significand * 10 ^ exponent`.  Numbers far outside the range of doubles
are settled by their size alone. -/
def nearestDouble (significand : Nat) (exponent : Int) : Float :=
  if significand = 0 then 0.0
  else
    let size := ((Nat.toDigits 10 significand).length : Int) + exponent
    if size > 400 then 1.0 / 0.0
    else if size < -400 then 0.0
    else if 0 ≤ exponent then Float.ofScientific significand false exponent.toNat
    else Float.ofScientific significand true (-exponent).toNat

/-- The exponent part of a double: nothing, or a mark, an optional sign and digits. -/
def readExponent (s : List Char) : Option Int :=
  match s with
  | [] => some 0
  | c :: rest =>
    if c = 'e' ∨ c = 'E' then
      let (negative, digits) :=
        match rest with
        | '-' :: r => (true, r)
        | '+' :: r => (false, r)
        | r => (false, r)
      if digits ≠ [] ∧ digits.all Char.isDigit then
        let n : Int := digitsValue digits
        some (if negative then -n else n)
      else none
    else none

/-- Reads an unsigned double in positional or exponent notation. -/
def readUnsignedDouble (s : List Char) : Option Float :=
  let whole := s.takeWhile Char.isDigit
  let afterWhole := s.dropWhile Char.isDigit
  let (fraction, rest) :=
    match afterWhole with
    | '.' :: r => (r.takeWhile Char.isDigit, r.dropWhile Char.isDigit)
    | r => ([], r)
  if whole = [] ∧ fraction = [] then none
  else do
    let exponent ← readExponent rest
    pure (nearestDouble (digitsValue (whole ++ fraction)) (exponent - fraction.length))

/-- Reads a double without its sign: a special value by name, in any case, or a number. -/
def readMagnitude (s : List Char) : Option Float :=
  let name := String.ofList (s.map Char.toLower)
  if name = "inf" ∨ name = "infinity" then some (1.0 / 0.0)
  else if name = "nan" then some (0.0 / 0.0)
  else readUnsignedDouble s

/-- Reads a double. -/
def readDouble (s : List Char) : Except DoubleFault Float :=
  let result :=
    match s with
    | '-' :: r => (readMagnitude r).map Float.neg
    | '+' :: r => readMagnitude r
    | r => readMagnitude r
  match s, result with
  | [], _ => .error .empty
  | _, some x => .ok x
  | _, none => .error .invalid

end Resilience
