/-
# Numbers, truth values and dates of TOML

* `Toml.readScalar`: a value that is neither a string nor made of others.
-/
import Resilience.Decimal.Reader
import Resilience.Document
import Resilience.Toml.Scan

namespace Resilience.Toml

/-- Digits between which single underscores may stand. -/
def separated? (isDigit : Char → Bool) : List Char → Option (List Char)
  | [] => none
  | [c] => if isDigit c then some [c] else none
  | c :: '_' :: rest => if isDigit c then (separated? isDigit rest).map (c :: ·) else none
  | c :: rest => if isDigit c then (separated? isDigit rest).map (c :: ·) else none

/-- A sign and what follows it. -/
def splitSign : List Char → Bool × List Char
  | '-' :: rest => (true, rest)
  | '+' :: rest => (false, rest)
  | s => (false, s)

/-- A whole number in base ten without leading zeros. -/
def decimal? (s : List Char) : Option (List Char) := do
  let digits ← separated? Char.isDigit s
  if digits.head? = some '0' ∧ digits.length > 1 then none else some digits

/-- Whole numbers have at most 128 bits. -/
def bounded? (n : Int) : Option Int :=
  if -0x80000000000000000000000000000000 ≤ n ∧ n < 0x100000000000000000000000000000000 then some n
  else none

/-- The number of digits in a base. -/
def inBase? (base : Nat) (s : List Char) : Option Int := do
  let digits ← separated? (fun c => (hexDigit? c).any (· < base)) s
  bounded? (digits.foldl (fun acc c => acc * base + (hexDigit? c).getD 0) 0 : Nat)

/-- A whole number. -/
def integer? (s : List Char) : Option Int :=
  match s with
  | '0' :: 'x' :: rest => inBase? 16 rest
  | '0' :: 'o' :: rest => inBase? 8 rest
  | '0' :: 'b' :: rest => inBase? 2 rest
  | _ => do
    let (negative, rest) := splitSign s
    let n : Int := digitsValue (← decimal? rest)
    bounded? (if negative then -n else n)

/-- Whether the character begins an exponent. -/
def isExponentMark (c : Char) : Bool := c == 'e' || c == 'E'

/-- A double in digits: whole part, fraction and exponent. -/
def digitsDouble? (s : List Char) : Option Float := do
  let mantissa := s.takeWhile fun c => !isExponentMark c
  let exponent := (s.dropWhile fun c => !isExponentMark c).drop 1
  let marked := s.any isExponentMark
  let whole := mantissa.takeWhile (· ≠ '.')
  let pointed := '.' ∈ mantissa
  let fraction := (mantissa.dropWhile (· ≠ '.')).drop 1
  let whole ← decimal? whole
  let fraction ← if pointed then separated? Char.isDigit fraction else some []
  let (negative, exponentDigits) := splitSign exponent
  let exponent ← if marked then separated? Char.isDigit exponentDigits else some []
  if !pointed ∧ !marked then none
  let e : Int := digitsValue exponent
  let e := if negative then -e else e
  let x := nearestDouble (digitsValue (whole ++ fraction)) (e - fraction.length)
  if x.isInf then none else some x

/-- A double. -/
def double? (s : List Char) : Option Float :=
  let (negative, rest) := splitSign s
  let size :=
    match String.ofList rest with
    | "inf" => some (1.0 / 0.0)
    | "nan" => some (0.0 / 0.0)
    | _ => digitsDouble? rest
  size.map fun x => if negative then -x else x

/-! ## Dates and times -/

/-- A number of exactly so many digits at the front. -/
def fixedDigits (count : Nat) : Reader Nat := fun s =>
  let digits := s.take count
  if digits.length = count ∧ digits.all Char.isDigit then some (digitsValue digits, s.drop count)
  else none

/-- Skips one character. -/
def exactly (c : Char) : Reader Unit
  | d :: rest => if c = d then some ((), rest) else none
  | [] => none

/-- The number of days of a month. -/
def daysIn (year month : Nat) : Nat :=
  if month = 2 then
    if year % 4 = 0 ∧ (year % 100 ≠ 0 ∨ year % 400 = 0) then 29 else 28
  else if month ∈ [4, 6, 9, 11] then 30
  else 31

/-- A date. -/
def readDate : Reader Unit := fun s => do
  let (year, s) ← fixedDigits 4 s
  let ((), s) ← exactly '-' s
  let (month, s) ← fixedDigits 2 s
  let ((), s) ← exactly '-' s
  let (day, s) ← fixedDigits 2 s
  if 1 ≤ month ∧ month ≤ 12 ∧ 1 ≤ day ∧ day ≤ daysIn year month then some ((), s) else none

/-- The seconds of a time with their fraction, which may be left out. -/
def readSeconds : Reader Unit
  | ':' :: s => do
    let (second, s) ← fixedDigits 2 s
    if second > 60 then none
    match s with
    | '.' :: r =>
      if (r.takeWhile Char.isDigit).isEmpty then none else some ((), r.dropWhile Char.isDigit)
    | _ => some ((), s)
  | s => some ((), s)

/-- A time of day. -/
def readTime : Reader Unit := fun s => do
  let (hour, s) ← fixedDigits 2 s
  let ((), s) ← exactly ':' s
  let (minute, s) ← fixedDigits 2 s
  if hour < 24 ∧ minute < 60 then readSeconds s else none

/-- The distance from universal time, which may be left out. -/
def readOffset : Reader Unit
  | 'Z' :: s | 'z' :: s => some ((), s)
  | '+' :: s | '-' :: s => do
    let (hour, s) ← fixedDigits 2 s
    let ((), s) ← exactly ':' s
    let (minute, s) ← fixedDigits 2 s
    if hour < 24 ∧ minute < 60 then some ((), s) else none
  | s => some ((), s)

/-- A date with a time, a date, or a time. -/
def readMoment : Reader Unit := fun s =>
  match readDate s with
  | some ((), rest) =>
    match rest with
    | 'T' :: r | 't' :: r => do readOffset (← readTime r).2
    | ' ' :: d :: r => if d.isDigit then do readOffset (← readTime (d :: r)).2 else some ((), rest)
    | _ => some ((), rest)
  | none => readTime s

/-! ## Scalars -/

/-- Whether the character can stand in a scalar. -/
def isScalarChar (c : Char) : Bool := c.isAlphanum || c ∈ ['_', '+', '-', '.', ':']

/-- A scalar.  A date stands for a table none of whose members is known. -/
def readScalar : Reader Document := fun s =>
  let word := s.takeWhile isScalarChar
  let rest := s.dropWhile isScalarChar
  match String.ofList word with
  | "true" => some (.truth true, rest)
  | "false" => some (.truth false, rest)
  | _ =>
    match integer? word, double? word with
    | some n, _ => some (.integer n, rest)
    | none, some x => some (.double x, rest)
    | none, none =>
      match readMoment s with
      | some ((), rest) => if rest.head?.any isScalarChar then none else some (.table [], rest)
      | none => none

end Resilience.Toml
