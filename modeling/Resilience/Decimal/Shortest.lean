/-
# The shortest decimal that reads back as a double

A double stands for the interval of numbers that round to it.  Among the decimals in that interval
the ones with the fewest digits are taken, and of those the nearest.

* `Decimal`: `significand * 10 ^ exponent`.
* `Decimal.shortest`: the shortest decimal of a positive finite double.
* `Decimal.Layout`: where positional notation ends; `Decimal.Layout.render` writes a double.
-/
import Resilience.Decimal.Dyadic

namespace Resilience

/-- The number `significand * 10 ^ exponent`. -/
structure Decimal where
  significand : Nat
  exponent : Int
deriving DecidableEq

namespace Decimal

/-- Compares `a * 2 ^ p` with `b * 10 ^ q`, through whole numbers. -/
def compareScaled (a : Nat) (p : Int) (b : Nat) (q : Int) : Ordering :=
  compare ((a <<< p.toNat) * Nat.pow 10 (-q).toNat) ((b <<< (-p).toNat) * Nat.pow 10 q.toNat)

/-- The interval of numbers that round to a double, in quarters of its last place. -/
structure Interval where
  /-- The lower end, in quarters of a unit. -/
  low : Nat
  /-- The value itself, in quarters of a unit. -/
  mid : Nat
  /-- The upper end, in quarters of a unit. -/
  high : Nat
  /-- The power of two that a quarter stands for. -/
  exponent : Int
  /-- Whether the ends round to the double too. -/
  closed : Bool

/-- The interval of a positive double.  Just above a power of two the lower half is shorter, and
the ends belong to the interval when the significand is even. -/
def Interval.ofDyadic (d : Dyadic) : Interval :=
  let m := d.significand
  { low := if m = Dyadic.implied ∧ d.exponent ≠ -1074 then 4 * m - 1 else 4 * m - 2
    mid := 4 * m
    high := 4 * m + 2
    exponent := d.exponent - 2
    closed := m % 2 == 0 }

/-- Whether the decimal lies in the interval. -/
def Interval.contains (i : Interval) (d : Decimal) : Bool :=
  let below := compareScaled i.low i.exponent d.significand d.exponent
  let above := compareScaled i.high i.exponent d.significand d.exponent
  (below == .lt || i.closed && below == .eq) && (above == .gt || i.closed && above == .eq)

/-- The number of digits before the decimal point, negative for zeros after it: the least `k` with
`v < 10 ^ k`.  The binary logarithm leaves four candidates. -/
def Interval.magnitude (i : Interval) : Int :=
  let guess := ((i.mid.log2 : Int) + i.exponent) * 30103 / 100000
  let candidates := [guess - 1, guess, guess + 1, guess + 2]
  (candidates.find? fun k => compareScaled i.mid i.exponent 1 k == .lt).getD (guess + 2)

/-- The best decimal of the interval on the grid of multiples of `10 ^ e`: one of the two neighbours
of the value, the nearer one if both lie in the interval. -/
def Interval.onGrid (i : Interval) (e : Int) : Option Decimal :=
  let num := (i.mid <<< i.exponent.toNat) * Nat.pow 10 (-e).toNat
  let den := (1 <<< (-i.exponent).toNat) * Nat.pow 10 e.toNat
  let down : Decimal := ⟨num / den, e⟩
  let up : Decimal := ⟨num / den + 1, e⟩
  match i.contains down, i.contains up with
  | true, true => some ⟨roundHalfEven num den, e⟩
  | true, false => some down
  | false, true => some up
  | false, false => none

/-- Drops trailing zeros of a positive significand. -/
def normalize (d : Decimal) : Decimal :=
  if h : d.significand ≠ 0 ∧ d.significand % 10 = 0 then
    normalize ⟨d.significand / 10, d.exponent + 1⟩
  else d
termination_by d.significand
decreasing_by omega

/-- The shortest decimal that reads back as the positive finite double `x`: the first grid of one
to seventeen digits with a hit. -/
def shortest (x : Float) : Decimal :=
  let i := Interval.ofDyadic (.ofFloat x)
  let k := i.magnitude
  let hit := (List.range 17).findSome? fun n => i.onGrid (k - (n + 1 : Nat))
  (hit.getD ⟨0, 0⟩).normalize

/-- Where positional notation ends, as numbers of digits before the decimal point. -/
structure Layout where
  /-- The least number of digits before the point, negative for zeros after it. -/
  least : Int
  /-- The greatest number of digits before the point. -/
  greatest : Int

/-- The digits of a number. -/
def digitsOf (n : Nat) : List Char := Nat.toDigits 10 n

/-- Positional notation for the digits, `point` of which stand before the decimal point. -/
def positional (digits : List Char) (point : Int) : String :=
  if point ≤ 0 then "0." ++ String.ofList (List.replicate (-point).toNat '0' ++ digits)
  else
    let whole := digits.take point.toNat
    let whole := whole ++ List.replicate (point.toNat - whole.length) '0'
    let rest := digits.drop point.toNat
    String.ofList whole ++ "." ++ (if rest.isEmpty then "0" else String.ofList rest)

/-- Exponent notation: one digit, the others after the point if there are any, and the power. -/
def scientific (digits : List Char) (point : Int) : String :=
  let rest := digits.drop 1
  String.ofList (digits.take 1) ++ (if rest.isEmpty then "" else "." ++ String.ofList rest)
    ++ "e" ++ toString (point - 1)

/-- Writes a positive finite double. -/
def Layout.magnitude (l : Layout) (x : Float) : String :=
  let d := shortest x
  let digits := digitsOf d.significand
  let point := (digits.length : Int) + d.exponent
  if l.least ≤ point ∧ point ≤ l.greatest then positional digits point
  else scientific digits point

/-- Writes a double: `NaN`, `inf` and `-inf` by name, zeros with their sign, whole numbers with a
final `.0`. -/
def Layout.render (l : Layout) (x : Float) : String :=
  if x.isNaN then "NaN"
  else
    let minus := if x.toBits ≥ 0x8000000000000000 then "-" else ""
    let size := x.abs
    if size.isInf then minus ++ "inf"
    else if size == 0.0 then minus ++ "0.0"
    else minus ++ l.magnitude size

/-- A double as a field of a record is positional from `0.0001` to below `10 ^ 16`. -/
def fieldLayout : Layout := ⟨-3, 16⟩

end Decimal

end Resilience
