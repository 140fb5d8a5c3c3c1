/-
# Spans as text

A span is written in the largest of the units `s`, `ms`, `µs` and `ns` in which it is at least one,
as an exact decimal without trailing zeros: `1.5s`, `100ms`, `1.5µs`, `0ns`.

* `Duration.text`: the span in that form.
-/
import Resilience.Duration.Basic

namespace Resilience.Duration

/-- The digits of `n`, filled up with leading zeros to `width`. -/
def paddedDigits (width n : Nat) : List Char :=
  let digits := Nat.toDigits 10 n
  List.replicate (width - digits.length) '0' ++ digits

/-- The fraction `n / 10 ^ width` after the decimal point, without trailing zeros, nothing if it is
zero. -/
def fractionText (width n : Nat) : String :=
  let digits := ((paddedDigits width n).reverse.dropWhile (· == '0')).reverse
  if n = 0 then "" else "." ++ String.ofList digits

/-- The span in its largest fitting unit. -/
def text (d : Duration) : String :=
  let n := d.nanos
  if 1000000000 ≤ n then
    toString (n / 1000000000) ++ fractionText 9 (n % 1000000000) ++ "s"
  else if 1000000 ≤ n then toString (n / 1000000) ++ fractionText 6 (n % 1000000) ++ "ms"
  else if 1000 ≤ n then toString (n / 1000) ++ fractionText 3 (n % 1000) ++ "µs"
  else toString n ++ "ns"

end Resilience.Duration
