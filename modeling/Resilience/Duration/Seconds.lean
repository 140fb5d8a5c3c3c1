/-
# Spans as seconds in floating point

* `Duration.toSeconds`: the span in seconds, as a double.
* `Duration.ofSeconds?`: the span of so many seconds, to the nearest nanosecond with a half to the
  even one; spans that are out of range do not exist.
-/
import Resilience.Duration.Basic
import Resilience.Decimal.Dyadic

namespace Resilience.Duration

/-- The span in seconds: whole seconds and the rest are converted apart and added. -/
def toSeconds (d : Duration) : Float :=
  d.seconds.toFloat + (UInt64.ofNat d.subsecNanos).toFloat / 1e9

/-- The span of `x` seconds for a positive `x`, to the nearest nanosecond. -/
def ofSeconds? (x : Float) : Option Duration :=
  if x.isInf then none
  else
    let d := Dyadic.ofFloat x
    if d.exponent > 64 then none
    else ofNanos? (roundHalfEven (d.numerator * 1000000000) d.denominator)

end Resilience.Duration
