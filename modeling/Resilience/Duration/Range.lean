/-
# Checks that a measured span is in range

* `Duration.checkBetween`: the span lies between two bounds, bounds included.
* `Duration.checkNear`: the span is within a tolerance of the expected one.
* `RangeFault`: why a check failed, and its wording.
-/
import Resilience.Duration.Text

namespace Resilience

/-- Why a span failed a range check. -/
inductive RangeFault where
  | outside (actual low high : Duration)
  | boundOverflow

/-- The wording of a failed range check. -/
def RangeFault.message : RangeFault → String
  | .outside actual low high =>
    "Duration " ++ actual.text ++ " not in range [" ++ low.text ++ ", " ++ high.text ++ "]"
  | .boundOverflow => "overflow when adding durations"

namespace Duration

/-- Passes if `low ≤ actual ≤ high`. -/
def checkBetween (actual low high : Duration) : Except RangeFault Unit :=
  if low ≤ actual ∧ actual ≤ high then .ok () else .error (.outside actual low high)

/-- Passes if `actual` differs from `expected` by at most `tolerance`; the lower bound is truncated
at zero, the upper one has to exist. -/
def checkNear (actual expected tolerance : Duration) : Except RangeFault Unit :=
  match expected.add? tolerance with
  | none => .error .boundOverflow
  | some high => checkBetween actual (expected - tolerance) high

end Duration

end Resilience
