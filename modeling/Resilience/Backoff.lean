/-
# Delays between attempts

The delay after an attempt grows by a constant factor from one attempt to the next, is spread at random
around that value, and never exceeds the longest delay.

```text
  base   = first delay * multiplier ^ attempt
  delay  = base * (1 - factor + 2 * factor * sample),   sample in [0, 1)
  result = min delay longest
```

* `Strategy`: what the delays depend on.
* `Strategy.draws`: whether a delay needs a random sample.
* `Strategy.delay`: the delay for a given sample, `Strategy.nextBackoff` as a program that draws it.
* `power`: powers of a double by repeated squaring.
-/
import Resilience.Duration.Seconds
import Resilience.Program

namespace Resilience

/-- Multiplies `acc` by the power `a ^ n`, squaring `a` from step to step. -/
def powerOnto (acc a : Float) (n : Nat) : Float :=
  let acc := if n % 2 = 1 then acc * a else acc
  if n / 2 = 0 then acc else powerOnto acc (a * a) (n / 2)
termination_by n
decreasing_by omega

/-- The power `a ^ n`. -/
def power (a : Float) (n : Nat) : Float := powerOnto 1.0 a n

/-- The largest exponent that is used. -/
def maxExponent : Nat := 2147483647

/-- What the delays depend on. -/
structure Strategy where
  maxAttempts : UInt32
  initialInterval : Duration
  maxInterval : Duration
  multiplier : Float
  randomFactor : Float
deriving Inhabited

/-- The strategy of settings. -/
def RetryConfig.strategy (c : RetryConfig) : Strategy where
  maxAttempts := c.maxAttempts
  initialInterval := c.initialInterval
  maxInterval := c.maxInterval
  multiplier := c.multiplier
  randomFactor := c.randomFactor

namespace Strategy

/-- The delay after an attempt before it is spread, in seconds. -/
def base (s : Strategy) (attempt : Nat) : Float :=
  s.initialInterval.toSeconds * power s.multiplier (min attempt maxExponent)

/-- What a delay is multiplied by for a sample. -/
def spread (s : Strategy) (sample : Float) : Float :=
  1.0 - s.randomFactor + 2.0 * s.randomFactor * sample

/-- The span of so many seconds, at most the longest delay; no delay for what is no positive number. -/
def clamp (s : Strategy) (seconds : Float) : Duration :=
  if seconds.isNaN || seconds ≤ 0.0 then .zero
  else
    match Duration.ofSeconds? seconds with
    | some d => min d s.maxInterval
    | none => s.maxInterval

/-- Whether the delay after an attempt needs a random sample. -/
def draws (s : Strategy) (attempt : Nat) : Bool :=
  attempt < s.maxAttempts.toNat && 0.0 < s.randomFactor

/-- The delay after an attempt, spread if there is a sample. -/
def delay (s : Strategy) (attempt : Nat) (sample : Option Float) : Duration :=
  if s.maxAttempts.toNat ≤ attempt then .zero
  else
    match sample with
    | some x => s.clamp (s.base attempt * s.spread x)
    | none => s.clamp (s.base attempt)

/-- The delay after an attempt.  Without a sample where one is needed the delay is not spread. -/
def nextBackoff (s : Strategy) (layer attempt : Nat) : Program Duration := do
  if s.draws attempt then
    let sample : Option Float ← .query (.sample layer)
    if sample.isNone then
      .trace (.debug "jitter source unavailable, using unjittered backoff"
        [("attempt", toString attempt)])
    pure (s.delay attempt sample)
  else pure (s.delay attempt none)

/-- The strategy as a record. -/
def describe (s : Strategy) : String :=
  Text.record "RetryStrategy"
    [("max_attempts", toString s.maxAttempts.toNat),
     ("initial_interval", s.initialInterval.text),
     ("max_interval", s.maxInterval.text),
     ("multiplier", Decimal.fieldLayout.render s.multiplier),
     ("random_factor", Decimal.fieldLayout.render s.randomFactor)]

end Strategy

end Resilience
