/-
# Configurations and what makes them valid

* `BreakerConfig`, `RetryConfig`, `TransportConfig` and, made of them, `ClientConfig`: the settings
  with their defaults.
* `ConfigFault`: the reasons to refuse settings, with their wording.
* `validate` for each of them: the first reason in a fixed order, or none.
* `describe`: settings as a record.
-/
import Resilience.Decimal.Shortest
import Resilience.Duration.Text
import Resilience.Text.Record
import Resilience.Text.Quoted

namespace Resilience

/-- Why settings are refused. -/
inductive ConfigFault where
  /-- The breaker would open at the first call. -/
  | failureThreshold
  /-- The breaker would close without a success. -/
  | successesNeeded
  /-- No attempt is allowed. -/
  | maxAttempts
  /-- The growth of the delays is no positive finite number. -/
  | multiplier
  /-- The spread of the delays is outside the unit interval. -/
  | randomFactor
  /-- The first delay is longer than the longest. -/
  | intervals
  | serverErrorThreshold (status : UInt16)
  | transportTimeout
  | innerTransport
  | other (reason : String)
deriving DecidableEq

namespace ConfigFault

/-- The reason in words. -/
def reason : ConfigFault → String
  | .failureThreshold => "failure_threshold must be greater than 0"
  | .successesNeeded => "half_open_success_needed must be greater than 0"
  | .maxAttempts => "max_attempts must be greater than 0"
  | .multiplier => "multiplier must be a finite number greater than 0"
  | .randomFactor => "random_factor must be between 0 and 1"
  | .intervals => "initial_interval must not exceed max_interval"
  | .serverErrorThreshold status =>
    "server_error_threshold must be a valid HTTP status (100-599), got " ++ toString status.toNat
  | .transportTimeout => "transport timeout must be greater than 0"
  | .innerTransport => "an inner transport is required"
  | .other reason => reason

/-- The wording of the fault. -/
def message (f : ConfigFault) : String := "Invalid configuration: " ++ f.reason

end ConfigFault

/-- Fails with the fault unless the condition holds. -/
def demand (p : Prop) [Decidable p] (f : ConfigFault) : Except ConfigFault Unit :=
  if p then .ok () else .error f

/-! ## The breaker -/

/-- The settings of a circuit breaker. -/
structure BreakerConfig where
  enabled : Bool := true
  failureThreshold : UInt32 := 5
  /-- How long an open circuit rejects calls after the last failure. -/
  resetTimeout : Duration := .ofMillis 60000
  successesNeeded : UInt32 := 2
deriving DecidableEq, Inhabited

/-- Both thresholds are positive. -/
def BreakerConfig.validate (c : BreakerConfig) : Except ConfigFault Unit := do
  demand (c.failureThreshold ≠ 0) .failureThreshold
  demand (c.successesNeeded ≠ 0) .successesNeeded

/-- The settings as a record. -/
def BreakerConfig.describe (c : BreakerConfig) : String :=
  Text.record "CircuitBreakerConfig"
    [("enabled", Text.truth c.enabled),
     ("failure_threshold", toString c.failureThreshold.toNat),
     ("reset_timeout", c.resetTimeout.text),
     ("half_open_success_needed", toString c.successesNeeded.toNat)]

/-! ## Retries -/

/-- The settings of retries. -/
structure RetryConfig where
  enabled : Bool := true
  maxAttempts : UInt32 := 3
  initialInterval : Duration := .ofMillis 100
  maxInterval : Duration := .ofMillis 30000
  multiplier : Float := 2.0
  randomFactor : Float := 0.5
deriving Inhabited

/-- There is an attempt, the delays grow by a positive finite factor, their spread is in the unit
interval, and the first is not longer than the longest. -/
def RetryConfig.validate (c : RetryConfig) : Except ConfigFault Unit := do
  demand (c.maxAttempts ≠ 0) .maxAttempts
  demand (c.multiplier.isFinite ∧ ¬ c.multiplier ≤ 0.0) .multiplier
  demand (0.0 ≤ c.randomFactor ∧ c.randomFactor ≤ 1.0) .randomFactor
  demand (c.initialInterval ≤ c.maxInterval) .intervals

/-- The settings with delays that are not spread. -/
def RetryConfig.withoutJitter (c : RetryConfig) : RetryConfig := { c with randomFactor := 0.0 }

/-! ## The client -/

/-- The settings of the network transport. -/
structure TransportConfig where
  timeout : Duration := .ofMillis 30000
  /-- The longest time for connecting, unbounded if zero. -/
  connectTimeout : Duration := .zero
  userAgent : Option String := none
deriving DecidableEq, Inhabited

/-- Whether the number is a status. -/
def isStatus (n : UInt16) : Prop := 100 ≤ n.toNat ∧ n.toNat ≤ 599

instance (n : UInt16) : Decidable (isStatus n) :=
  inferInstanceAs (Decidable (100 ≤ n.toNat ∧ n.toNat ≤ 599))

/-- The least failing status has to be a status. -/
def validateThreshold (n : UInt16) : Except ConfigFault Unit :=
  demand (isStatus n) (.serverErrorThreshold n)

/-- All settings of a client. -/
structure ClientConfig where
  breaker : BreakerConfig := {}
  retry : RetryConfig := {}
  serverErrorThreshold : UInt16 := 500
  transport : TransportConfig := {}
deriving Inhabited

/-- The parts are valid in turn, and a request has time. -/
def ClientConfig.validate (c : ClientConfig) : Except ConfigFault Unit := do
  c.breaker.validate
  c.retry.validate
  validateThreshold c.serverErrorThreshold
  demand (c.transport.timeout ≠ .zero) .transportTimeout

/-! ## Comparison -/

/-- Whether two settings of retries are equal, doubles as numbers. -/
def RetryConfig.same (c d : RetryConfig) : Bool :=
  c.enabled == d.enabled && c.maxAttempts == d.maxAttempts
    && decide (c.initialInterval = d.initialInterval) && decide (c.maxInterval = d.maxInterval)
    && c.multiplier == d.multiplier && c.randomFactor == d.randomFactor

/-- Whether two settings of clients are equal, doubles as numbers. -/
def ClientConfig.same (c d : ClientConfig) : Bool :=
  decide (c.breaker = d.breaker) && c.retry.same d.retry
    && c.serverErrorThreshold == d.serverErrorThreshold && decide (c.transport = d.transport)

end Resilience
