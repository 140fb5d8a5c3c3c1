/-
# Configurations as documents

Spans are written as whole milliseconds, capped to 64 bits.  A field that is left out has its default.

* `ClientConfig.ofDocument?`: the settings that a document gives.
* `ClientConfig.toDocument`: the document of settings, with every field.
-/
import Resilience.Config.Basic
import Resilience.Document

namespace Resilience

/-- A span given in milliseconds. -/
def Duration.ofDocument? (d : Document) : Option Duration :=
  (d.natural? 18446744073709551615).map fun n => .ofMillis (UInt64.ofNat n)

/-- A span in milliseconds. -/
def Duration.toDocument (d : Duration) : Document := .integer d.millis64.toNat

/-- A natural number of 32 bits. -/
def Document.natural32? (d : Document) : Option UInt32 :=
  (d.natural? 4294967295).map UInt32.ofNat

/-- A natural number of 16 bits. -/
def Document.natural16? (d : Document) : Option UInt16 := (d.natural? 65535).map UInt16.ofNat

/-! ## The breaker -/

/-- The names of the fields in order. -/
def BreakerConfig.fieldNames : List String :=
  ["enabled", "failure_threshold", "reset_timeout", "half_open_success_needed"]

/-- Reads the settings of a breaker. -/
def BreakerConfig.ofDocument? (d : Document) : Option BreakerConfig := do
  let default : BreakerConfig := {}
  match ← d.fields? fieldNames with
  | [enabled, threshold, timeout, needed] =>
    pure
      { enabled := ← Document.readField Document.truth? default.enabled enabled
        failureThreshold := ← Document.readField Document.natural32? default.failureThreshold threshold
        resetTimeout := ← Document.readField Duration.ofDocument? default.resetTimeout timeout
        successesNeeded := ← Document.readField Document.natural32? default.successesNeeded needed }
  | _ => none

/-- Writes the settings of a breaker. -/
def BreakerConfig.toDocument (c : BreakerConfig) : Document :=
  .table
    [("enabled", .truth c.enabled),
     ("failure_threshold", .integer c.failureThreshold.toNat),
     ("reset_timeout", c.resetTimeout.toDocument),
     ("half_open_success_needed", .integer c.successesNeeded.toNat)]

/-! ## Retries -/

/-- The names of the fields in order. -/
def RetryConfig.fieldNames : List String :=
  ["enabled", "max_attempts", "initial_interval", "max_interval", "multiplier", "random_factor"]

/-- Reads the settings of retries. -/
def RetryConfig.ofDocument? (d : Document) : Option RetryConfig := do
  let default : RetryConfig := {}
  match ← d.fields? fieldNames with
  | [enabled, attempts, initial, longest, multiplier, factor] =>
    pure
      { enabled := ← Document.readField Document.truth? default.enabled enabled
        maxAttempts := ← Document.readField Document.natural32? default.maxAttempts attempts
        initialInterval := ← Document.readField Duration.ofDocument? default.initialInterval initial
        maxInterval := ← Document.readField Duration.ofDocument? default.maxInterval longest
        multiplier := ← Document.readField Document.double? default.multiplier multiplier
        randomFactor := ← Document.readField Document.double? default.randomFactor factor }
  | _ => none

/-- Writes the settings of retries. -/
def RetryConfig.toDocument (c : RetryConfig) : Document :=
  .table
    [("enabled", .truth c.enabled),
     ("max_attempts", .integer c.maxAttempts.toNat),
     ("initial_interval", c.initialInterval.toDocument),
     ("max_interval", c.maxInterval.toDocument),
     ("multiplier", .double c.multiplier),
     ("random_factor", .double c.randomFactor)]

/-! ## The transport -/

/-- The names of the fields in order. -/
def TransportConfig.fieldNames : List String := ["timeout", "connect_timeout", "user_agent"]

/-- Reads the settings of the network transport. -/
def TransportConfig.ofDocument? (d : Document) : Option TransportConfig := do
  let default : TransportConfig := {}
  match ← d.fields? fieldNames with
  | [timeout, connect, agent] =>
    pure
      { timeout := ← Document.readField Duration.ofDocument? default.timeout timeout
        connectTimeout := ← Document.readField Duration.ofDocument? default.connectTimeout connect
        userAgent :=
          ← Document.readField (Document.optional? Document.text?) default.userAgent agent }
  | _ => none

/-- Writes the settings of the network transport. -/
def TransportConfig.toDocument (c : TransportConfig) : Document :=
  .table
    [("timeout", c.timeout.toDocument),
     ("connect_timeout", c.connectTimeout.toDocument),
     ("user_agent", (c.userAgent.map Document.text).getD .null)]

/-! ## The client -/

/-- The names of the fields in order. -/
def ClientConfig.fieldNames : List String :=
  ["circuit_breaker", "retry", "server_error_threshold", "transport"]

/-- Reads the settings of a client. -/
def ClientConfig.ofDocument? (d : Document) : Option ClientConfig := do
  let default : ClientConfig := {}
  match ← d.fields? fieldNames with
  | [breaker, retry, threshold, transport] =>
    pure
      { breaker := ← Document.readField BreakerConfig.ofDocument? default.breaker breaker
        retry := ← Document.readField RetryConfig.ofDocument? default.retry retry
        serverErrorThreshold :=
          ← Document.readField Document.natural16? default.serverErrorThreshold threshold
        transport := ← Document.readField TransportConfig.ofDocument? default.transport transport }
  | _ => none

/-- Writes the settings of a client. -/
def ClientConfig.toDocument (c : ClientConfig) : Document :=
  .table
    [("circuit_breaker", c.breaker.toDocument),
     ("retry", c.retry.toDocument),
     ("server_error_threshold", .integer c.serverErrorThreshold.toNat),
     ("transport", c.transport.toDocument)]

/-- How deep a document of settings has to be read. -/
def ClientConfig.documentDepth : Nat := 3

end Resilience
