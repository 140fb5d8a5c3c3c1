/-
# Calls of a breaker

A call is one or two critical sections, then a line in the trace, then a notice to the observer.

* `Breaker.isAllowed`: looks first, and decides under the lock only if the circuit was seen open.
* `Breaker.onSuccess`, `Breaker.onFailure`, `Breaker.reset`: report what changed.
* `Breaker.remaining`: the time until an open circuit has cooled down.
* `Breaker.circuit`, `Breaker.metrics`: the position, and all that is remembered.
-/
import Resilience.Program

namespace Resilience.Breaker

/-- Runs one section. -/
def enter (layer : Nat) (part : Section) : Program part.Answer := .query (.breaker layer part)

/-- Tells the observer of a change, if there was one. -/
def announce (layer : Nat) (change : Option Transition) : Program Unit :=
  match change with
  | some t => .observe layer (.transition t)
  | none => pure ()

/-- Whether a call may be made. -/
def isAllowed (layer : Nat) : Program Bool := do
  if ← enter layer .look then
    match ← enter layer .decide with
    | .admitted => pure true
    | .rejected =>
      .trace (.debug "Circuit breaker rejecting call - state: OPEN" [])
      .observe layer (.rejection .opened)
      pure false
    | .probing =>
      .trace (.info "Circuit breaker half-open, admitting probe request" [])
      .observe layer (.transition ⟨.opened, .halfOpen⟩)
      pure true
  else pure true

/-- Reports a success. -/
def onSuccess (layer : Nat) (config : BreakerConfig) : Program Unit := do
  let change ← enter layer .success
  if change.isSome then
    .trace (.info "Circuit breaker closed after successful probes"
      [("successes", toString config.successesNeeded.toNat)])
  announce layer change

/-- Reports a failure. -/
def onFailure (layer : Nat) : Program Unit := do
  let (change, count) ← enter layer .failure
  match change with
  | some ⟨.halfOpen, _⟩ =>
    .trace (.warn "Circuit breaker reopened due to failure in half-open state" [])
  | some _ =>
    .trace (.warn "Circuit breaker opened after repeated failures"
      [("failure_count", toString count)])
  | none => pure ()
  announce layer change

/-- Forgets everything. -/
def reset (layer : Nat) : Program Unit := do
  let change ← enter layer .reset
  .trace (.info "Circuit breaker manually reset to closed state" [])
  announce layer change

/-- The time until an open circuit has cooled down. -/
def remaining (layer : Nat) : Program (Option Duration) := enter layer .remaining

/-- The position. -/
def circuit (layer : Nat) : Program Circuit := do
  let s ← enter layer .snapshot
  pure s.circuit

/-- All that the breaker remembers. -/
def metrics (layer : Nat) : Program BreakerState := enter layer .snapshot

end Resilience.Breaker
