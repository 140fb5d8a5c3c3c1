/-
# Critical sections of a breaker

Calls from many threads share one breaker.  A call holds the breaker's lock for one or two short
sections, between which others may come; what it reports is reported after the lock is released.

* `Section`: the sections, with the type of what each learns (`Section.Answer`).
* `BreakerState.enter`: what a section learns and leaves behind.
* `Section.readsClock`: whether a section looks at the clock.
-/
import Resilience.Breaker.Basic

namespace Resilience

/-- A stretch of a call under the breaker's lock. -/
inductive Section where
  | look
  /-- Decides on a call after the circuit was seen open. -/
  | decide
  | success
  | failure
  | reset
  | remaining
  | snapshot
deriving DecidableEq

/-- What a section learns. -/
@[reducible] def Section.Answer : Section → Type
  | .look => Bool
  | .decide => BreakerState.Admission
  | .success => Option Transition
  | .failure => Option Transition × Nat
  | .reset => Option Transition
  | .remaining => Option Duration
  | .snapshot => BreakerState

namespace BreakerState

/-- Runs one section at the instant `now`. -/
def enter (config : BreakerConfig) (now : Instant) (s : BreakerState) :
    (c : Section) → c.Answer × BreakerState
  | .look => (s.circuit == .opened, s)
  | .decide => s.admission config now
  | .success =>
    let t := s.onSuccess config
    (s.transition? t, t)
  | .failure =>
    let t := s.onFailure config now
    ((s.transition? t, t.failures.value), t)
  | .reset => (s.transition? s.reset, s.reset)
  | .remaining => (s.remaining config now, s)
  | .snapshot => (s, s)

end BreakerState

/-- Whether the section looks at the clock when it finds the breaker in state `s`. -/
def Section.readsClock (s : BreakerState) : Section → Bool
  | .decide => s.circuit == .opened
  | .failure => true
  | .remaining => s.circuit == .opened && s.lastFailure.isSome
  | _ => false

end Resilience
