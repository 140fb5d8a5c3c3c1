/-
# Observers

Whoever watches a pipeline is told of every attempt, of every change of the breaker's position and of
every rejected call.

* `Notice`: what an observer is told.
* `Recorder`: an observer that keeps all it is told, in order.
* `Notice.traceLine`: the line that a tracing observer writes.
-/
import Resilience.Breaker.Basic
import Resilience.Trace

namespace Resilience

/-- How one attempt ended. -/
inductive AttemptOutcome where
  | success (status : Nat)
  | serverError (status : Nat)
  | transportError (message : String)
deriving DecidableEq

/-- Whether the attempt failed. -/
def AttemptOutcome.isFailure : AttemptOutcome → Bool
  | .success _ => false
  | _ => true

/-- One attempt of a request.  The time that it took on the system's clock is left out: it is no function of
what the pipeline is told, and nothing but the wording of a line depends on it. -/
structure AttemptRecord where
  /-- The index of the attempt, from zero. -/
  attempt : Nat
  method : String
  url : String
  outcome : AttemptOutcome
  /-- The delay before the next attempt, if there is to be one. -/
  backoff : Option Duration
deriving DecidableEq

/-- What an observer is told. -/
inductive Notice where
  | attempt (record : AttemptRecord)
  | transition (t : Transition)
  | rejection (c : Circuit)
deriving DecidableEq

/-- All that an observer was told. -/
structure Recorder where
  attempts : List AttemptRecord := []
  transitions : List Transition := []
  rejections : Nat := 0
deriving DecidableEq, Inhabited

namespace Recorder

/-- Keeps one notice. -/
def record (r : Recorder) : Notice → Recorder
  | .attempt a => { r with attempts := r.attempts ++ [a] }
  | .transition t => { r with transitions := r.transitions ++ [t] }
  | .rejection _ => { r with rejections := r.rejections + 1 }

/-- The number of attempts that failed. -/
def failedAttempts (r : Recorder) : Nat := r.attempts.countP fun a => a.outcome.isFailure

end Recorder

/-- The line that a tracing observer of the dependency writes.  A missing delay is left out. -/
def Notice.traceLine (dependency : String) : Notice → TraceLine
  | .attempt a =>
    let common := [("dependency", dependency), ("attempt", toString a.attempt),
      ("method", a.method), ("url", a.url)]
    let backoff :=
      match a.backoff with
      | some d => [("backoff_ms", toString d.wholeMillis)]
      | none => []
    match a.outcome with
    | .success status => .debug "attempt succeeded" (common ++ [("status", toString status)])
    | .serverError status =>
      .warn "attempt returned server error" (common ++ [("status", toString status)] ++ backoff)
    | .transportError message =>
      .warn "attempt failed" (common ++ [("error", message)] ++ backoff)
  | .transition t =>
    .info "circuit breaker state changed"
      [("dependency", dependency), ("from", t.source.label), ("to", t.target.label)]
  | .rejection c =>
    .debug "call rejected by circuit breaker" [("dependency", dependency), ("state", c.label)]

end Resilience
