/-
# The circuit breaker

A breaker is closed while calls go well, opens after too many failures in a row, lets probes through
once it has cooled down, and closes again after enough of them.

```text
           failures reach the threshold
  closed ──────────────────────────────▶ opened
    ▲                                    │  ▲
    │ enough successes        cooled     │  │ any failure
    │                         down       ▼  │
    └────────────────────────────────── halfOpen
```

* `Circuit`, `Transition`: the three positions and a change between them.
* `BreakerState`: all that a breaker remembers; it holds no clock, an operation that depends on the
  time is given the instant.
* `BreakerState.isAllowed`, `onSuccess`, `onFailure`, `reset`, `remaining`: the operations, each in one
  step.
-/
import Resilience.Clock
import Resilience.Counter
import Resilience.Config.Basic

namespace Resilience

/-- The position of a breaker. -/
inductive Circuit where
  | closed
  | opened
  | halfOpen
deriving DecidableEq, Inhabited

namespace Circuit

/-- The position in reports. -/
def label : Circuit → String
  | .closed => "CLOSED"
  | .opened => "OPEN"
  | .halfOpen => "HALF_OPEN"

/-- The position in documents. -/
def name : Circuit → String
  | .closed => "closed"
  | .opened => "open"
  | .halfOpen => "half_open"

/-- The position as a field of a record. -/
def describe : Circuit → String
  | .closed => "Closed"
  | .opened => "Open"
  | .halfOpen => "HalfOpen"

/-- The position of that name in documents. -/
def ofName? (s : String) : Option Circuit := [closed, opened, halfOpen].find? fun c => c.name = s

theorem ofName?_name (c : Circuit) : ofName? c.name = some c := by cases c <;> decide

end Circuit

/-- A change of position. -/
structure Transition where
  source : Circuit
  target : Circuit
deriving DecidableEq

/-- The change in reports. -/
def Transition.label (t : Transition) : String := t.source.label ++ " -> " ++ t.target.label

/-- What a breaker remembers. -/
structure BreakerState where
  circuit : Circuit
  /-- The failures since a success or since the circuit was last closed. -/
  failures : Count32
  /-- The successes of probes since the circuit became half-open. -/
  probes : Count32
  lastFailure : Option Instant
  totalSuccesses : Count64
  totalFailures : Count64
  rejected : Count64
deriving DecidableEq

namespace BreakerState

/-- A breaker that has seen nothing. -/
def initial : BreakerState where
  circuit := .closed
  failures := .zero
  probes := .zero
  lastFailure := none
  totalSuccesses := .zero
  totalFailures := .zero
  rejected := .zero

instance : Inhabited BreakerState := ⟨initial⟩

/-- Changes the position.  The count of probes starts again, the count of failures only when the
circuit closes. -/
def moveTo (s : BreakerState) (c : Circuit) : BreakerState :=
  { s with
    circuit := c
    probes := .zero
    failures := if c = .closed then .zero else s.failures }

/-- Whether more than the cool-down has passed since the latest failure. -/
def cooledDown (config : BreakerConfig) (now : Instant) (s : BreakerState) : Bool :=
  match s.lastFailure with
  | none => true
  | some t => config.resetTimeout < now.since t

/-- The answer to whether a call may be made. -/
inductive Admission where
  | admitted
  /-- The call may be made, and the circuit has become half-open for it. -/
  | probing
  | rejected
deriving DecidableEq

/-- Whether the call may be made. -/
def Admission.allows : Admission → Bool
  | .rejected => false
  | _ => true

/-- Decides whether a call may be made.  An open circuit rejects it until it has cooled down, and then
becomes half-open. -/
def admission (config : BreakerConfig) (now : Instant) (s : BreakerState) : Admission × BreakerState :=
  match s.circuit with
  | .closed | .halfOpen => (.admitted, s)
  | .opened =>
    if s.cooledDown config now then (.probing, s.moveTo .halfOpen)
    else (.rejected, { s with rejected := s.rejected.tick })

/-- Whether a call may be made. -/
def isAllowed (config : BreakerConfig) (now : Instant) (s : BreakerState) : Bool × BreakerState :=
  let (answer, s) := s.admission config now
  (answer.allows, s)

/-- Reports a success.  While closed it clears the count of failures; while half-open it counts, and
closes the circuit when enough are counted. -/
def onSuccess (config : BreakerConfig) (s : BreakerState) : BreakerState :=
  let s := { s with totalSuccesses := s.totalSuccesses.tick }
  match s.circuit with
  | .closed => { s with failures := .zero }
  | .opened => s
  | .halfOpen =>
    let s := { s with probes := s.probes.tick }
    if config.successesNeeded.toNat ≤ s.probes.value then s.moveTo .closed else s

/-- Reports a failure.  It is counted and dated in every position; it opens a half-open circuit, and a
closed one once the threshold is reached. -/
def onFailure (config : BreakerConfig) (now : Instant) (s : BreakerState) : BreakerState :=
  let s := { s with
    failures := s.failures.tick
    totalFailures := s.totalFailures.tick
    lastFailure := some now }
  match s.circuit with
  | .closed => if config.failureThreshold.toNat ≤ s.failures.value then s.moveTo .opened else s
  | .opened => s
  | .halfOpen => s.moveTo .opened

/-- Forgets everything. -/
def reset (_ : BreakerState) : BreakerState := initial

/-- The time until an open circuit has cooled down. -/
def remaining (config : BreakerConfig) (now : Instant) (s : BreakerState) : Option Duration :=
  match s.circuit with
  | .closed | .halfOpen => none
  | .opened =>
    match s.lastFailure with
    | none => some .zero
    | some t => some (config.resetTimeout - now.since t)

variable {config : BreakerConfig} {now : Instant} {s : BreakerState}

/-- There is no time to wait exactly when the circuit is not open. -/
theorem remaining_eq_none_iff : s.remaining config now = none ↔ s.circuit ≠ .opened := by
  unfold remaining
  split <;> rename_i hc <;> rw [hc]
  · simp
  · simp
  · split <;> simp

/-- The time to wait is at most the cool-down. -/
theorem remaining_le {d : Duration} (h : s.remaining config now = some d) :
    d ≤ config.resetTimeout := by
  unfold remaining at h
  split at h
  · cases h
  · cases h
  · split at h <;> cases h <;> rw [Duration.le_iff]
    · exact Nat.zero_le _
    · exact Nat.sub_le _ _

/-- The time to wait counts from the latest failure. -/
theorem remaining_of_lastFailure {t : Instant} (ho : s.circuit = .opened)
    (hl : s.lastFailure = some t) :
    s.remaining config now = some (config.resetTimeout - now.since t) := by
  simp only [remaining, ho, hl]

/-- The change of position between two states, if there is one. -/
def transition? (before after : BreakerState) : Option Transition :=
  if before.circuit = after.circuit then none else some ⟨before.circuit, after.circuit⟩

/-- The breaker as a record: its settings, its position and its two running counts. -/
def describe (config : BreakerConfig) (s : BreakerState) : String :=
  Text.record "CircuitBreaker"
    [("config", config.describe),
     ("state", s.circuit.describe),
     ("failure_count", toString s.failures.value),
     ("half_open_success_count", toString s.probes.value)]

end BreakerState

end Resilience
