/-
# Instants and the manual clock

* `Instant`: a point in time, given by the span since the origin of the clock.
* `Instant.since`: how long ago an instant was, zero for one that is still to come.
* `Instant.after?`: an instant later by a span, where it exists: below `2 ^ 63` seconds.
* `ManualClock`: a clock that moves only when told to.  Moving it too far has no result
  (`ClockFault.sumOverflow`), and neither has reading it once it stands beyond the last instant
  (`ClockFault.instantOverflow`).
-/
import Resilience.Duration.Basic

namespace Resilience

/-- A point in time. -/
structure Instant where
  sinceOrigin : Duration
deriving DecidableEq, Inhabited

namespace Instant

/-- The first number of nanoseconds since the origin that no instant has. -/
def limit : Nat := 9223372036854775808 * 1000000000

/-- The origin of the clock. -/
def origin : Instant := ⟨.zero⟩

/-- The time that has passed since `earlier`, zero if none has. -/
def since (now earlier : Instant) : Duration := now.sinceOrigin - earlier.sinceOrigin

/-- The instant `d` after this one, unless it is `2 ^ 63` seconds or more after the origin. -/
def after? (t : Instant) (d : Duration) : Option Instant :=
  if h : t.sinceOrigin.nanos + d.nanos < 9223372036854775808 * 1000000000 then
    some ⟨⟨t.sinceOrigin.nanos + d.nanos, by omega⟩⟩
  else none

instance : LE Instant := ⟨fun s t => s.sinceOrigin ≤ t.sinceOrigin⟩

instance : LT Instant := ⟨fun s t => s.sinceOrigin < t.sinceOrigin⟩

instance (s t : Instant) : Decidable (s ≤ t) :=
  inferInstanceAs (Decidable (s.sinceOrigin ≤ t.sinceOrigin))

instance (s t : Instant) : Decidable (s < t) :=
  inferInstanceAs (Decidable (s.sinceOrigin < t.sinceOrigin))

instance : Min Instant := ⟨fun s t => if s ≤ t then s else t⟩

theorem le_iff {s t : Instant} : s ≤ t ↔ s.sinceOrigin.nanos ≤ t.sinceOrigin.nanos := Iff.rfl

theorem lt_iff {s t : Instant} : s < t ↔ s.sinceOrigin.nanos < t.sinceOrigin.nanos := Iff.rfl

@[ext] theorem ext {s t : Instant} (h : s.sinceOrigin.nanos = t.sinceOrigin.nanos) : s = t := by
  cases s
  cases t
  exact congrArg Instant.mk (Duration.ext h)

@[simp] theorem nanos_since {now earlier : Instant} :
    (now.since earlier).nanos = now.sinceOrigin.nanos - earlier.sinceOrigin.nanos := rfl

/-- **The later instant is later by exactly the span**, where it exists. -/
theorem nanos_of_after? {t u : Instant} {d : Duration} (h : t.after? d = some u) :
    u.sinceOrigin.nanos = t.sinceOrigin.nanos + d.nanos := by
  unfold after? at h
  split at h
  · cases h
    rfl
  · cases h

end Instant

/-- Why a clock has no answer. -/
inductive ClockFault where
  | sumOverflow
  | instantOverflow
deriving DecidableEq

/-- The wording of a clock fault. -/
def ClockFault.message : ClockFault → String
  | .sumOverflow => "overflow when adding durations"
  | .instantOverflow => "overflow when adding duration to instant"

/-- A clock that stands still until it is advanced. -/
structure ManualClock where
  elapsed : Duration
deriving DecidableEq, Inhabited

namespace ManualClock

/-- A clock that has not been advanced. -/
def start : ManualClock := ⟨.zero⟩

/-- Moves the clock on by `d`. -/
def advance (c : ManualClock) (d : Duration) : Except ClockFault ManualClock :=
  match c.elapsed.add? d with
  | some e => .ok ⟨e⟩
  | none => .error .sumOverflow

/-- Reads the clock. -/
def now (c : ManualClock) : Except ClockFault Instant :=
  if c.elapsed.nanos < Instant.limit then .ok ⟨c.elapsed⟩ else .error .instantOverflow

end ManualClock

end Resilience
