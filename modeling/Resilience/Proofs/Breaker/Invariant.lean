/-
# What holds of every breaker

The circuit, the two running counts and the date of the latest failure are kept apart, yet they belong
together.  This file says how, for every state that a history of calls can leave behind.

* `BreakerState.Sound`: the invariant.  That the failures of a circuit that is not closed have reached
  the threshold is what makes it go through: the count is carried along while the circuit is open and
  half-open, and only closing the circuit clears it.
* `Sound.of_rule`, `Sound.run`: every rule keeps the invariant, so every history does.
* `representation_invariant`: what follows for a breaker with valid settings.
-/
import Resilience.Proofs.Breaker.History
import Resilience.Proofs.Config.Validity

namespace Resilience

namespace Counter

variable {cap : Nat}

/-- A tick that stays below a bound adds one. -/
theorem value_tick_of_lt_bound {c : Counter cap} {n : Nat} (hn : n ≤ cap) (h : c.value < n) :
    c.tick.value = c.value + 1 := value_tick_of_lt (Nat.lt_of_lt_of_le h hn)

theorem value_tick_ne_zero {c : Counter cap} (hcap : 0 < cap) : c.tick.value ≠ 0 := by
  rw [value_tick]
  omega

end Counter

namespace BreakerState

/-- What holds of a breaker with these settings. -/
structure Sound (config : BreakerConfig) (s : BreakerState) : Prop where
  /-- A circuit is closed exactly while its failures are below the threshold. -/
  closed_iff : s.circuit = .closed ↔ s.failures.value < config.failureThreshold.toNat
  /-- The successes of probes are fewer than are needed. -/
  probes_lt : s.probes.value < config.successesNeeded.toNat
  /-- Only a half-open circuit has counted some. -/
  probes_eq_zero : s.circuit ≠ .halfOpen → s.probes.value = 0
  /-- A failure is dated if there was one. -/
  lastFailure_eq_none_iff : s.lastFailure = none ↔ s.totalFailures.value = 0
  /-- If the circuit is not closed there was one. -/
  exists_lastFailure : s.circuit ≠ .closed → ∃ t, s.lastFailure = some t

variable {config : BreakerConfig} {now : Instant} {s t : BreakerState} {call : BreakerCall}

theorem lastFailure_failed_eq_none_iff :
    (s.failed now).lastFailure = none ↔ (s.failed now).totalFailures.value = 0 :=
  ⟨nofun, fun h => absurd h (Counter.value_tick_ne_zero (by decide))⟩

namespace Sound

/-- The failures of a circuit that is not closed have reached the threshold. -/
theorem threshold_le (h : s.Sound config) (hc : s.circuit ≠ .closed) :
    config.failureThreshold.toNat ≤ s.failures.value :=
  Nat.not_lt.mp (mt h.closed_iff.mpr hc)

/-- The next success of a probe has room in the count. -/
theorem value_tick_probes (h : s.Sound config) : s.probes.tick.value = s.probes.value + 1 := by
  have := config.successesNeeded.toNat_lt
  exact Counter.value_tick_of_lt (Nat.lt_of_lt_of_le h.probes_lt (by omega))

/-- A breaker with valid settings begins so. -/
theorem initial (hc : config.validate = .ok ()) : BreakerState.initial.Sound config where
  closed_iff := ⟨fun _ => (BreakerConfig.validate_eq_ok_iff.mp hc).1, fun _ => rfl⟩
  probes_lt := (BreakerConfig.validate_eq_ok_iff.mp hc).2
  probes_eq_zero := fun _ => rfl
  lastFailure_eq_none_iff := ⟨fun _ => rfl, fun _ => rfl⟩
  exists_lastFailure := fun h => absurd rfl h

/-- A circuit may take any position in which its failures are on the right side of the threshold. -/
theorem of_moveTo (hc : config.validate = .ok ()) {c : Circuit}
    (hn : c ≠ .closed → config.failureThreshold.toNat ≤ s.failures.value)
    (hl : c ≠ .closed → ∃ t, s.lastFailure = some t)
    (hd : s.lastFailure = none ↔ s.totalFailures.value = 0) : (s.moveTo c).Sound config where
  closed_iff := by
    cases c with
    | closed => exact (initial hc).closed_iff
    | opened => exact ⟨nofun, fun h => absurd h (Nat.not_lt.mpr (hn nofun))⟩
    | halfOpen => exact ⟨nofun, fun h => absurd h (Nat.not_lt.mpr (hn nofun))⟩
  probes_lt := (initial hc).probes_lt
  probes_eq_zero := fun _ => rfl
  lastFailure_eq_none_iff := hd
  exists_lastFailure := hl

/-- A failure that leaves the circuit where it is keeps the invariant if its count does. -/
theorem failed (h : s.Sound config)
    (hn : s.circuit = .closed ↔ s.failures.tick.value < config.failureThreshold.toNat) :
    (s.failed now).Sound config where
  closed_iff := hn
  probes_lt := h.probes_lt
  probes_eq_zero := h.probes_eq_zero
  lastFailure_eq_none_iff := lastFailure_failed_eq_none_iff
  exists_lastFailure := fun _ => ⟨now, rfl⟩

/-- A failure that opens the circuit keeps the invariant if it reaches the threshold. -/
theorem failed_moveTo (hc : config.validate = .ok ())
    (hn : config.failureThreshold.toNat ≤ s.failures.tick.value) :
    ((s.failed now).moveTo .opened).Sound config :=
  of_moveTo hc (fun _ => hn) (fun _ => ⟨now, rfl⟩) lastFailure_failed_eq_none_iff

/-- **Every rule keeps the invariant.** -/
theorem of_rule (hc : config.validate = .ok ()) (h : s.Sound config)
    (hr : s.Rule config now call t) : t.Sound config := by
  cases hr with
  | passed _ => exact h
  | probing ho _ =>
    have hne : s.circuit ≠ .closed := by simp [ho]
    exact of_moveTo hc (fun _ => h.threshold_le hne) (fun _ => h.exists_lastFailure hne)
      h.lastFailure_eq_none_iff
  | rejected ho _ => exact { h with }
  | cleared hcl => exact { h with closed_iff := ⟨fun _ => (initial hc).closed_iff.mp rfl, fun _ => hcl⟩ }
  | late ho => exact { h with }
  | probed hh hn => exact { h with probes_lt := hn, probes_eq_zero := fun hne => absurd hh hne }
  | recovered hh hn =>
    exact of_moveTo hc (fun hne => absurd rfl hne) (fun hne => absurd rfl hne)
      h.lastFailure_eq_none_iff
  | counted hcl hn => exact h.failed ⟨fun _ => hn, fun _ => hcl⟩
  | tripped hcl hn => exact failed_moveTo hc hn
  | extended ho =>
    -- the count has reached the threshold before and only grows
    have hne : s.circuit ≠ .closed := by simp [ho]
    have hle := Nat.le_trans (h.threshold_le hne) s.failures.value_le_value_tick
    exact h.failed ⟨fun hcl => absurd hcl hne, fun hlt => absurd hlt (Nat.not_lt.mpr hle)⟩
  | reopened hh =>
    have hne : s.circuit ≠ .closed := by simp [hh]
    exact failed_moveTo hc (Nat.le_trans (h.threshold_le hne) s.failures.value_le_value_tick)
  | forgotten => exact initial hc

/-- **Every history keeps the invariant.** -/
theorem run (hc : config.validate = .ok ()) (h : s.Sound config) (events : List BreakerEvent) :
    (s.run config events).Sound config := by
  induction events generalizing s with
  | nil => exact h
  | cons e events ih => exact ih (h.of_rule hc (s.step_rule e))

end Sound

/-- **How the parts of a breaker belong together.**  Whatever calls a breaker with valid settings has
seen, at whatever instants: it is closed exactly while its failures are below the threshold; the
successes of probes are below their number, and zero unless it is half-open; the latest failure is
dated exactly if there was one, as there was if the breaker is not closed.  So an open breaker always
has a date from which its cool-down counts, and the count of probes always has room for one more. -/
theorem representation_invariant {config : BreakerConfig} (hc : config.validate = .ok ())
    (events : List BreakerEvent) :
    let s := initial.run config events
    (s.circuit = .closed ↔ s.failures.value < config.failureThreshold.toNat) ∧
      (s.probes.value < config.successesNeeded.toNat ∧
        (s.circuit ≠ .halfOpen → s.probes.value = 0)) ∧
      ((s.lastFailure = none ↔ s.totalFailures.value = 0) ∧
        (s.circuit ≠ .closed → s.lastFailure.isSome = true)) ∧
      (s.circuit = .opened → ∃ t, s.lastFailure = some t ∧ ∀ now,
        s.cooledDown config now = decide (config.resetTimeout < now.since t) ∧
          s.remaining config now = some (config.resetTimeout - now.since t)) ∧
      (s.probes.value + 1 < 4294967296 ∧ s.probes.tick.value = s.probes.value + 1) := by
  intro s
  have h : s.Sound config := (Sound.initial hc).run hc events
  refine ⟨h.closed_iff, ⟨h.probes_lt, h.probes_eq_zero⟩, ⟨h.lastFailure_eq_none_iff, ?_⟩, ?_, ?_⟩
  · intro hne
    obtain ⟨t, ht⟩ := h.exists_lastFailure hne
    exact Option.isSome_of_eq_some ht
  · intro ho
    obtain ⟨t, ht⟩ := h.exists_lastFailure (by simp [ho])
    refine ⟨t, ht, fun now => ⟨?_, ?_⟩⟩
    · simp only [cooledDown, ht]
    · simp only [remaining, ho, ht]
  · have hlt := h.probes_lt
    have hneeded := config.successesNeeded.toNat_lt
    exact ⟨by omega, h.value_tick_probes⟩

/-- With one failure and two successes needed, a breaker that fails, is asked after the cool-down and
succeeds is half-open, with one success of two counted. -/
theorem representation_invariant_half_open :
    let config : BreakerConfig := { failureThreshold := 1, successesNeeded := 2 }
    let s := initial.run config
      [⟨.onFailure, .origin⟩, ⟨.isAllowed, ⟨.ofSeconds 61⟩⟩, ⟨.onSuccess, ⟨.ofSeconds 62⟩⟩]
    config.validate = .ok () ∧ s.circuit = .halfOpen ∧ s.probes.value = 1 ∧
      s.probes.tick.value = 2 := by
  intro config s
  have hc : config.validate = .ok () := rfl
  obtain ⟨-, -, -, -, -, htick⟩ := representation_invariant hc
    [⟨.onFailure, .origin⟩, ⟨.isAllowed, ⟨.ofSeconds 61⟩⟩, ⟨.onSuccess, ⟨.ofSeconds 62⟩⟩]
  exact ⟨hc, by decide, by decide, htick.trans (by decide)⟩

end BreakerState

end Resilience
