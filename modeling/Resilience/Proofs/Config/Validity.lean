/-
# What valid settings are

Settings are checked one demand after another, and the first that is not met is the fault.  This file
says for each kind of settings when no fault is found: when all demands are met.  For a client's settings
and for a layer, which are checked in different orders, it also says which fault is found.

* `bind_eq_ok_iff`, `bind_eq_error_iff`: steps that can fail, one after another.
* `BreakerConfig.validate_eq_ok_iff`, `RetryConfig.validate_eq_ok_iff`: for the parts.
* `ClientConfig.validate_eq_ok_iff`, `ClientConfig.validate_eq_error_iff`: for the whole.
* `Layer.build_eq_ok_iff`: a layer is made exactly from settings that meet the demands of their parts,
  and it holds what the settings say.  `Layer.build_eq_error_iff`: the fault of any others.
-/
import Resilience.Client

namespace Resilience

/-- A demand is met exactly when its condition holds. -/
theorem demand_eq_ok_iff {p : Prop} [Decidable p] {f : ConfigFault} : demand p f = .ok () ↔ p := by
  unfold demand
  split <;> simp [*]

/-- A demand fails with its fault alone, when its condition does not hold. -/
theorem demand_eq_error_iff {p : Prop} [Decidable p] {f fault : ConfigFault} :
    demand p fault = .error f ↔ ¬ p ∧ f = fault := by
  unfold demand
  split <;> simp [*, eq_comm]

/-- A sequence comes to a result exactly when both of its steps do. -/
theorem bind_eq_ok_iff {ε α β : Type} {a : Except ε α} {k : α → Except ε β} {r : β} :
    (a >>= k) = .ok r ↔ ∃ x, a = .ok x ∧ k x = .ok r := by
  cases a <;> simp [bind, Except.bind]

/-- The fault of a sequence is that of its first step, or else that of the second. -/
theorem bind_eq_error_iff {ε α β : Type} {a : Except ε α} {k : α → Except ε β} {e : ε} :
    (a >>= k) = .error e ↔ a = .error e ∨ ∃ x, a = .ok x ∧ k x = .error e := by
  cases a <;> simp [bind, Except.bind]

/-- Two checks in a row find no fault exactly when neither does. -/
theorem check_then_eq_ok_iff {ε α : Type} {first : Except ε Unit} {rest : Except ε α} {a : α} :
    (first >>= fun _ => rest) = .ok a ↔ first = .ok () ∧ rest = .ok a := by
  rw [bind_eq_ok_iff]
  exact ⟨fun ⟨_, hfirst, hrest⟩ => ⟨hfirst, hrest⟩, fun ⟨hfirst, hrest⟩ => ⟨(), hfirst, hrest⟩⟩

/-- Of two checks in a row the second finds a fault only if the first does not. -/
theorem check_then_eq_error_iff {ε α : Type} {first : Except ε Unit} {rest : Except ε α} {e : ε} :
    (first >>= fun _ => rest) = .error e ↔ first = .error e ∨ first = .ok () ∧ rest = .error e := by
  rw [bind_eq_error_iff]
  refine or_congr_right ⟨?_, ?_⟩
  · rintro ⟨_, hfirst, hrest⟩
    exact ⟨hfirst, hrest⟩
  · rintro ⟨hfirst, hrest⟩
    exact ⟨(), hfirst, hrest⟩

/-- **A breaker's settings are valid when both of its thresholds are positive.** -/
theorem BreakerConfig.validate_eq_ok_iff {c : BreakerConfig} :
    c.validate = .ok () ↔ 0 < c.failureThreshold.toNat ∧ 0 < c.successesNeeded.toNat := by
  have pos : ∀ n : UInt32, n ≠ 0 ↔ 0 < n.toNat := by
    intro n
    rw [Nat.pos_iff_ne_zero, ne_eq, ne_eq, ← UInt32.toNat_inj]
    rfl
  rw [validate, check_then_eq_ok_iff, demand_eq_ok_iff, demand_eq_ok_iff, pos, pos]

theorem RetryConfig.validate_eq_ok_iff {c : RetryConfig} :
    c.validate = .ok () ↔
      c.maxAttempts ≠ 0 ∧ (c.multiplier.isFinite ∧ ¬ c.multiplier ≤ 0.0) ∧
        (0.0 ≤ c.randomFactor ∧ c.randomFactor ≤ 1.0) ∧ c.initialInterval ≤ c.maxInterval := by
  rw [validate, check_then_eq_ok_iff, check_then_eq_ok_iff, check_then_eq_ok_iff, demand_eq_ok_iff,
    demand_eq_ok_iff, demand_eq_ok_iff, demand_eq_ok_iff]

/-- Settings of which the parts are valid are valid if a request has time. -/
theorem ClientConfig.validate_of_parts {c : ClientConfig} (hbreaker : c.breaker.validate = .ok ())
    (hretry : c.retry.validate = .ok ()) (hthreshold : isStatus c.serverErrorThreshold) :
    c.validate = demand (c.transport.timeout ≠ .zero) .transportTimeout := by
  rw [validate, hbreaker, hretry, validateThreshold, demand_eq_ok_iff.mpr hthreshold]
  rfl

/-- **Settings are valid when their parts are, the least failing status is a status, and a request has
time.** -/
theorem ClientConfig.validate_eq_ok_iff {c : ClientConfig} :
    c.validate = .ok () ↔ c.breaker.validate = .ok () ∧ c.retry.validate = .ok () ∧
      isStatus c.serverErrorThreshold ∧ c.transport.timeout ≠ .zero := by
  rw [validate, check_then_eq_ok_iff, check_then_eq_ok_iff, check_then_eq_ok_iff, validateThreshold,
    demand_eq_ok_iff, demand_eq_ok_iff]

/-- **The fault of settings is that of the breaker, then of the retries, then of the least failing status,
then of the time of a request.** -/
theorem ClientConfig.validate_eq_error_iff {c : ClientConfig} {f : ConfigFault} :
    c.validate = .error f ↔
      c.breaker.validate = .error f ∨ c.breaker.validate = .ok () ∧
        (c.retry.validate = .error f ∨ c.retry.validate = .ok () ∧
          (¬ isStatus c.serverErrorThreshold ∧ f = .serverErrorThreshold c.serverErrorThreshold ∨
            isStatus c.serverErrorThreshold ∧ c.transport.timeout = .zero ∧ f = .transportTimeout)) := by
  rw [validate, check_then_eq_error_iff, check_then_eq_error_iff, check_then_eq_error_iff,
    validateThreshold, demand_eq_error_iff, demand_eq_ok_iff, demand_eq_error_iff, ne_eq, Decidable.not_not]

/-- Settings with a status to fail at and with time for a request can be at fault in breaker and retries
alone. -/
theorem ClientConfig.validate_eq_error_iff_of_status {c : ClientConfig} {f : ConfigFault}
    (hstatus : isStatus c.serverErrorThreshold) (htime : c.transport.timeout ≠ .zero) :
    c.validate = .error f ↔
      c.breaker.validate = .error f ∨ c.breaker.validate = .ok () ∧ c.retry.validate = .error f := by
  rw [validate_eq_error_iff]
  simp only [hstatus, htime, not_true_eq_false, false_and, and_false, or_false]

/-- **A layer is made exactly from valid settings**, and holds what they say. -/
theorem Layer.build_eq_ok_iff {index : Nat} {hasInner : Bool} {c : LayerConfig} {l : Layer} :
    Layer.build index hasInner c = .ok l ↔
      hasInner = true ∧ isStatus c.serverErrorThreshold ∧ c.breaker.validate = .ok () ∧
        c.retry.validate = .ok () ∧
        l = { index := index
              policy := ⟨c.breaker.enabled, c.retry.enabled, c.serverErrorThreshold⟩
              breaker := c.breaker
              strategy := c.retry.strategy } := by
  rw [build, check_then_eq_ok_iff, check_then_eq_ok_iff, check_then_eq_ok_iff,
    check_then_eq_ok_iff, demand_eq_ok_iff, validateThreshold, demand_eq_ok_iff]
  simp only [pure, Except.pure, Except.ok.injEq, eq_comm (a := l)]

/-- **The fault of a layer is that there is nothing inside, then that of the least failing status, then of
the breaker, then of the retries.** -/
theorem Layer.build_eq_error_iff {index : Nat} {hasInner : Bool} {c : LayerConfig} {f : ConfigFault} :
    Layer.build index hasInner c = .error f ↔
      ¬ hasInner = true ∧ f = .innerTransport ∨ hasInner = true ∧
        (¬ isStatus c.serverErrorThreshold ∧ f = .serverErrorThreshold c.serverErrorThreshold ∨
          isStatus c.serverErrorThreshold ∧
            (c.breaker.validate = .error f ∨
              c.breaker.validate = .ok () ∧ c.retry.validate = .error f)) := by
  rw [build, check_then_eq_error_iff, check_then_eq_error_iff, check_then_eq_error_iff,
    check_then_eq_error_iff, demand_eq_error_iff, demand_eq_ok_iff, validateThreshold,
    demand_eq_error_iff, demand_eq_ok_iff]
  simp only [pure, Except.pure, reduceCtorEq, and_false, or_false]

end Resilience
