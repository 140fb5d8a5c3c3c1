/-
# One delay

The delay after an attempt is drawn at random around a power, and may come out as any double on the way.
This file says what it is in the end, whatever the source of randomness gives.

* `Strategy.clamp_le`, `Strategy.delay_le`: no double makes a delay longer than the longest one.
* `Strategy.nextBackoff_cases`: **one delay, with the sample that it draws.**
* `Strategy.only_nextBackoff`: nothing is asked for it but that sample.
* `backoff_bounded`: all together, for the strategy of any settings.
-/
import Resilience.Backoff
import Resilience.Proofs.Program.Run

namespace Resilience

namespace Strategy

variable {s : Strategy} {layer k : Nat} {draw : List Asked} {d : Duration}

/-! ## 1. The span of a delay -/

/-- What is no positive number is no delay, and what is out of the range of spans is the longest one. -/
theorem clamp_le (s : Strategy) (seconds : Float) : s.clamp seconds ≤ s.maxInterval := by
  unfold clamp
  split
  · exact Nat.zero_le _
  · split
    · rw [Duration.le_iff, Duration.nanos_min]
      exact Nat.min_le_right _ _
    · exact Nat.le_refl _

theorem delay_le (s : Strategy) (k : Nat) (sample : Option Float) : s.delay k sample ≤ s.maxInterval := by
  unfold delay
  split
  · exact Nat.zero_le _
  · cases sample with
    | none => exact s.clamp_le _
    | some x => exact s.clamp_le _

/-- After the attempts there is no delay. -/
theorem delay_eq_zero (h : s.maxAttempts.toNat ≤ k) (sample : Option Float) :
    s.delay k sample = .zero := by
  unfold delay
  exact if_pos h

/-! ## 2. Drawing a sample -/

/-- **One delay.**  Either a sample is drawn, and the delay is the one for what was drawn; or none is
needed. -/
theorem nextBackoff_cases (h : (s.nextBackoff layer k).Yields draw d) :
    pauses draw = [] ∧
      ((s.draws k = true ∧ ∃ sample, samples draw = [sample] ∧ d = s.delay k sample) ∨
        (s.draws k = false ∧ samples draw = [] ∧ d = s.delay k none)) := by
  unfold nextBackoff at h
  split at h
  · rename_i hdraws
    rw [Program.yields_query_bind_iff] at h
    obtain ⟨sample, rest, rfl, h⟩ := h
    simp only at h
    -- a line is written if there is no sample, and the delay is the same program either way
    split at h
    · rw [Program.yields_trace_bind_iff] at h
      obtain ⟨rest, rfl, h⟩ := h
      obtain ⟨rfl, rfl⟩ := Program.yields_pure_iff.mp h
      exact ⟨rfl, Or.inl ⟨hdraws, sample, rfl, rfl⟩⟩
    · obtain ⟨rfl, rfl⟩ := Program.yields_pure_iff.mp h
      exact ⟨rfl, Or.inl ⟨hdraws, sample, rfl, rfl⟩⟩
  · rename_i hdraws
    obtain ⟨rfl, rfl⟩ := Program.yields_pure_iff.mp h
    exact ⟨rfl, Or.inr ⟨Bool.eq_false_iff.mpr hdraws, rfl, rfl⟩⟩

/-- A sample is needed before the attempts are used up, if delays are spread at random. -/
theorem draws_eq_true_iff : s.draws k = true ↔ k < s.maxAttempts.toNat ∧ 0.0 < s.randomFactor := by
  rw [draws, Bool.and_eq_true, decide_eq_true_iff, decide_eq_true_iff]

/-- A delay draws one sample if one is needed, and none otherwise. -/
theorem length_samples_nextBackoff (h : (s.nextBackoff layer k).Yields draw d) :
    (samples draw).length = if k < s.maxAttempts.toNat ∧ 0.0 < s.randomFactor then 1 else 0 := by
  rcases nextBackoff_cases h with ⟨-, ⟨hdraws, sample, hone, -⟩ | ⟨hdraws, hnone, -⟩⟩
  · rw [if_pos (draws_eq_true_iff.mp hdraws), hone]
    rfl
  · rw [if_neg (mt draws_eq_true_iff.mpr (Bool.eq_false_iff.mp hdraws)), hnone]
    rfl

/-- No delay is longer than the longest one. -/
theorem nextBackoff_le (h : (s.nextBackoff layer k).Yields draw d) : d ≤ s.maxInterval := by
  rcases nextBackoff_cases h with ⟨-, ⟨-, sample, -, rfl⟩ | ⟨-, -, rfl⟩⟩
  · exact s.delay_le k sample
  · exact s.delay_le k none

/-- A delay asks for a sample at most, and writes a line. -/
theorem only_nextBackoff {P : Query → Prop} (hs : P (.sample layer)) (ht : ∀ line, P (.trace line)) :
    (s.nextBackoff layer k).Only P := by
  refine Program.Only.ite ?_ (Program.only_pure _)
  refine Program.Only.bind (Program.only_query.mpr hs) fun sample => ?_
  refine Program.Only.ite ?_ (Program.only_pure _)
  exact Program.Only.bind (Program.only_trace.mpr (ht _)) fun _ => Program.only_pure _

/-- The delay is the one for what was drawn, if anything was. -/
theorem nextBackoff_eq (h : (s.nextBackoff layer k).Yields draw d) :
    d = s.delay k (samples draw).head?.join := by
  rcases nextBackoff_cases h with ⟨-, ⟨-, sample, hone, rfl⟩ | ⟨-, hnone, rfl⟩⟩
  · rw [hone]
    rfl
  · rw [hnone]
    rfl

end Strategy

/-! ## 3. The strategy of settings -/

namespace RetryConfig

variable {c : RetryConfig} {layer k : Nat} {draw : List Asked} {d : Duration}

/-- Delays that are not spread draw nothing. -/
theorem draws_withoutJitter (c : RetryConfig) (k : Nat) : c.withoutJitter.strategy.draws k = false := by
  rw [Bool.eq_false_iff, ne_eq, Strategy.draws_eq_true_iff]
  have hzero : ¬ (0.0 : Float) < 0.0 := by decide
  exact fun h => hzero h.2

/-- They are the delays without a sample. -/
theorem nextBackoff_withoutJitter (h : (c.withoutJitter.strategy.nextBackoff layer k).Yields draw d) :
    d = c.strategy.delay k none := by
  rcases Strategy.nextBackoff_cases h with ⟨-, ⟨hdraws, -⟩ | ⟨-, -, rfl⟩⟩
  · rw [draws_withoutJitter] at hdraws
    cases hdraws
  · rfl

end RetryConfig

/-- **The delay of an attempt, whatever the source of randomness gives**: a double of any kind, or nothing.

* It comes to a span that is no longer than the longest delay, and to none after the attempts.
* It draws one sample if the attempts are not used up and delays are spread at random, and none otherwise.
  Besides it writes to the trace at most.
* It is the delay for that sample.  If the source gives nothing, it is the delay of the same settings without
  a spread. -/
theorem backoff_bounded (c : RetryConfig) (layer : Nat) (attempt : UInt32) (env : Surroundings) :
    let next := c.strategy.nextBackoff layer attempt.toNat
    env.result next ≤ c.maxInterval ∧
    (c.maxAttempts ≤ attempt → env.result next = .zero) ∧
    (samples (env.log next)).length =
      (if attempt < c.maxAttempts ∧ 0.0 < c.randomFactor then 1 else 0) ∧
    (∀ x ∈ env.log next, x.query = .sample layer ∨ ∃ line, x.query = .trace line) ∧
    env.result next = c.strategy.delay attempt.toNat (samples (env.log next)).head?.join ∧
    (samples (env.log next) = [none] → ∀ env' : Surroundings,
      env'.result (c.withoutJitter.strategy.nextBackoff layer attempt.toNat) = env.result next) := by
  intro next
  have hyields : next.Yields (env.log next) (env.result next) := env.yields next
  have heq := Strategy.nextBackoff_eq hyields
  refine ⟨Strategy.nextBackoff_le hyields, fun hle => ?_, ?_, ?_, heq, fun hnone env' => ?_⟩
  · rw [heq]
    exact Strategy.delay_eq_zero (UInt32.le_iff_toNat_le.mp hle) _
  · simp only [UInt32.lt_iff_toNat_lt]
    exact Strategy.length_samples_nextBackoff hyields
  · have honly : next.Only fun query => query = .sample layer ∨ ∃ line, query = .trace line :=
      Strategy.only_nextBackoff (Or.inl rfl) fun line => Or.inr ⟨line, rfl⟩
    exact honly.of_mem hyields
  · rw [heq, hnone]
    exact RetryConfig.nextBackoff_withoutJitter (env'.yields _)

end Resilience
