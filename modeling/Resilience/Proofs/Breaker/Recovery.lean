/-
# How a breaker recovers

A breaker that is not closed is to become closed again once the dependency is well: after the cool-down
the next call is let through, and enough successes close the circuit.  This file says that no history
stands in the way of that, and how the time to wait that an open breaker tells is to be read.

* `MadeBy`: the calls of a history were made by an instant; a clock that never goes back sees to that.
* `BreakerState.AtRest`: the circuit is closed and nothing is counted.
* `Rule.of_success`: **the step.**  A success puts a breaker that is not open to rest, or is one more
  success of a probe.
* `Sound.atRest_run`: so enough successes put it to rest, from whichever count they start.
* `recovers_after_coolDown`: the cool-down, the call and the successes together.
* `allowed_after_wait_iff`: **the time to wait has to be exceeded**, unless the breaker has cooled down
  already; `not_allowed_iff_remaining_le` is a call that comes exactly at its end.
-/
import Resilience.Proofs.Breaker.CoolDown

namespace Resilience

open BreakerEvent

/-- The calls of the history were made by the instant `now`. -/
def MadeBy (now : Instant) (past : List BreakerEvent) : Prop := ∀ e ∈ past, e.now ≤ now

variable {config : BreakerConfig} {past successes : List BreakerEvent} {now later t : Instant}
  {d r : Duration}

theorem LatestFailure.le (h : LatestFailure past t) (hpast : MadeBy now past) : t ≤ now := by
  obtain ⟨before, after, rfl, -⟩ := h
  exact hpast ⟨.onFailure, t⟩ (by simp)

namespace BreakerState

variable {s next : BreakerState}

/-! ## 1. Successes -/

/-- The circuit is closed and nothing is counted. -/
structure AtRest (s : BreakerState) : Prop where
  closed : s.circuit = .closed
  failures : s.failures.value = 0
  probes : s.probes.value = 0

/-- **The step.**  A success puts a breaker that is not open to rest, or it is the success of a probe
and one more is needed. -/
theorem Rule.of_success (hr : s.Rule config now .onSuccess next) (h : s.Sound config)
    (ho : s.circuit ≠ .opened) :
    next.AtRest ∨ next.circuit = .halfOpen ∧ next.probes.value = s.probes.value + 1 := by
  cases hr with
  | cleared hc => exact Or.inl ⟨hc, rfl, h.probes_eq_zero (by simp [hc])⟩
  | late hopen => exact absurd hopen ho
  | probed hh _ => exact Or.inr ⟨hh, h.value_tick_probes⟩
  | recovered _ _ => exact Or.inl ⟨rfl, rfl, rfl⟩

/-- A success leaves a breaker at rest as it is. -/
theorem Rule.atRest (hr : s.Rule config now .onSuccess next) (h : s.AtRest) : next.AtRest := by
  cases hr with
  | cleared _ => exact ⟨h.closed, rfl, h.probes⟩
  | late hc | probed hc _ | recovered hc _ =>
    rw [h.closed] at hc
    cases hc

/-- So do any number of them. -/
theorem AtRest.run (h : s.AtRest) (hs : ∀ e ∈ successes, e.IsSuccess) :
    (s.run config successes).AtRest := by
  induction successes generalizing s with
  | nil => exact h
  | cons e successes ih =>
    obtain ⟨call, now⟩ := e
    obtain rfl : call = .onSuccess := hs _ List.mem_cons_self
    have hrule : s.Rule config now .onSuccess (s.step config ⟨.onSuccess, now⟩) :=
      s.step_rule ⟨.onSuccess, now⟩
    exact ih (hrule.atRest h) fun e he => hs e (List.mem_cons_of_mem _ he)

/-- **Enough successes put a breaker to rest**, unless it is open: as many as are needed, less those of
probes that it has counted.  The induction is on the successes; one that does not put it to rest is
counted. -/
theorem Sound.atRest_run (hc : config.validate = .ok ()) (h : s.Sound config)
    (ho : s.circuit ≠ .opened) (hs : ∀ e ∈ successes, e.IsSuccess) (hne : successes ≠ [])
    (hn : config.successesNeeded.toNat ≤ s.probes.value + successes.length) :
    (s.run config successes).AtRest := by
  induction successes generalizing s with
  | nil => exact absurd rfl hne
  | cons e successes ih =>
    obtain ⟨call, now⟩ := e
    obtain rfl : call = .onSuccess := hs _ List.mem_cons_self
    have hrest : ∀ e ∈ successes, e.IsSuccess := fun e he => hs e (List.mem_cons_of_mem _ he)
    have hrule : s.Rule config now .onSuccess (s.step config ⟨.onSuccess, now⟩) :=
      s.step_rule ⟨.onSuccess, now⟩
    have hsound := h.of_rule hc hrule
    rcases hrule.of_success h ho with hatRest | ⟨hhalf, hcount⟩
    · exact hatRest.run hrest
    · rw [List.length_cons] at hn
      refine ih hsound (by simp [hhalf]) hrest ?_ (by omega)
      -- the count is below the number needed, so the success was not the last one
      rintro rfl
      have := hsound.probes_lt
      simp only [List.length_nil] at hn
      omega

/-! ## 2. The cool-down -/

/-- A breaker has cooled down once more than the cool-down has passed since an instant that is not before
its latest failure. -/
theorem cooledDown_of_wait (hl : s.lastFailure = some t) (ht : t ≤ now)
    (hlater : now.after? d = some later) (hd : config.resetTimeout < d) :
    s.cooledDown config later = true := by
  rw [cooledDown_of_lastFailure hl]
  refine decide_eq_true ?_
  have hsum := Instant.nanos_of_after? hlater
  rw [Duration.lt_iff] at hd ⊢
  rw [Instant.le_iff] at ht
  rw [Instant.nanos_since]
  omega

/-- After a cool-down a call is let through, and the breaker is not open any more. -/
theorem Sound.allowed_of_wait (h : s.Sound config)
    (hlast : ∀ t, s.lastFailure = some t → t ≤ now) (hlater : now.after? d = some later)
    (hd : config.resetTimeout < d) :
    (s.isAllowed config later).1 = true ∧ (s.isAllowed config later).2.circuit ≠ .opened := by
  by_cases ho : s.circuit = .opened
  · obtain ⟨t, ht⟩ := h.exists_lastFailure (by simp [ho])
    rw [isAllowed_of_opened ho, if_pos (cooledDown_of_wait ht (hlast t ht) hlater hd)]
    exact ⟨rfl, nofun⟩
  · rw [isAllowed_of_ne ho]
    exact ⟨rfl, ho⟩

/-- **A breaker can always recover.**  Take valid settings and any history of calls that were made by
`now`.  More than the cool-down later a call is let through, and as many successes as are needed after
it, at any instants, leave the circuit closed and nothing counted.  So no history leaves a breaker open
or half-open for good. -/
theorem recovers_after_coolDown (hc : config.validate = .ok ()) (past : List BreakerEvent)
    (hpast : MadeBy now past) (hd : config.resetTimeout < d) (hlater : now.after? d = some later)
    (hs : ∀ e ∈ successes, e.call = .onSuccess)
    (hn : successes.length = config.successesNeeded.toNat) :
    let p := (initial.run config past).isAllowed config later
    p.1 = true ∧
      (p.2.run config successes).circuit = .closed ∧
      (p.2.run config successes).failures.value = 0 ∧
      (p.2.run config successes).probes.value = 0 := by
  intro p
  have hsound : (initial.run config past).Sound config := (Sound.initial hc).run hc past
  have hlast : ∀ t, (initial.run config past).lastFailure = some t → t ≤ now :=
    fun t ht => (lastFailure_run.mp ht).le hpast
  obtain ⟨hallowed, hopen⟩ := hsound.allowed_of_wait hlast hlater hd
  have hrule : (initial.run config past).Rule config later .isAllowed p.2 := rule_isAllowed
  have hp : p.2.Sound config := hsound.of_rule hc hrule
  have hpos := (BreakerConfig.validate_eq_ok_iff.mp hc).2
  have hne : successes ≠ [] := by
    rintro rfl
    simp only [List.length_nil] at hn
    omega
  have hrest := hp.atRest_run hc hopen hs hne (by omega)
  exact ⟨hallowed, hrest.closed, hrest.failures, hrest.probes⟩

/-- With a threshold of one and two successes needed, a breaker fails, lets a probe through, counts its
success and fails again at second 62.  More than a minute later a call is let through, and two successes
close the circuit. -/
theorem recovers_from_failed_probe :
    let config : BreakerConfig := { failureThreshold := 1, successesNeeded := 2 }
    let past : List BreakerEvent :=
      [⟨.onFailure, .origin⟩, ⟨.isAllowed, ⟨.ofSeconds 61⟩⟩, ⟨.onSuccess, ⟨.ofSeconds 61⟩⟩,
        ⟨.onFailure, ⟨.ofSeconds 62⟩⟩]
    let later : Instant := ⟨.ofSeconds 123⟩
    let successes : List BreakerEvent := [⟨.onSuccess, later⟩, ⟨.onSuccess, later⟩]
    let p := (initial.run config past).isAllowed config later
    config.validate = .ok () ∧ MadeBy ⟨.ofSeconds 62⟩ past ∧
      (initial.run config past).circuit = .opened ∧
      p.1 = true ∧ (p.2.run config successes).circuit = .closed := by
  intro config past later successes p
  have hpast : MadeBy ⟨.ofSeconds 62⟩ past := by
    unfold MadeBy
    decide
  have hcoolDown : config.resetTimeout < .ofSeconds 61 := by decide
  have hlater : (⟨.ofSeconds 62⟩ : Instant).after? (.ofSeconds 61) = some later := by decide
  have hs : ∀ e ∈ successes, e.call = .onSuccess := by decide
  obtain ⟨hallowed, hclosed, -⟩ := recovers_after_coolDown rfl past hpast hcoolDown hlater hs rfl
  exact ⟨rfl, hpast, by decide, hallowed, hclosed⟩

/-! ## 3. The time to wait -/

/-- After a wait the breaker has cooled down if it had before, or if the wait is longer than the time that
was left. -/
theorem cooledDown_after_wait (hl : s.lastFailure = some t) (ht : t ≤ now)
    (hlater : now.after? d = some later) :
    s.cooledDown config later = true ↔
      config.resetTimeout - now.since t < d ∨ config.resetTimeout < now.since t := by
  rw [cooledDown_of_lastFailure hl, decide_eq_true_iff]
  have hsum := Instant.nanos_of_after? hlater
  simp only [Duration.lt_iff, Duration.nanos_sub, Instant.nanos_since]
  rw [Instant.le_iff] at ht
  omega

/-- **How the time to wait is to be read.**  Take valid settings and any history of calls that were made
by `now`, at which the breaker is open and tells the time `r`.  A wait of `d`, with no call in between,
ends with the next call let through exactly if it is longer than `r`, or if more than the cool-down had
passed at `now` already; then `r` is zero. -/
theorem allowed_after_wait_iff (hc : config.validate = .ok ()) (past : List BreakerEvent)
    (hpast : MadeBy now past) (hr : (initial.run config past).remaining config now = some r)
    (hlater : now.after? d = some later) :
    (((initial.run config past).isAllowed config later).1 = true ↔
      r < d ∨ ∃ t, LatestFailure past t ∧ config.resetTimeout < now.since t) ∧
    ∀ t, LatestFailure past t → config.resetTimeout < now.since t → r = .zero := by
  have ho : (initial.run config past).circuit = .opened := by
    by_contra ho
    rw [remaining_eq_none_iff.mpr ho] at hr
    cases hr
  obtain ⟨t, ht, huniq, -⟩ := exists_cooledDown_eq hc ho
  have hlast : (initial.run config past).lastFailure = some t := lastFailure_run.mpr ht
  obtain rfl : config.resetTimeout - now.since t = r :=
    Option.some_inj.mp ((remaining_of_lastFailure ho hlast).symm.trans hr)
  constructor
  · have hcool : (initial.run config past).cooledDown config later = true ↔ _ :=
      cooledDown_after_wait hlast (ht.le hpast) hlater
    rw [isAllowed_of_opened ho]
    constructor
    · intro hallowed
      rcases hcool.mp (by_contra fun hnot => by simp [hnot] at hallowed) with h | h
      · exact Or.inl h
      · exact Or.inr ⟨t, ht, h⟩
    · rintro (h | ⟨u, hu, h⟩)
      · rw [if_pos (hcool.mpr (Or.inl h))]
      · rw [huniq u hu] at h
        rw [if_pos (hcool.mpr (Or.inr h))]
  · intro u hu hlt
    rw [huniq u hu] at hlt
    rw [Duration.lt_iff] at hlt
    exact Duration.ext (Nat.sub_eq_zero_of_le (Nat.le_of_lt hlt))

/-- Four seconds after a failure 56 of the minute are left, and 57 seconds later a call is let through. -/
theorem allowed_after_longer_wait :
    let config : BreakerConfig := { failureThreshold := 1 }
    let past : List BreakerEvent := [⟨.onFailure, .origin⟩]
    config.validate = .ok () ∧ MadeBy ⟨.ofSeconds 4⟩ past ∧
      (initial.run config past).remaining config ⟨.ofSeconds 4⟩ = some (.ofSeconds 56) ∧
      ((initial.run config past).isAllowed config ⟨.ofSeconds 61⟩).1 = true := by
  intro config past
  have hpast : MadeBy ⟨.ofSeconds 4⟩ past := by
    unfold MadeBy
    decide
  have hr : (initial.run config past).remaining config ⟨.ofSeconds 4⟩ = some (.ofSeconds 56) := by
    decide
  have hlater : (⟨.ofSeconds 4⟩ : Instant).after? (.ofSeconds 57) = some ⟨.ofSeconds 61⟩ := by decide
  exact ⟨rfl, hpast, hr, (allowed_after_wait_iff rfl past hpast hr hlater).1.mpr (Or.inl (by decide))⟩

/-- A wait of exactly the time that was left is too short: a minute after a failure the whole minute has
been waited, and the call is rejected. -/
theorem not_allowed_iff_remaining_le :
    ¬ ∀ (config : BreakerConfig) (past : List BreakerEvent) (now later : Instant) (r d : Duration),
      config.validate = .ok () → MadeBy now past →
        (initial.run config past).remaining config now = some r → now.after? d = some later →
          (((initial.run config past).isAllowed config later).1 = true ↔ r ≤ d) := by
  intro hall
  have hpast : MadeBy .origin [⟨.onFailure, .origin⟩] := by
    unfold MadeBy
    decide
  have h := hall { failureThreshold := 1 } [⟨.onFailure, .origin⟩] .origin ⟨.ofSeconds 60⟩
    (.ofSeconds 60) (.ofSeconds 60) rfl hpast (by decide) (by decide)
  exact absurd (h.mpr (by decide)) (by decide)

end BreakerState

end Resilience
