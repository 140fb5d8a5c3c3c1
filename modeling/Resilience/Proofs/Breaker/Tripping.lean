/-
# When a breaker trips

A closed breaker counts failures one by one, clears the count at a success and opens when the count
reaches the threshold.  This file says what that means for the history of its calls: a breaker that
starts afresh opens at the call that completes the first block of so many failures with no success
among them, and not before.

* `FailureBlock`: the property of a history; it says nothing of counters.
* `streak`: the failures since the last success.  A history contains a block exactly if the streak of
  one of its beginnings is long enough (`failureBlock_iff`).
* `BreakerState.Rule.of_closed`: **the step.**  While a breaker is closed its count is the streak, up to
  the call that opens it; neither saturates, since the threshold fits into the count.
* `BreakerState.trips_at_first_block`: the whole.
-/
import Mathlib.Data.List.Infix
import Resilience.Proofs.Breaker.Invariant

namespace Resilience

/-! ## 1. Blocks of failures -/

namespace BreakerEvent

/-- The call reports a failure. -/
def IsFailure (e : BreakerEvent) : Prop := e.call = .onFailure

instance : DecidablePred IsFailure := fun e => inferInstanceAs (Decidable (e.call = .onFailure))

/-- The call reports a success. -/
def IsSuccess (e : BreakerEvent) : Prop := e.call = .onSuccess

instance : DecidablePred IsSuccess := fun e => inferInstanceAs (Decidable (e.call = .onSuccess))

end BreakerEvent

open BreakerEvent

/-- The history contains `n` failures with no success between them. -/
def FailureBlock (n : Nat) (events : List BreakerEvent) : Prop :=
  ∃ block, block <:+: events ∧ (∀ e ∈ block, ¬ e.IsSuccess) ∧ n ≤ block.countP (IsFailure ·)

/-- The call `e` after the history `front` completes the first such block. -/
def CompletesFirstBlock (n : Nat) (front : List BreakerEvent) (e : BreakerEvent) : Prop :=
  ¬ FailureBlock n front ∧ FailureBlock n (front ++ [e])

/-- The streak after one more call. -/
def streakStep (n : Nat) (e : BreakerEvent) : Nat :=
  match e.call with
  | .onFailure => n + 1
  | .onSuccess => 0
  | _ => n

/-- The failures since the last success. -/
def streak (events : List BreakerEvent) : Nat := events.foldl streakStep 0

variable {n : Nat} {events block front : List BreakerEvent} {e : BreakerEvent}

@[simp] theorem streak_nil : streak [] = 0 := rfl

theorem streak_concat (events : List BreakerEvent) (e : BreakerEvent) :
    streak (events ++ [e]) = streakStep (streak events) e := by
  rw [streak, List.foldl_append]
  rfl

/-- A call that is not a success adds its failure, if it is one. -/
theorem streakStep_eq (h : ¬ e.IsSuccess) : streakStep n e = n + [e].countP (IsFailure ·) := by
  obtain ⟨call, now⟩ := e
  cases call with
  | onSuccess => exact absurd rfl h
  | onFailure => rfl
  | isAllowed => rfl
  | reset => rfl

/-- Without a success, the failures are added up. -/
theorem foldl_streakStep (h : ∀ e ∈ block, ¬ e.IsSuccess) :
    block.foldl streakStep n = n + block.countP (IsFailure ·) := by
  induction block generalizing n with
  | nil => rfl
  | cons e block ih =>
    rw [List.foldl_cons, ih fun x hx => h x (List.mem_cons_of_mem _ hx),
      streakStep_eq (h e List.mem_cons_self), Nat.add_assoc, ← List.countP_append]
    rfl

/-- No block at the end of a history has more failures than its streak. -/
theorem countP_le_streak (hb : block <:+ events) (h : ∀ e ∈ block, ¬ e.IsSuccess) :
    block.countP (IsFailure ·) ≤ streak events := by
  obtain ⟨before, rfl⟩ := hb
  rw [streak, List.foldl_append, foldl_streakStep h]
  exact Nat.le_add_left _ _

/-- The streak is the failures of a block at the end of the history. -/
theorem exists_countP_eq_streak (events : List BreakerEvent) :
    ∃ block, block <:+ events ∧ (∀ e ∈ block, ¬ e.IsSuccess) ∧
      block.countP (IsFailure ·) = streak events := by
  induction events using List.reverseRecOn with
  | nil => exact ⟨[], List.suffix_refl [], by simp, rfl⟩
  | append_singleton events e ih =>
    by_cases hs : e.IsSuccess
    · refine ⟨[], List.nil_suffix, by simp, ?_⟩
      rw [streak_concat, streakStep, hs]
      rfl
    · obtain ⟨block, ⟨before, rfl⟩, hnone, hcount⟩ := ih
      refine ⟨block ++ [e], ⟨before, (List.append_assoc _ _ _).symm⟩, ?_, ?_⟩
      · intro x hx
        rcases List.mem_append.mp hx with hx | hx
        · exact hnone x hx
        · rwa [List.mem_singleton.mp hx]
      · rw [streak_concat, streakStep_eq hs, List.countP_append, hcount]

/-- **A history contains a block exactly if one of its beginnings has so long a streak.** -/
theorem failureBlock_iff : FailureBlock n events ↔ ∃ front, front <+: events ∧ n ≤ streak front := by
  constructor
  · rintro ⟨block, ⟨before, after, rfl⟩, hnone, hn⟩
    exact ⟨before ++ block, List.prefix_append _ _,
      Nat.le_trans hn (countP_le_streak (List.suffix_append _ _) hnone)⟩
  · rintro ⟨front, hf, hn⟩
    obtain ⟨block, hb, hnone, hcount⟩ := exists_countP_eq_streak front
    exact ⟨block, hb.isInfix.trans hf.isInfix, hnone, hcount ▸ hn⟩

theorem not_failureBlock_iff :
    ¬ FailureBlock n events ↔ ∀ front, front <+: events → streak front < n := by
  simp only [failureBlock_iff, not_exists, not_and, Nat.not_le]

instance : Decidable (FailureBlock n events) :=
  decidable_of_iff (∃ front ∈ events.inits, n ≤ streak front) (by
    simp only [List.mem_inits, failureBlock_iff])

instance : Decidable (CompletesFirstBlock n front e) :=
  inferInstanceAs (Decidable (_ ∧ _))

/-- A block stays in the history as it goes on. -/
theorem FailureBlock.of_prefix (h : FailureBlock n front) (hf : front <+: events) :
    FailureBlock n events := by
  obtain ⟨block, hb, hnone, hn⟩ := h
  exact ⟨block, hb.trans hf.isInfix, hnone, hn⟩

/-- One more call makes a block exactly if there was one before or the streak is now long enough. -/
theorem failureBlock_concat_iff :
    FailureBlock n (events ++ [e]) ↔ FailureBlock n events ∨ n ≤ streak (events ++ [e]) := by
  simp only [failureBlock_iff, List.prefix_concat_iff]
  constructor
  · rintro ⟨front, rfl | hf, hn⟩
    · exact Or.inr hn
    · exact Or.inl ⟨front, hf, hn⟩
  · rintro (⟨front, hf, hn⟩ | hn)
    · exact ⟨front, Or.inr hf, hn⟩
    · exact ⟨events ++ [e], Or.inl rfl, hn⟩

/-- A call that completes the first block reports a failure. -/
theorem CompletesFirstBlock.isFailure (h : CompletesFirstBlock n front e) : e.IsFailure := by
  obtain ⟨hbefore, hafter⟩ := h
  have hlt := not_failureBlock_iff.mp hbefore front (List.prefix_refl front)
  have hle := (failureBlock_concat_iff.mp hafter).resolve_left hbefore
  rw [streak_concat] at hle
  obtain ⟨call, now⟩ := e
  cases call with
  | onFailure => rfl
  | onSuccess => exact absurd (Nat.lt_of_le_of_lt (Nat.zero_le _) hlt) (Nat.not_lt.mpr hle)
  | isAllowed => exact absurd hlt (Nat.not_lt.mpr hle)
  | reset => exact absurd hlt (Nat.not_lt.mpr hle)

/-- If there is a block, some call completes the first one. -/
theorem exists_completesFirstBlock (hn : 0 < n) (h : FailureBlock n events) :
    ∃ front e rest, events = front ++ e :: rest ∧ CompletesFirstBlock n front e := by
  induction events using List.reverseRecOn with
  | nil =>
    obtain ⟨front, hf, hle⟩ := failureBlock_iff.mp h
    rw [List.prefix_nil.mp hf, streak_nil] at hle
    omega
  | append_singleton events e ih =>
    by_cases hb : FailureBlock n events
    · obtain ⟨front, x, rest, rfl, hfirst⟩ := ih hb
      exact ⟨front, x, rest ++ [e], by simp, hfirst⟩
    · exact ⟨events, e, [], rfl, hb, h⟩

namespace BreakerState

/-! ## 2. A closed breaker counts the streak -/

variable {config : BreakerConfig} {s t : BreakerState} {now : Instant} {call : BreakerCall}

/-- **The step.**  While the count stays below the threshold the breaker stays closed, and the call that
brings it there opens the breaker. -/
theorem Rule.of_closed (hr : s.Rule config e.now e.call t) (hcl : s.circuit = .closed)
    (he : e.call ≠ .reset) (hn : s.failures.value < config.failureThreshold.toNat) :
    (streakStep s.failures.value e < config.failureThreshold.toNat →
      t.circuit = .closed ∧ t.failures.value = streakStep s.failures.value e) ∧
    (config.failureThreshold.toNat ≤ streakStep s.failures.value e → t.circuit = .opened) := by
  have hcap : config.failureThreshold.toNat ≤ 4294967295 := by
    have := config.failureThreshold.toNat_lt
    omega
  have htick := Counter.value_tick_of_lt_bound hcap hn
  obtain ⟨call, now⟩ := e
  cases hr with
  | passed _ => exact ⟨fun _ => ⟨hcl, rfl⟩, fun hle => absurd hn (Nat.not_lt.mpr hle)⟩
  | cleared _ =>
    refine ⟨fun _ => ⟨hcl, rfl⟩, fun hle => ?_⟩
    exact absurd (Nat.lt_of_le_of_lt (Nat.zero_le _) hn) (Nat.not_lt.mpr hle)
  | counted _ hlt =>
    rw [htick] at hlt
    exact ⟨fun _ => ⟨hcl, htick⟩, fun hle => absurd hlt (Nat.not_lt.mpr hle)⟩
  | tripped _ hle =>
    rw [htick] at hle
    exact ⟨fun hlt => absurd hlt (Nat.not_lt.mpr hle), fun _ => rfl⟩
  | forgotten => exact absurd rfl he
  | probing ho | rejected ho | late ho | probed ho | recovered ho | extended ho | reopened ho =>
    rw [hcl] at ho
    cases ho

/-- A call that closes the breaker clears its count. -/
theorem Rule.failures_of_closing (hr : s.Rule config now call t) (hs : s.circuit ≠ .closed)
    (ht : t.circuit = .closed) : t.failures.value = 0 := by
  cases hr with
  | recovered _ _ => rfl
  | forgotten => rfl
  | passed _ => exact absurd ht hs
  | cleared hcl | counted hcl => exact absurd hcl hs
  | probed hh | rejected hh | late hh | extended hh => exact absurd ht hs
  | probing _ | tripped _ | reopened _ => cases ht

variable (config s)

/-- The breaker is closed after every beginning of the history. -/
def StaysClosed (events : List BreakerEvent) : Prop :=
  ∀ front, front <+: events → (s.run config front).circuit = .closed

/-- The breaker is closed all along the history `front`, and the call `e` after it opens the breaker. -/
def TripsAt (front : List BreakerEvent) (e : BreakerEvent) : Prop :=
  s.StaysClosed config front ∧ (s.run config (front ++ [e])).circuit = .opened

/-- The breaker is new, has just been reset, or has just been closed by the successes of its probes. -/
inductive Fresh : BreakerState → Prop
  | new : Fresh initial
  | reset (past : List BreakerEvent) (now : Instant) :
      Fresh ((initial.run config past).step config ⟨.reset, now⟩)
  | recovered (past : List BreakerEvent) (now : Instant)
      (hh : (initial.run config past).circuit = .halfOpen)
      (hcl : ((initial.run config past).step config ⟨.onSuccess, now⟩).circuit = .closed) :
      Fresh ((initial.run config past).step config ⟨.onSuccess, now⟩)

variable {config s}

/-- A breaker that starts afresh is closed and has counted no failure. -/
theorem Fresh.eq (h : Fresh config s) : s.circuit = .closed ∧ s.failures.value = 0 := by
  cases h with
  | new => exact ⟨rfl, rfl⟩
  | reset past now => exact ⟨rfl, rfl⟩
  | recovered past now hh hcl =>
    exact ⟨hcl, (step_rule _ _).failures_of_closing (by simp [hh]) hcl⟩

/-- **The run.**  As long as there is no block the breaker is closed, and its count is the streak. -/
theorem closed_run (hs : s.circuit = .closed ∧ s.failures.value = 0)
    (hreset : ∀ e ∈ events, e.call ≠ .reset)
    (h : ¬ FailureBlock config.failureThreshold.toNat events) :
    (s.run config events).circuit = .closed ∧ (s.run config events).failures.value = streak events := by
  induction events using List.reverseRecOn with
  | nil => exact hs
  | append_singleton events e ih =>
    -- neither is there a block before `e`, nor does `e` make the streak long enough
    obtain ⟨hbefore, hlt⟩ := not_or.mp (mt failureBlock_concat_iff.mpr h)
    obtain ⟨hcl, hcount⟩ := ih (fun x hx => hreset x (List.mem_append_left [e] hx)) hbefore
    have hn := not_failureBlock_iff.mp hbefore events (List.prefix_refl events)
    rw [← hcount] at hn
    rw [streak_concat, ← hcount] at hlt
    rw [run_concat, streak_concat, ← hcount]
    exact ((step_rule _ e).of_closed hcl (hreset e (by simp)) hn).1 (Nat.not_le.mp hlt)

/-- The call that completes the first block opens the breaker. -/
theorem opened_of_completesFirstBlock (hs : s.circuit = .closed ∧ s.failures.value = 0)
    (hreset : ∀ x ∈ front ++ [e], x.call ≠ .reset)
    (h : CompletesFirstBlock config.failureThreshold.toNat front e) :
    (s.run config (front ++ [e])).circuit = .opened := by
  obtain ⟨hbefore, hafter⟩ := h
  obtain ⟨hcl, hcount⟩ := closed_run hs (fun x hx => hreset x (List.mem_append_left [e] hx)) hbefore
  have hn := not_failureBlock_iff.mp hbefore front (List.prefix_refl front)
  have hle := (failureBlock_concat_iff.mp hafter).resolve_left hbefore
  rw [← hcount] at hn
  rw [streak_concat, ← hcount] at hle
  rw [run_concat]
  exact ((step_rule _ e).of_closed hcl (hreset e (by simp)) hn).2 hle

/-- **A breaker that starts afresh stays closed exactly along the histories without a block.** -/
theorem staysClosed_iff (hs : s.circuit = .closed ∧ s.failures.value = 0)
    (hpos : 0 < config.failureThreshold.toNat) (hreset : ∀ e ∈ events, e.call ≠ .reset) :
    s.StaysClosed config events ↔ ¬ FailureBlock config.failureThreshold.toNat events := by
  constructor
  · intro hstay hblock
    obtain ⟨front, e, rest, rfl, hfirst⟩ := exists_completesFirstBlock hpos hblock
    have hbegin : front ++ [e] <+: front ++ e :: rest := ⟨rest, by simp⟩
    have hopen := opened_of_completesFirstBlock hs (fun x hx => hreset x (hbegin.subset hx)) hfirst
    rw [hstay _ hbegin] at hopen
    cases hopen
  · intro hblock front hf
    exact (closed_run hs (fun x hx => hreset x (hf.subset hx)) fun h => hblock (h.of_prefix hf)).1

/-- **The call at which it opens is the one that completes the first block.** -/
theorem tripsAt_iff (hs : s.circuit = .closed ∧ s.failures.value = 0)
    (hpos : 0 < config.failureThreshold.toNat) (hreset : ∀ x ∈ front ++ [e], x.call ≠ .reset) :
    s.TripsAt config front e ↔ CompletesFirstBlock config.failureThreshold.toNat front e := by
  have hstay := staysClosed_iff hs hpos fun x hx => hreset x (List.mem_append_left [e] hx)
  constructor
  · rintro ⟨hclosed, hopen⟩
    refine ⟨hstay.mp hclosed, ?_⟩
    by_contra hblock
    have hcl := (closed_run hs hreset hblock).1
    rw [hopen] at hcl
    cases hcl
  · intro h
    exact ⟨hstay.mpr h.1, opened_of_completesFirstBlock hs hreset h⟩

/-! ## 3. Failures with nothing between them -/

/-- A failure is counted in every position, and no circuit is half-open after it. -/
theorem Rule.of_failure (hr : s.Rule config e.now e.call t) (he : e.IsFailure) :
    t.failures = s.failures.tick ∧ t.circuit ≠ .halfOpen := by
  rw [he] at hr
  cases hr with
  | counted hcl _ => exact ⟨rfl, by simp [hcl]⟩
  | tripped _ _ => exact ⟨rfl, nofun⟩
  | extended ho => exact ⟨rfl, by simp [ho]⟩
  | reopened _ => exact ⟨rfl, nofun⟩

/-- Failures alone are all counted, as far as the count goes. -/
theorem length_le_failures_run (s : BreakerState) (h : ∀ e ∈ block, e.IsFailure) :
    min block.length 4294967295 ≤ (s.run config block).failures.value := by
  induction block using List.reverseRecOn with
  | nil => exact Nat.le_trans (Nat.min_le_left _ _) (Nat.zero_le _)
  | append_singleton block e ih =>
    have hblock := ih fun x hx => h x (List.mem_append_left [e] hx)
    rw [run_concat, ((step_rule _ e).of_failure (h e (by simp))).1, Counter.value_tick,
      List.length_append, List.length_singleton]
    omega

/-- **Failures without any other call between them, as many as the threshold, leave every breaker
open.** -/
theorem Sound.opened_of_failures (hc : config.validate = .ok ()) (hs : s.Sound config)
    (hlen : block.length = config.failureThreshold.toNat) (h : ∀ e ∈ block, e.IsFailure) :
    (s.run config block).circuit = .opened := by
  have hlimit := config.failureThreshold.toNat_lt
  have hcount : min block.length 4294967295 ≤ (s.run config block).failures.value :=
    length_le_failures_run s h
  have hnot_closed : (s.run config block).circuit ≠ .closed := by
    intro hcl
    have := (hs.run hc block).closed_iff.mp hcl
    omega
  -- the block is not empty, and its last call leaves no circuit half-open
  have hnot_half : (s.run config block).circuit ≠ .halfOpen := by
    rcases block.eq_nil_or_concat with rfl | ⟨front, e, rfl⟩
    · have := (BreakerConfig.validate_eq_ok_iff.mp hc).1
      rw [List.length_nil] at hlen
      omega
    · rw [List.concat_eq_append] at h ⊢
      rw [run_concat]
      exact ((step_rule _ e).of_failure (h e (by simp))).2
  cases hcirc : (s.run config block).circuit with
  | opened => rfl
  | closed => exact absurd hcirc hnot_closed
  | halfOpen => exact absurd hcirc hnot_half

/-- **When a breaker with valid settings trips.**  A breaker that starts afresh stays closed along a
history without a reset exactly if the history has no block of failures, as many as the threshold, with
no success between them.  If there is such a block, the breaker opens at the call that completes the
first one, which is a failure, and at no other.  And from whatever state a history can lead to, so many
failures with no other call between them leave the breaker open. -/
theorem trips_at_first_block {config : BreakerConfig} (hc : config.validate = .ok ()) :
    (∀ s, Fresh config s → ∀ events : List BreakerEvent, (∀ e ∈ events, e.call ≠ .reset) →
      (s.StaysClosed config events ↔ ¬ FailureBlock config.failureThreshold.toNat events) ∧
      (FailureBlock config.failureThreshold.toNat events →
        ∃ front e rest, events = front ++ e :: rest ∧ e.IsFailure ∧
          CompletesFirstBlock config.failureThreshold.toNat front e ∧ s.TripsAt config front e) ∧
      ∀ front e rest, events = front ++ e :: rest →
        (s.TripsAt config front e ↔
          CompletesFirstBlock config.failureThreshold.toNat front e)) ∧
    ∀ past block : List BreakerEvent, block.length = config.failureThreshold.toNat →
      (∀ e ∈ block, e.IsFailure) →
      ((initial.run config past).run config block).circuit = .opened := by
  have hpos := (BreakerConfig.validate_eq_ok_iff.mp hc).1
  constructor
  · intro s hs events hreset
    have htrips : ∀ front e rest, events = front ++ e :: rest →
        (s.TripsAt config front e ↔ CompletesFirstBlock config.failureThreshold.toNat front e) := by
      rintro front e rest rfl
      refine tripsAt_iff hs.eq hpos fun x hx => hreset x ?_
      have hbegin : front ++ [e] <+: front ++ e :: rest := ⟨rest, by simp⟩
      exact hbegin.subset hx
    refine ⟨staysClosed_iff hs.eq hpos hreset, fun hblock => ?_, htrips⟩
    obtain ⟨front, e, rest, heq, hfirst⟩ := exists_completesFirstBlock hpos hblock
    exact ⟨front, e, rest, heq, hfirst.isFailure, hfirst, (htrips front e rest heq).mpr hfirst⟩
  · intro past block hlen hfail
    exact ((Sound.initial hc).run hc past).opened_of_failures hc hlen hfail

/-- With a threshold of two, a success between two failures keeps a new breaker closed; the next
failure opens it, although a call is asked for in between, and one more leaves it open. -/
theorem trips_at_second_failure_in_a_row :
    let config : BreakerConfig := { failureThreshold := 2 }
    let front : List BreakerEvent :=
      [⟨.onFailure, .origin⟩, ⟨.onSuccess, .origin⟩, ⟨.onFailure, .origin⟩, ⟨.isAllowed, .origin⟩]
    config.validate = .ok () ∧ Fresh config initial ∧
      initial.TripsAt config front ⟨.onFailure, .origin⟩ ∧
      ((initial.run config front).run config
        [⟨.onFailure, .origin⟩, ⟨.onFailure, .origin⟩]).circuit = .opened := by
  intro config front
  have hc : config.validate = .ok () := rfl
  have hreset : ∀ e ∈ front ++ [⟨.onFailure, .origin⟩], e.call ≠ .reset := by decide
  obtain ⟨hfresh, hblock⟩ := trips_at_first_block hc
  obtain ⟨-, -, htrips⟩ := hfresh initial .new _ hreset
  exact ⟨hc, .new, (htrips front _ [] rfl).mpr (by decide), hblock front _ rfl (by decide)⟩

end BreakerState

end Resilience
