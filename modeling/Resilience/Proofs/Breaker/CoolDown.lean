/-
# The cool-down and the probes

An open breaker rejects calls until it has cooled down; then it lets probes through, and their outcomes
decide whether it closes or opens again.  This file says from when the cool-down counts, how it ends,
and how the probes are counted, for every history of calls.

* `LatestFailure`: when the latest failure since the latest reset was reported.  It is the date that the
  breaker keeps (`lastFailure_run`).
* `BreakerState.isAllowed_eq_false_iff`: which calls are rejected.
* `BreakerState.Rule.of_opened`: an open breaker is left by a probe, or by a reset.
* `BreakerState.probing_run`: **the invariant of a half-open breaker.**  Since it became half-open it has
  counted the successes, and they are not yet enough.
* `BreakerState.opened_run`: **the invariant of a cool-down.**  The circuit stays open, and the latest
  failure is not before the one that began it; late failures only move it on.
* `BreakerState.cool_down_discipline`: the whole.
-/
import Resilience.Proofs.Breaker.Tripping

namespace Resilience

open BreakerEvent

/-! ## 1. The latest failure -/

/-- The history reports no failure and has no reset. -/
def Undisturbed (events : List BreakerEvent) : Prop :=
  ∀ e ∈ events, e.call ≠ .onFailure ∧ e.call ≠ .reset

/-- The latest failure since the latest reset was reported at the instant `t`. -/
def LatestFailure (events : List BreakerEvent) (t : Instant) : Prop :=
  ∃ past future, events = past ++ ⟨.onFailure, t⟩ :: future ∧ Undisturbed future

variable {events front : List BreakerEvent} {e : BreakerEvent} {t now : Instant}

theorem undisturbed_concat_iff :
    Undisturbed (events ++ [e]) ↔ Undisturbed events ∧ e.call ≠ .onFailure ∧ e.call ≠ .reset := by
  simp only [Undisturbed, List.forall_mem_append, List.forall_mem_singleton]

theorem not_latestFailure_nil : ¬ LatestFailure [] t := by
  rintro ⟨past, future, heq, -⟩
  simp at heq

/-- One more call dates the latest failure anew, forgets it or leaves it as it is. -/
theorem latestFailure_concat_iff :
    LatestFailure (events ++ [e]) t ↔
      match e.call with
      | .onFailure => e.now = t
      | .reset => False
      | _ => LatestFailure events t := by
  obtain ⟨call, now⟩ := e
  have split : LatestFailure (events ++ [⟨call, now⟩]) t ↔
      call = .onFailure ∧ now = t ∨
        (call ≠ .onFailure ∧ call ≠ .reset) ∧ LatestFailure events t := by
    constructor
    · rintro ⟨past, future, heq, hfuture⟩
      rcases future.eq_nil_or_concat with rfl | ⟨future, x, rfl⟩
      · obtain ⟨-, hlast⟩ := List.append_inj' heq rfl
        cases hlast
        exact Or.inl ⟨rfl, rfl⟩
      · rw [List.concat_eq_append] at heq hfuture
        rw [← List.cons_append, ← List.append_assoc] at heq
        obtain ⟨rfl, hlast⟩ := List.append_inj' heq rfl
        cases hlast
        obtain ⟨hfuture, hx⟩ := undisturbed_concat_iff.mp hfuture
        exact Or.inr ⟨hx, past, future, rfl, hfuture⟩
    · rintro (⟨rfl, rfl⟩ | ⟨hx, past, future, rfl, hfuture⟩)
      · exact ⟨events, [], rfl, by simp [Undisturbed]⟩
      · exact ⟨past, future ++ [⟨call, now⟩], by simp, undisturbed_concat_iff.mpr ⟨hfuture, hx⟩⟩
  rw [split]
  cases call <;> simp

namespace BreakerState

variable {config : BreakerConfig} {s next : BreakerState} {call : BreakerCall}

/-- A failure dates the breaker anew, a reset undates it, and nothing else does. -/
theorem Rule.lastFailure_eq (hr : s.Rule config e.now e.call next) : next.lastFailure =
    match e.call with
    | .onFailure => some e.now
    | .reset => none
    | _ => s.lastFailure := by
  obtain ⟨call, now⟩ := e
  cases hr <;> rfl

/-- **A breaker keeps the date of the latest failure since the latest reset.** -/
theorem lastFailure_run :
    (initial.run config events).lastFailure = some t ↔ LatestFailure events t := by
  induction events using List.reverseRecOn with
  | nil => exact iff_of_false nofun not_latestFailure_nil
  | append_singleton events e ih =>
    rw [run_concat, latestFailure_concat_iff, (step_rule _ e).lastFailure_eq]
    cases e.call with
    | isAllowed => exact ih
    | onSuccess => exact ih
    | onFailure => exact Option.some_inj
    | reset => exact iff_of_false nofun not_false

/-! ## 2. Which calls are rejected, and how an open breaker is left -/

theorem cooledDown_of_lastFailure (h : s.lastFailure = some t) :
    s.cooledDown config now = decide (config.resetTimeout < now.since t) := by
  rw [cooledDown, h]

/-- **A call is rejected exactly by an open circuit that has not cooled down.** -/
theorem isAllowed_eq_false_iff :
    (s.isAllowed config now).1 = false ↔ s.circuit = .opened ∧ s.cooledDown config now = false := by
  by_cases ho : s.circuit = .opened
  · rw [isAllowed_of_opened ho]
    cases hc : s.cooledDown config now with
    | true => exact iff_of_false nofun fun h => nomatch h.2
    | false => exact iff_of_true rfl ⟨ho, rfl⟩
  · rw [isAllowed_of_ne ho]
    exact iff_of_false nofun fun h => ho h.1

/-- **An open breaker stays open, or becomes half-open by a call that it lets through after the
cool-down**, or is reset. -/
theorem Rule.of_opened (hr : s.Rule config now call next) (ho : s.circuit = .opened)
    (he : call ≠ .reset) :
    next.circuit = .opened ∧ ¬ (call = .isAllowed ∧ s.cooledDown config now = true) ∨
      next.circuit = .halfOpen ∧ call = .isAllowed ∧ s.cooledDown config now = true := by
  cases hr with
  | passed hne => exact absurd ho hne
  | probing _ hc => exact Or.inr ⟨rfl, rfl, hc⟩
  | rejected _ hc => exact Or.inl ⟨ho, fun h => by rw [hc] at h; cases h.2⟩
  | late _ => exact Or.inl ⟨ho, nofun⟩
  | extended _ => exact Or.inl ⟨ho, nofun⟩
  | forgotten => exact absurd rfl he
  | cleared h | probed h | recovered h | counted h | tripped h | reopened h =>
    rw [ho] at h
    cases h

/-! ## 3. Probes -/

/-- A breaker that becomes half-open has counted no success of a probe. -/
theorem Rule.probes_of_entering (hr : s.Rule config now call next) (hs : s.circuit ≠ .halfOpen)
    (ht : next.circuit = .halfOpen) : next.probes.value = 0 := by
  cases hr with
  | probing _ _ => rfl
  | passed _ | rejected _ _ | cleared _ | late _ | counted _ _ | extended _ => exact absurd ht hs
  | probed h _ | recovered h _ | reopened h => exact absurd h hs
  | tripped _ _ | forgotten => cases ht

/-- **The step of a half-open breaker.**  Without a failure or a reset it counts the successes, and it
closes when they are enough. -/
theorem Rule.of_halfOpen (hr : s.Rule config e.now e.call next) (hh : s.circuit = .halfOpen)
    (he : e.call ≠ .onFailure ∧ e.call ≠ .reset)
    (hn : s.probes.value < config.successesNeeded.toNat) :
    (s.probes.value + [e].countP (IsSuccess ·) < config.successesNeeded.toNat →
      next.circuit = .halfOpen ∧ next.probes.value = s.probes.value + [e].countP (IsSuccess ·)) ∧
    (s.probes.value + [e].countP (IsSuccess ·) = config.successesNeeded.toNat →
      next.circuit = .closed) := by
  have hcap := config.successesNeeded.toNat_lt
  have htick := Counter.value_tick_of_lt_bound (by omega) hn
  obtain ⟨call, now⟩ := e
  cases hr with
  | passed _ => exact ⟨fun _ => ⟨hh, rfl⟩, fun heq => absurd heq (Nat.ne_of_lt hn)⟩
  | probed _ hlt =>
    rw [htick] at hlt
    exact ⟨fun _ => ⟨hh, htick⟩, fun heq => absurd heq (Nat.ne_of_lt hlt)⟩
  | recovered _ hle =>
    rw [htick] at hle
    exact ⟨fun hlt => absurd hlt (Nat.not_lt.mpr hle), fun _ => rfl⟩
  | reopened _ => exact absurd rfl he.1
  | forgotten => exact absurd rfl he.2
  | probing h | rejected h | cleared h | late h | counted h | tripped h | extended h =>
    rw [hh] at h
    cases h

/-- A success closes the circuit if it is the last one that is needed. -/
theorem success_of_halfOpen (hh : s.circuit = .halfOpen)
    (hn : s.probes.value < config.successesNeeded.toNat) :
    (s.step config ⟨.onSuccess, now⟩).circuit =
      if s.probes.value + 1 = config.successesNeeded.toNat then .closed else .halfOpen := by
  obtain ⟨hfew, henough⟩ := (s.step_rule ⟨.onSuccess, now⟩).of_halfOpen hh ⟨nofun, nofun⟩ hn
  split
  · rename_i heq
    exact henough heq
  · rename_i hne
    exact (hfew (Nat.lt_of_le_of_ne hn hne)).1

/-- **The invariant of a half-open breaker.**  As long as the successes since it became half-open are
not enough, it is half-open and has counted them. -/
theorem probing_run (hh : s.circuit = .halfOpen) (hz : s.probes.value = 0) (hu : Undisturbed front)
    (hn : front.countP (IsSuccess ·) < config.successesNeeded.toNat) :
    (s.run config front).circuit = .halfOpen ∧
      (s.run config front).probes.value = front.countP (IsSuccess ·) := by
  induction front using List.reverseRecOn with
  | nil => exact ⟨hh, hz⟩
  | append_singleton front e ih =>
    obtain ⟨hfront, he⟩ := undisturbed_concat_iff.mp hu
    rw [List.countP_append] at hn
    have hlt := Nat.lt_of_le_of_lt (Nat.le_add_right _ _) hn
    obtain ⟨hhalf, hcount⟩ := ih hfront hlt
    rw [run_concat, List.countP_append, ← hcount]
    rw [← hcount] at hn hlt
    exact ((step_rule _ e).of_halfOpen hhalf he hlt).1 hn

/-- A failure of a probe opens the circuit, discards the successes and dates the breaker anew. -/
theorem Rule.failure_of_halfOpen (hr : s.Rule config now .onFailure next)
    (hh : s.circuit = .halfOpen) :
    next.circuit = .opened ∧ next.probes.value = 0 ∧ next.lastFailure = some now := by
  cases hr with
  | reopened _ => exact ⟨rfl, rfl, rfl⟩
  | counted h | tripped h | extended h =>
    rw [hh] at h
    cases h

/-! ## 4. A full cool-down -/

variable (config) in
/-- The calls come within the cool-down that begins at the instant `t`, and none is a reset. -/
def Within (t : Instant) (later : List BreakerEvent) : Prop :=
  ∀ e ∈ later, e.call ≠ .reset ∧ t ≤ e.now ∧ e.now.since t ≤ config.resetTimeout

/-- A breaker whose latest failure is not before `t` has not cooled down within the cool-down that begins
at `t`. -/
theorem cooledDown_eq_false {last : Instant} (hl : s.lastFailure = some last) (hle : t ≤ last)
    (hnow : now.since t ≤ config.resetTimeout) : s.cooledDown config now = false := by
  rw [cooledDown_of_lastFailure hl]
  refine decide_eq_false fun hlt => ?_
  rw [Duration.lt_iff, Instant.nanos_since] at hlt
  rw [Duration.le_iff, Instant.nanos_since] at hnow
  rw [Instant.le_iff] at hle
  omega

/-- **The invariant of a cool-down.**  The circuit stays open, and the latest failure is not before the
one that began it. -/
theorem opened_run {later : List BreakerEvent} (ho : s.circuit = .opened)
    (hl : s.lastFailure = some t) (hw : Within config t later) :
    (s.run config later).circuit = .opened ∧
      ∃ last, (s.run config later).lastFailure = some last ∧ t ≤ last := by
  induction later using List.reverseRecOn with
  | nil => exact ⟨ho, t, hl, Nat.le_refl _⟩
  | append_singleton later e ih =>
    obtain ⟨hopen, last, hlast, hle⟩ := ih fun x hx => hw x (List.mem_append_left [e] hx)
    obtain ⟨he, hfrom, hto⟩ := hw e (by simp)
    rw [run_concat]
    constructor
    · -- the latest failure is dated no earlier than `t`, so the circuit has not cooled down
      rcases (step_rule _ e).of_opened hopen he with ⟨h, -⟩ | ⟨-, -, hc⟩
      · exact h
      · rw [cooledDown_eq_false hlast hle hto] at hc
        cases hc
    · rw [(step_rule _ e).lastFailure_eq]
      cases hcall : e.call with
      | onFailure => exact ⟨e.now, rfl, hfrom⟩
      | reset => exact absurd hcall he
      | isAllowed => exact ⟨last, hlast, hle⟩
      | onSuccess => exact ⟨last, hlast, hle⟩

/-- **All along a cool-down calls are rejected.** -/
theorem rejects_within {later : List BreakerEvent} (ho : s.circuit = .opened)
    (hl : s.lastFailure = some t) (hw : Within config t later)
    (hnow : now.since t ≤ config.resetTimeout) :
    (s.run config later).circuit = .opened ∧ ((s.run config later).isAllowed config now).1 = false := by
  obtain ⟨hopen, last, hlast, hle⟩ := opened_run ho hl hw
  exact ⟨hopen, isAllowed_eq_false_iff.mpr ⟨hopen, cooledDown_eq_false hlast hle hnow⟩⟩

/-! ## 5. Whole histories -/

variable (config) in
/-- The call after the history `past` asks for a call more than the cool-down after the latest failure;
it is let through, and the breaker is half-open for it. -/
structure IsProbe (past : List BreakerEvent) (e : BreakerEvent) : Prop where
  /-- It asks for a call. -/
  asks : e.call = .isAllowed
  /-- The breaker has cooled down. -/
  cooled : ∃ t, LatestFailure past t ∧ config.resetTimeout < e.now.since t
  /-- The call may be made. -/
  allowed : ((initial.run config past).isAllowed config e.now).1 = true
  /-- The breaker becomes half-open. -/
  halfOpen : (initial.run config (past ++ [e])).circuit = .halfOpen

section Histories

variable {past : List BreakerEvent} (hc : config.validate = .ok ())
include hc

/-- An open breaker cools down from its latest failure on. -/
theorem exists_cooledDown_eq (ho : (initial.run config past).circuit = .opened) :
    ∃ t, LatestFailure past t ∧ (∀ u, LatestFailure past u → u = t) ∧ ∀ now,
      (initial.run config past).cooledDown config now =
        decide (config.resetTimeout < now.since t) := by
  obtain ⟨t, ht⟩ := ((Sound.initial hc).run hc past).exists_lastFailure (by simp [ho])
  refine ⟨t, lastFailure_run.mp ht, fun u hu => ?_, fun now => cooledDown_of_lastFailure ht⟩
  exact Option.some_inj.mp ((lastFailure_run.mpr hu).symm.trans ht)

theorem cooledDown_run_iff (ho : (initial.run config past).circuit = .opened) :
    (initial.run config past).cooledDown config now = true ↔
      ∃ t, LatestFailure past t ∧ config.resetTimeout < now.since t := by
  obtain ⟨t, ht, huniq, hcool⟩ := exists_cooledDown_eq hc ho
  rw [hcool now, decide_eq_true_iff]
  constructor
  · intro hlt
    exact ⟨t, ht, hlt⟩
  · rintro ⟨u, hu, hlt⟩
    rwa [huniq u hu] at hlt

theorem not_cooledDown_run_iff (ho : (initial.run config past).circuit = .opened) :
    (initial.run config past).cooledDown config now = false ↔
      ∃ t, LatestFailure past t ∧ now.since t ≤ config.resetTimeout := by
  obtain ⟨t, ht, huniq, hcool⟩ := exists_cooledDown_eq hc ho
  rw [hcool now, decide_eq_false_iff_not, Duration.lt_iff, Nat.not_lt, ← Duration.le_iff]
  constructor
  · intro hle
    exact ⟨t, ht, hle⟩
  · rintro ⟨u, hu, hle⟩
    rwa [huniq u hu] at hle

/-- **Without a reset, an open breaker is left by a probe alone.** -/
theorem isProbe_or_opened (ho : (initial.run config past).circuit = .opened) (he : e.call ≠ .reset) :
    (initial.run config (past ++ [e])).circuit = .opened ∧
        ¬ (e.call = .isAllowed ∧ ∃ t, LatestFailure past t ∧ config.resetTimeout < e.now.since t) ∨
      IsProbe config past e := by
  rw [← cooledDown_run_iff hc ho]
  rcases (step_rule _ e).of_opened ho he with ⟨hopen, hnot⟩ | ⟨hhalf, hasks, hcool⟩
  · rw [run_concat]
    exact Or.inl ⟨hopen, hnot⟩
  · refine Or.inr ⟨hasks, (cooledDown_run_iff hc ho).mp hcool, ?_, (run_concat ..).symm ▸ hhalf⟩
    rw [isAllowed_of_opened ho, if_pos hcool]

/-- A breaker that is open stays so along a history without a reset, or there is a first call that
leaves it, and it is a probe. -/
theorem stays_opened_or_probe (ho : (initial.run config past).circuit = .opened)
    (he : ∀ e ∈ events, e.call ≠ .reset) :
    (∀ front, front <+: events → (initial.run config (past ++ front)).circuit = .opened) ∨
      ∃ waiting e rest, events = waiting ++ e :: rest ∧
        (∀ front, front <+: waiting → (initial.run config (past ++ front)).circuit = .opened) ∧
        IsProbe config (past ++ waiting) e := by
  induction events using List.reverseRecOn with
  | nil =>
    left
    intro front hf
    rwa [List.prefix_nil.mp hf, List.append_nil]
  | append_singleton events e ih =>
    rcases ih fun x hx => he x (List.mem_append_left [e] hx) with hall | hprobe
    · -- open all along so far, so the call `e` is the first that may leave it
      have hopen := hall events (List.prefix_refl events)
      rcases isProbe_or_opened hc hopen (he e (by simp)) with ⟨hlast, -⟩ | hprobe
      · left
        intro front hf
        rcases List.prefix_concat_iff.mp hf with rfl | hf
        · rwa [← List.append_assoc]
        · exact hall front hf
      · exact Or.inr ⟨events, e, [], rfl, hall, hprobe⟩
    · obtain ⟨waiting, x, rest, rfl, hall, hprobe⟩ := hprobe
      exact Or.inr ⟨waiting, x, rest ++ [e], by simp, hall, hprobe⟩

end Histories

/-- **Cool-down and probes.**  For every breaker with valid settings and every history `past` of its
calls:

* it keeps the date of the latest failure since the latest reset;
* a call is rejected exactly if the breaker is open and at most the cool-down has passed since then;
* once open, the first call of a history without a reset that leaves the breaker not open is a probe,
  and every call that asks after the cool-down is one;
* after a call that makes it half-open, and as long as there is no failure and no reset, it is half-open
  while the successes since then are too few, and it closes at the success that makes them enough; a
  failure before that opens it, discards the successes, and for a full cool-down after it the breaker
  is open and rejects calls, whatever other calls there are.

The instants are those of a clock that never goes back, or of any other: `since` is the time passed, and
zero if none has.  Only the full cool-down asks that the calls in it do not come before it. -/
theorem cool_down_discipline {config : BreakerConfig} (hc : config.validate = .ok ())
    (past : List BreakerEvent) :
    let s := initial.run config past
    (∀ t, s.lastFailure = some t ↔ LatestFailure past t) ∧
    (∀ now, (s.isAllowed config now).1 = false ↔
      s.circuit = .opened ∧ ∃ t, LatestFailure past t ∧ now.since t ≤ config.resetTimeout) ∧
    (s.circuit = .opened →
      (∀ events, (∀ e ∈ events, e.call ≠ .reset) →
        (initial.run config (past ++ events)).circuit ≠ .opened →
        ∃ waiting e rest, events = waiting ++ e :: rest ∧
          (∀ front, front <+: waiting → (initial.run config (past ++ front)).circuit = .opened) ∧
          IsProbe config (past ++ waiting) e) ∧
      ∀ e, e.call = .isAllowed →
        (∃ t, LatestFailure past t ∧ config.resetTimeout < e.now.since t) → IsProbe config past e) ∧
    (∀ e, s.circuit ≠ .halfOpen → (s.step config e).circuit = .halfOpen →
      ∀ front, Undisturbed front → front.countP (IsSuccess ·) < config.successesNeeded.toNat →
        let p := (s.step config e).run config front
        p.circuit = .halfOpen ∧
        (∀ now, (p.step config ⟨.onSuccess, now⟩).circuit =
          if front.countP (IsSuccess ·) + 1 = config.successesNeeded.toNat then .closed
          else .halfOpen) ∧
        ∀ now, let q := p.step config ⟨.onFailure, now⟩
          q.circuit = .opened ∧ q.probes.value = 0 ∧ q.lastFailure = some now ∧
          ∀ later, Within config now later → ∀ t, t.since now ≤ config.resetTimeout →
            (q.run config later).circuit = .opened ∧
              ((q.run config later).isAllowed config t).1 = false) := by
  intro s
  refine ⟨fun t => lastFailure_run, fun now => ?_, fun ho => ⟨?_, ?_⟩, ?_⟩
  · rw [isAllowed_eq_false_iff]
    exact and_congr_right fun ho => not_cooledDown_run_iff hc ho
  · intro events he hleft
    rcases stays_opened_or_probe hc ho he with hall | hprobe
    · exact absurd (hall events (List.prefix_refl events)) hleft
    · exact hprobe
  · intro e hasks hcool
    rcases isProbe_or_opened hc ho (by rw [hasks]; nofun) with ⟨-, hnot⟩ | hprobe
    · exact absurd ⟨hasks, hcool⟩ hnot
    · exact hprobe
  · intro e hne henter front hu hn p
    have hz := (s.step_rule e).probes_of_entering hne henter
    obtain ⟨hhalf, hcount⟩ := probing_run henter hz hu hn
    refine ⟨hhalf, fun now => ?_, fun now => ?_⟩
    · rw [← hcount] at hn ⊢
      exact success_of_halfOpen hhalf hn
    · obtain ⟨hopen, hzero, hlast⟩ := (p.step_rule ⟨.onFailure, now⟩).failure_of_halfOpen hhalf
      exact ⟨hopen, hzero, hlast, fun later hw t ht => rejects_within hopen hlast hw ht⟩

/-- With a threshold of one, two successes needed and the cool-down of a minute: after a failure at the
origin a call is rejected at the sixtieth second and is a probe at the next one; one success and then
a failure at second 62 open the breaker again, and it rejects calls up to second 122. -/
theorem cool_down_after_failed_probe :
    let config : BreakerConfig := { failureThreshold := 1, successesNeeded := 2 }
    let past : List BreakerEvent := [⟨.onFailure, .origin⟩]
    let asks : BreakerEvent := ⟨.isAllowed, ⟨.ofSeconds 61⟩⟩
    let q := (initial.run config (past ++ [asks, ⟨.onSuccess, ⟨.ofSeconds 61⟩⟩])).step config
      ⟨.onFailure, ⟨.ofSeconds 62⟩⟩
    config.validate = .ok () ∧
      ((initial.run config past).isAllowed config ⟨.ofSeconds 60⟩).1 = false ∧
      IsProbe config past asks ∧ q.circuit = .opened ∧
      (q.isAllowed config ⟨.ofSeconds 122⟩).1 = false := by
  intro config past asks q
  have hc : config.validate = .ok () := rfl
  have hlatest : LatestFailure past .origin := ⟨[], [], rfl, by simp [Undisturbed]⟩
  obtain ⟨-, hreject, hopened, hprobing⟩ := cool_down_discipline hc past
  obtain ⟨-, hprobe⟩ := hopened (by decide)
  obtain ⟨-, -, hfailed⟩ := hprobing asks (by decide) (by decide) [⟨.onSuccess, ⟨.ofSeconds 61⟩⟩]
    (by simp [Undisturbed]) (by decide)
  obtain ⟨hopen, -, -, hlater⟩ := hfailed ⟨.ofSeconds 62⟩
  refine ⟨hc, (hreject ⟨.ofSeconds 60⟩).mpr ⟨by decide, .origin, hlatest, by decide⟩,
    hprobe asks rfl ⟨.origin, hlatest, by decide⟩, hopen, ?_⟩
  exact (hlater [] (by simp [Within]) ⟨.ofSeconds 122⟩ (by decide)).2

end BreakerState

end Resilience
