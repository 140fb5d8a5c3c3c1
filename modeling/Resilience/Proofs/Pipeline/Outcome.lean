/-
# How a request ends

The end of a request is decided by what its exchanges come to.  This file says which exchange is the
last one, and what the request ends with, for every sequence of outcomes, every number of attempts and
every way in which the surroundings answer.

* `LayerConfig.IsFinal`: whether an attempt is the last one: its outcome is a good response or an error
  of the caller, no attempt is left, or the request cannot be repeated.
* `LayerConfig.ending`: what the request ends with after an outcome.
* `Loop.length_outcomes_le`, `Loop.attempt_lt`: in every run the exchanges are within the limit, and an
  attempt is numbered below their count, whatever the context does.
* `Loop.ending`: **the invariant of the loop.**  From the attempt of any index on, the loop stops at
  the first attempt that is final, and not before.  It is an induction over the rules of the loop; what
  it carries is that the index and the attempts left add up to the limit.
* `send_outcome`: the same for a whole request.
-/
import Resilience.Proofs.Breaker.History
import Resilience.Proofs.Config.Validity
import Resilience.Proofs.Pipeline.Backoff
import Resilience.Proofs.Pipeline.Loop

namespace Resilience

/-! ## 1. The rule -/

/-- The outcome is an error of the caller. -/
def CallerFault (o : Outcome) : Prop := ∃ e, o = .error e ∧ e.isDependencyFailure = false

namespace LayerConfig

variable (c : LayerConfig)

/-- The switches that the settings give a layer. -/
def policy : Policy := ⟨c.breaker.enabled, c.retry.enabled, c.serverErrorThreshold⟩

/-- The number of attempts that a request may take. -/
def attemptLimit : Nat := if c.retry.enabled then c.retry.maxAttempts.toNat else 1

/-- The outcome is a response below the failing statuses. -/
def Good (o : Outcome) : Prop := ∃ r, o = .ok r ∧ r.status.code < c.serverErrorThreshold.toNat

/-- Whether the attempt `k` is the last one, if the outcomes are those of the sequence. -/
def IsFinal (replayable : Bool) (o : Nat → Outcome) (k : Nat) : Prop :=
  c.Good (o k) ∨ CallerFault (o k) ∨ k + 1 = c.attemptLimit ∨ replayable = false

/-- What a request ends with if the attempt `k` is its last one. -/
def ending (k : Nat) : Outcome → Outcome
  | .ok r =>
    if r.status.code < c.serverErrorThreshold.toNat then .ok r
    else if k + 1 < c.attemptLimit then .error .bodyNotRetriable
    else .error (.maxRetriesExceeded (k + 1) (.response r))
  | .error e =>
    if e.isDependencyFailure = false then .error e
    else if k + 1 < c.attemptLimit then .error .bodyNotRetriable
    else if c.retry.enabled = false then .error e
    else .error (.maxRetriesExceeded (k + 1) (.error e))

/-- The loop, entered at an attempt, stops at the first attempt `k` that is final, after so many
exchanges and with the result that the settings give. -/
structure StopsAt (replayable : Bool) (s : Nat → Outcome) (attempt k exchanges : Nat)
    (result : Outcome) : Prop where
  /-- The last attempt is within the limit. -/
  within : k + 1 ≤ c.attemptLimit
  /-- Each attempt makes one exchange. -/
  exchanges_eq : attempt + exchanges = k + 1
  /-- The last attempt is final. -/
  final : c.IsFinal replayable s k
  /-- No attempt before it is. -/
  first : ∀ j, attempt ≤ j → j < k → ¬ c.IsFinal replayable s j
  /-- The result belongs to the last outcome. -/
  result_eq : result = c.ending k (s k)

variable {c} {replayable : Bool} {s : Nat → Outcome} {attempt k exchanges : Nat} {result : Outcome}

/-- A loop whose first attempt is final stops there. -/
theorem stopsAt_self (hb : attempt + 1 ≤ c.attemptLimit) (hf : c.IsFinal replayable s attempt)
    (hr : result = c.ending attempt (s attempt)) :
    c.StopsAt replayable s attempt attempt 1 result where
  within := hb
  exchanges_eq := rfl
  final := hf
  first := fun _ hj hlt => absurd hlt (Nat.not_lt.mpr hj)
  result_eq := hr

/-- A loop whose first attempt is not final stops where the rest of it does. -/
theorem StopsAt.of_not_final (h : c.StopsAt replayable s (attempt + 1) k exchanges result)
    (hf : ¬ c.IsFinal replayable s attempt) :
    c.StopsAt replayable s attempt k (exchanges + 1) result where
  within := h.within
  exchanges_eq := by
    have := h.exchanges_eq
    omega
  final := h.final
  first := by
    intro j hj hlt
    rcases Nat.eq_or_lt_of_le hj with rfl | hj
    · exact hf
    · exact h.first j hj hlt
  result_eq := h.result_eq

variable (c)

theorem attemptLimit_le : c.attemptLimit ≤ 4294967295 := by
  have := c.retry.maxAttempts.toNat_lt
  unfold attemptLimit
  split <;> omega

end LayerConfig

/-! ## 2. What a log says about the context and the breaker -/

namespace Asked

/-- The answer is not that the context is over. -/
def IsLive : Asked → Prop
  | ⟨.context, answer⟩ => answer = none
  | ⟨.pause _, answer⟩ => answer = none
  | _ => True

end Asked

/-- The context is not over at any question of the log. -/
def Live (log : List Asked) : Prop := ∀ x ∈ log, x.IsLive

/-- The breaker of the layer turns nothing away in the log. -/
def Admitted (layer : Nat) (log : List Asked) : Prop :=
  ∀ x ∈ log, x ≠ ⟨.breaker layer .decide, .rejected⟩

theorem Live.of_append_right {log rest : List Asked} (h : Live (log ++ rest)) : Live rest :=
  fun x hx => h x (List.mem_append_right log hx)

theorem Live.of_cons {x : Asked} {log : List Asked} (h : Live (x :: log)) : Live log :=
  fun y hy => h y (List.mem_cons_of_mem x hy)

namespace Layer

variable {l : Layer} {left attempt : Nat} {request kept : Request} {log made : List Asked}
  {o result : Outcome}

/-! ## 3. The parts of an attempt that make no exchange -/

section Only

variable {P : Query → Prop}

theorem only_tellSuccess (hs : P (.breaker l.index .success))
    (ha : ∀ q, q.Announces l.index → P q) : l.tellSuccess.Only P :=
  .when (Breaker.only_onSuccess hs ha)

theorem only_tellFailure (hs : P (.breaker l.index .failure))
    (ha : ∀ q, q.Announces l.index → P q) : l.tellFailure.Only P :=
  .when (Breaker.only_onFailure hs ha)

end Only

theorem quiet_tellSuccess (l : Layer) : l.tellSuccess.Quiet :=
  only_tellSuccess trivial fun _ => Query.Announces.isQuiet

theorem quiet_tellFailure (l : Layer) : l.tellFailure.Quiet :=
  only_tellFailure trivial fun _ => Query.Announces.isQuiet

theorem quiet_nextBackoff (s : Strategy) (layer attempt : Nat) :
    (s.nextBackoff layer attempt).Quiet :=
  Strategy.only_nextBackoff trivial fun _ => trivial

/-- What is told after an attempt takes no wait and no sample. -/
theorem prompt_tellSuccess {tell : List Asked} (h : l.tellSuccess.Yields tell ()) : Prompt tell :=
  (only_tellSuccess trivial fun _ => Query.Announces.isPrompt).of_mem h

theorem prompt_tellFailure {tell : List Asked} (h : l.tellFailure.Yields tell ()) : Prompt tell :=
  (only_tellFailure trivial fun _ => Query.Announces.isPrompt).of_mem h

/-- An attempt over a transport that makes one exchange makes one exchange. -/
theorem Answered.outcomes_eq (h : Answered .exchange attempt request kept o made) :
    outcomes made = [o] := by
  obtain ⟨hsend, hex⟩ := h
  rw [Program.yields_query_iff.mp hex]
  rfl

theorem Answered.records_eq (h : Answered .exchange attempt request kept o made) :
    records made = [] := by
  obtain ⟨hsend, hex⟩ := h
  rw [Program.yields_query_iff.mp hex]
  rfl

theorem Answered.prompt (h : Answered .exchange attempt request kept o made) : Prompt made := by
  obtain ⟨hsend, hex⟩ := h
  rw [Program.yields_query_iff.mp hex]
  exact prompt_pair trivial trivial

theorem Answered.isReplayable_eq {inner : Transport}
    (h : Answered inner attempt request kept o made) : kept.isReplayable = request.isReplayable := by
  obtain ⟨hsend, hex⟩ := h
  exact Request.isReplayable_of_forAttempt? hsend

/-- What was told after an attempt adds no outcome to that of the attempt. -/
theorem Answered.outcomes_append {p : Program Unit} {tell : List Asked} (rest : List Asked)
    (h : Answered .exchange attempt request kept o made) (hp : p.Quiet) (ht : p.Yields tell ()) :
    outcomes (made ++ (tell ++ rest)) = o :: outcomes rest := by
  rw [Resilience.outcomes_append, Resilience.outcomes_append, h.outcomes_eq, hp.outcomes_eq_nil ht]
  rfl

theorem Answered.records_append {p : Program Unit} {tell : List Asked} (rest : List Asked)
    (h : Answered .exchange attempt request kept o made) (hp : p.Quiet) (ht : p.Yields tell ()) :
    records (made ++ (tell ++ rest)) = records rest := by
  rw [Resilience.records_append, Resilience.records_append, h.records_eq, hp.records_eq_nil ht]
  rfl

/-- Neither does the delay that was drawn after a failure. -/
theorem Answered.outcomes_backOff {tell draw : List Asked} {delay : Duration} (rest : List Asked)
    (h : Answered .exchange attempt request kept o made) (ht : l.tellFailure.Yields tell ())
    (hd : (l.strategy.nextBackoff l.index attempt).Yields draw delay) :
    outcomes (made ++ (tell ++ (draw ++ rest))) = o :: outcomes rest := by
  rw [h.outcomes_append _ (quiet_tellFailure l) ht, Resilience.outcomes_append,
    (quiet_nextBackoff _ _ _).outcomes_eq_nil hd]
  rfl

theorem Answered.records_backOff {tell draw : List Asked} {delay : Duration} (rest : List Asked)
    (h : Answered .exchange attempt request kept o made) (ht : l.tellFailure.Yields tell ())
    (hd : (l.strategy.nextBackoff l.index attempt).Yields draw delay) :
    records (made ++ (tell ++ (draw ++ rest))) = records rest := by
  rw [h.records_append _ (quiet_tellFailure l) ht, Resilience.records_append,
    (quiet_nextBackoff _ _ _).records_eq_nil hd]
  rfl

@[simp] theorem outcomes_cons_ended (outcome : AttemptOutcome) (backoff : Option Duration) :
    outcomes (l.ended request attempt outcome backoff :: log) = outcomes log := rfl

@[simp] theorem records_cons_ended (outcome : AttemptOutcome) (backoff : Option Duration) :
    records (l.ended request attempt outcome backoff :: log)
      = record request attempt outcome backoff :: records log := rfl

/-! ## 4. Every run is within the limit -/

/-- **The exchanges of a run are within the attempts that are left**, also if the context ends it. -/
theorem Loop.length_outcomes_le (h : l.Loop .exchange left attempt request log result) :
    (outcomes log).length ≤ left + 1 := by
  induction h with
  | ended reason => exact Nat.zero_le _
  | unsendable h => exact Nat.zero_le _
  | succeeded h ho ht =>
    rw [h.outcomes_append _ (quiet_tellSuccess l) ht]
    simp
  | aborted h ho =>
    rw [outcomes_append, h.outcomes_eq]
    simp
  | exhausted h ho ht =>
    rw [h.outcomes_append _ (quiet_tellFailure l) ht]
    simp
  | notReplayable h ho ht hk =>
    rw [h.outcomes_append _ (quiet_tellFailure l) ht]
    simp
  | interrupted reason h ho ht hk hd =>
    rw [h.outcomes_backOff _ ht hd]
    simp
  | retried h ho ht hk hd next ih =>
    rw [h.outcomes_backOff _ ht hd]
    simpa using ih

/-- **Each attempt is numbered by the exchanges before it.** -/
theorem Loop.attempt_lt (h : l.Loop .exchange left attempt request log result) :
    ∀ a ∈ records log, a.attempt < attempt + (outcomes log).length := by
  induction h with
  | ended reason => simp
  | unsendable h => simp
  | succeeded h ho ht =>
    rw [h.outcomes_append _ (quiet_tellSuccess l) ht, h.records_append _ (quiet_tellSuccess l) ht]
    simp [record]
  | aborted h ho =>
    rw [records_append, h.records_eq]
    simp
  | exhausted h ho ht =>
    rw [h.outcomes_append _ (quiet_tellFailure l) ht, h.records_append _ (quiet_tellFailure l) ht]
    simp [record]
  | notReplayable h ho ht hk =>
    rw [h.outcomes_append _ (quiet_tellFailure l) ht, h.records_append _ (quiet_tellFailure l) ht]
    simp [record]
  | interrupted reason h ho ht hk hd =>
    rw [h.outcomes_backOff _ ht hd, h.records_backOff _ ht hd]
    simp [record]
  | retried h ho ht hk hd next ih =>
    rw [h.outcomes_backOff _ ht hd, h.records_backOff _ ht hd]
    simp only [records_cons_ended, records_cons_line, records_cons_pause,
      outcomes_cons_ended, outcomes_cons_line, outcomes_cons_pause, List.length_cons, List.mem_cons]
    rintro a (rfl | ha)
    · simp [record]
    · have := ih a ha
      omega

/-! ## 5. The loop stops at the first final attempt -/

section Ending

variable {c : LayerConfig} (hp : l.policy = c.policy)
include hp

theorem judge_eq_success {r : Response} (h : l.judge o = .success r) :
    o = .ok r ∧ r.status.code < c.serverErrorThreshold.toNat := by
  unfold judge at h
  rw [hp] at h
  split at h <;> split at h <;> cases h
  rename_i hr
  exact ⟨rfl, hr⟩

omit hp in
theorem judge_eq_aborted {e : HttpError} (h : l.judge o = .aborted e) :
    o = .error e ∧ e.isDependencyFailure = false := by
  unfold judge at h
  split at h <;> split at h <;> cases h
  rename_i he
  exact ⟨rfl, Bool.eq_false_iff.mpr he⟩

/-- A failure is neither a good response nor an error of the caller, and the end that the settings
give for it is an error of the request itself or the last word. -/
theorem judge_eq_failure {f : LastFailure} (h : l.judge o = .failure f) :
    ¬ c.Good o ∧ ¬ CallerFault o ∧ ∀ k, c.ending k o =
      if k + 1 < c.attemptLimit then .error .bodyNotRetriable else l.lastWord k f := by
  unfold judge at h
  rw [hp] at h
  cases o with
  | ok r =>
    simp only at h
    split at h
    · cases h
    · rename_i hr
      cases h
      refine ⟨?_, ?_, ?_⟩
      · rintro ⟨r', ⟨⟩, hr'⟩
        exact hr hr'
      · rintro ⟨e, ⟨⟩, -⟩
      · intro k
        exact if_neg hr
  | error e =>
    simp only at h
    split at h
    · rename_i he
      cases h
      refine ⟨?_, ?_, ?_⟩
      · rintro ⟨r, ⟨⟩, -⟩
      · rintro ⟨e', ⟨⟩, he'⟩
        rw [he] at he'
        cases he'
      · intro k
        simp only [LayerConfig.ending, lastWord, he, hp, LayerConfig.policy]
        cases c.retry.enabled <;> simp
    · cases h

/-- After a failure another attempt follows, if one is left and the body can be had again. -/
theorem not_isFinal_of_failure {s : Nat → Outcome} {k : Nat} {replayable : Bool} {f : LastFailure}
    (ho : l.judge (s k) = .failure f) (hlimit : k + 1 < c.attemptLimit) (hr : replayable = true) :
    ¬ c.IsFinal replayable s k := by
  obtain ⟨hgood, hfault, -⟩ := judge_eq_failure hp ho
  rintro (hf | hf | hf | hf)
  · exact hgood hf
  · exact hfault hf
  · omega
  · rw [hr] at hf
    cases hf

/-- **The invariant of the loop.**  If the context is not over at any question and the outcomes from
here on are those of the sequence, the loop stops at the first attempt that is final. -/
theorem Loop.ending {s : Nat → Outcome} (h : l.Loop .exchange left attempt request log result)
    (hb : attempt + left + 1 = c.attemptLimit)
    (hsend : attempt ≠ 0 → request.isReplayable = true) (hlive : Live log)
    (hs : ∀ i x, (outcomes log)[i]? = some x → x = s (attempt + i)) :
    ∃ k, c.StopsAt request.isReplayable s attempt k (outcomes log).length result := by
  induction h with
  | ended reason => exact absurd (hlive _ (List.mem_singleton_self _)) (by simp [Asked.IsLive])
  | unsendable h => exact absurd h (Request.forAttempt?_ne_none hsend)
  | @succeeded left attempt request kept o made tell r line h ho ht =>
    obtain ⟨rfl, hr⟩ := judge_eq_success hp ho
    rw [h.outcomes_append _ (quiet_tellSuccess l) ht] at hs ⊢
    have hso : .ok r = s attempt := hs 0 _ rfl
    refine ⟨attempt, LayerConfig.stopsAt_self (by omega) (Or.inl ⟨r, hso.symm, hr⟩) ?_⟩
    rw [← hso]
    exact (if_pos hr).symm
  | @aborted left attempt request kept o made e line h ho =>
    obtain ⟨rfl, he⟩ := judge_eq_aborted ho
    rw [outcomes_append, h.outcomes_eq] at hs ⊢
    have hso : .error e = s attempt := hs 0 _ rfl
    refine ⟨attempt, LayerConfig.stopsAt_self (by omega) (Or.inr (Or.inl ⟨e, hso.symm, he⟩)) ?_⟩
    rw [← hso]
    exact (if_pos he).symm
  | @exhausted attempt request kept o made tell f line h ho ht =>
    rw [h.outcomes_append _ (quiet_tellFailure l) ht] at hs ⊢
    have hso : o = s attempt := hs 0 o rfl
    refine ⟨attempt, LayerConfig.stopsAt_self (by omega) (Or.inr (Or.inr (Or.inl hb))) ?_⟩
    rw [← hso, (judge_eq_failure hp ho).2.2, if_neg (by omega)]
  | @notReplayable left attempt request kept o made tell f line h ho ht hk =>
    rw [h.outcomes_append _ (quiet_tellFailure l) ht] at hs ⊢
    have hso : o = s attempt := hs 0 o rfl
    have hr : request.isReplayable = false := h.isReplayable_eq ▸ hk
    refine ⟨attempt, LayerConfig.stopsAt_self (by omega) (Or.inr (Or.inr (Or.inr hr))) ?_⟩
    rw [← hso, (judge_eq_failure hp ho).2.2, if_pos (by omega)]
  | @interrupted left attempt request kept o made tell draw f delay line reason h ho ht hk hd =>
    exact absurd (hlive ⟨.pause delay, some reason⟩ (by simp)) (by simp [Asked.IsLive])
  | @retried left attempt request kept o made tell draw rest f delay line result h ho ht hk hd next
      ih =>
    rw [h.outcomes_backOff _ ht hd] at hs ⊢
    have hso : o = s attempt := hs 0 o rfl
    have hrest : ∀ i x, (outcomes rest)[i]? = some x → x = s (attempt + 1 + i) := by
      intro i x hx
      rw [hs (i + 1) x hx, Nat.add_assoc, Nat.add_comm 1 i]
    have hlive' : Live rest :=
      hlive.of_append_right.of_append_right.of_append_right.of_cons.of_cons.of_cons
    obtain ⟨k, hk'⟩ := ih (by omega) (fun _ => hk) hlive' hrest
    rw [h.isReplayable_eq] at hk hk'
    exact ⟨k, hk'.of_not_final (not_isFinal_of_failure hp (hso ▸ ho) (by omega) hk)⟩

end Ending

/-! ## 6. A whole request -/

/-- Admission makes no exchange and records no attempt. -/
theorem Admission.quiet {refusal : Option HttpError} (h : l.Admission log refusal) :
    outcomes log = [] ∧ records log = [] := by
  cases h <;> exact ⟨rfl, rfl⟩

/-- Neither does it wait or draw a sample. -/
theorem Admission.prompt {refusal : Option HttpError} (h : l.Admission log refusal) : Prompt log := by
  cases h <;> simp [Prompt, learned, Asked.line, Asked.notice, Query.IsPrompt]

/-- Nor does anything else that comes before the attempts. -/
theorem Admission.prompt_front {refusal : Option HttpError} (h : l.Admission log refusal)
    (line : TraceLine) : Prompt (.line line :: ⟨.context, none⟩ :: log) :=
  prompt_cons_iff.mpr ⟨trivial, prompt_cons_iff.mpr ⟨trivial, h.prompt⟩⟩

/-- A refusal is told by the breaker. -/
theorem Admission.not_admitted {e : HttpError} (h : l.Admission log (some e)) :
    l.policy.breakerEnabled = true ∧ ¬ Admitted l.index log := by
  cases h with
  | rejected wait hb =>
    refine ⟨hb, fun ha => ?_⟩
    exact ha (l.learned .decide .rejected) (by simp) rfl

/-- With valid settings the attempts of a layer are those that the settings allow. -/
theorem budget_eq {index : Nat} {c : LayerConfig} (hl : Layer.build index true c = .ok l) :
    l.budget = c.attemptLimit ∧ 0 < c.attemptLimit := by
  obtain ⟨-, -, -, hretry, rfl⟩ := build_eq_ok_iff.mp hl
  have hpos : 0 < c.retry.maxAttempts.toNat := by
    rw [Nat.pos_iff_ne_zero, ne_eq, ← UInt32.toNat_zero, UInt32.toNat_inj]
    exact (RetryConfig.validate_eq_ok_iff.mp hretry).1
  simp only [budget, LayerConfig.attemptLimit, RetryConfig.strategy]
  split
  · exact ⟨Nat.max_eq_left hpos, hpos⟩
  · exact ⟨rfl, Nat.zero_lt_one⟩

/-- In every run of a request the exchanges are within the limit, and the attempts are numbered by
them. -/
theorem Sent.bounds {limit : Nat} (hb : l.budget = limit) (hpos : 0 < limit)
    (h : l.Sent .exchange request log result) :
    (outcomes log).length ≤ limit ∧ ∀ a ∈ records log, a.attempt < (outcomes log).length := by
  cases h with
  | ended reason => simp
  | refused h =>
    obtain ⟨ho, hr⟩ := h.quiet
    simp [ho, hr]
  | entered h hl =>
    obtain ⟨ho, hr⟩ := h.quiet
    have hle := hl.length_outcomes_le
    have hlt := hl.attempt_lt
    simp only [outcomes_cons_line, outcomes_cons_context, records_cons_line, records_cons_context,
      outcomes_append, records_append, ho, hr, List.nil_append]
    rw [Nat.zero_add] at hlt
    exact ⟨by omega, hlt⟩

/-- A request whose context is never over and that the breaker lets pass stops at the first attempt that
is final. -/
theorem Sent.stops {index : Nat} {c : LayerConfig} {s : Nat → Outcome}
    (hl : Layer.build index true c = .ok l) (h : l.Sent .exchange request log result)
    (hlive : Live log) (hadm : c.breaker.enabled = true → Admitted index log)
    (hs : ∀ i x, (outcomes log)[i]? = some x → x = s i) :
    ∃ k, c.StopsAt request.isReplayable s 0 k (outcomes log).length result := by
  obtain ⟨hb, hpos⟩ := budget_eq hl
  obtain ⟨-, -, -, -, hl⟩ := build_eq_ok_iff.mp hl
  have hp : l.policy = c.policy := by rw [hl]; rfl
  have hi : l.index = index := by rw [hl]
  cases h with
  | ended reason => exact absurd (hlive ⟨.context, some reason⟩ (by simp)) (by simp [Asked.IsLive])
  | refused h =>
    obtain ⟨hen, hnot⟩ := h.not_admitted
    rw [hi] at hnot
    rw [hp] at hen
    exact absurd (fun x hx => hadm hen x (List.mem_cons_of_mem _ (List.mem_cons_of_mem _ hx))) hnot
  | entered h hloop =>
    simp only [outcomes_cons_line, outcomes_cons_context, outcomes_append, h.quiet.1,
      List.nil_append] at hs ⊢
    exact hloop.ending hp (by omega) (fun h0 => absurd rfl h0)
      hlive.of_cons.of_cons.of_append_right (fun i x hx => by rw [hs i x hx, Nat.zero_add])

end Layer

/-- **How a request ends.**  Take a layer made from any valid settings, any request, and surroundings
that answer in any way.  The run ends, makes no more exchanges than the limit, and numbers its attempts
below their count, so that no number of an attempt leaves 32 bits.  If moreover the context is never
over and the breaker, where it is asked, lets the request pass, then for every sequence of outcomes:
the exchanges are those up to the first attempt that is final, and the result is the one that belongs
to its outcome.  That the body cannot be had again is the result only at the first attempt of a request
that cannot be repeated. -/
theorem send_outcome {index : Nat} {c : LayerConfig} {l : Layer}
    (hl : Layer.build index true c = .ok l) (request : Request) (env : Surroundings) :
    ((outcomes (env.log (l.send .exchange request))).length ≤ c.attemptLimit ∧
      c.attemptLimit ≤ 4294967295 ∧
      ∀ a ∈ records (env.log (l.send .exchange request)),
        a.attempt < (outcomes (env.log (l.send .exchange request))).length) ∧
    ∀ s : Nat → Outcome, Live (env.log (l.send .exchange request)) →
      (c.breaker.enabled = true → Admitted index (env.log (l.send .exchange request))) →
      (∀ i x, (outcomes (env.log (l.send .exchange request)))[i]? = some x → x = s i) →
      ∃ k, (outcomes (env.log (l.send .exchange request))).length = k + 1 ∧
        k + 1 ≤ c.attemptLimit ∧
        c.IsFinal request.isReplayable s k ∧ (∀ j, j < k → ¬ c.IsFinal request.isReplayable s j) ∧
        env.result (l.send .exchange request) = c.ending k (s k) ∧
        (¬ c.Good (s k) → ¬ CallerFault (s k) → k + 1 < c.attemptLimit →
          k = 0 ∧ request.isReplayable = false) := by
  have hsent := Layer.send_sent (env.yields (l.send .exchange request))
  obtain ⟨hb, hpos⟩ := Layer.budget_eq hl
  obtain ⟨hlen, hlt⟩ := hsent.bounds hb hpos
  refine ⟨⟨hlen, c.attemptLimit_le, hlt⟩, ?_⟩
  intro s hlive hadm hs
  obtain ⟨k, hk⟩ := hsent.stops hl hlive hadm hs
  have hexchanges := hk.exchanges_eq
  refine ⟨k, by omega, hk.within, hk.final, fun j hj => hk.first j (Nat.zero_le j) hj, hk.result_eq, ?_⟩
  -- what makes the last attempt final makes the first one final, if it is the request
  intro hgood hfault hlimit
  rcases hk.final with hf | hf | hf | hf
  · exact absurd hf hgood
  · exact absurd hf hfault
  · omega
  · refine ⟨Nat.eq_zero_of_not_pos fun hk0 => ?_, hf⟩
    exact hk.first 0 (Nat.le_refl 0) hk0 (Or.inr (Or.inr (Or.inr hf)))

/-! ## 7. Surroundings in which a request runs its course -/

namespace Surroundings

/-- Surroundings in which no context ends, the breaker is closed, there is no randomness, and the
exchanges come to the outcomes of the sequence. -/
def calm (s : Nat → Outcome) : Surroundings := fun past q =>
  match q with
  | .context => none
  | .breaker _ part => (BreakerState.initial.enter {} .origin part).1
  | .observe .. => ()
  | .trace _ => ()
  | .sample _ => none
  | .exchange _ => s (outcomes past).length
  | .pause _ => none

variable {α : Type} (s : Nat → Outcome) (p : Program α)

theorem live_calm : Live ((calm s).log p) := by
  intro x hx
  obtain ⟨before, hx⟩ := Program.exists_answer_of_mem_run hx
  rw [hx]
  cases x.query <;> first | rfl | trivial

theorem admitted_calm (layer : Nat) : Admitted layer ((calm s).log p) := by
  intro x hx hrej
  obtain ⟨before, hx⟩ := Program.exists_answer_of_mem_run hx
  rw [hrej] at hx
  cases hx

theorem outcomes_calm (i : Nat) (x : Outcome) (h : (outcomes ((calm s).log p))[i]? = some x) :
    x = s i := by
  have hf : (calm s).Follows s := fun _ _ => rfl
  rw [hf.getElem?_outcomes p [] h, outcomes_nil, List.length_nil, Nat.zero_add]

/-- In calm surroundings a request stops at the first attempt that is final. -/
theorem stops_calm {index : Nat} {c : LayerConfig} {l : Layer}
    (hl : Layer.build index true c = .ok l) (request : Request) :
    ∃ k, c.StopsAt request.isReplayable s 0 k (outcomes ((calm s).log (l.send .exchange request))).length
      ((calm s).result (l.send .exchange request)) :=
  (Layer.send_sent ((calm s).yields _)).stops hl (live_calm s _) (fun _ => admitted_calm s _ index)
    (outcomes_calm s _)

end Surroundings

/-- With the default settings, a request that can be repeated stops at its first good answer, if the
limit lets it come that far. -/
theorem LayerConfig.isFinal_first_good {n k : Nat} (hn : n < 3)
    (hfinal : IsFinal {} true (fun i => .ok { status := ⟨if i < n then 503 else 200⟩ }) k)
    (hfirst : ∀ j, j < k →
      ¬ IsFinal {} true (fun i => .ok { status := ⟨if i < n then 503 else 200⟩ }) j) : k = n := by
  refine Nat.le_antisymm (Nat.not_lt.mp fun h => hfirst n h (Or.inl ⟨_, rfl, ?_⟩)) (Nat.not_lt.mp fun h => ?_)
  · rw [if_neg (Nat.lt_irrefl n)]
    decide
  · rcases hfinal with ⟨r, hr, hlt⟩ | ⟨e, he, -⟩ | hlimit | hreplay
    · simp only [if_pos h] at hr
      cases hr
      exact absurd hlt (by decide)
    · cases he
    · rw [show attemptLimit {} = 3 from rfl] at hlimit
      omega
    · cases hreplay

/-- With the default settings, a request with a body that is answered twice by status 503 and then by
status 200 makes three exchanges and ends well. -/
theorem send_third_attempt_succeeds :
    ∃ l : Layer, Layer.build 0 true {} = .ok l ∧
      let request : Request := Request.withBody
        { method := "PUT", url := ⟨"http", "", "", some "a.test", none, .segments [""], none, none⟩ }
        ⟨#[1]⟩
      let env := Surroundings.calm fun i => .ok { status := ⟨if i < 2 then 503 else 200⟩ }
      Live (env.log (l.send .exchange request)) ∧ Admitted 0 (env.log (l.send .exchange request)) ∧
        (outcomes (env.log (l.send .exchange request))).length = 3 ∧
        env.result (l.send .exchange request) = .ok { status := ⟨200⟩ } := by
  obtain ⟨l, hl⟩ : ∃ l : Layer, Layer.build 0 true {} = .ok l := ⟨_, rfl⟩
  refine ⟨l, hl, ?_⟩
  intro request env
  have hlive : Live (env.log (l.send .exchange request)) := Surroundings.live_calm _ _
  have hadm : Admitted 0 (env.log (l.send .exchange request)) := Surroundings.admitted_calm _ _ _
  obtain ⟨k, hlen, -, hfinal, hfirst, hr, -⟩ := (send_outcome hl request env).2 _ hlive
    (fun _ => hadm) (Surroundings.outcomes_calm _ _)
  obtain rfl : k = 2 := LayerConfig.isFinal_first_good (by decide) hfinal hfirst
  exact ⟨hlive, hadm, hlen, hr⟩

end Resilience
