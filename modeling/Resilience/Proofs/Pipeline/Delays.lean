/-
# The delays of a request

After a failed attempt that is not the last one a request waits, and what it waits for is written down in
the record of the attempt.  This file says how the attempts, the records, the waits and the random samples
of a request go together.

* `Layer.Delayed`: what is asked after an exchange has this delay in it, or none.
* `Layer.Delays`: **the schedule of a loop.**  The waits are the delays of the attempts, in order, and only
  the last attempt may go without.  There is one step lemma for an attempt after which the loop ends, and
  one for an attempt with another one after it; `Loop.delays` is the induction.
* `lastEnd`: whether a log ends because the context is over.  This decides whether the last attempt has a
  delay.
* `backoff_schedule`: the same for a whole request.
-/
import Mathlib.Algebra.Order.BigOperators.Group.List
import Mathlib.Algebra.GroupWithZero.Nat
import Mathlib.Algebra.Order.Group.Nat
import Resilience.Proofs.Pipeline.Backoff
import Resilience.Proofs.Pipeline.Pace

namespace Resilience

/-! ## 1. The delay after an attempt -/

/-- Why the context is over, if that is what the last question of the log learned. -/
def lastEnd (log : List Asked) : Option ContextEnd := log.getLast?.bind Asked.end?

theorem lastEnd_append {front log : List Asked} (h : log ≠ []) : lastEnd (front ++ log) = lastEnd log := by
  rw [lastEnd, List.getLast?_append_of_ne_nil front h, lastEnd]

namespace Layer

variable {l : Layer} {left attempt k : Nat} {request kept : Request}
  {log made tell draw front after rest : List Asked} {o result : Outcome} {backoff : Option Duration}
  {d : Duration}

variable (l) in
/-- **The delay after the attempt `k`**, if there is one, in what is asked after its exchange. -/
structure Delayed (k : Nat) (backoff : Option Duration) (after : List Asked) : Prop where
  /-- The observer gets one record, and it tells the delay. -/
  recorded : (records after).map AttemptRecord.backoff = [backoff]
  /-- There is one wait, and it is the delay; without a delay there is none. -/
  paused : pauses after = backoff.toList
  /-- The delay draws one sample if delays are spread at random; nothing else draws one. -/
  drawn : (samples after).length = if 0.0 < l.strategy.randomFactor then backoff.toList.length else 0
  /-- The delay is that of the strategy for the attempt `k`, for the sample that was drawn. -/
  delay : ∀ d ∈ backoff, ∃ draw, draw <:+: after ∧ samples after = samples draw ∧
    (l.strategy.nextBackoff l.index k).Yields draw d

theorem Delayed.ne_nil (h : l.Delayed k backoff after) : after ≠ [] := by
  rintro rfl
  cases h.recorded

/-- An attempt without a delay. -/
theorem delayed_none (hp : Prompt after) (hr : (records after).map AttemptRecord.backoff = [none]) :
    l.Delayed k none after where
  recorded := hr
  paused := hp.pauses_eq_nil
  drawn := by
    rw [hp.samples_eq_nil]
    simp
  delay := by
    intro d hd
    cases hd

/-- An attempt with a delay, which is drawn, recorded and waited for. -/
theorem delayed_some (ht : l.tellFailure.Yields tell ())
    (hd : (l.strategy.nextBackoff l.index k).Yields draw d) (hk : k < l.strategy.maxAttempts.toNat)
    (request : Request) (outcome : AttemptOutcome) (line : TraceLine) (answer : Option ContextEnd) :
    l.Delayed k (some d) (tell ++ (draw ++ [l.ended request k outcome (some d), .line line,
      ⟨.pause d, answer⟩])) := by
  have hpauses := (Strategy.nextBackoff_cases hd).1
  have hdrawn := Strategy.length_samples_nextBackoff hd
  simp only [hk, true_and] at hdrawn
  have htell := prompt_tellFailure ht
  have hsamples : samples (tell ++ (draw ++ [l.ended request k outcome (some d), .line line,
      ⟨.pause d, answer⟩])) = samples draw := by
    rw [samples_append, htell.samples_eq_nil, List.nil_append, samples_append]
    exact List.append_nil _
  constructor
  case recorded =>
    rw [records_append, (quiet_tellFailure l).records_eq_nil ht, records_append,
      (quiet_nextBackoff _ _ _).records_eq_nil hd]
    rfl
  case paused =>
    rw [pauses_append, htell.pauses_eq_nil, pauses_append, hpauses]
    rfl
  case drawn =>
    rw [hsamples, hdrawn]
    rfl
  case delay =>
    rintro e ⟨⟩
    exact ⟨draw, ⟨tell, _, List.append_assoc ..⟩, hsamples, hd⟩

/-- There is no exchange among this. -/
theorem outcomes_waiting (ht : l.tellFailure.Yields tell ())
    (hd : (l.strategy.nextBackoff l.index k).Yields draw d) (request : Request)
    (outcome : AttemptOutcome) (line : TraceLine) (answer : Option ContextEnd) :
    outcomes (tell ++ (draw ++ [l.ended request k outcome (some d), .line line, ⟨.pause d, answer⟩])) =
      [] := by
  rw [outcomes_append, (quiet_tellFailure l).outcomes_eq_nil ht, outcomes_append,
    (quiet_nextBackoff _ _ _).outcomes_eq_nil hd]
  rfl

/-- A look at the context after that changes nothing. -/
theorem Delayed.concat (h : l.Delayed k backoff after) (answer : Option ContextEnd) :
    l.Delayed k backoff (after ++ [⟨.context, answer⟩]) := by
  have hsamples : samples (after ++ [⟨.context, answer⟩]) = samples after := by
    rw [samples_append]
    exact List.append_nil _
  constructor
  case recorded =>
    rw [records_append, records_cons_context, records_nil, List.append_nil]
    exact h.recorded
  case paused =>
    rw [pauses_append]
    exact (List.append_nil _).trans h.paused
  case drawn =>
    rw [hsamples]
    exact h.drawn
  case delay =>
    intro d hd
    obtain ⟨draw, hinfix, hdraw, hyields⟩ := h.delay d hd
    exact ⟨draw, hinfix.trans (List.prefix_append _ _).isInfix, hsamples.trans hdraw, hyields⟩

/-! ## 2. The schedule of a loop -/

variable (l) in
/-- **The schedule of a loop**, from the attempt of this index with `left` more after it. -/
structure Delays (left attempt : Nat) (request : Request) (log : List Asked) : Prop where
  /-- Before the first exchange nothing waits or draws a sample. -/
  opening : Prompt (opening log)
  /-- After each exchange there is the wait that belongs to it, or none. -/
  each : ∀ k a, (answers log)[k]? = some a → l.Delayed (attempt + k) (pauses log)[k]? a.after
  /-- The records tell the waits; one more has no delay, if there is one more. -/
  recorded : (records log).map AttemptRecord.backoff = (pauses log).map some ++
    List.replicate ((outcomes log).length - (pauses log).length) none
  /-- Each wait comes after an exchange, ... -/
  le_exchanges : (pauses log).length ≤ (outcomes log).length
  /-- ... and only the last exchange may go without. -/
  exchanges_le : (outcomes log).length ≤ (pauses log).length + 1
  /-- A wait uses up an attempt. -/
  within : (pauses log).length ≤ left
  /-- Each wait draws a sample if delays are spread at random. -/
  drawn : (samples log).length = if 0.0 < l.strategy.randomFactor then (pauses log).length else 0
  /-- A request that cannot be repeated does not wait. -/
  unrepeatable : request.isReplayable = false → pauses log = []
  /-- The last exchange, if there is one, has a wait exactly if the end is that the context is over. -/
  last : outcomes log ≠ [] → ((pauses log).length = (outcomes log).length ↔ (lastEnd log).isSome)

/-- **The last attempt of a loop.** -/
theorem Answered.delays_last (h : Answered .exchange attempt request kept o made)
    (hf : outcomes front = []) (hdelayed : l.Delayed attempt backoff front)
    (hleft : backoff.isSome → left ≠ 0 ∧ request.isReplayable = true)
    (hend : backoff.isSome = (lastEnd front).isSome) : l.Delays left attempt request (made ++ front) := by
  obtain ⟨hopening, outgoing, hanswers⟩ := h.parts hf []
  have hmade : pauses (made ++ front) = backoff.toList := by
    rw [pauses_append, h.prompt.pauses_eq_nil, hdelayed.paused, List.nil_append]
  have houtcomes : outcomes (made ++ front) = [o] := by
    rw [Resilience.outcomes_append, h.outcomes_eq, hf, List.append_nil]
  rw [List.append_nil] at hopening hanswers
  constructor
  case opening =>
    rw [hopening]
    exact prompt_singleton trivial
  case each =>
    intro k a ha
    rw [hanswers] at ha
    cases k with
    | zero =>
      cases ha
      rw [hmade, Nat.add_zero]
      have hget : backoff.toList[0]? = backoff := by cases backoff <;> rfl
      have hafter : front ++ Resilience.opening [] = front := List.append_nil front
      rw [hget, hafter]
      exact hdelayed
    | succ k => simp [answers] at ha
  case recorded =>
    rw [Resilience.records_append, h.records_eq, List.nil_append, hdelayed.recorded, hmade, houtcomes]
    cases backoff <;> rfl
  case le_exchanges =>
    rw [hmade, houtcomes]
    cases backoff <;> simp
  case exchanges_le =>
    rw [houtcomes]
    exact Nat.succ_le_succ (Nat.zero_le _)
  case within =>
    rw [hmade]
    cases backoff with
    | none => exact Nat.zero_le _
    | some d => exact Nat.pos_of_ne_zero (hleft rfl).1
  case drawn =>
    rw [samples_append, h.prompt.samples_eq_nil, List.nil_append, hdelayed.drawn, hmade]
  case unrepeatable =>
    intro hr
    rw [hmade]
    cases backoff with
    | none => rfl
    | some d =>
      rw [(hleft rfl).2] at hr
      cases hr
  case last =>
    intro _
    rw [hmade, houtcomes, lastEnd_append hdelayed.ne_nil, ← hend]
    cases backoff <;> simp

/-- The last attempt, if two prompt questions are asked after the breaker was told, of which one is for the
record. -/
theorem Answered.delays_told {p : Program Unit} {x y : Asked}
    (h : Answered .exchange attempt request kept o made) (hp : p.Quiet) (ht : p.Yields tell ())
    (htell : Prompt tell) (hx : Prompt [x, y]) (ho : outcomes [x, y] = [])
    (hr : (records [x, y]).map AttemptRecord.backoff = [none]) (hend : y.end? = none) :
    l.Delays left attempt request (made ++ (tell ++ [x, y])) := by
  have houtcomes : outcomes (tell ++ [x, y]) = [] := by
    rw [Resilience.outcomes_append, hp.outcomes_eq_nil ht, ho]
    rfl
  have hrecords : (records (tell ++ [x, y])).map AttemptRecord.backoff = [none] := by
    rw [Resilience.records_append, hp.records_eq_nil ht]
    exact hr
  have hlast : lastEnd (tell ++ [x, y]) = none := by
    rw [lastEnd_append (List.cons_ne_nil x [y])]
    exact hend
  refine h.delays_last houtcomes (delayed_none (prompt_append_iff.mpr ⟨htell, hx⟩) hrecords) nofun ?_
  rw [hlast]
  rfl

/-- **An attempt with another one after it.** -/
theorem Answered.delays_next (h : Answered .exchange attempt request kept o made)
    (hf : outcomes front = []) (hdelayed : l.Delayed attempt (some d) front)
    (hk : kept.isReplayable = true) {answer : Option ContextEnd}
    (hlook : opening rest = [⟨.context, answer⟩]) (hstop : outcomes rest = [] → (lastEnd rest).isSome)
    (hnext : l.Delays left (attempt + 1) kept rest) :
    l.Delays (left + 1) attempt request (made ++ (front ++ rest)) := by
  obtain ⟨hopening, outgoing, hanswers⟩ := h.parts hf rest
  have hrest : rest ≠ [] := by
    rintro rfl
    cases hlook
  have hmade : pauses (made ++ (front ++ rest)) = d :: pauses rest := by
    rw [pauses_append, h.prompt.pauses_eq_nil, pauses_append, hdelayed.paused]
    rfl
  have houtcomes : outcomes (made ++ (front ++ rest)) = o :: outcomes rest := by
    rw [Resilience.outcomes_append, h.outcomes_eq, Resilience.outcomes_append, hf]
    rfl
  constructor
  case opening =>
    rw [hopening]
    exact prompt_singleton trivial
  case each =>
    intro k a ha
    rw [hanswers] at ha
    rw [hmade]
    cases k with
    | zero =>
      cases ha
      rw [hlook]
      exact hdelayed.concat answer
    | succ k =>
      have := hnext.each k a ha
      rwa [Nat.add_assoc, Nat.add_comm 1 k] at this
  case recorded =>
    rw [Resilience.records_append, h.records_eq, List.nil_append, Resilience.records_append, List.map_append,
      hdelayed.recorded, hnext.recorded, hmade, houtcomes, List.length_cons, List.length_cons,
      Nat.add_sub_add_right]
    rfl
  case le_exchanges =>
    rw [hmade, houtcomes]
    exact Nat.succ_le_succ hnext.le_exchanges
  case exchanges_le =>
    rw [hmade, houtcomes]
    exact Nat.succ_le_succ hnext.exchanges_le
  case within =>
    rw [hmade]
    exact Nat.succ_le_succ hnext.within
  case drawn =>
    rw [samples_append, h.prompt.samples_eq_nil, List.nil_append, samples_append, List.length_append,
      hdelayed.drawn, hnext.drawn, hmade]
    split
    · exact Nat.add_comm _ _
    · rfl
  case unrepeatable =>
    intro hr
    rw [h.isReplayable_eq, hr] at hk
    cases hk
  case last =>
    intro _
    rw [hmade, houtcomes, ← List.append_assoc, lastEnd_append hrest, List.length_cons, List.length_cons,
      Nat.succ_inj]
    by_cases hnone : outcomes rest = []
    · have hle := hnext.le_exchanges
      rw [hnone] at hle ⊢
      exact iff_of_true (Nat.le_zero.mp hle) (hstop hnone)
    · exact hnext.last hnone

/-- An attempt begins with a look at the context, and makes an exchange. -/
theorem Answered.begins (h : Answered .exchange attempt request kept o made) (rest : List Asked) :
    (∃ answer, opening (made ++ rest) = [⟨.context, answer⟩]) ∧
      (outcomes (made ++ rest) = [] → (lastEnd (made ++ rest)).isSome) := by
  obtain ⟨outgoing, -, rfl⟩ := h.eq
  exact ⟨⟨none, rfl⟩, nofun⟩

/-- A loop begins with a look at the context, and makes an exchange unless that finds the context over. -/
theorem Loop.begins (h : l.Loop .exchange left attempt request log result)
    (hsend : attempt ≠ 0 → request.isReplayable = true) :
    (∃ answer, opening log = [⟨.context, answer⟩]) ∧ (outcomes log = [] → (lastEnd log).isSome) := by
  cases h with
  | ended reason => exact ⟨⟨_, rfl⟩, fun _ => rfl⟩
  | unsendable h => exact absurd h (Request.forAttempt?_ne_none hsend)
  | succeeded h | aborted h | exhausted h | notReplayable h | interrupted _ h | retried h =>
    exact h.begins _

/-- Where there is neither an exchange nor a record, a wait or a sample, the schedule is empty. -/
theorem delays_of_prompt (hp : Prompt log) (ho : outcomes log = []) (hr : records log = []) :
    l.Delays left attempt request log := by
  have hparts : opening (log ++ []) = log ++ opening [] := opening_append ho
  have hopening : opening log = log := by simpa [opening] using hparts
  constructor
  case opening =>
    rwa [hopening]
  case each =>
    intro k a ha
    rw [answers_eq_nil ho] at ha
    cases ha
  case recorded =>
    rw [hr, hp.pauses_eq_nil, ho]
    rfl
  case le_exchanges =>
    rw [hp.pauses_eq_nil]
    exact Nat.zero_le _
  case exchanges_le =>
    rw [ho]
    exact Nat.zero_le _
  case within =>
    rw [hp.pauses_eq_nil]
    exact Nat.zero_le _
  case drawn =>
    rw [hp.samples_eq_nil, hp.pauses_eq_nil]
    exact (ite_self _).symm
  case unrepeatable =>
    intro _
    exact hp.pauses_eq_nil
  case last =>
    intro hne
    exact absurd ho hne

/-- More of that may come before. -/
theorem Delays.prepend (h : l.Delays left attempt request log) (hlog : log ≠ []) (hp : Prompt front)
    (ho : outcomes front = []) (hr : records front = []) :
    l.Delays left attempt request (front ++ log) := by
  have hpauses : pauses (front ++ log) = pauses log := by
    rw [pauses_append, hp.pauses_eq_nil, List.nil_append]
  have houtcomes : outcomes (front ++ log) = outcomes log := by
    rw [outcomes_append, ho, List.nil_append]
  constructor
  case opening =>
    rw [opening_append ho]
    exact prompt_append_iff.mpr ⟨hp, h.opening⟩
  case each =>
    rw [answers_append ho, hpauses]
    exact h.each
  case recorded =>
    rw [records_append, hr, List.nil_append, hpauses, houtcomes]
    exact h.recorded
  case le_exchanges =>
    rw [hpauses, houtcomes]
    exact h.le_exchanges
  case exchanges_le =>
    rw [hpauses, houtcomes]
    exact h.exchanges_le
  case within =>
    rw [hpauses]
    exact h.within
  case drawn =>
    rw [samples_append, hp.samples_eq_nil, List.nil_append, hpauses]
    exact h.drawn
  case unrepeatable =>
    rw [hpauses]
    exact h.unrepeatable
  case last =>
    rw [hpauses, houtcomes, lastEnd_append hlog]
    exact h.last

/-- **Every loop keeps its schedule**, if the caller is not at fault.  The induction is over the rules of
the loop; what it carries is that the index of the attempt and the attempts left stay within the limit of
the strategy. -/
theorem Loop.delays (h : l.Loop .exchange left attempt request log result)
    (hlimit : left ≠ 0 → attempt + left < l.strategy.maxAttempts.toNat)
    (hsend : attempt ≠ 0 → request.isReplayable = true)
    (hfault : ∀ o ∈ outcomes log, ¬ CallerFault o) : l.Delays left attempt request log := by
  induction h with
  | ended reason => exact delays_of_prompt (prompt_singleton trivial) rfl rfl
  | unsendable h => exact absurd h (Request.forAttempt?_ne_none hsend)
  | succeeded h ho ht =>
    exact h.delays_told (quiet_tellSuccess l) ht (prompt_tellSuccess ht) (prompt_pair trivial trivial)
      rfl rfl rfl
  | @aborted left attempt request kept o made e line h ho =>
    obtain ⟨rfl, he⟩ := judge_eq_aborted ho
    refine absurd ⟨e, rfl, he⟩ (hfault (.error e) ?_)
    rw [outcomes_append, h.outcomes_eq]
    exact List.mem_cons_self
  | exhausted h ho ht =>
    exact h.delays_told (quiet_tellFailure l) ht (prompt_tellFailure ht) (prompt_pair trivial trivial)
      rfl rfl rfl
  | notReplayable h ho ht hk =>
    exact h.delays_told (quiet_tellFailure l) ht (prompt_tellFailure ht) (prompt_pair trivial trivial)
      rfl rfl rfl
  | @interrupted left attempt request kept o made tell draw f delay line reason h ho ht hk hd =>
    have hlt := hlimit (Nat.succ_ne_zero left)
    have hdelayed := delayed_some ht hd (by omega) kept f.outcome line (some reason)
    have hquiet := outcomes_waiting ht hd kept f.outcome line (some reason)
    refine h.delays_last hquiet hdelayed ?_ ?_
    · intro _
      exact ⟨Nat.succ_ne_zero left, h.isReplayable_eq ▸ hk⟩
    · rw [← List.append_assoc, lastEnd_append (List.cons_ne_nil _ _)]
      rfl
  | @retried left attempt request kept o made tell draw rest f delay line result h ho ht hk hd next
      ih =>
    have hlt := hlimit (Nat.succ_ne_zero left)
    have hdelayed := delayed_some ht hd (by omega) kept f.outcome line none
    have hquiet := outcomes_waiting ht hd kept f.outcome line none
    have hrest : l.Delays left (attempt + 1) kept rest := by
      refine ih (fun _ => by omega) (fun _ => hk) fun x hx => hfault x ?_
      rw [h.outcomes_backOff _ ht hd]
      exact List.mem_cons_of_mem o hx
    obtain ⟨⟨answer, hlook⟩, hstop⟩ := next.begins fun _ => hk
    simpa only [List.append_assoc, List.cons_append, List.nil_append] using
      h.delays_next hquiet hdelayed hk hlook hstop hrest

/-! ## 3. A whole request -/

/-- **Every request keeps its schedule**, if the caller is not at fault. -/
theorem Sent.delays (h : l.Sent .exchange request log result)
    (hfault : ∀ o ∈ outcomes log, ¬ CallerFault o) : l.Delays (l.budget - 1) 0 request log := by
  have hlimit : l.budget - 1 ≠ 0 → 0 + (l.budget - 1) < l.strategy.maxAttempts.toNat := by
    unfold budget
    split <;> omega
  cases h with
  | ended reason => exact delays_of_prompt (prompt_pair trivial trivial) rfl rfl
  | refused h => exact delays_of_prompt (h.prompt_front _) h.quiet.1 h.quiet.2
  | @entered line asked log result h hloop =>
    have hquiet : outcomes (.line line :: ⟨.context, none⟩ :: asked) = [] := h.quiet.1
    have hexchanges : outcomes (.line line :: ⟨.context, none⟩ :: (asked ++ log)) = outcomes log := by
      rw [← List.cons_append, ← List.cons_append, outcomes_append, hquiet, List.nil_append]
    rw [hexchanges] at hfault
    have hdelays := hloop.delays hlimit (fun h0 => absurd rfl h0) hfault
    exact hdelays.prepend hloop.ne_nil (h.prompt_front line) hquiet h.quiet.2

/-- The waits are no longer, all together, than so many of the longest ones. -/
theorem Delays.sum_le (h : l.Delays left attempt request log) :
    ((pauses log).map Duration.nanos).sum ≤ left * l.strategy.maxInterval.nanos := by
  have each : ∀ n ∈ (pauses log).map Duration.nanos, n ≤ l.strategy.maxInterval.nanos := by
    intro n hn
    obtain ⟨d, hd, rfl⟩ := List.mem_map.mp hn
    obtain ⟨k, hk, rfl⟩ := List.mem_iff_getElem.mp hd
    have hanswer : k < (answers log).length := by
      have hle := h.le_exchanges
      rw [← map_outcome_answers, List.length_map] at hle
      omega
    obtain ⟨draw, -, -, hyields⟩ := (h.each k _ (List.getElem?_eq_getElem hanswer)).delay (pauses log)[k]
      (by rw [List.getElem?_eq_getElem hk]; rfl)
    exact Duration.le_iff.mp (Strategy.nextBackoff_le hyields)
  calc ((pauses log).map Duration.nanos).sum
      ≤ ((pauses log).map Duration.nanos).length * l.strategy.maxInterval.nanos := by
        exact List.sum_le_card_nsmul _ _ each
    _ ≤ left * l.strategy.maxInterval.nanos := by
        rw [List.length_map]
        exact Nat.mul_le_mul_right _ h.within

end Layer

/-- **The delays of a request.**  Take any layer, any request, and surroundings that answer in any way, and
let no exchange come to an error of the caller.  Then the request keeps its schedule: its waits are the
delays of its attempts, each recorded, drawn and waited for between its exchange and the next one, and only
the last attempt may go without, which it does unless the context was found over since; a request that
cannot be repeated does not wait at all.  If the end is that the context is over, this is the result.  All
together the waits are no longer than one longest delay for each attempt but the first. -/
theorem backoff_schedule (l : Layer) (request : Request) (env : Surroundings)
    (hfault : ∀ o ∈ outcomes (env.log (l.send .exchange request)), ¬ CallerFault o) :
    l.Delays (l.budget - 1) 0 request (env.log (l.send .exchange request)) ∧
      (∀ reason, lastEnd (env.log (l.send .exchange request)) = some reason →
        env.result (l.send .exchange request) = .error (.ofContext reason)) ∧
      ((pauses (env.log (l.send .exchange request))).map Duration.nanos).sum ≤
        (l.strategy.maxAttempts.toNat - 1) * l.strategy.maxInterval.nanos := by
  have hsent := Layer.send_sent (env.yields (l.send .exchange request))
  have hdelays := hsent.delays hfault
  refine ⟨hdelays, ?_, ?_⟩
  · intro reason hend
    obtain ⟨x, hlast, hx⟩ := Option.bind_eq_some_iff.mp hend
    obtain ⟨front, hlog⟩ := List.getLast?_eq_some_iff.mp hlast
    exact (hsent.paced.of_end hx hlog).2.1
  · have hbudget : l.budget - 1 ≤ l.strategy.maxAttempts.toNat - 1 := by
      unfold Layer.budget
      split <;> omega
    exact Nat.le_trans hdelays.sum_le (Nat.mul_le_mul_right _ hbudget)

/-- With the default settings, a request that is answered twice by status 503 and then by status 200 waits
twice. -/
theorem backoff_schedule_third_attempt :
    ∃ l : Layer, Layer.build 0 true {} = .ok l ∧
      let request : Request :=
        { method := "GET", url := ⟨"http", "", "", some "a.test", none, .segments [""], none, none⟩ }
      let env := Surroundings.calm fun i => .ok { status := ⟨if i < 2 then 503 else 200⟩ }
      (∀ o ∈ outcomes (env.log (l.send .exchange request)), ¬ CallerFault o) ∧
        l.Delays 2 0 request (env.log (l.send .exchange request)) ∧
        (outcomes (env.log (l.send .exchange request))).length = 3 ∧
        (pauses (env.log (l.send .exchange request))).length = 2 := by
  obtain ⟨l, hl⟩ : ∃ l : Layer, Layer.build 0 true {} = .ok l := ⟨_, rfl⟩
  refine ⟨l, hl, ?_⟩
  intro request env
  have hfault : ∀ o ∈ outcomes (env.log (l.send .exchange request)), ¬ CallerFault o := by
    intro o ho hcaller
    obtain ⟨i, hi⟩ := List.mem_iff_getElem?.mp ho
    rw [Surroundings.outcomes_calm _ _ i o hi] at hcaller
    obtain ⟨e, he, -⟩ := hcaller
    cases he
  obtain ⟨k, hk⟩ := Surroundings.stops_calm
    (fun i => .ok { status := ⟨if i < 2 then 503 else 200⟩ }) hl request
  obtain rfl : k = 2 := LayerConfig.isFinal_first_good (by decide) hk.final fun j hj =>
    hk.first j (Nat.zero_le j) hj
  have hexchanges : (outcomes (env.log (l.send .exchange request))).length = 3 :=
    (Nat.zero_add _).symm.trans hk.exchanges_eq
  obtain ⟨hdelays, hend, -⟩ := backoff_schedule l request env hfault
  have hbudget : l.budget = 3 := (Layer.budget_eq hl).1
  rw [hbudget] at hdelays
  refine ⟨hfault, hdelays, hexchanges, ?_⟩
  -- the request ends well, so the last attempt has no delay
  have hresult : env.result (l.send .exchange request) = .ok { status := ⟨200⟩ } := hk.result_eq
  have hnone : ¬ (lastEnd (env.log (l.send .exchange request))).isSome := by
    intro hsome
    obtain ⟨reason, hreason⟩ := Option.isSome_iff_exists.mp hsome
    rw [hend reason hreason] at hresult
    cases hresult
  have hne : outcomes (env.log (l.send .exchange request)) ≠ [] := by
    intro hnil
    rw [hnil] at hexchanges
    cases hexchanges
  have hlast := mt (hdelays.last hne).mp hnone
  have hle := hdelays.le_exchanges
  have hge := hdelays.exchanges_le
  omega

end Resilience
