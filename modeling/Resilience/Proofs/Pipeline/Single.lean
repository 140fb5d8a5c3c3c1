/-
# One attempt, with retries and without

A layer makes one attempt if it does not retry, and also if it retries but its strategy allows one attempt
only.  The switch is read twice, for the number of attempts and for the word after the last failure.  This
file says that the two layers do the same in all surroundings, up to that word.

* `Reworded`: two logs are the same, but for the wording of the last line in the trace.
* `Layer.withoutRetries`, `Layer.withOneAttempt`: the two layers.  Up to the answer of the exchange they run
  the same program (`run_started`), and what comes after it differs only where they give up
  (`reworded_respond`).
* `SingleEnd`: what the two layers end with.
* `send_single`: the whole.
-/
import Resilience.Proofs.Pipeline.Nesting
import Resilience.Proofs.Pipeline.Replay

namespace Resilience

/-! ## 1. Logs that are the same but for a line -/

/-- **The two logs are the same**, question by question and answer by answer, but for the wording of the
last line in the trace. -/
inductive Reworded : List Asked → List Asked → Prop
  | same (log : List Asked) : Reworded log log
  | last (front : List Asked) (line line' : TraceLine) :
      Reworded (front ++ [.line line]) (front ++ [.line line'])

section Reworded

variable {log log' : List Asked}

theorem Reworded.append_left (h : Reworded log log') (front : List Asked) :
    Reworded (front ++ log) (front ++ log') := by
  cases h with
  | same => exact .same _
  | last more line line' =>
    rw [← List.append_assoc, ← List.append_assoc]
    exact .last _ line line'

/-- Such logs hold the same exchanges. -/
theorem Reworded.outcomes_eq (h : Reworded log log') : outcomes log = outcomes log' := by
  cases h with
  | same => rfl
  | last front line line' =>
    rw [outcomes_append, outcomes_append]
    rfl

/-- Such logs leave every breaker in the same state, whatever its clock shows. -/
theorem Reworded.breakerAfter_eq (h : Reworded log log') (layer : Nat) (config : BreakerConfig)
    (clock : List Asked → Instant) (s : BreakerState) :
    breakerAfter layer config clock [] log s = breakerAfter layer config clock [] log' s := by
  cases h with
  | same => rfl
  | last front line line' =>
    -- a line does nothing to a breaker
    rw [breakerAfter_append, breakerAfter_append]
    rfl

end Reworded

/-! ## 2. The two layers -/

/-- **What the two layers end with**, given the outcomes of the exchanges: an error that is a failure is
passed on without retries, and is the last failure of one attempt with them; everything else is the same. -/
inductive SingleEnd (exchanges : List Outcome) : Outcome → Outcome → Prop
  | failed {e : HttpError} (h : exchanges = [.error e]) (he : e.isDependencyFailure = true) :
      SingleEnd exchanges (.error e) (.error (.maxRetriesExceeded 1 (.error e)))
  | same {result : Outcome} (h : ∀ e, exchanges = [.error e] → e.isDependencyFailure = false) :
      SingleEnd exchanges result result

namespace Layer

/-- The layer without retries. -/
def withoutRetries (l : Layer) : Layer :=
  { l with policy := { l.policy with retryEnabled := false } }

/-- The layer with retries by the strategy, which is cut down to one attempt. -/
def withOneAttempt (l : Layer) (s : Strategy) : Layer :=
  { l with
    policy := { l.policy with retryEnabled := true }
    strategy := { s with maxAttempts := 1 } }

/-- Layers from settings that differ in their retries alone, which are off in the one and cut down to one
attempt in the other, are such a pair. -/
theorem build_single {index : Nat} {c c' : LayerConfig} {off on : Layer}
    (hoff : Layer.build index true c = .ok off) (hon : Layer.build index true c' = .ok on)
    (hbreaker : c'.breaker = c.breaker) (hthreshold : c'.serverErrorThreshold = c.serverErrorThreshold)
    (hdisabled : c.retry.enabled = false) (henabled : c'.retry.enabled = true)
    (hone : c'.retry.maxAttempts = 1) :
    off = off.withoutRetries ∧ on = off.withOneAttempt on.strategy := by
  obtain ⟨-, -, -, -, rfl⟩ := build_eq_ok_iff.mp hoff
  obtain ⟨-, -, -, -, rfl⟩ := build_eq_ok_iff.mp hon
  simp only [withoutRetries, withOneAttempt, RetryConfig.strategy, hbreaker, hthreshold, hdisabled,
    henabled, hone, and_self]

variable {l : Layer} {left attempt : Nat} {request kept : Request} {log : List Asked}
  {o result : Outcome} {f : LastFailure} {e : HttpError}

/-- What is told after the last failure. -/
def tellLast (l : Layer) (kept : Request) (f : LastFailure) : Program Unit := do
  if l.policy.breakerEnabled then Breaker.onFailure l.index
  .observe l.index (.attempt (record kept 0 f.outcome none))

/-- After a failure with no attempt left all is told, and then the layer gives up. -/
theorem respond_of_failure (inner : Transport) (ho : l.judge o = .failure f) :
    l.respond inner 0 kept o = l.tellLast kept f >>= fun _ => l.giveUp 0 f := by
  rw [respond, ho, tellLast]
  cases l.policy.breakerEnabled with
  | false => rfl
  | true => exact (Program.bind_assoc _ _ _).symm

/-- Without retries the error is passed on, ... -/
theorem run_giveUp_withoutRetries (env : Surroundings) (past : List Asked) :
    ∃ line, (l.withoutRetries.giveUp 0 (.error e)).run env past = ([.line line], .error e) := ⟨_, rfl⟩

/-- ... and with them it is the last failure. -/
theorem run_giveUp_withOneAttempt (s : Strategy) (env : Surroundings) (past : List Asked) :
    ∃ line, ((l.withOneAttempt s).giveUp 0 (.error e)).run env past =
      ([.line line], .error (.maxRetriesExceeded 1 (.error e))) := ⟨_, rfl⟩

/-- **What follows the answer** is the same in both layers, up to the last line and the last word. -/
theorem reworded_respond (l : Layer) (s : Strategy) (inner : Transport) (kept : Request) (o : Outcome)
    (env : Surroundings) (past : List Asked) :
    Reworded ((l.withoutRetries.respond inner 0 kept o).run env past).1
        (((l.withOneAttempt s).respond inner 0 kept o).run env past).1 ∧
      SingleEnd [o] ((l.withoutRetries.respond inner 0 kept o).run env past).2
        (((l.withOneAttempt s).respond inner 0 kept o).run env past).2 := by
  -- the layers judge the answer alike, and where it is no error that is a failure they do the same
  have same : l.withoutRetries.respond inner 0 kept o = (l.withOneAttempt s).respond inner 0 kept o →
      (∀ e, [o] = [.error e] → e.isDependencyFailure = false) →
      Reworded ((l.withoutRetries.respond inner 0 kept o).run env past).1
          (((l.withOneAttempt s).respond inner 0 kept o).run env past).1 ∧
        SingleEnd [o] ((l.withoutRetries.respond inner 0 kept o).run env past).2
          (((l.withOneAttempt s).respond inner 0 kept o).run env past).2 := by
    intro heq ho
    rw [heq]
    exact ⟨.same _, .same ho⟩
  have hjudge : (l.withOneAttempt s).judge o = l.withoutRetries.judge o := rfl
  cases o with
  | ok r =>
    refine same ?_ (by rintro e ⟨⟩)
    cases hr : l.withoutRetries.judge (.ok r) with
    | success r' =>
      rw [respond, respond, hjudge, hr]
      rfl
    | aborted e =>
      cases (judge_eq_aborted hr).1
    | failure f =>
      cases f with
      | response r' =>
        rw [respond_of_failure inner hr, respond_of_failure inner (hjudge.trans hr)]
        rfl
      | error e =>
        cases (eq_of_judge_eq_failure hr).1
  | error e =>
    cases he : e.isDependencyFailure with
    | false =>
      have hr : l.withoutRetries.judge (.error e) = .aborted e := if_neg (by simp [he])
      refine same ?_ ?_
      · rw [respond, respond, hjudge, hr]
      · intro e' heq
        cases heq
        exact he
    | true =>
      have hr : l.withoutRetries.judge (.error e) = .failure (.error e) := if_pos he
      have htell : (l.withOneAttempt s).tellLast kept (.error e) =
          l.withoutRetries.tellLast kept (.error e) := rfl
      rw [respond_of_failure inner hr, respond_of_failure inner (hjudge.trans hr), htell,
        Program.run_bind, Program.run_bind]
      obtain ⟨line, hoff⟩ := l.run_giveUp_withoutRetries (e := e) env
        (past ++ ((l.withoutRetries.tellLast kept (.error e)).run env past).1)
      obtain ⟨line', hon⟩ := l.run_giveUp_withOneAttempt (e := e) s env
        (past ++ ((l.withoutRetries.tellLast kept (.error e)).run env past).1)
      rw [hoff, hon]
      exact ⟨.last _ line line', .failed rfl he⟩

/-! ## 3. A layer with one attempt -/

/-- A loop at its last attempt neither waits nor draws a sample. -/
theorem Loop.prompt_of_last (h : l.Loop .exchange left attempt request log result) (hleft : left = 0) :
    Prompt log := by
  cases h with
  | ended reason | unsendable h => exact prompt_singleton trivial
  | succeeded h ho ht =>
    simp only [prompt_append_iff]
    exact ⟨h.prompt, prompt_tellSuccess ht, prompt_pair trivial trivial⟩
  | aborted h ho => exact prompt_append_iff.mpr ⟨h.prompt, prompt_singleton trivial⟩
  | exhausted h ho ht =>
    simp only [prompt_append_iff]
    exact ⟨h.prompt, prompt_tellFailure ht, prompt_pair trivial trivial⟩
  | notReplayable | interrupted | retried => cases hleft

/-- Neither does a request that has one attempt, which makes at most one exchange and ends for want of a body
only if that is what the exchange came to. -/
theorem Sent.of_single (h : l.Sent .exchange request log result) (hb : l.budget = 1) :
    Prompt log ∧ (outcomes log).length ≤ 1 ∧
      (result = .error .bodyNotRetriable → outcomes log = [.error .bodyNotRetriable]) := by
  have hlength := (h.bounds hb Nat.zero_lt_one).1
  refine ⟨?_, hlength, ?_⟩
  · cases h with
    | ended reason => exact prompt_pair trivial trivial
    | refused h => exact h.prompt_front _
    | @entered line asked log result h hloop =>
      rw [← List.cons_append, ← List.cons_append]
      exact prompt_append_iff.mpr ⟨h.prompt_front line, hloop.prompt_of_last (by rw [hb])⟩
  · intro hr
    rcases h.bodyLost.2 hr with @⟨front, hinside⟩ | ⟨-, hleft, -⟩
    · rw [hinside, List.length_append, List.length_singleton] at hlength
      have hfront : front = [] := List.eq_nil_of_length_eq_zero (by omega)
      rw [hinside, hfront, List.nil_append]
    · rw [hb] at hleft
      exact absurd rfl hleft

/-- **The two layers ask and end alike.**  Up to the answer they run the same program. -/
theorem reworded_send (l : Layer) (s : Strategy) (request : Request) (env : Surroundings)
    (hone : (outcomes (env.log (l.withoutRetries.send .exchange request))).length ≤ 1) :
    Reworded (env.log (l.withoutRetries.send .exchange request))
        (env.log ((l.withOneAttempt s).send .exchange request)) ∧
      SingleEnd (outcomes (env.log (l.withoutRetries.send .exchange request)))
        (env.result (l.withoutRetries.send .exchange request))
        (env.result ((l.withOneAttempt s).send .exchange request)) := by
  have hentry : ∀ p, (l.withOneAttempt s).entry request p = l.withoutRetries.entry request p :=
    fun _ => rfl
  rw [Surroundings.log, send_eq] at hone
  rw [Surroundings.log, Surroundings.log, Surroundings.result, Surroundings.result, send_eq, send_eq,
    hentry]
  rcases run_started l.withoutRetries request (request.outgoing request.body) env with
    ⟨run, hnone, hrun⟩ | ⟨front, o, hfront, hrun⟩
  · rw [hrun, hrun, hnone]
    refine ⟨.same _, .same ?_⟩
    rintro e ⟨⟩
  · obtain ⟨hlog, hend⟩ := l.reworded_respond s .exchange { request with body := none } o env front
    rw [hrun, outcomes_append, hfront, List.length_append, List.length_singleton] at hone
    have hmore := List.eq_nil_of_length_eq_zero (Nat.le_zero.mp (Nat.le_of_add_le_add_left hone))
    rw [hrun, hrun, outcomes_append, hfront]
    refine ⟨hlog.append_left front, ?_⟩
    rw [hmore]
    exact hend

end Layer

/-! ## 4. The whole -/

/-- **Without retries a request has one attempt.**  Take any layer, any strategy, any request, and
surroundings that answer in any way.  A layer without retries and one whose strategy is cut down to one
attempt ask the same questions and get the same answers, in the same order, but for the wording of the last
line in the trace; so they make the same exchange, tell the observer the same and leave the breaker in the
same state, wherever it stood and whatever its clock shows.  They neither wait nor draw a sample.  They end
with the same, but for an error that is a failure, which one passes on and the other wraps; and they end for
want of a body only if that is what the exchange came to. -/
theorem send_single (l : Layer) (s : Strategy) (request : Request) (env : Surroundings) :
    let off := l.withoutRetries.send .exchange request
    let on := (l.withOneAttempt s).send .exchange request
    Reworded (env.log off) (env.log on) ∧
      (∀ clock state, breakerAfter l.index l.breaker clock [] (env.log off) state =
        breakerAfter l.index l.breaker clock [] (env.log on) state) ∧
      (Prompt (env.log off) ∧ Prompt (env.log on)) ∧
      (outcomes (env.log off) = outcomes (env.log on) ∧ (outcomes (env.log off)).length ≤ 1) ∧
      SingleEnd (outcomes (env.log off)) (env.result off) (env.result on) ∧
      (env.result off = .error .bodyNotRetriable →
        outcomes (env.log off) = [.error .bodyNotRetriable]) ∧
      (env.result on = .error .bodyNotRetriable →
        outcomes (env.log on) = [.error .bodyNotRetriable]) := by
  intro off on
  obtain ⟨hoff, hone, hlost⟩ := (Layer.send_sent (env.yields off)).of_single rfl
  obtain ⟨hon, -, hlost'⟩ := (Layer.send_sent (env.yields on)).of_single rfl
  obtain ⟨hlog, hend⟩ := l.reworded_send s request env hone
  refine ⟨hlog, ?_, ⟨hoff, hon⟩, ⟨hlog.outcomes_eq, hone⟩, hend, hlost, hlost'⟩
  intro clock state
  exact hlog.breakerAfter_eq l.index l.breaker clock state

end Resilience
