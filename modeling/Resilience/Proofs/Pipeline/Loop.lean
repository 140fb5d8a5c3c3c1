/-
# The retry loop as rules

`Layer.attempts` is a recursion over programs.  This file restates what one of its attempts can do as
the rules of a relation, once, so that a statement about whole runs is an induction over the rules and
never opens the recursion.

* `Answered`: one attempt has been made, and what came back.
* `Loop`: the ways in which the loop ends, each with its log and its result, and the one way in which
  it goes on.  `attempts_loop` says that these are all.
* `Sent`: the same for a whole request: its context is over, the breaker turns it away, or the loop is
  entered.  `send_sent` says that these are all.

The rules keep everything that can be told from outside: the order of the questions, the record of each
attempt, the delay that is asked for.  Only the wording of the lines in the trace is left open.
-/
import Resilience.Pipeline
import Resilience.Proofs.Breaker.History

namespace Resilience

namespace Layer

/-! ## 1. What is told after an attempt -/

/-- Tells the breaker of a success, if it is asked at all. -/
def tellSuccess (l : Layer) : Program Unit :=
  .when l.policy.breakerEnabled (Breaker.onSuccess l.index l.breaker)

/-- Tells the breaker of a failure, if it is asked at all. -/
def tellFailure (l : Layer) : Program Unit := .when l.policy.breakerEnabled (Breaker.onFailure l.index)

/-- The notice that an attempt has ended. -/
def ended (l : Layer) (request : Request) (attempt : Nat) (outcome : AttemptOutcome)
    (backoff : Option Duration) : Asked :=
  .notice l.index (.attempt (record request attempt outcome backoff))

/-- The result after the last failure. -/
def lastWord (l : Layer) (attempt : Nat) : LastFailure → Outcome
  | .error e =>
    if l.policy.retryEnabled then .error (.maxRetriesExceeded (attempt + 1) (.error e)) else .error e
  | .response r => .error (.maxRetriesExceeded (attempt + 1) (.response r))

/-- **Giving up writes a line and ends with the last word.** -/
theorem giveUp_yields {l : Layer} {attempt : Nat} {f : LastFailure} {log : List Asked}
    {result : Outcome} (h : (l.giveUp attempt f).Yields log result) :
    ∃ line, log = [.line line] ∧ result = l.lastWord attempt f := by
  have single : ∀ {line : TraceLine} {e : HttpError},
      (Program.trace line >>= fun _ => pure (.error e)).Yields log result →
        log = [.line line] ∧ result = .error e := by
    clear h
    intro line e h
    rw [Program.yields_trace_bind_iff] at h
    obtain ⟨rest, rfl, h⟩ := h
    rw [Program.yields_pure_iff] at h
    obtain ⟨rfl, rfl⟩ := h
    exact ⟨rfl, rfl⟩
  cases f with
  | response r => exact ⟨_, single h⟩
  | error e =>
    simp only [giveUp, lastWord] at h ⊢
    split at h
    · rename_i hr
      rw [if_pos hr]
      exact ⟨_, single h⟩
    · rename_i hr
      rw [if_neg hr]
      exact ⟨_, single h⟩

/-- **Reporting a success** tells the breaker, writes a line and tells the observer. -/
theorem succeed_yields {l : Layer} {request : Request} {attempt : Nat} {r : Response}
    {log : List Asked} {result : Outcome} (h : (l.succeed request attempt r).Yields log result) :
    ∃ tell line, l.tellSuccess.Yields tell () ∧
      log = tell ++ [.line line, l.ended request attempt (.success r.status.code) none] ∧
      result = .ok r := by
  simp only [succeed] at h
  rw [Program.yields_ite_iff] at h
  obtain ⟨tell, tail, rfl, ht, h⟩ := h
  rw [Program.yields_trace_bind_iff] at h
  obtain ⟨tail, rfl, h⟩ := h
  rw [Program.yields_observe_bind_iff] at h
  obtain ⟨tail, rfl, h⟩ := h
  rw [Program.yields_pure_iff] at h
  obtain ⟨rfl, rfl⟩ := h
  exact ⟨tell, _, ht, rfl, rfl⟩

/-- **What follows a failure that is not the last one.**  Either the body cannot be had again; or the
delay is recorded and asked for, and then the context has ended or the next attempt is made. -/
theorem backOff_yields {l : Layer} {request : Request} {attempt : Nat} {f : LastFailure}
    {next : Program Outcome} {log : List Asked} {result : Outcome}
    (h : (l.backOff request attempt f next).Yields log result) :
    (request.isReplayable = false ∧ result = .error .bodyNotRetriable ∧
      ∃ line, log = [l.ended request attempt f.outcome none, .line line]) ∨
    (request.isReplayable = true ∧ ∃ draw delay,
      (l.strategy.nextBackoff l.index attempt).Yields draw delay ∧
      ((∃ line reason, result = .error (.ofContext reason) ∧
          log = draw ++ [l.ended request attempt f.outcome (some delay), .line line,
            ⟨.pause delay, some reason⟩]) ∨
        ∃ line rest, next.Yields rest result ∧
          log = draw ++ l.ended request attempt f.outcome (some delay) :: .line line ::
            ⟨.pause delay, none⟩ :: rest)) := by
  unfold backOff at h
  split at h
  · rename_i hk
    rw [Program.yields_bind_iff] at h
    obtain ⟨draw, delay, tail, rfl, hd, h⟩ := h
    rw [Program.yields_observe_bind_iff] at h
    obtain ⟨tail, rfl, h⟩ := h
    rw [Program.yields_trace_bind_iff] at h
    obtain ⟨tail, rfl, h⟩ := h
    rw [Program.yields_query_bind_iff] at h
    obtain ⟨reason?, tail, rfl, h⟩ := h
    refine Or.inr ⟨hk, draw, delay, hd, ?_⟩
    cases reason? with
    | some reason =>
      rw [Program.yields_pure_iff] at h
      obtain ⟨rfl, rfl⟩ := h
      exact Or.inl ⟨_, reason, rfl, rfl⟩
    | none => exact Or.inr ⟨_, tail, h, rfl⟩
  · rename_i hk
    rw [Program.yields_observe_bind_iff] at h
    obtain ⟨tail, rfl, h⟩ := h
    rw [Program.yields_trace_bind_iff] at h
    obtain ⟨tail, rfl, h⟩ := h
    rw [Program.yields_pure_iff] at h
    obtain ⟨rfl, rfl⟩ := h
    exact Or.inl ⟨Bool.eq_false_iff.mpr hk, rfl, _, rfl⟩

/-! ## 2. The rules -/

variable (l : Layer) (inner : Transport)

/-- The attempt of this index has been made: the context was not over, the request was sent, `o` came
back, and `kept` is what is left of the request. -/
inductive Answered (attempt : Nat) (request : Request) : Request → Outcome → List Asked → Prop
  | intro {outgoing kept : Request} {exchange : List Asked} {o : Outcome}
      (hsend : request.forAttempt? attempt = some (outgoing, kept))
      (hex : (inner outgoing).Yields exchange o) :
      Answered attempt request kept o (⟨.context, none⟩ :: exchange)

/-- **The loop, rule by rule.**  `Loop left attempt request log result`: from the attempt of this
index, with `left` more after it, the loop asks what `log` holds and ends with `result`. -/
inductive Loop : Nat → Nat → Request → List Asked → Outcome → Prop
  /-- The context is over before the attempt. -/
  | ended {left attempt : Nat} {request : Request} (reason : ContextEnd) :
      Loop left attempt request [⟨.context, some reason⟩] (.error (.ofContext reason))
  /-- The body is needed again and cannot be had. -/
  | unsendable {left attempt : Nat} {request : Request} (h : request.forAttempt? attempt = none) :
      Loop left attempt request [⟨.context, none⟩] (.error .bodyNotRetriable)
  /-- A response below the failing statuses. -/
  | succeeded {left attempt : Nat} {request kept : Request} {o : Outcome} {made tell : List Asked}
      {r : Response} {line : TraceLine}
      (h : Answered inner attempt request kept o made) (ho : l.judge o = .success r)
      (ht : l.tellSuccess.Yields tell ()) :
      Loop left attempt request
        (made ++ (tell ++ [.line line, l.ended kept attempt (.success r.status.code) none])) (.ok r)
  /-- An error of the caller. -/
  | aborted {left attempt : Nat} {request kept : Request} {o : Outcome} {made : List Asked}
      {e : HttpError} {line : TraceLine}
      (h : Answered inner attempt request kept o made) (ho : l.judge o = .aborted e) :
      Loop left attempt request (made ++ [.line line]) (.error e)
  /-- A failure with no attempt left. -/
  | exhausted {attempt : Nat} {request kept : Request} {o : Outcome} {made tell : List Asked}
      {f : LastFailure} {line : TraceLine}
      (h : Answered inner attempt request kept o made) (ho : l.judge o = .failure f)
      (ht : l.tellFailure.Yields tell ()) :
      Loop 0 attempt request
        (made ++ (tell ++ [l.ended kept attempt f.outcome none, .line line])) (l.lastWord attempt f)
  /-- A failure, and the body cannot be had again. -/
  | notReplayable {left attempt : Nat} {request kept : Request} {o : Outcome}
      {made tell : List Asked} {f : LastFailure} {line : TraceLine}
      (h : Answered inner attempt request kept o made) (ho : l.judge o = .failure f)
      (ht : l.tellFailure.Yields tell ()) (hk : kept.isReplayable = false) :
      Loop (left + 1) attempt request
        (made ++ (tell ++ [l.ended kept attempt f.outcome none, .line line]))
        (.error .bodyNotRetriable)
  /-- A failure, and the context ends during the delay. -/
  | interrupted {left attempt : Nat} {request kept : Request} {o : Outcome}
      {made tell draw : List Asked} {f : LastFailure} {delay : Duration} {line : TraceLine}
      (reason : ContextEnd)
      (h : Answered inner attempt request kept o made) (ho : l.judge o = .failure f)
      (ht : l.tellFailure.Yields tell ()) (hk : kept.isReplayable = true)
      (hd : (l.strategy.nextBackoff l.index attempt).Yields draw delay) :
      Loop (left + 1) attempt request
        (made ++ (tell ++ (draw ++ [l.ended kept attempt f.outcome (some delay), .line line,
          ⟨.pause delay, some reason⟩])))
        (.error (.ofContext reason))
  /-- A failure, and the next attempt after the delay. -/
  | retried {left attempt : Nat} {request kept : Request} {o : Outcome}
      {made tell draw rest : List Asked} {f : LastFailure} {delay : Duration} {line : TraceLine}
      {result : Outcome}
      (h : Answered inner attempt request kept o made) (ho : l.judge o = .failure f)
      (ht : l.tellFailure.Yields tell ()) (hk : kept.isReplayable = true)
      (hd : (l.strategy.nextBackoff l.index attempt).Yields draw delay)
      (next : Loop left (attempt + 1) kept rest result) :
      Loop (left + 1) attempt request
        (made ++ (tell ++ (draw ++ (l.ended kept attempt f.outcome (some delay) :: .line line ::
          ⟨.pause delay, none⟩ :: rest)))) result

variable {l inner} {left attempt : Nat} {request kept : Request} {log made : List Asked}
  {o result : Outcome}

/-! ## 3. The loop follows the rules -/

/-- **Every run of the loop follows the rules.** -/
theorem attempts_loop (h : (l.attempts inner left attempt request).Yields log result) :
    l.Loop inner left attempt request log result := by
  induction left using Nat.strongRecOn generalizing attempt request log result with
  | ind left ih =>
    rw [attempts.eq_def] at h
    rw [Program.yields_query_bind_iff] at h
    obtain ⟨end?, rest, rfl, h⟩ := h
    cases end? with
    | some reason =>
      rw [Program.yields_pure_iff] at h
      obtain ⟨rfl, rfl⟩ := h
      exact .ended reason
    | none =>
      cases hsend : request.forAttempt? attempt with
      | none =>
        simp only [hsend] at h
        rw [Program.yields_pure_iff] at h
        obtain ⟨rfl, rfl⟩ := h
        exact .unsendable hsend
      | some sent =>
        obtain ⟨outgoing, kept⟩ := sent
        simp only [hsend] at h
        rw [Program.yields_bind_iff] at h
        obtain ⟨exchange, o, rest, rfl, hex, h⟩ := h
        have hmade : Answered inner attempt request kept o (⟨.context, none⟩ :: exchange) :=
          .intro hsend hex
        rw [← List.cons_append]
        cases ho : l.judge o with
        | success r =>
          simp only [ho] at h
          obtain ⟨tell, line, ht, rfl, rfl⟩ := succeed_yields h
          exact .succeeded hmade ho ht
        | aborted e =>
          simp only [ho] at h
          rw [Program.yields_trace_bind_iff] at h
          obtain ⟨tail, rfl, h⟩ := h
          rw [Program.yields_pure_iff] at h
          obtain ⟨rfl, rfl⟩ := h
          exact .aborted hmade ho
        | failure f =>
          simp only [ho] at h
          rw [Program.yields_ite_iff] at h
          obtain ⟨tell, tail, rfl, ht, h⟩ := h
          cases left with
          | zero =>
            rw [Program.yields_observe_bind_iff] at h
            obtain ⟨tail, rfl, h⟩ := h
            obtain ⟨line, rfl, rfl⟩ := giveUp_yields h
            exact .exhausted hmade ho ht
          | succ left =>
            rcases backOff_yields h with
              ⟨hk, rfl, line, rfl⟩ |
              ⟨hk, draw, delay, hd, ⟨line, reason, rfl, rfl⟩ | ⟨line, rest, hnext, rfl⟩⟩
            · exact .notReplayable hmade ho ht hk
            · exact .interrupted reason hmade ho ht hk hd
            · exact .retried hmade ho ht hk hd (ih left (Nat.lt_succ_self left) hnext)

/-- The loop looks at the context at least. -/
theorem Loop.ne_nil (h : l.Loop inner left attempt request log result) : log ≠ [] := by
  cases h with
  | ended reason => simp
  | unsendable h => simp
  | succeeded h | aborted h | exhausted h | notReplayable h | interrupted _ h | retried h =>
    obtain ⟨hsend, hex⟩ := h
    simp

/-! ## 4. Admission, and a whole request -/

variable (l inner)

/-- The section of a call of the breaker, with what it learned. -/
def learned (part : Section) (answer : part.Answer) : Asked := ⟨.breaker l.index part, answer⟩

/-- **Admission, rule by rule.**  `Admission log refusal`: the breaker is asked as in `log`, and turns
the request away with `refusal`, if at all. -/
inductive Admission : List Asked → Option HttpError → Prop
  /-- The breaker is not asked. -/
  | unasked (h : l.policy.breakerEnabled = false) : Admission [] none
  /-- The circuit is not seen open. -/
  | passed (h : l.policy.breakerEnabled = true) : Admission [l.learned .look false] none
  /-- The circuit was seen open, but is not open any more. -/
  | late (h : l.policy.breakerEnabled = true) :
      Admission [l.learned .look true, l.learned .decide .admitted] none
  /-- The circuit has cooled down, and the request is its probe. -/
  | probe {line : TraceLine} (h : l.policy.breakerEnabled = true) :
      Admission [l.learned .look true, l.learned .decide .probing, .line line,
        .notice l.index (.transition ⟨.opened, .halfOpen⟩)] none
  /-- The circuit is open. -/
  | rejected {line line' : TraceLine} (wait : Option Duration)
      (h : l.policy.breakerEnabled = true) :
      Admission [l.learned .look true, l.learned .decide .rejected, .line line,
        .notice l.index (.rejection .opened), l.learned .remaining wait, .line line']
        (some (.circuitOpen wait))

/-- **A request, rule by rule.** -/
inductive Sent (request : Request) : List Asked → Outcome → Prop
  /-- The context is over from the beginning. -/
  | ended {line : TraceLine} (reason : ContextEnd) :
      Sent request [.line line, ⟨.context, some reason⟩] (.error (.ofContext reason))
  /-- The breaker turns the request away. -/
  | refused {line : TraceLine} {asked : List Asked} {e : HttpError}
      (h : l.Admission asked (some e)) :
      Sent request (.line line :: ⟨.context, none⟩ :: asked) (.error e)
  /-- The loop is entered. -/
  | entered {line : TraceLine} {asked log : List Asked} {result : Outcome}
      (h : l.Admission asked none) (hl : l.Loop inner (l.budget - 1) 0 request log result) :
      Sent request (.line line :: ⟨.context, none⟩ :: (asked ++ log)) result

variable {l inner}

/-- Every run of the admission follows the rules. -/
theorem admission_admission {refusal : Option HttpError} (h : l.admission.Yields log refusal) :
    l.Admission log refusal := by
  unfold admission at h
  split at h
  · rename_i hb
    rw [Program.yields_bind_iff] at h
    obtain ⟨asked, allowed, rest, rfl, ha, h⟩ := h
    cases Breaker.answers_of_yields ha with
    | passed =>
      obtain ⟨rfl, rfl⟩ := Program.yields_pure_iff.mp h
      exact .passed hb
    | admitted =>
      obtain ⟨rfl, rfl⟩ := Program.yields_pure_iff.mp h
      exact .late hb
    | probing line =>
      obtain ⟨rfl, rfl⟩ := Program.yields_pure_iff.mp h
      exact .probe hb
    | rejected line =>
      simp only [Bool.false_eq_true, if_false] at h
      rw [Breaker.remaining, Breaker.enter, Program.yields_query_bind_iff] at h
      obtain ⟨wait, rest, rfl, h⟩ := h
      rw [Program.yields_trace_bind_iff] at h
      obtain ⟨rest, rfl, h⟩ := h
      obtain ⟨rfl, rfl⟩ := Program.yields_pure_iff.mp h
      exact .rejected wait hb
  · rename_i hb
    obtain ⟨rfl, rfl⟩ := Program.yields_pure_iff.mp h
    exact .unasked (Bool.eq_false_iff.mpr hb)

/-- **Every run of a request follows the rules.** -/
theorem send_sent (h : (l.send inner request).Yields log result) :
    l.Sent inner request log result := by
  unfold send at h
  rw [Program.yields_trace_bind_iff] at h
  obtain ⟨rest, rfl, h⟩ := h
  rw [Program.yields_query_bind_iff] at h
  obtain ⟨end?, rest, rfl, h⟩ := h
  cases end? with
  | some reason =>
    obtain ⟨rfl, rfl⟩ := Program.yields_pure_iff.mp h
    exact .ended reason
  | none =>
    simp only at h
    rw [Program.yields_bind_iff] at h
    obtain ⟨asked, refusal, rest, rfl, ha, h⟩ := h
    cases refusal with
    | some e =>
      obtain ⟨rfl, rfl⟩ := Program.yields_pure_iff.mp h
      rw [List.append_nil]
      exact .refused (admission_admission ha)
    | none => exact .entered (admission_admission ha) (attempts_loop h)

end Layer

end Resilience
