/-
# What follows an exchange

The log of a request falls into what was asked before the first exchange and, for each exchange, what
was asked after it up to the next one.  This file says what a layer with a breaker asks after an
exchange: it depends on the outcome of that exchange, and on nothing that came before.

* `opening`, `answers`: the parts of a log; `opening_append_answers` puts them together again.
* `Report`, `Layer.due`: what the breaker has to be told about an outcome, read off the outcome.
* `Layer.Course`: **what follows an exchange.**  After an error of the caller there is a line in the
  trace; after any other outcome one report to the breaker, then one record to the observer.
* `Layer.Sent.course`: every exchange of a request that is over takes this course.
* `Layer.only_send`: a layer asks its own breaker, its own observer and its own randomness, and resets
  nothing.
-/
import Resilience.Proofs.Pipeline.Outcome

namespace Resilience

/-! ## 1. The parts of a log -/

/-- An exchange, with all that was asked after it. -/
structure Answer where
  request : Request
  outcome : Outcome
  /-- What was asked up to the next exchange. -/
  after : List Asked

/-- What was asked before the first exchange. -/
def opening (log : List Asked) : List Asked := log.takeWhile fun x => x.outcome?.isNone

/-- The exchanges of a log. -/
def answers : List Asked → List Answer
  | [] => []
  | ⟨.exchange request, o⟩ :: log => ⟨request, o, opening log⟩ :: answers log
  | _ :: log => answers log

section Parts

variable {x : Asked} {log more front : List Asked} {a : Answer} {k : Nat}

@[simp] theorem opening_cons_exchange (request : Request) (o : Outcome) :
    opening (⟨.exchange request, o⟩ :: log) = [] := rfl

@[simp] theorem answers_cons_exchange (request : Request) (o : Outcome) :
    answers (⟨.exchange request, o⟩ :: log) = ⟨request, o, opening log⟩ :: answers log := rfl

theorem opening_cons (h : x.outcome? = none) : opening (x :: log) = x :: opening log := by
  rw [opening, List.takeWhile_cons, h]
  rfl

theorem answers_cons (h : x.outcome? = none) : answers (x :: log) = answers log := by
  obtain ⟨q, answer⟩ := x
  cases q with
  | exchange request => cases h
  | _ => rfl

/-- What makes no exchange belongs to the opening. -/
theorem opening_append (h : outcomes front = []) : opening (front ++ log) = front ++ opening log := by
  induction front with
  | nil => rfl
  | cons x front ih =>
    obtain ⟨hx, hf⟩ : x.outcome? = none ∧ outcomes front = [] := by simpa [outcomes] using h
    rw [List.cons_append, opening_cons hx, ih hf, List.cons_append]

theorem answers_append (h : outcomes front = []) : answers (front ++ log) = answers log := by
  induction front with
  | nil => rfl
  | cons x front ih =>
    obtain ⟨hx, hf⟩ : x.outcome? = none ∧ outcomes front = [] := by simpa [outcomes] using h
    rw [List.cons_append, answers_cons hx, ih hf]

/-- **A log is its opening and its exchanges, each with what follows it.** -/
theorem opening_append_answers (log : List Asked) :
    opening log ++ (answers log).flatMap (fun a => ⟨.exchange a.request, a.outcome⟩ :: a.after) =
      log := by
  induction log with
  | nil => rfl
  | cons x log ih =>
    cases hx : x.outcome? with
    | none => rw [opening_cons hx, answers_cons hx, List.cons_append, ih]
    | some o =>
      obtain ⟨q, answer⟩ := x
      cases q with
      | exchange request =>
        rw [opening_cons_exchange, answers_cons_exchange, List.flatMap_cons, List.nil_append,
          List.cons_append, ih]
      | _ => cases hx

/-- The outcomes of a log are those of its exchanges. -/
theorem map_outcome_answers (log : List Asked) : (answers log).map Answer.outcome = outcomes log := by
  induction log with
  | nil => rfl
  | cons x log ih =>
    obtain ⟨q, answer⟩ := x
    cases q with
    | exchange request => rw [answers_cons_exchange, List.map_cons, ih, outcomes_cons_exchange]
    | _ => exact ih

theorem answers_eq_nil (h : outcomes log = []) : answers log = [] :=
  List.map_eq_nil_iff.mp ((map_outcome_answers log).trans h)

/-- What is read off all questions but the exchanges is read off the parts. -/
theorem filterMap_eq_parts {β : Type} {f : Asked → Option β}
    (hf : ∀ request o, f ⟨.exchange request, o⟩ = none) (log : List Asked) :
    log.filterMap f =
      (opening log).filterMap f ++ (answers log).flatMap fun a => a.after.filterMap f := by
  have h := congrArg (List.filterMap f) (opening_append_answers log)
  simp only [List.filterMap_append, List.filterMap_flatMap, List.filterMap_cons, hf] at h
  exact h.symm

theorem opening_isPrefix (log more : List Asked) : opening log <+: opening (log ++ more) := by
  induction log with
  | nil => exact List.nil_prefix
  | cons x log ih =>
    cases hx : x.outcome? with
    | none =>
      rw [List.cons_append, opening_cons hx, opening_cons hx]
      exact List.cons_prefix_cons.mpr ⟨rfl, ih⟩
    | some o =>
      rw [opening, List.takeWhile_cons, hx]
      exact List.nil_prefix

/-- **A beginning of a log has the same exchanges so far**, with a beginning of what follows them. -/
theorem getElem?_answers_append (more : List Asked) (h : (answers log)[k]? = some a) :
    ∃ after, (answers (log ++ more))[k]? = some { a with after } ∧ a.after <+: after := by
  induction log generalizing k with
  | nil => simp [answers] at h
  | cons x log ih =>
    rw [List.cons_append]
    cases hx : x.outcome? with
    | none =>
      rw [answers_cons hx] at h ⊢
      exact ih h
    | some o =>
      obtain ⟨q, answer⟩ := x
      cases q with
      | exchange request =>
        rw [answers_cons_exchange] at h ⊢
        cases k with
        | zero =>
          cases h
          exact ⟨_, rfl, opening_isPrefix log more⟩
        | succ k => exact ih h
      | _ => cases hx

end Parts

/-! ## 2. Reports -/

/-- What the breaker is told about an exchange. -/
inductive Report where
  | success
  | failure
deriving DecidableEq

/-- The section in which the breaker is told. -/
def Report.part : Report → Section
  | .success => .success
  | .failure => .failure

/-- The report that the breaker of the layer was given, if it was. -/
def Asked.report? (layer : Nat) : Asked → Option Report
  | ⟨.breaker i .success, _⟩ => if i = layer then some .success else none
  | ⟨.breaker i .failure, _⟩ => if i = layer then some .failure else none
  | _ => none

/-- The reports that the breaker of the layer was given, in order. -/
def reports (layer : Nat) (log : List Asked) : List Report := log.filterMap (Asked.report? layer)

theorem reports_append {layer : Nat} (log more : List Asked) :
    reports layer (log ++ more) = reports layer log ++ reports layer more := List.filterMap_append

/-- The question is no exchange, not for a breaker, and no record of an attempt. -/
def Query.IsIdle : Query → Prop
  | .exchange _ => False
  | .breaker .. => False
  | .observe _ (.attempt _) => False
  | _ => True

/-- Nothing in the log is an exchange, for a breaker, or a record of an attempt. -/
def Idle (log : List Asked) : Prop := ∀ x ∈ log, x.query.IsIdle

section Idle

variable {log front : List Asked} {x : Asked} {layer : Nat}

theorem Query.IsIdle.isQuiet {q : Query} (h : q.IsIdle) : q.IsQuiet := by
  cases q with
  | exchange request => exact h.elim
  | breaker i part => exact h.elim
  | observe i notice =>
    cases notice with
    | attempt r => exact h.elim
    | _ => trivial
  | _ => trivial

theorem Query.Announces.isIdle {q : Query} (h : q.Announces layer) : q.IsIdle := by
  cases q with
  | observe i notice =>
    cases notice with
    | transition t => trivial
    | _ => exact h.elim
  | trace line => trivial
  | _ => exact h.elim

theorem Asked.report?_eq_none (h : x.query.IsIdle) : x.report? layer = none := by
  obtain ⟨q, answer⟩ := x
  cases q with
  | breaker i part => exact h.elim
  | _ => rfl

theorem Idle.append (hf : Idle front) (h : Idle log) : Idle (front ++ log) :=
  fun x hx => (List.mem_append.mp hx).elim (hf x) (h x)

theorem Idle.outcomes_eq_nil (h : Idle log) : outcomes log = [] :=
  List.filterMap_eq_nil_iff.mpr fun x hx => Asked.outcome?_eq_none (h x hx).isQuiet

theorem Idle.records_eq_nil (h : Idle log) : records log = [] :=
  List.filterMap_eq_nil_iff.mpr fun x hx => Asked.record?_eq_none (h x hx).isQuiet

theorem Idle.reports_eq_nil (h : Idle log) : reports layer log = [] :=
  List.filterMap_eq_nil_iff.mpr fun x hx => Asked.report?_eq_none (h x hx)

end Idle

namespace Layer

variable (l : Layer)

/-- What the breaker has to be told about an outcome: nothing about an error of the caller, a success
about a response below the failing statuses, a failure about everything else. -/
def due : Outcome → Option Report
  | .ok r => if r.status.code < l.policy.serverErrorThreshold.toNat then some .success
    else some .failure
  | .error e => if e.isDependencyFailure then some .failure else none

/-- What the record of an attempt says about an outcome. -/
def told : Outcome → AttemptOutcome
  | .ok r => if r.status.code < l.policy.serverErrorThreshold.toNat then .success r.status.code
    else .serverError r.status.code
  | .error e => .transportError e.message

/-! ## 3. What follows an exchange -/

/-- **What follows the exchange of the attempt `k`**: a line in the trace, if the caller is at fault;
otherwise the breaker is told what it has to be told, and then the observer gets a record. -/
inductive Course (request : Request) (k : Nat) (o : Outcome) : List Asked → Prop
  | fault {line : TraceLine} (ho : l.due o = none) : Course request k o [.line line]
  | counted {report : Report} {answer : report.part.Answer} {past future : List Asked}
      {backoff : Option Duration} (ho : l.due o = some report) (hpast : Idle past)
      (hfuture : Idle future) :
      Course request k o (l.learned report.part answer ::
        (past ++ l.ended request k (l.told o) backoff :: future))

variable {l} {left attempt k : Nat} {request kept : Request} {log made tell : List Asked}
  {o result : Outcome}

/-- What the layer makes of an outcome is what the outcome says. -/
theorem due_eq_of_success {r : Response} (h : l.judge o = .success r) :
    l.due o = some .success ∧ l.told o = .success r.status.code := by
  unfold judge at h
  split at h <;> split at h <;> cases h
  rename_i hr
  exact ⟨if_pos hr, if_pos hr⟩

theorem due_eq_of_aborted {e : HttpError} (h : l.judge o = .aborted e) : l.due o = none := by
  unfold judge at h
  split at h <;> split at h <;> cases h
  rename_i he
  exact if_neg he

theorem due_eq_of_failure {f : LastFailure} (h : l.judge o = .failure f) :
    l.due o = some .failure ∧ l.told o = f.outcome := by
  unfold judge at h
  split at h <;> split at h <;> cases h
  · rename_i hr
    exact ⟨if_neg hr, if_neg hr⟩
  · rename_i he
    exact ⟨if_pos he, rfl⟩

/-- Telling of a success is one section, followed by what only announces it ... -/
theorem tellSuccess_yields (hb : l.policy.breakerEnabled = true)
    (h : l.tellSuccess.Yields tell ()) :
    ∃ answer past, tell = l.learned .success answer :: past ∧ Idle past := by
  obtain ⟨announce, heq, honly⟩ := Breaker.exists_onSuccess_eq l.index l.breaker
  rw [tellSuccess, heq, Program.when, if_pos hb, Breaker.enter, Program.yields_query_bind_iff] at h
  obtain ⟨answer, past, rfl, h⟩ := h
  exact ⟨answer, past, rfl, fun x hx => ((honly answer).of_mem h x hx).isIdle⟩

/-- ... and so is telling of a failure. -/
theorem tellFailure_yields (hb : l.policy.breakerEnabled = true)
    (h : l.tellFailure.Yields tell ()) :
    ∃ answer past, tell = l.learned .failure answer :: past ∧ Idle past := by
  obtain ⟨announce, heq, honly⟩ := Breaker.exists_onFailure_eq l.index
  rw [tellFailure, heq, Program.when, if_pos hb, Breaker.enter, Program.yields_query_bind_iff] at h
  obtain ⟨answer, past, rfl, h⟩ := h
  exact ⟨answer, past, rfl, fun x hx => ((honly answer).of_mem h x hx).isIdle⟩

theorem idle_nextBackoff {s : Strategy} {delay : Duration} {draw : List Asked}
    (h : (s.nextBackoff l.index attempt).Yields draw delay) : Idle draw := by
  have only : (s.nextBackoff l.index attempt).Only Query.IsIdle :=
    Strategy.only_nextBackoff trivial fun _ => trivial
  exact only.of_mem h

/-- An attempt is a look at the context and an exchange. -/
theorem Answered.eq (h : Answered .exchange attempt request kept o made) :
    ∃ outgoing, request.forAttempt? attempt = some (outgoing, kept) ∧
      made = [⟨.context, none⟩, ⟨.exchange outgoing, o⟩] := by
  obtain ⟨hsend, hex⟩ := h
  rw [Program.yields_query_iff.mp hex]
  exact ⟨_, hsend, rfl⟩

/-- An attempt is a look at the context and an exchange, and what is asked after it comes after the
exchange. -/
theorem Answered.parts {front : List Asked} (h : Answered .exchange attempt request kept o made)
    (hf : outcomes front = []) (rest : List Asked) :
    opening (made ++ (front ++ rest)) = [⟨.context, none⟩] ∧
      ∃ outgoing, answers (made ++ (front ++ rest)) =
        ⟨outgoing, o, front ++ opening rest⟩ :: answers rest := by
  obtain ⟨outgoing, -, rfl⟩ := h.eq
  have hanswers : answers (front ++ rest) = answers rest := answers_append hf
  refine ⟨rfl, outgoing, ?_⟩
  rw [← opening_append hf, ← hanswers]
  rfl

/-- What is left of a request is told under the same names. -/
theorem Answered.ended_eq {inner : Transport} (h : Answered inner attempt request kept o made)
    (outcome : AttemptOutcome) (backoff : Option Duration) :
    l.ended kept k outcome backoff = l.ended request k outcome backoff := by
  obtain ⟨hsend, -⟩ := h
  obtain ⟨-, hhead⟩ := Request.sameHead_of_forAttempt? hsend
  simp only [ended, record, hhead.method, hhead.url]

variable (l) in
/-- Every exchange of the log takes its course, the first one being that of the attempt of this index;
and nothing but that is asked. -/
structure Courses (request : Request) (attempt : Nat) (log : List Asked) : Prop where
  idle : Idle (opening log)
  course : ∀ k a, (answers log)[k]? = some a → l.Course request (attempt + k) a.outcome a.after

theorem idle_singleton {x : Asked} (h : x.query.IsIdle) : Idle [x] := by
  intro y hy
  rwa [List.mem_singleton.mp hy]

/-- Without an exchange there is nothing to follow. -/
theorem Courses.of_idle (h : Idle log) : l.Courses request attempt log := by
  have hparts : opening (log ++ []) = log ++ opening [] := opening_append h.outcomes_eq_nil
  have hnone : answers (log ++ []) = answers [] := answers_append h.outcomes_eq_nil
  rw [List.append_nil] at hparts hnone
  refine ⟨?_, ?_⟩
  · rw [hparts]
    exact h.append fun x hx => nomatch hx
  · intro k a ha
    rw [hnone] at ha
    simp [answers] at ha

/-- A course does not tell apart a request and what is left of it. -/
theorem Course.of_kept {after : List Asked} {o' : Outcome} (hc : l.Course kept k o' after)
    (h : Answered .exchange attempt request kept o made) : l.Course request k o' after := by
  cases hc with
  | fault ho => exact .fault ho
  | counted ho hpast hfuture =>
    rw [h.ended_eq]
    exact .counted ho hpast hfuture

/-- **An attempt, what was asked after it, and the rest.** -/
theorem Answered.courses {front : List Asked} (h : Answered .exchange attempt request kept o made)
    (hf : outcomes front = []) (hcourse : l.Course request attempt o (front ++ opening log))
    (hnext : l.Courses kept (attempt + 1) log) :
    l.Courses request attempt (made ++ (front ++ log)) := by
  obtain ⟨hopening, outgoing, hanswers⟩ := h.parts hf log
  refine ⟨hopening ▸ idle_singleton trivial, ?_⟩
  intro k a ha
  rw [hanswers] at ha
  cases k with
  | zero =>
    cases ha
    exact hcourse
  | succ k =>
    have := (hnext.course k a ha).of_kept h
    rwa [Nat.add_assoc, Nat.add_comm 1 k] at this

/-- **An attempt whose outcome counts**: the breaker was told, and the observer got its record. -/
theorem Answered.courses_counted {report : Report} {answer : report.part.Answer}
    {past draw future : List Asked} {outcome : AttemptOutcome} {backoff : Option Duration}
    (h : Answered .exchange attempt request kept o made)
    (ho : l.due o = some report ∧ l.told o = outcome) (hpast : Idle past) (hdraw : Idle draw)
    (hfuture : Idle future) (hnext : l.Courses kept (attempt + 1) log) :
    l.Courses request attempt
      (made ++ (l.learned report.part answer ::
        (past ++ (draw ++ l.ended kept attempt outcome backoff :: (future ++ log))))) := by
  have hfront : l.learned report.part answer ::
        (past ++ (draw ++ l.ended kept attempt outcome backoff :: (future ++ log))) =
      (l.learned report.part answer ::
        (past ++ draw ++ l.ended kept attempt outcome backoff :: future)) ++ log := by
    simp only [List.cons_append, List.append_assoc]
  rw [hfront]
  refine h.courses ?_ ?_ hnext
  · have hreport : (l.learned report.part answer).outcome? = none := rfl
    rw [outcomes, List.filterMap_cons, hreport]
    change outcomes _ = []
    rw [Resilience.outcomes_append, (hpast.append hdraw).outcomes_eq_nil, outcomes_cons_ended,
      hfuture.outcomes_eq_nil]
    rfl
  · simp only [List.cons_append, List.append_assoc]
    rw [h.ended_eq, ← ho.2, ← List.append_assoc]
    exact .counted ho.1 (hpast.append hdraw) (hfuture.append hnext.idle)

/-- **Every exchange of a loop takes its course.**  The induction is over the rules of the loop; what is
asked after an exchange runs into the look at the context before the next one. -/
theorem Loop.courses (hb : l.policy.breakerEnabled = true)
    (h : l.Loop .exchange left attempt request log result) : l.Courses request attempt log := by
  have idleNil : Idle [] := fun x hx => nomatch hx
  have nil : ∀ {request attempt}, l.Courses request attempt [] := .of_idle idleNil
  have line : ∀ line, Idle [.line line] := fun _ => idle_singleton trivial
  have pause : ∀ line delay answer, Idle [.line line, ⟨.pause delay, answer⟩] :=
    fun _ _ _ => (line _).append (idle_singleton trivial)
  induction h with
  | ended reason => exact .of_idle (idle_singleton trivial)
  | unsendable h => exact .of_idle (idle_singleton trivial)
  | succeeded h ho ht =>
    obtain ⟨answer, past, rfl, hpast⟩ := tellSuccess_yields hb ht
    exact h.courses_counted (due_eq_of_success ho) hpast (line _) idleNil nil
  | @aborted left attempt request kept o made e line h ho =>
    have hcourse : l.Course request attempt o ([.line line] ++ opening []) :=
      .fault (due_eq_of_aborted ho)
    exact h.courses rfl hcourse nil
  | exhausted h ho ht =>
    obtain ⟨answer, past, rfl, hpast⟩ := tellFailure_yields hb ht
    exact h.courses_counted (due_eq_of_failure ho) hpast idleNil (line _) nil
  | notReplayable h ho ht hk =>
    obtain ⟨answer, past, rfl, hpast⟩ := tellFailure_yields hb ht
    exact h.courses_counted (due_eq_of_failure ho) hpast idleNil (line _) nil
  | interrupted reason h ho ht hk hd =>
    obtain ⟨answer, past, rfl, hpast⟩ := tellFailure_yields hb ht
    exact h.courses_counted (due_eq_of_failure ho) hpast (idle_nextBackoff hd) (pause _ _ _) nil
  | retried h ho ht hk hd next ih =>
    obtain ⟨answer, past, rfl, hpast⟩ := tellFailure_yields hb ht
    exact h.courses_counted (due_eq_of_failure ho) hpast (idle_nextBackoff hd) (pause _ _ _) ih

/-- Admission is no report. -/
theorem Admission.reports_eq {refusal : Option HttpError} (h : l.Admission log refusal) :
    reports l.index log = [] := by
  cases h <;> rfl

/-- **Every exchange of a request that is over takes its course**, and before the first one nothing is
reported or recorded. -/
theorem Sent.course (hb : l.policy.breakerEnabled = true) (h : l.Sent .exchange request log result) :
    reports l.index (opening log) = [] ∧ records (opening log) = [] ∧
      ∀ k a, (answers log)[k]? = some a → l.Course request k a.outcome a.after := by
  -- what comes before the loop makes no exchange
  have before : ∀ {line asked refusal}, l.Admission asked refusal → ∀ log,
      opening (.line line :: ⟨.context, none⟩ :: (asked ++ log)) =
          .line line :: ⟨.context, none⟩ :: (asked ++ opening log) ∧
        answers (.line line :: ⟨.context, none⟩ :: (asked ++ log)) = answers log := by
    intro line asked refusal hadm log
    exact ⟨congrArg (fun log => Asked.line line :: ⟨.context, none⟩ :: log)
      (opening_append hadm.quiet.1), answers_append hadm.quiet.1⟩
  cases h with
  | ended reason => exact ⟨rfl, rfl, fun k a ha => by simp [answers, Asked.line] at ha⟩
  | @refused line asked e h =>
    obtain ⟨hopening, hanswers⟩ := before h []
    rw [List.append_nil] at hopening hanswers
    rw [hopening, hanswers]
    refine ⟨?_, ?_, fun k a ha => by simp [answers] at ha⟩
    · exact (reports_append asked []).trans (by rw [h.reports_eq]; rfl)
    · exact (records_append asked []).trans (by rw [h.quiet.2]; rfl)
  | @entered line asked log result h hloop =>
    obtain ⟨hopening, hanswers⟩ := before h log
    have hcourses := hloop.courses hb
    rw [hopening, hanswers]
    refine ⟨?_, ?_, fun k a ha => ?_⟩
    · exact (reports_append asked _).trans (by rw [h.reports_eq, hcourses.idle.reports_eq_nil]; rfl)
    · exact (records_append asked _).trans (by rw [h.quiet.2, hcourses.idle.records_eq_nil]; rfl)
    · have := hcourses.course k a ha
      rwa [Nat.zero_add] at this

/-! ## 4. What a course holds -/

section Held

variable {front after : List Asked}

/-- After an exchange the breaker is told what it has to be told. -/
theorem Course.reports_eq (h : l.Course request k o after) :
    reports l.index after = (l.due o).toList := by
  cases h with
  | fault ho =>
    rw [ho]
    rfl
  | @counted report answer past future backoff ho hpast hfuture =>
    have hreport : (l.learned report.part answer).report? l.index = some report := by
      cases report <;> exact if_pos rfl
    have hended : ∀ rest, reports l.index (l.ended request k (l.told o) backoff :: rest) =
        reports l.index rest := fun _ => rfl
    have happend : reports l.index (past ++ l.ended request k (l.told o) backoff :: future) =
        reports l.index past ++ reports l.index (l.ended request k (l.told o) backoff :: future) :=
      List.filterMap_append
    rw [reports, List.filterMap_cons_some hreport, ho]
    change report :: reports l.index _ = _
    rw [happend, hended, hpast.reports_eq_nil, hfuture.reports_eq_nil]
    rfl

/-- After an exchange that counts the observer gets one record, and it is about that exchange. -/
theorem Course.records_eq (h : l.Course request k o after) :
    (l.due o = none ∧ records after = []) ∨
      ((l.due o).isSome ∧ ∃ backoff, records after = [record request k (l.told o) backoff]) := by
  cases h with
  | fault ho => exact Or.inl ⟨ho, rfl⟩
  | @counted report answer past future backoff ho hpast hfuture =>
    refine Or.inr ⟨by rw [ho]; rfl, backoff, ?_⟩
    have hreport : (l.learned report.part answer).record? = none := rfl
    rw [records, List.filterMap_cons_none hreport]
    change records _ = _
    rw [Resilience.records_append, hpast.records_eq_nil, records_cons_ended,
      hfuture.records_eq_nil]
    rfl

/-- After an error of the caller there is nothing but a line in the trace. -/
theorem Course.lines (h : l.Course request k o after) (ho : l.due o = none) :
    ∀ x ∈ after, ∃ line, x = .line line := by
  cases h with
  | @fault line =>
    intro x hx
    exact ⟨line, List.mem_singleton.mp hx⟩
  | counted hreport =>
    rw [ho] at hreport
    cases hreport

/-- So far the breaker was told at most what it has to be told. -/
theorem Course.reports_of_prefix (h : l.Course request k o after) (hf : front <+: after) :
    reports l.index front <+: (l.due o).toList :=
  h.reports_eq ▸ hf.filterMap _

/-- The observer gets its record after the breaker was told. -/
theorem Course.length_records_le (h : l.Course request k o after) (hf : front <+: after) :
    (records front).length ≤ (reports l.index front).length := by
  have hle : (records front).length ≤ (records after).length := (hf.filterMap _).length_le
  rcases h.records_eq with ⟨-, hr⟩ | ⟨-, backoff, hr⟩
  · rw [hr] at hle
    exact Nat.le_trans hle (Nat.zero_le _)
  · cases h with
    | fault =>
      cases hr
    | @counted report answer past future backoff' ho hpast hfuture =>
      cases front with
      | nil => exact Nat.le_refl _
      | cons x front =>
        obtain ⟨rfl, -⟩ := List.cons_prefix_cons.mp hf
        have hreport : (l.learned report.part answer).report? l.index = some report := by
          cases report <;> exact if_pos rfl
        rw [reports, List.filterMap_cons_some hreport, List.length_cons]
        rw [hr] at hle
        exact Nat.le_trans hle (Nat.succ_le_succ (Nat.zero_le _))

end Held

/-! ## 5. What a layer asks -/

variable (l) in
/-- The question is one of the layer's own: about the context, for its breaker but no reset, for its
observer or its randomness, or for the trace. -/
def Asks : Query → Prop
  | .breaker i part => i = l.index ∧ part ≠ .reset
  | .observe i _ => i = l.index
  | .sample i => i = l.index
  | .exchange _ => False
  | _ => True

theorem Announces.asks {q : Query} (h : q.Announces l.index) : l.Asks q := by
  cases q with
  | observe i notice =>
    cases notice with
    | transition t => exact h
    | _ => exact h.elim
  | trace line => trivial
  | _ => exact h.elim

section Only

variable {P : Query → Prop} (hP : ∀ q, l.Asks q → P q)
include hP

/-- Admission asks questions of the layer. -/
theorem only_admission : l.admission.Only P := by
  have trace : ∀ line, (Program.trace line).Only P := fun line =>
    Program.only_trace.mpr (hP _ trivial)
  have notice : ∀ notice, (Program.observe l.index notice).Only P := fun notice =>
    Program.only_observe.mpr (hP _ rfl)
  have part : ∀ part, part ≠ .reset → (Breaker.enter l.index part).Only P := fun part hpart =>
    Program.only_query.mpr (hP _ ⟨rfl, hpart⟩)
  have allowed : (Breaker.isAllowed l.index).Only P := by
    refine (part .look nofun).bind fun seen => ?_
    refine Program.Only.ite ((part .decide nofun).bind fun answer => ?_) (Program.only_pure true)
    cases answer with
    | admitted => exact Program.only_pure true
    | rejected => exact (trace _).bind fun _ => (notice _).bind fun _ => Program.only_pure false
    | probing => exact (trace _).bind fun _ => (notice _).bind fun _ => Program.only_pure true
  refine Program.Only.ite (allowed.bind fun answer => ?_) (Program.only_pure none)
  refine Program.Only.ite (Program.only_pure none) ?_
  exact (part .remaining nofun).bind fun wait => (trace _).bind fun _ => Program.only_pure _

theorem only_succeed (attempt : Nat) (request : Request) (r : Response) :
    (l.succeed request attempt r).Only P := by
  have announces : ∀ q, q.Announces l.index → P q := fun q hq => hP q (Announces.asks hq)
  unfold succeed
  refine Program.Only.when_bind (Breaker.only_onSuccess (hP _ ⟨rfl, nofun⟩) announces) ?_
  refine (Program.only_trace.mpr (hP _ trivial)).bind fun _ => ?_
  exact (Program.only_observe.mpr (hP _ rfl)).bind fun _ => Program.only_pure _

theorem only_giveUp (attempt : Nat) (f : LastFailure) : (l.giveUp attempt f).Only P := by
  have last : ∀ line e, (Program.trace line >>= fun _ => pure (.error e) : Program Outcome).Only P :=
    fun _ _ => (Program.only_trace.mpr (hP _ trivial)).bind fun _ => Program.only_pure _
  cases f with
  | error e => exact Program.Only.ite (last _ _) (last _ _)
  | response r => exact last _ _

theorem only_backOff (attempt : Nat) (request : Request) (f : LastFailure)
    {next : Program Outcome} (hnext : next.Only P) : (l.backOff request attempt f next).Only P := by
  have trace : ∀ line, P (.trace line) := fun _ => hP _ trivial
  refine Program.Only.ite ?_ ?_
  · refine (Strategy.only_nextBackoff (hP _ rfl) trace).bind fun delay => ?_
    refine (Program.only_observe.mpr (hP _ rfl)).bind fun _ => ?_
    refine (Program.only_trace.mpr (trace _)).bind fun _ => ?_
    refine (Program.only_query.mpr (hP (.pause delay) trivial)).bind fun reason? => ?_
    cases reason? with
    | some reason => exact Program.only_pure _
    | none => exact hnext
  · refine (Program.only_observe.mpr (hP _ rfl)).bind fun _ => ?_
    exact (Program.only_trace.mpr (trace _)).bind fun _ => Program.only_pure _

/-- The loop asks questions of the layer, and what the transport inside asks. -/
theorem only_attempts {inner : Transport} (hinner : ∀ r, (inner r).Only P) (left attempt : Nat)
    (request : Request) : (l.attempts inner left attempt request).Only P := by
  induction left using Nat.strongRecOn generalizing attempt request with
  | ind left ih =>
    rw [attempts.eq_def]
    refine (Program.only_query.mpr (hP .context trivial)).bind fun reason? => ?_
    cases reason? with
    | some reason => exact Program.only_pure _
    | none =>
      cases request.forAttempt? attempt with
      | none => exact Program.only_pure _
      | some sent =>
        obtain ⟨outgoing, kept⟩ := sent
        refine (hinner outgoing).bind fun o => ?_
        cases l.judge o with
        | success r => exact only_succeed hP attempt kept r
        | aborted e =>
          exact (Program.only_trace.mpr (hP _ trivial)).bind fun _ => Program.only_pure _
        | failure f =>
          refine Program.Only.when_bind (Breaker.only_onFailure (hP _ ⟨rfl, by rintro ⟨⟩⟩)
            fun q hq => hP q (Announces.asks hq)) ?_
          cases left with
          | zero =>
            exact (Program.only_observe.mpr (hP _ rfl)).bind fun _ => only_giveUp hP attempt f
          | succ left => exact only_backOff hP attempt kept f (ih left (Nat.lt_succ_self left) _ _)

/-- **A layer asks its own questions, and those of the transport inside.** -/
theorem only_send {inner : Transport} (hinner : ∀ r, (inner r).Only P) (request : Request) :
    (l.send inner request).Only P := by
  refine (Program.only_trace.mpr (hP _ trivial)).bind fun _ => ?_
  refine (Program.only_query.mpr (hP .context trivial)).bind fun reason? => ?_
  cases reason? with
  | some reason => exact Program.only_pure _
  | none =>
    refine (only_admission hP).bind fun refusal => ?_
    cases refusal with
    | some e => exact Program.only_pure _
    | none => exact only_attempts hP hinner _ 0 request

end Only

/-- Over the innermost transport, a layer asks its own questions and for exchanges. -/
theorem only_send_exchange (l : Layer) (request : Request) :
    (l.send .exchange request).Only fun q => l.Asks q ∨ ∃ r, q = .exchange r :=
  only_send (fun _ hq => Or.inl hq) (fun r => Program.only_query.mpr (Or.inr ⟨r, rfl⟩)) request

end Layer

end Resilience
