/-
# Three ledgers

What becomes of requests is written down three times: the transport knows which exchanges it answered,
the breaker counts successes and failures, and the observer keeps a record of every attempt.  This file
says that the three agree, in every state that any number of requests can reach side by side, whatever
the exchanges come to, whenever contexts end, and however the requests come between each other.

* `Layer.requests`: the requests of a layer, side by side.
* `Recorded`: what a record says of the attempt that it is about.
* `Booked`: what the breaker and the observer were told about one answer so far.
* `Ledgers`: what the three ledgers have to do with each other in a state.
* `Interleaving.Linked.totals`: **the breaker's ledger.**  The totals and the date of the latest failure
  are those of the reports, whatever else the breaker was asked.
* `Layer.booked`: **the ledger of a request.**  A request under way has the log of a request that is
  over, cut off somewhere; so each of its answers has taken a part of its course.
* `ledgers_agree`: the whole.
-/
import Mathlib.Data.List.Basic
import Resilience.Proofs.Pipeline.Pace
import Resilience.Proofs.Program.Interleaving

namespace Resilience

open Interleaving

/-! ## 1. The breaker's ledger -/

namespace BreakerState

variable {config : BreakerConfig} {now : Instant} {s t : BreakerState} {call : BreakerCall}

/-- What a breaker remembers of reports for good. -/
def totals (s : BreakerState) : Count64 × Count64 × Option Instant :=
  (s.totalFailures, s.totalSuccesses, s.lastFailure)

theorem totals_onFailure (config : BreakerConfig) (now : Instant) (s : BreakerState) :
    (s.onFailure config now).totals = (s.totalFailures.tick, s.totalSuccesses, some now) := by
  have hr : s.Rule config now .onFailure (s.onFailure config now) := rule_onFailure
  generalize s.onFailure config now = t at hr
  cases hr <;> rfl

theorem totals_onSuccess (config : BreakerConfig) (s : BreakerState) :
    (s.onSuccess config).totals = (s.totalFailures, s.totalSuccesses.tick, s.lastFailure) := by
  have hr : s.Rule config .origin .onSuccess (s.onSuccess config) := rule_onSuccess
  generalize s.onSuccess config = t at hr
  cases hr <;> rfl

theorem totals_isAllowed (config : BreakerConfig) (now : Instant) (s : BreakerState) :
    (s.isAllowed config now).2.totals = s.totals := by
  have hr : s.Rule config now .isAllowed (s.isAllowed config now).2 := rule_isAllowed
  generalize (s.isAllowed config now).2 = t at hr
  cases hr <;> rfl

end BreakerState

namespace Interleaving

variable {ι α : Type} {I : Interleaving ι α} {s t : BreakerState} {trace : List Happening}
  {x : Happening}

/-- The report to the breaker of the layer that was made, if one was. -/
def Happening.report? (layer : Nat) (h : Happening) : Option Report := h.asked.report? layer

/-- When the breaker of the layer was told of failures, in order. -/
def failureDates (layer : Nat) (trace : List Happening) : List Instant :=
  trace.filterMap fun h => if h.report? layer = some .failure then some h.now else none

/-- **What a question makes of the totals** depends on whether it is a report, if it is no reset. -/
theorem totals_after (h : x.asked.query ≠ .breaker I.layer .reset) :
    (x.after I).totals =
      match x.report? I.layer with
      | some .failure => (x.before.totalFailures.tick, x.before.totalSuccesses, some x.now)
      | some .success =>
        (x.before.totalFailures, x.before.totalSuccesses.tick, x.before.lastFailure)
      | none => x.before.totals := by
  obtain ⟨strand, ⟨q, answer⟩, now, before⟩ := x
  cases q with
  | breaker i part =>
    by_cases hi : i = I.layer
    · subst hi
      have hafter : (⟨strand, ⟨.breaker I.layer part, answer⟩, now, before⟩ : Happening).after I =
          (before.enter I.config now part).2 := if_pos rfl
      rw [hafter]
      cases part with
      | success =>
        have hreport : (⟨strand, ⟨.breaker I.layer .success, answer⟩, now, before⟩ :
            Happening).report? I.layer = some .success := if_pos rfl
        rw [hreport]
        exact BreakerState.totals_onSuccess I.config before
      | failure =>
        have hreport : (⟨strand, ⟨.breaker I.layer .failure, answer⟩, now, before⟩ :
            Happening).report? I.layer = some .failure := if_pos rfl
        rw [hreport]
        exact BreakerState.totals_onFailure I.config now before
      | decide => exact BreakerState.totals_isAllowed I.config now before
      | reset => exact absurd rfl h
      | _ => rfl
    · -- another breaker
      have hafter : (⟨strand, ⟨.breaker i part, answer⟩, now, before⟩ : Happening).after I = before :=
        if_neg hi
      have hreport : (⟨strand, ⟨.breaker i part, answer⟩, now, before⟩ :
          Happening).report? I.layer = none := by
        cases part with
        | success => exact if_neg hi
        | failure => exact if_neg hi
        | _ => rfl
      rw [hafter, hreport]
  | _ => rfl

theorem reports_map_cons (layer : Nat) (x : Happening) (rest : List Happening) :
    reports layer ((x :: rest).map Happening.asked) =
      (x.report? layer).toList ++ reports layer (rest.map Happening.asked) := by
  rw [List.map_cons, reports, List.filterMap_cons, Happening.report?]
  cases x.asked.report? layer <;> rfl

theorem failureDates_cons (layer : Nat) (x : Happening) (rest : List Happening) :
    failureDates layer (x :: rest) =
      (if x.report? layer = some .failure then [x.now] else []) ++ failureDates layer rest := by
  rw [failureDates, List.filterMap_cons]
  by_cases hx : x.report? layer = some .failure
  · rw [if_pos hx, if_pos hx]
    rfl
  · rw [if_neg hx, if_neg hx]
    rfl

/-- One more tick before some others is one more tick. -/
theorem min_value_tick (c : Count64) (n : Nat) :
    min (c.tick.value + n) 18446744073709551615 = min (c.value + (n + 1)) 18446744073709551615 := by
  rw [Counter.value_tick]
  omega

/-- **The breaker's ledger.**  Without a reset the totals and the date of the latest failure are those
of the reports. -/
theorem Linked.totals (h : Linked I s trace t)
    (hreset : ∀ x ∈ trace, x.asked.query ≠ .breaker I.layer .reset) :
    t.totalFailures.value = min (s.totalFailures.value +
        (reports I.layer (trace.map Happening.asked)).count .failure) 18446744073709551615 ∧
      t.totalSuccesses.value = min (s.totalSuccesses.value +
        (reports I.layer (trace.map Happening.asked)).count .success) 18446744073709551615 ∧
      t.lastFailure = (failureDates I.layer trace).getLast?.or s.lastFailure := by
  induction h with
  | nil s =>
    exact ⟨(Nat.min_eq_left s.totalFailures.value_le).symm,
      (Nat.min_eq_left s.totalSuccesses.value_le).symm, rfl⟩
  | @cons x rest t hr ih =>
    obtain ⟨hf, hs, hd⟩ := ih fun y hy => hreset y (List.mem_cons_of_mem _ hy)
    have htotals := totals_after (I := I) (hreset x List.mem_cons_self)
    rw [hf, hs, hd, reports_map_cons, List.count_append, List.count_append, failureDates_cons]
    cases hx : x.report? I.layer with
    | none =>
      rw [hx] at htotals
      obtain ⟨hf, hs, hd⟩ : _ ∧ _ ∧ _ := by simpa [BreakerState.totals] using htotals
      rw [hf, hs, hd]
      simp
    | some report =>
      rw [hx] at htotals
      cases report with
      | success =>
        obtain ⟨hf, hs, hd⟩ : _ ∧ _ ∧ _ := by simpa [BreakerState.totals] using htotals
        rw [hf, hs, hd, min_value_tick, Nat.add_comm _ 1]
        simp
      | failure =>
        obtain ⟨hf, hs, hd⟩ : _ ∧ _ ∧ _ := by simpa [BreakerState.totals] using htotals
        rw [hf, hs, hd, min_value_tick, Nat.add_comm _ 1]
        simp [List.getLast?_cons]

end Interleaving

/-! ## 2. The ledger of a request -/

/-- The record is about the attempt `k` of the request, which came to the outcome `o`. -/
structure Recorded (l : Layer) (request : Request) (k : Nat) (o : Outcome) (r : AttemptRecord) : Prop where
  attempt : r.attempt = k
  method : r.method = request.method
  url : r.url = request.url.text
  /-- A response below the failing statuses is recorded as a success, ... -/
  success : ∀ response, o = .ok response →
    response.status.code < l.policy.serverErrorThreshold.toNat →
      r.outcome = .success response.status.code
  /-- ... any other one as an error of the server, ... -/
  serverError : ∀ response, o = .ok response →
    l.policy.serverErrorThreshold.toNat ≤ response.status.code →
      r.outcome = .serverError response.status.code
  /-- ... and an error with its message. -/
  transportError : ∀ e, o = .error e → r.outcome = .transportError e.message

/-- What the breaker and the observer were told about the answer of the attempt `k`, so far. -/
structure Booked (l : Layer) (request : Request) (k : Nat) (a : Answer) : Prop where
  /-- The breaker was told at most what it has to be told, and at most once. -/
  reported : reports l.index a.after <+: (l.due a.outcome).toList
  /-- A record does not come before the report. -/
  behind : (records a.after).length ≤ (reports l.index a.after).length
  /-- A record is about this attempt of this request. -/
  recorded : ∀ r ∈ records a.after, Recorded l request k a.outcome r
  /-- An error of the caller is told to nobody: there is nothing but a line in the trace. -/
  fault : l.due a.outcome = none → ∀ x ∈ a.after, ∃ line, x = .line line

/-- The breaker and the observer were told about the answer all that they have to be told. -/
structure Closed (l : Layer) (a : Answer) : Prop where
  reported : reports l.index a.after = (l.due a.outcome).toList
  recorded : (records a.after).length = (l.due a.outcome).toList.length

namespace Layer

variable {l : Layer} {request : Request} {k : Nat} {o : Outcome} {log after : List Asked} {a : Answer}
  {rest : Program Outcome}

/-- What a layer records is about the attempt. -/
theorem recorded_record (backoff : Option Duration) :
    Recorded l request k o (record request k (l.told o) backoff) where
  attempt := rfl
  method := rfl
  url := rfl
  success := by
    rintro response rfl hlow
    exact if_pos hlow
  serverError := by
    rintro response rfl hhigh
    exact if_neg (Nat.not_lt.mpr hhigh)
  transportError := by
    rintro e rfl
    rfl

theorem Course.booked (h : l.Course request k a.outcome after) (ha : a.after <+: after) :
    Booked l request k a where
  reported := h.reports_of_prefix ha
  behind := h.length_records_le ha
  recorded := by
    intro r hr
    have hmem : r ∈ records after := (ha.filterMap _).subset hr
    rcases h.records_eq with ⟨-, hnone⟩ | ⟨-, backoff, hone⟩
    · rw [hnone] at hmem
      cases hmem
    · rw [hone] at hmem
      rw [List.mem_singleton.mp hmem]
      exact recorded_record backoff
  fault := fun ho x hx => h.lines ho x (ha.subset hx)

theorem Course.closed (h : l.Course request k a.outcome a.after) : Closed l a where
  reported := h.reports_eq
  recorded := by
    rcases h.records_eq with ⟨hdue, hnone⟩ | ⟨hdue, backoff, hone⟩
    · rw [hdue, hnone]
      rfl
    · obtain ⟨report, hreport⟩ := Option.isSome_iff_exists.mp hdue
      rw [hreport, hone]
      rfl

/-- **The ledger of a request under way.**  Its log is the beginning of the log of a request that is
over, so nothing was reported before its first exchange, and each exchange has taken a part of its
course. -/
theorem booked (hb : l.policy.breakerEnabled = true)
    (h : (l.send .exchange request).Leads log rest) :
    reports l.index (opening log) = [] ∧ records (opening log) = [] ∧
      ∀ k a, (answers log)[k]? = some a → Booked l request k a := by
  obtain ⟨more, result, hy⟩ := h.exists_yields
  obtain ⟨hreports, hrecords, hcourse⟩ := (send_sent hy).course hb
  have hprefix := opening_isPrefix log more
  refine ⟨?_, ?_, fun k a ha => ?_⟩
  · exact List.prefix_nil.mp (hreports ▸ hprefix.filterMap _)
  · exact List.prefix_nil.mp (hrecords ▸ hprefix.filterMap _)
  · obtain ⟨after, hafter, hle⟩ := getElem?_answers_append more ha
    have hwhole := hcourse k _ hafter
    exact Layer.Course.booked (a := a) hwhole hle

/-- **The ledger of a request that is over.** -/
theorem closed (hb : l.policy.breakerEnabled = true)
    (h : (l.send .exchange request).Leads log (.done o)) : ∀ a ∈ answers log, Closed l a := by
  intro a ha
  obtain ⟨k, hk⟩ := List.mem_iff_getElem?.mp ha
  exact ((send_sent h.yields_of_done).course hb).2.2 k a hk |>.closed

/-- The end of the context is the last answer of a request under way, too. -/
theorem ended_last {past future : List Asked} {x : Asked} {reason : ContextEnd}
    (h : (l.send .exchange request).Leads log rest) (hx : x.end? = some reason)
    (heq : log = past ++ x :: future) : future = [] ∧ rest = .done (.error (.ofContext reason)) := by
  obtain ⟨more, result, hrest⟩ := rest.exists_yields
  have hsent := send_sent (h.yields hrest)
  rw [heq, List.append_assoc, List.cons_append] at hsent
  obtain ⟨hnil, rfl, -⟩ := hsent.paced.of_end hx rfl
  obtain ⟨rfl, rfl⟩ := List.append_eq_nil_iff.mp hnil
  cases hrest
  exact ⟨rfl, rfl⟩

end Layer

/-! ## 3. The three ledgers -/

/-- The requests of a layer, side by side. -/
def Layer.requests (l : Layer) : Interleaving Request Outcome where
  layer := l.index
  config := l.breaker
  program := l.send .exchange

/-- The answers of the transport to all requests. -/
def allAnswers (w : State Request Outcome) : List Answer :=
  w.strands.flatMap fun s => answers s.log

/-- How many answers there are of which the breaker has to be told in this way, and has been told. -/
def tally (l : Layer) (report : Report) (w : State Request Outcome) : Nat :=
  (allAnswers w).countP fun a => l.due a.outcome = some report ∧ report ∈ reports l.index a.after

/-- **The three ledgers agree**: what the transport answered, what the breaker counts, and what the
observer keeps. -/
structure Ledgers (l : Layer) (w : State Request Outcome) : Prop where
  /-- The breaker counts the failing answers that it has been told of ... -/
  failures : w.breaker.totalFailures.value = min (tally l .failure w) 18446744073709551615
  /-- ... and the good ones, ... -/
  successes : w.breaker.totalSuccesses.value = min (tally l .success w) 18446744073709551615
  /-- ... and dates the latest failure. -/
  dated : w.breaker.lastFailure = (failureDates l.index w.trace).getLast?
  /-- The breaker is what the questions made of it, one after another, ... -/
  linked : Linked l.requests .initial w.trace w.breaker
  /-- ... and only its critical sections change it. -/
  untouched : ∀ h ∈ w.trace, (∀ part, h.asked.query ≠ .breaker l.index part) →
    h.after l.requests = h.before
  /-- Each answer of a request has been reported and recorded as far as the request has come, ... -/
  booked : ∀ s ∈ w.strands, ∀ k a, (answers s.log)[k]? = some a → Booked l s.source k a
  /-- ... and entirely when the request is over. -/
  closed : ∀ s ∈ w.strands, ∀ o, s.rest = .done o → ∀ a ∈ answers s.log, Closed l a
  /-- All reports of a request are about its answers, ... -/
  reports_eq : ∀ s ∈ w.strands, reports l.index s.log =
    (answers s.log).flatMap fun a => reports l.index a.after
  /-- ... and so are its records. -/
  records_eq : ∀ s ∈ w.strands, records s.log = (answers s.log).flatMap fun a => records a.after
  /-- The observer holds the records of the requests, ... -/
  kept : w.recorder.attempts.Perm (w.strands.flatMap fun s => records s.log)
  /-- ... those of each in their order. -/
  inOrder : ∀ s ∈ w.strands, (records s.log).Sublist w.recorder.attempts
  /-- The end of the context is the last that happens to a request. -/
  ended : ∀ s ∈ w.strands, ∀ past x future reason, s.log = past ++ x :: future →
    x.end? = some reason → future = [] ∧ s.rest = .done (.error (.ofContext reason))

/-- Lists with one element at most each hold a thing as often as there are lists that hold it. -/
theorem count_flatMap_eq_countP {β γ : Type} [DecidableEq γ] {c : γ} {f : β → List γ} {l : List β}
    (h : ∀ b ∈ l, (f b).length ≤ 1) :
    (l.flatMap f).count c = l.countP fun b => decide (c ∈ f b) := by
  induction l with
  | nil => rfl
  | cons b l ih =>
    have hone : (f b).count c = if c ∈ f b then 1 else 0 := by
      by_cases hc : c ∈ f b
      · have hpos : 0 < (f b).count c := List.count_pos_iff.mpr hc
        have hle : (f b).count c ≤ 1 := Nat.le_trans List.count_le_length (h b List.mem_cons_self)
        rw [if_pos hc]
        omega
      · rw [if_neg hc, List.count_eq_zero.mpr hc]
    rw [List.flatMap_cons, List.count_append, hone, ih fun b hb => h b (List.mem_cons_of_mem _ hb),
      List.countP_cons, Nat.add_comm]
    simp

/-- Lists with one element at most are together as long as there are lists that are not empty. -/
theorem length_flatMap_eq_countP {β γ : Type} {f : β → List γ} {p : β → Bool} {l : List β}
    (h : ∀ b ∈ l, (f b).length = (p b).toNat) : (l.flatMap f).length = l.countP p := by
  induction l with
  | nil => rfl
  | cons b l ih =>
    rw [List.flatMap_cons, List.length_append, h b List.mem_cons_self,
      ih fun b hb => h b (List.mem_cons_of_mem _ hb), List.countP_cons, Nat.add_comm]
    cases p b <;> rfl

section Agree

variable {l : Layer} {w : State Request Outcome}

/-- A list that begins one with at most one element has at most one. -/
theorem Booked.length_le {request : Request} {k : Nat} {a : Answer} (h : Booked l request k a) :
    (reports l.index a.after).length ≤ 1 := by
  have hle := h.reported.length_le
  cases hdue : l.due a.outcome with
  | none =>
    rw [hdue] at hle
    exact Nat.le_succ_of_le hle
  | some report =>
    rw [hdue] at hle
    exact hle

/-- A report is the one that is due. -/
theorem Booked.due_of_mem {request : Request} {k : Nat} {a : Answer} {report : Report}
    (h : Booked l request k a) (hr : report ∈ reports l.index a.after) :
    l.due a.outcome = some report :=
  Option.mem_toList.mp (h.reported.subset hr)

/-- The reports of all requests, counted. -/
theorem count_reports_eq_tally
    (hbooked : ∀ s ∈ w.strands, ∀ k a, (answers s.log)[k]? = some a → Booked l s.source k a)
    (hreports : ∀ s ∈ w.strands, reports l.index s.log =
      (answers s.log).flatMap fun a => reports l.index a.after)
    (hperm : (w.strands.flatMap Strand.log).Perm (w.trace.map Happening.asked)) (report : Report) :
    (reports l.index (w.trace.map Happening.asked)).count report = tally l report w := by
  have hall : ∀ a ∈ allAnswers w, ∃ request k, Booked l request k a := by
    intro a ha
    obtain ⟨s, hs, ha⟩ := List.mem_flatMap.mp ha
    obtain ⟨k, hk⟩ := List.mem_iff_getElem?.mp ha
    exact ⟨_, k, hbooked s hs k a hk⟩
  calc
    (reports l.index (w.trace.map Happening.asked)).count report
        = (reports l.index (w.strands.flatMap Strand.log)).count report :=
          ((hperm.filterMap _).count_eq _).symm
    _ = ((allAnswers w).flatMap fun a => reports l.index a.after).count report := by
          rw [reports, List.filterMap_flatMap, allAnswers, List.flatMap_assoc]
          exact congrArg _ (List.flatMap_congr hreports)
    _ = (allAnswers w).countP fun a => decide (report ∈ reports l.index a.after) := by
          refine count_flatMap_eq_countP fun a ha => ?_
          obtain ⟨request, k, hbook⟩ := hall a ha
          exact hbook.length_le
    _ = tally l report w := by
          refine List.countP_congr fun a ha => ?_
          obtain ⟨request, k, hbook⟩ := hall a ha
          simp only [decide_eq_true_eq]
          exact ⟨fun hr => ⟨hbook.due_of_mem hr, hr⟩, fun hr => hr.2⟩

/-- **The three ledgers agree in every state that requests can reach.** -/
theorem ledgers_run (hb : l.policy.breakerEnabled = true) (moves : List (Move Request)) :
    Ledgers l (l.requests.run {} moves) := by
  have hasked := forall_asked (I := l.requests) (w := {}) l.only_send_exchange rfl rfl moves
  have hleads := leads_run (I := l.requests) (w := {}) rfl moves
  have hperm := perm_logs (I := l.requests) (w := {}) rfl rfl moves
  have hlinked := linked_run (I := l.requests) (w := {}) rfl moves
  have hsub := sublist_trace (I := l.requests) (w := {}) rfl moves
  have hattempts := attempts_run (I := l.requests) (w := {}) rfl moves (by
    intro h hh i notice hq
    rcases hq ▸ hasked h hh with hown | ⟨r, hr⟩
    · exact hown
    · cases hr)
  generalize l.requests.run {} moves = w at *
  have hbooks := fun s hs => Layer.booked (l := l) hb (hleads s hs)
  have hreports : ∀ s ∈ w.strands, reports l.index s.log =
      (answers s.log).flatMap fun a => reports l.index a.after := by
    intro s hs
    have hparts := filterMap_eq_parts (f := Asked.report? l.index) (fun _ _ => rfl) s.log
    have hopening : (opening s.log).filterMap (Asked.report? l.index) = [] := (hbooks s hs).1
    rwa [hopening, List.nil_append] at hparts
  have hrecords : ∀ s ∈ w.strands, records s.log =
      (answers s.log).flatMap fun a => records a.after := by
    intro s hs
    have hparts := filterMap_eq_parts (f := Asked.record?) (fun _ _ => rfl) s.log
    have hopening : (opening s.log).filterMap Asked.record? = [] := (hbooks s hs).2.1
    rwa [hopening, List.nil_append] at hparts
  have hbooked : ∀ s ∈ w.strands, ∀ k a, (answers s.log)[k]? = some a → Booked l s.source k a :=
    fun s hs => (hbooks s hs).2.2
  have hcount := count_reports_eq_tally hbooked hreports hperm
  obtain ⟨hfailures, hsuccesses, hdated⟩ := hlinked.totals (by
    intro x hx hreset
    rcases hreset ▸ hasked x hx with hown | ⟨r, hr⟩
    · exact hown.2 rfl
    · cases hr)
  refine ⟨?failures, ?successes, ?dated, hlinked, ?untouched, hbooked, ?closed, hreports, hrecords, ?kept,
    ?inOrder, ?ended⟩
  case failures =>
    rw [hfailures, ← hcount, show BreakerState.initial.totalFailures.value = 0 from rfl, Nat.zero_add]
    rfl
  case successes =>
    rw [hsuccesses, ← hcount, show BreakerState.initial.totalSuccesses.value = 0 from rfl,
      Nat.zero_add]
    rfl
  case dated =>
    exact hdated.trans (Option.or_none)
  case untouched =>
    exact fun h _ hpart => Happening.after_eq_before l.requests hpart
  case closed =>
    intro s hs o ho a ha
    exact Layer.closed hb (ho ▸ hleads s hs) a ha
  case kept =>
    have hrecorded := (hperm.filterMap Asked.record?).symm
    rw [List.filterMap_flatMap] at hrecorded
    rw [hattempts]
    exact hrecorded
  case inOrder =>
    intro s hs
    rw [hattempts]
    exact (hsub s hs).filterMap _
  case ended =>
    intro s hs past x future reason heq hx
    exact Layer.ended_last (hleads s hs) hx heq

/-- **When all requests have returned**, every answer but the errors of callers has been counted, and
has its record. -/
theorem Ledgers.of_returned (h : Ledgers l w) (hover : ∀ s ∈ w.strands, ∃ o, s.rest = .done o) :
    w.breaker.totalFailures.value =
        min ((allAnswers w).countP fun a => l.due a.outcome = some .failure) 18446744073709551615 ∧
      w.breaker.totalSuccesses.value =
        min ((allAnswers w).countP fun a => l.due a.outcome = some .success) 18446744073709551615 ∧
      w.recorder.attempts.length = (allAnswers w).countP fun a => (l.due a.outcome).isSome := by
  have hclosed : ∀ a ∈ allAnswers w, Closed l a := by
    intro a ha
    obtain ⟨s, hs, ha⟩ := List.mem_flatMap.mp ha
    obtain ⟨o, ho⟩ := hover s hs
    exact h.closed s hs o ho a ha
  have htally : ∀ report, tally l report w =
      (allAnswers w).countP fun a => l.due a.outcome = some report := by
    intro report
    refine List.countP_congr fun a ha => ?_
    simp only [decide_eq_true_eq]
    refine ⟨fun hr => hr.1, fun hr => ⟨hr, ?_⟩⟩
    rw [(hclosed a ha).reported]
    exact Option.mem_toList.mpr hr
  refine ⟨htally _ ▸ h.failures, htally _ ▸ h.successes, ?_⟩
  calc
    w.recorder.attempts.length = (w.strands.flatMap fun s => records s.log).length :=
          h.kept.length_eq
    _ = ((allAnswers w).flatMap fun a => records a.after).length := by
          rw [allAnswers, List.flatMap_assoc]
          exact congrArg _ (List.flatMap_congr h.records_eq)
    _ = (allAnswers w).countP fun a => (l.due a.outcome).isSome := by
          refine length_flatMap_eq_countP fun a ha => ?_
          rw [(hclosed a ha).recorded]
          cases l.due a.outcome <;> rfl

end Agree

/-- **The three ledgers agree.**  Let any number of requests run side by side through a layer that asks
its breaker, whatever the exchanges come to, whenever contexts end, and however the requests come
between each other.  In every state that they reach the ledgers agree; and when all of them have
returned, nothing is left to be reported or recorded. -/
theorem ledgers_agree {l : Layer} (hb : l.policy.breakerEnabled = true) (moves : List (Move Request)) :
    Ledgers l (l.requests.run {} moves) ∧
      ((∀ s ∈ (l.requests.run {} moves).strands, ∃ o, s.rest = .done o) →
        (l.requests.run {} moves).breaker.totalFailures.value =
            min ((allAnswers (l.requests.run {} moves)).countP fun a =>
              l.due a.outcome = some .failure) 18446744073709551615 ∧
          (l.requests.run {} moves).breaker.totalSuccesses.value =
            min ((allAnswers (l.requests.run {} moves)).countP fun a =>
              l.due a.outcome = some .success) 18446744073709551615 ∧
          (l.requests.run {} moves).recorder.attempts.length =
            (allAnswers (l.requests.run {} moves)).countP fun a => (l.due a.outcome).isSome) :=
  ⟨ledgers_run hb moves, (ledgers_run hb moves).of_returned⟩

/-- A request without a body. -/
def bodiless (method host : String) : Request where
  method := method
  url := ⟨"http", "", "", some host, none, .segments [""], none, none⟩

/-- Two requests side by side: the first one waits after an attempt that failed, the second one has
returned. -/
def twoRequests : List (Move Request) :=
  let asks (i status : Nat) : Move Request :=
    .next i .origin (Surroundings.calm (fun _ => .ok { status := ⟨status⟩ }) [])
  [.begin (bodiless "GET" "a.test"), .begin (bodiless "PUT" "b.test")] ++
    List.replicate 5 (asks 0 503) ++ List.replicate 8 (asks 1 200) ++ List.replicate 4 (asks 0 503)

/-- Each of the two requests has one record, and that one is about it. -/
theorem ledgers_agree_under_way :
    let l : Layer := ⟨0, ⟨true, true, 500⟩, {}, RetryConfig.strategy {}⟩
    (l.requests.run {} twoRequests).breaker.totalFailures.value = 1 ∧
      (l.requests.run {} twoRequests).breaker.totalSuccesses.value = 1 ∧
      ((l.requests.run {} twoRequests).recorder.attempts.map fun r =>
          (r.attempt, r.method, r.url, r.outcome)) =
        [(0, "PUT", "http://b.test/", .success 200), (0, "GET", "http://a.test/", .serverError 503)] ∧
      (l.requests.run {} twoRequests).strands.map (fun s => (s.source.method, (records s.log).length)) =
        [("GET", 1), ("PUT", 1)] ∧
      ∀ s ∈ (l.requests.run {} twoRequests).strands, ∀ r ∈ records s.log,
        r.method = s.source.method ∧ r.url = s.source.url.text := by
  intro l
  obtain ⟨h, -⟩ := ledgers_agree (l := l) rfl twoRequests
  refine ⟨h.failures.trans ?_, h.successes.trans ?_, ?_, ?_, ?_⟩
  · decide +kernel
  · decide +kernel
  · decide +kernel
  · decide +kernel
  · intro s hs r hr
    rw [h.records_eq s hs, List.mem_flatMap] at hr
    obtain ⟨a, ha, hr⟩ := hr
    obtain ⟨k, hk⟩ := List.mem_iff_getElem?.mp ha
    have hrecorded := (h.booked s hs k a hk).recorded r hr
    exact ⟨hrecorded.method, hrecorded.url⟩

end Resilience
