/-
# Requests that cannot be built

Some requests cannot be sent at all: nothing can be sent to an address of a foreign scheme.  The network
library answers them at once, with an error that is marked as one of building the request.  Such an
error says nothing about the dependency, but it is taken for one that does.  This file says what follows.

* `NetworkError.IsUnbuilt`: the marks of such an error; `IsUnbuilt.error_eq` is what the caller gets.
* `Layer.Loop.plain`, `Layer.Sent.plain`: **the network transport is a plain exchange.**  It looks at the
  context once more and writes lines; without them the log is one over a transport that only makes the
  exchange, with the same exchanges, reports and records.
* `Layer.Courses.reports_eq`: the breaker is told, outcome by outcome, what it has to be told.
* `Layer.Blamed`: all exchanges of a request count as failures, and it is repeated as long as it can be.
* `unbuilt_request_blamed`: the whole.
* `not_unbuilt_request_harmless`: a single such request can fail the breaker.
-/
import Mathlib.Algebra.GroupWithZero.Nat
import Resilience.Http.Network
import Resilience.Proofs.Pipeline.Ledger

namespace Resilience

open Interleaving

/-! ## 1. The marks of the error -/

/-- The library could not build the request, and nothing else went wrong. -/
structure NetworkError.IsUnbuilt (e : NetworkError) : Prop where
  isBuilder : e.isBuilder = true
  isTimeout : e.isTimeout = false
  isConnect : e.isConnect = false
  isBody : e.isBody = false
  isDecode : e.isDecode = false

/-- The caller gets an error of the transport, in the words of the library. -/
theorem NetworkError.IsUnbuilt.error_eq {e : NetworkError} (h : e.IsUnbuilt) :
    e.error = .transport .request e.message .network := by
  have hk : e.kind = .request := by
    simp [kind, h.isBuilder, h.isTimeout, h.isConnect, h.isBody, h.isDecode]
  rw [error, hk]

/-- The exchange has come to such an error. -/
def Unbuilt (o : Outcome) : Prop := ∃ e : NetworkError, e.IsUnbuilt ∧ o = .error e.error

/-- Addresses that nothing can be sent to come to such an error. -/
theorem NetworkFault.unbuilt_address (url : Url) :
    Unbuilt (.error (NetworkFault.address url).error) := ⟨_, ⟨rfl, rfl, rfl, rfl, rfl⟩, rfl⟩

/-- Such an error is a failure of the dependency. -/
theorem Layer.due_of_unbuilt {l : Layer} {o : Outcome} (h : Unbuilt o) : l.due o = some .failure := by
  obtain ⟨e, he, rfl⟩ := h
  rw [he.error_eq]
  rfl

/-! ## 2. The network transport as a plain exchange -/

/-- The two logs hold the same exchanges, reports and records. -/
structure SameBooks (layer : Nat) (log plain : List Asked) : Prop where
  outcomes_eq : outcomes log = outcomes plain
  reports_eq : reports layer log = reports layer plain
  records_eq : records log = records plain

section Books

variable {layer : Nat} {log plain more : List Asked} {o : Outcome}

theorem SameBooks.refl (layer : Nat) (log : List Asked) : SameBooks layer log log := ⟨rfl, rfl, rfl⟩

theorem SameBooks.append {more' : List Asked} (h : SameBooks layer log plain)
    (hm : SameBooks layer more more') : SameBooks layer (log ++ more) (plain ++ more') where
  outcomes_eq := by rw [outcomes_append, outcomes_append, h.outcomes_eq, hm.outcomes_eq]
  reports_eq := by rw [reports_append, reports_append, h.reports_eq, hm.reports_eq]
  records_eq := by rw [records_append, records_append, h.records_eq, hm.records_eq]

theorem SameBooks.trans {other : List Asked} (h : SameBooks layer log plain)
    (ho : SameBooks layer plain other) : SameBooks layer log other where
  outcomes_eq := h.outcomes_eq.trans ho.outcomes_eq
  reports_eq := h.reports_eq.trans ho.reports_eq
  records_eq := h.records_eq.trans ho.records_eq

/-- What is asked on both sides stays. -/
theorem SameBooks.append_right (h : SameBooks layer log plain) (more : List Asked) :
    SameBooks layer (log ++ more) (plain ++ more) := h.append (.refl layer more)

theorem SameBooks.append_left (h : SameBooks layer log plain) (more : List Asked) :
    SameBooks layer (more ++ log) (more ++ plain) := (SameBooks.refl layer more).append h

/-- What makes no exchange, reports nothing and records nothing can be left out. -/
theorem Idle.sameBooks (h : Idle log) : SameBooks layer log [] where
  outcomes_eq := h.outcomes_eq_nil
  reports_eq := h.reports_eq_nil
  records_eq := h.records_eq_nil

theorem live_nil : Live [] := fun _ hx => nomatch hx

theorem live_append_iff : Live (log ++ more) ↔ Live log ∧ Live more := by
  simp only [Live, List.mem_append]
  exact ⟨fun h => ⟨fun x hx => h x (.inl hx), fun x hx => h x (.inr hx)⟩,
    fun h x hx => hx.elim (h.1 x) (h.2 x)⟩

theorem live_cons_iff {x : Asked} : Live (x :: log) ↔ x.IsLive ∧ Live log := by
  simp only [Live, List.forall_mem_cons]

/-- **The network transport looks at the context, makes the exchange, and writes lines.** -/
theorem network_yields {outgoing : Request} (h : (Transport.network outgoing).Yields log o)
    (hlive : Live log) : SameBooks layer log [⟨.exchange outgoing, o⟩] := by
  have line : ∀ line, Idle [.line line] := fun _ => Layer.idle_singleton trivial
  rw [Transport.network, Program.yields_query_bind_iff] at h
  obtain ⟨end?, log, rfl, h⟩ := h
  cases end? with
  | some reason => exact absurd (hlive _ List.mem_cons_self) nofun
  | none =>
    rw [Program.yields_trace_bind_iff] at h
    obtain ⟨log, rfl, h⟩ := h
    rw [Program.yields_query_bind_iff] at h
    obtain ⟨answer, log, rfl, h⟩ := h
    have look : Idle [⟨.context, none⟩] := Layer.idle_singleton trivial
    have hfront : SameBooks layer _ [] := (look.append (line (.debug "sending HTTP request"
      [("method", outgoing.method), ("url", outgoing.url.text)]))).sameBooks
    cases answer with
    | error e =>
      obtain ⟨rfl, rfl⟩ := Program.yields_pure_iff.mp h
      exact hfront.append_right [⟨.exchange outgoing, .error e⟩]
    | ok r =>
      rw [Program.yields_trace_bind_iff] at h
      obtain ⟨log, rfl, h⟩ := h
      obtain ⟨rfl, rfl⟩ := Program.yields_pure_iff.mp h
      exact (hfront.append_right [⟨.exchange outgoing, .ok r⟩]).append (line _).sameBooks

end Books

namespace Layer

variable {l : Layer} {left attempt : Nat} {request kept : Request} {log made : List Asked}
  {o result : Outcome}

/-- An attempt over the network is an attempt over a plain exchange, whatever comes after it. -/
theorem Answered.plain {tail : List Asked} (h : Answered .network attempt request kept o made)
    (hlive : Live (made ++ tail)) :
    ∃ plain, Answered .exchange attempt request kept o plain ∧ Live (plain ++ tail) ∧
      SameBooks l.index (made ++ tail) (plain ++ tail) := by
  obtain @⟨outgoing, _, exchange, _, hsend, hex⟩ := h
  obtain ⟨hmade, htail⟩ := live_append_iff.mp hlive
  have hbooks : SameBooks l.index exchange [⟨.exchange outgoing, o⟩] := network_yields hex hmade.of_cons
  refine ⟨[⟨.context, none⟩, ⟨.exchange outgoing, o⟩], .intro hsend (Program.yields_query_iff.mpr rfl),
    live_append_iff.mpr ⟨?_, htail⟩, (hbooks.append_left [⟨.context, none⟩]).append_right tail⟩
  exact live_cons_iff.mpr ⟨rfl, live_cons_iff.mpr ⟨trivial, live_nil⟩⟩

/-- **The loop over the network is the loop over a plain exchange**, as long as the context is not
over.  The induction replaces the log of each attempt and keeps all that was told in between. -/
theorem Loop.plain (h : l.Loop .network left attempt request log result) (hlive : Live log) :
    ∃ plain, l.Loop .exchange left attempt request plain result ∧ Live plain ∧
      SameBooks l.index log plain := by
  induction h with
  | ended reason => exact ⟨_, .ended reason, hlive, .refl _ _⟩
  | unsendable h => exact ⟨_, .unsendable h, hlive, .refl _ _⟩
  | succeeded h ho ht =>
    obtain ⟨plain, hplain, hlive, hbooks⟩ := h.plain hlive
    exact ⟨_, .succeeded hplain ho ht, hlive, hbooks⟩
  | aborted h ho =>
    obtain ⟨plain, hplain, hlive, hbooks⟩ := h.plain hlive
    exact ⟨_, .aborted hplain ho, hlive, hbooks⟩
  | exhausted h ho ht =>
    obtain ⟨plain, hplain, hlive, hbooks⟩ := h.plain hlive
    exact ⟨_, .exhausted hplain ho ht, hlive, hbooks⟩
  | notReplayable h ho ht hk =>
    obtain ⟨plain, hplain, hlive, hbooks⟩ := h.plain hlive
    exact ⟨_, .notReplayable hplain ho ht hk, hlive, hbooks⟩
  | interrupted reason h ho ht hk hd =>
    obtain ⟨plain, hplain, hlive, hbooks⟩ := h.plain hlive
    exact ⟨_, .interrupted reason hplain ho ht hk hd, hlive, hbooks⟩
  | @retried left attempt request kept o made tell draw rest f delay line result h ho ht hk hd _ ih =>
    obtain ⟨plain, hplain, hlive, hbooks⟩ := h.plain hlive
    simp only [live_append_iff, live_cons_iff] at hlive
    obtain ⟨hmade, htell, hdraw, hended, hline, hpause, hrest⟩ := hlive
    obtain ⟨next, hnext, hlive', hbooks'⟩ := ih hrest
    refine ⟨plain ++ (tell ++ (draw ++ (l.ended kept attempt f.outcome (some delay) :: .line line ::
      ⟨.pause delay, none⟩ :: next))), .retried hplain ho ht hk hd hnext, ?_, hbooks.trans ?_⟩
    · simp only [live_append_iff, live_cons_iff]
      exact ⟨hmade, htell, hdraw, hended, hline, hpause, hlive'⟩
    · have hfront := hbooks'.append_left
        [l.ended kept attempt f.outcome (some delay), .line line, ⟨.pause delay, none⟩]
      exact ((hfront.append_left draw).append_left tell).append_left plain

/-- **A request over the network that is admitted is a loop over a plain exchange.** -/
theorem Sent.plain (h : l.Sent .network request log result) (hlive : Live log)
    (hadm : Admitted l.index log) :
    ∃ plain, l.Loop .exchange (l.budget - 1) 0 request plain result ∧ Live plain ∧
      SameBooks l.index log plain := by
  cases h with
  | ended reason => exact absurd (hlive ⟨.context, some reason⟩ (by simp)) nofun
  | refused h =>
    refine absurd (fun x hx => hadm x ?_) h.not_admitted.2
    exact List.mem_cons_of_mem _ (List.mem_cons_of_mem _ hx)
  | @entered line asked log result h hloop =>
    obtain ⟨plain, hplain, hlive', hbooks⟩ := hloop.plain (live_append_iff.mp hlive.of_cons.of_cons).2
    have look : Idle [.line line, ⟨.context, none⟩] :=
      (idle_singleton (x := .line line) trivial).append (idle_singleton trivial)
    have hasked : SameBooks l.index asked [] := ⟨h.quiet.1, h.reports_eq, h.quiet.2⟩
    exact ⟨plain, hplain, hlive', look.sameBooks.append (hasked.append hbooks)⟩

/-! ## 3. What is reported and recorded -/

/-- **The breaker is told, outcome by outcome, what it has to be told.** -/
theorem Courses.reports_eq (h : l.Courses request attempt log) :
    reports l.index log = (outcomes log).filterMap l.due := by
  have hparts : reports l.index log =
      reports l.index (opening log) ++ (answers log).flatMap fun a => reports l.index a.after :=
    filterMap_eq_parts (fun _ _ => rfl) log
  have hdue : ∀ a ∈ answers log, reports l.index a.after = (l.due a.outcome).toList := by
    intro a ha
    obtain ⟨k, hk⟩ := List.mem_iff_getElem?.mp ha
    exact (h.course k a hk).reports_eq
  rw [hparts, h.idle.reports_eq_nil, List.nil_append, ← map_outcome_answers, List.filterMap_map,
    List.flatMap_congr hdue, List.filterMap_eq_flatMap_toList]
  rfl

/-- The observer gets a record of each outcome that counts. -/
theorem Courses.length_records_eq (h : l.Courses request attempt log) :
    (records log).length = (outcomes log).countP fun o => (l.due o).isSome := by
  have hparts : records log =
      records (opening log) ++ (answers log).flatMap fun a => records a.after :=
    filterMap_eq_parts (fun _ _ => rfl) log
  rw [hparts, h.idle.records_eq_nil, List.nil_append, ← map_outcome_answers, List.countP_map]
  refine length_flatMap_eq_countP fun a ha => ?_
  obtain ⟨k, hk⟩ := List.mem_iff_getElem?.mp ha
  rw [(h.course k a hk).closed.recorded, Function.comp_apply]
  cases l.due a.outcome <;> rfl

end Layer

/-! ## 4. The whole -/

/-- The number of exchanges of a request that is repeated as long as it can be. -/
def LayerConfig.exchanges (c : LayerConfig) (request : Request) : Nat :=
  if request.isReplayable then c.attemptLimit else 1

/-- **All exchanges of the request count against the dependency.** -/
structure Blamed (c : LayerConfig) (index : Nat) (request : Request) (log : List Asked)
    (result : Outcome) : Prop where
  /-- The request is repeated as long as it can be, ... -/
  exchanges : (outcomes log).length = c.exchanges request
  /-- ... the breaker is told of a failure after every exchange, ... -/
  reports_eq : reports index log = List.replicate (c.exchanges request) .failure
  /-- ... and the observer gets a record of it. -/
  records : (records log).length = c.exchanges request
  /-- The result is the error of the last exchange, wrapped if there are retries; only if another
  attempt was left and the body cannot be had again, it is that. -/
  result_eq : ∃ e : NetworkError, e.IsUnbuilt ∧ result = .error
    (if c.exchanges request < c.attemptLimit then .bodyNotRetriable
      else if c.retry.enabled then .maxRetriesExceeded (c.exchanges request) (.error e.error)
      else e.error)
  /-- Otherwise the result counts against the dependency, too. -/
  blames : c.exchanges request = c.attemptLimit → ∃ e, result = .error e ∧ e.isDependencyFailure = true

/-- The request is over, was admitted, its context was not over, and nothing it sent could be built. -/
structure Hopeless (l : Layer) (t : Strand Request Outcome) : Prop where
  ended : ∃ result, t.rest = .done result
  live : Live t.log
  admitted : Admitted l.index t.log
  unbuilt : ∀ o ∈ outcomes t.log, Unbuilt o

/-- Whether the question is one of a request that is admitted, whose context is not over, and that cannot
be built. -/
def Asked.isHopeless (layer : Nat) : Asked → Bool
  | ⟨.context, answer⟩ => answer.isNone
  | ⟨.pause _, answer⟩ => answer.isNone
  | ⟨.breaker i .decide, answer⟩ => !decide (i = layer ∧ answer = .rejected)
  | ⟨.exchange _, .error (.transport .request _ .network)⟩ => true
  | ⟨.exchange _, _⟩ => false
  | _ => true

theorem Asked.isHopeless_iff {layer : Nat} {x : Asked} : x.isHopeless layer = true ↔
    x.IsLive ∧ x ≠ ⟨.breaker layer .decide, .rejected⟩ ∧ ∀ o, x.outcome? = some o → Unbuilt o := by
  obtain ⟨q, answer⟩ := x
  cases q with
  | exchange request =>
    refine ⟨fun h => ⟨trivial, nofun, ?_⟩, fun h => ?_⟩
    · rintro o ⟨⟩
      cases answer with
      | ok r => cases h
      | error e =>
        cases e with
        | transport kind message cause =>
          cases kind <;> cases cause <;> cases h
          exact ⟨{ isBuilder := true, message }, ⟨rfl, rfl, rfl, rfl, rfl⟩, rfl⟩
        | _ => cases h
    · obtain ⟨e, he, rfl⟩ := h.2.2 answer rfl
      rw [he.error_eq]
      rfl
  | breaker i part =>
    cases part with
    | decide =>
      simp only [isHopeless, IsLive, outcome?]
      grind
    | _ => simp [isHopeless, IsLive, outcome?]
  | _ => simp [isHopeless, IsLive, outcome?]

/-- Whether the program has come to its end. -/
def Program.isDone {α : Type} : Program α → Bool
  | .done _ => true
  | .ask .. => false

theorem Program.isDone_iff {α : Type} {p : Program α} : p.isDone = true ↔ ∃ a, p = .done a := by
  cases p <;> simp [isDone]

theorem hopeless_iff {l : Layer} {t : Strand Request Outcome} :
    Hopeless l t ↔ t.rest.isDone = true ∧ ∀ x ∈ t.log, x.isHopeless l.index = true := by
  simp only [Asked.isHopeless_iff, Program.isDone_iff]
  constructor
  · intro h
    exact ⟨h.ended, fun x hx => ⟨h.live x hx, h.admitted x hx,
      fun o ho => h.unbuilt o (List.mem_filterMap.mpr ⟨x, hx, ho⟩)⟩⟩
  · rintro ⟨hover, h⟩
    refine ⟨hover, fun x hx => (h x hx).1, fun x hx => (h x hx).2.1, fun o ho => ?_⟩
    obtain ⟨x, hx, hxo⟩ := List.mem_filterMap.mp ho
    exact (h x hx).2.2 o hxo

instance (l : Layer) (t : Strand Request Outcome) : Decidable (Hopeless l t) :=
  decidable_of_iff _ hopeless_iff.symm

/-- The requests of a layer over the network, side by side. -/
def Layer.overNetwork (l : Layer) : Interleaving Request Outcome where
  layer := l.index
  config := l.breaker
  program := l.send .network

section Whole

variable {index : Nat} {c : LayerConfig} {l : Layer} {request : Request} {log : List Asked}
  {result : Outcome}

/-- An attempt that could not be built is the last one only if no attempt is left or the request cannot
be repeated. -/
theorem isFinal_iff_of_unbuilt {replayable : Bool} {s : Nat → Outcome} {k : Nat} (h : Unbuilt (s k)) :
    c.IsFinal replayable s k ↔ k + 1 = c.attemptLimit ∨ replayable = false := by
  obtain ⟨e, he, hs⟩ := h
  have hgood : ¬ c.Good (s k) := by
    rintro ⟨r, hr, -⟩
    rw [hs] at hr
    cases hr
  have hfault : ¬ CallerFault (s k) := by
    rintro ⟨e', he', hdep⟩
    rw [hs, he.error_eq] at he'
    cases he'
    cases hdep
  simp [LayerConfig.IsFinal, hgood, hfault]

/-- What a request ends with after such an attempt. -/
theorem ending_of_unbuilt {e : NetworkError} (he : e.IsUnbuilt) (k : Nat) :
    c.ending k (.error e.error) = .error
      (if k + 1 < c.attemptLimit then .bodyNotRetriable
        else if c.retry.enabled then .maxRetriesExceeded (k + 1) (.error e.error)
        else e.error) := by
  rw [he.error_eq, LayerConfig.ending, if_neg (by rintro ⟨⟩)]
  cases c.retry.enabled <;> split <;> rfl

/-- **The loop makes all the attempts that it can.** -/
theorem stopsAt_of_unbuilt {s : Nat → Outcome} {k n : Nat}
    (h : c.StopsAt request.isReplayable s 0 k n result) (hs : ∀ j ≤ k, Unbuilt (s j)) :
    n = c.exchanges request ∧ k + 1 = c.exchanges request := by
  have hn := h.exchanges_eq
  have hk : k + 1 = c.exchanges request := by
    unfold LayerConfig.exchanges
    split
    · rename_i hr
      exact ((isFinal_iff_of_unbuilt (hs k (Nat.le_refl k))).mp h.final).resolve_right (by rw [hr]; nofun)
    · rename_i hr
      -- the first attempt is final, so it is the last
      refine congrArg (· + 1) (Nat.eq_zero_of_not_pos fun hk => ?_)
      refine h.first 0 (Nat.le_refl 0) hk ?_
      exact (isFinal_iff_of_unbuilt (hs 0 (Nat.zero_le k))).mpr (.inr (Bool.eq_false_iff.mpr hr))
  exact ⟨by omega, hk⟩

/-- **The rule for one request.** -/
theorem Layer.Sent.blamed (hl : Layer.build index true c = .ok l) (hb : c.breaker.enabled = true)
    (h : l.Sent .network request log result) (hlive : Live log) (hadm : Admitted l.index log)
    (hunbuilt : ∀ o ∈ outcomes log, Unbuilt o) : Blamed c l.index request log result := by
  obtain ⟨hbudget, hpos⟩ := Layer.budget_eq hl
  obtain ⟨-, -, -, -, heq⟩ := Layer.build_eq_ok_iff.mp hl
  have hp : l.policy = c.policy := by rw [heq]; rfl
  have hen : l.policy.breakerEnabled = true := by rw [hp]; exact hb
  obtain ⟨plain, hplain, hlive', hbooks⟩ := h.plain hlive hadm
  rw [hbooks.outcomes_eq] at hunbuilt
  -- the loop stops at the attempt `k`
  obtain ⟨k, hk⟩ := hplain.ending (s := fun i => (outcomes plain)[i]?.getD (.error .cancelled)) hp
    (by omega) (fun h0 => absurd rfl h0) hlive' fun i x hx => by rw [Nat.zero_add, hx]; rfl
  have hs : ∀ j ≤ k, Unbuilt ((outcomes plain)[j]?.getD (.error .cancelled)) := by
    intro j hj
    have hlt : j < (outcomes plain).length := by
      have := hk.exchanges_eq
      omega
    rw [List.getElem?_eq_getElem hlt]
    exact hunbuilt _ (List.getElem_mem hlt)
  obtain ⟨hlength, hk'⟩ := stopsAt_of_unbuilt hk hs
  obtain ⟨e, he, hlast⟩ := hs k (Nat.le_refl k)
  have hresult := hk.result_eq.trans ((congrArg _ hlast).trans (ending_of_unbuilt he k))
  have hdue : ∀ o ∈ outcomes plain, l.due o = some .failure := fun o ho => due_of_unbuilt (hunbuilt o ho)
  have hcourses := hplain.courses hen
  refine ⟨?exchanges, ?reports, ?records, ⟨e, he, ?result⟩, fun hlimit => ?blames⟩
  case exchanges =>
    rw [hbooks.outcomes_eq, hlength]
  case reports =>
    rw [hbooks.reports_eq, hcourses.reports_eq, ← hlength]
    exact (List.filterMap_eq_map_iff_forall_eq_some.mpr hdue).trans List.map_const'
  case records =>
    rw [hbooks.records_eq, hcourses.length_records_eq, ← hlength, List.countP_eq_length]
    exact fun o ho => by rw [hdue o ho]; rfl
  case result =>
    rw [hresult, hk']
  case blames =>
    rw [hk', hlimit, if_neg (Nat.lt_irrefl _)] at hresult
    refine ⟨_, hresult, ?_⟩
    split
    · rfl
    · rw [he.error_eq]
      rfl

/-- Over the network nobody resets the breaker. -/
theorem Layer.only_overNetwork (l : Layer) (request : Request) :
    (l.overNetwork.program request).Only fun q => q ≠ .breaker l.index .reset := by
  refine only_send ?_ (fun r => ?_) request
  · rintro q hq rfl
    exact hq.2 rfl
  · refine (Program.only_query.mpr nofun).bind fun reason? => ?_
    cases reason? with
    | some reason => exact Program.only_pure _
    | none =>
      refine (Program.only_trace.mpr nofun).bind fun _ => (Program.only_query.mpr nofun).bind fun o => ?_
      cases o with
      | ok r => exact (Program.only_trace.mpr nofun).bind fun _ => Program.only_pure _
      | error e => exact Program.only_pure _

/-- What requests that could not be built have reported, all together. -/
theorem count_reports_of_blamed {strands : List (Strand Request Outcome)} (report : Report)
    (h : ∀ t ∈ strands, reports index t.log = List.replicate (c.exchanges t.source) .failure) :
    (reports index (strands.flatMap Strand.log)).count report =
      if report = .failure then (strands.map fun t => c.exchanges t.source).sum else 0 := by
  have hflat : reports index (strands.flatMap Strand.log) = strands.flatMap fun t => reports index t.log :=
    List.filterMap_flatMap
  rw [hflat, List.flatMap_congr h, List.count_flatMap]
  cases report <;> simp [Function.comp_def, List.count_replicate]

/-- **A request that cannot be built counts against the dependency.**  Take a layer made from any valid
settings with a breaker, a breaker in any state, and any number of requests over the network, however
they come between each other.  A request that is admitted, whose context is not over, and which the
network library can never build is repeated as long as it can be, and every time the breaker is told of a
failure.  If all requests are such, the breaker has counted all their exchanges as failures. -/
theorem unbuilt_request_blamed (hl : Layer.build index true c = .ok l)
    (hb : c.breaker.enabled = true) (s : BreakerState) (moves : List (Move Request)) :
    (∀ t ∈ (l.overNetwork.run { breaker := s } moves).strands, Hopeless l t →
      ∃ result, t.rest = .done result ∧ Blamed c index t.source t.log result) ∧
    ((∀ t ∈ (l.overNetwork.run { breaker := s } moves).strands, Hopeless l t) →
      (l.overNetwork.run { breaker := s } moves).breaker.totalFailures.value =
        min (s.totalFailures.value + ((l.overNetwork.run { breaker := s } moves).strands.map
          fun t => c.exchanges t.source).sum) 18446744073709551615 ∧
      (l.overNetwork.run { breaker := s } moves).breaker.totalSuccesses.value = s.totalSuccesses.value) := by
  obtain rfl : l.index = index := by
    obtain ⟨-, -, -, -, rfl⟩ := Layer.build_eq_ok_iff.mp hl
    rfl
  have hblamed : ∀ t ∈ (l.overNetwork.run { breaker := s } moves).strands, Hopeless l t →
      ∃ result, t.rest = .done result ∧ Blamed c l.index t.source t.log result := by
    intro t ht hopeless
    obtain ⟨result, hrest⟩ := hopeless.ended
    have hleads := leads_run (I := l.overNetwork) (w := { breaker := s }) rfl moves t ht
    rw [hrest] at hleads
    exact ⟨result, hrest, (Layer.send_sent hleads.yields_of_done).blamed hl hb hopeless.live
      hopeless.admitted hopeless.unbuilt⟩
  refine ⟨hblamed, fun hall => ?_⟩
  have hreports : ∀ t ∈ (l.overNetwork.run { breaker := s } moves).strands,
      reports l.index t.log = List.replicate (c.exchanges t.source) .failure := by
    intro t ht
    obtain ⟨result, -, h⟩ := hblamed t ht (hall t ht)
    exact h.reports_eq
  have hperm := (perm_logs (I := l.overNetwork) (w := { breaker := s }) rfl rfl moves).filterMap
    (Asked.report? l.index)
  obtain ⟨hf, hs, -⟩ := (linked_run (I := l.overNetwork) (w := { breaker := s }) rfl moves).totals
    (forall_asked (Layer.only_overNetwork l) rfl rfl moves)
  refine ⟨hf.trans ?_, hs.trans ?_⟩
  · exact congrArg (fun n => min (s.totalFailures.value + n) _)
      ((hperm.count_eq _).symm.trans (count_reports_of_blamed .failure hreports))
  · have hnone := (hperm.count_eq _).symm.trans (count_reports_of_blamed .success hreports)
    exact (congrArg (fun n => min (s.totalSuccesses.value + n) _) hnone).trans
      (Nat.min_eq_left s.totalSuccesses.value_le)

/-- A request for an address of a foreign scheme, with the default settings for retries: it is over after
three exchanges, and the breaker has counted three failures. -/
theorem unbuilt_request_blamed_thrice :
    ∃ l : Layer, Layer.build 0 true {} = .ok l ∧
      let request : Request :=
        { method := "GET", url := ⟨"ftp", "", "", some "a.test", none, .segments [""], none, none⟩ }
      let ask : Move Request := .next 0 .origin
        (Surroundings.calm (fun _ => .error (NetworkFault.address request.url).error) [])
      let moves := .begin request :: List.replicate 40 ask
      (∀ t ∈ (l.overNetwork.run {} moves).strands, Hopeless l t ∧ (outcomes t.log).length = 3) ∧
        (l.overNetwork.run {} moves).breaker.totalFailures.value = 3 := by
  obtain ⟨l, hl⟩ : ∃ l : Layer, Layer.build 0 true {} = .ok l := ⟨_, rfl⟩
  refine ⟨l, hl, ?_⟩
  intro request ask moves
  obtain ⟨-, -, -, -, heq⟩ := Layer.build_eq_ok_iff.mp hl
  have hall : ∀ t ∈ (l.overNetwork.run {} moves).strands, Hopeless l t := by
    subst heq
    decide +kernel
  have hthree : ∀ t ∈ (l.overNetwork.run {} moves).strands, LayerConfig.exchanges {} t.source = 3 := by
    subst heq
    decide +kernel
  have hone : (l.overNetwork.run {} moves).strands.length = 1 := by
    subst heq
    decide +kernel
  obtain ⟨hblamed, htotals⟩ := unbuilt_request_blamed hl rfl .initial moves
  refine ⟨fun t ht => ⟨hall t ht, ?_⟩, (htotals hall).1.trans ?_⟩
  · obtain ⟨result, -, h⟩ := hblamed t ht (hall t ht)
    rw [h.exchanges, hthree t ht]
  · obtain ⟨t, ht⟩ := List.length_eq_one_iff.mp hone
    have := hthree t (by rw [ht]; exact List.mem_singleton_self t)
    rw [ht]
    simp [this, BreakerState.initial]

/-- The error does not leave the breaker alone: three attempts of one request that cannot be built open a
circuit, and the request ends with an error that counts against the dependency. -/
theorem not_unbuilt_request_harmless :
    ¬ ∀ (c : LayerConfig) (l : Layer) (moves : List (Move Request)) (t : Strand Request Outcome),
      Layer.build 0 true c = .ok l → c.breaker.enabled = true →
        (l.overNetwork.run {} moves).strands = [t] → Hopeless l t →
          (l.overNetwork.run {} moves).breaker.totalFailures.value = 0 ∧
            (l.overNetwork.run {} moves).breaker.circuit = .closed ∧ (outcomes t.log).length = 1 ∧
            ∃ e, t.rest = .done (.error e) ∧ e.isDependencyFailure = false := by
  intro hall
  let request : Request :=
    { method := "GET", url := ⟨"ftp", "", "", some "a.test", none, .segments [""], none, none⟩ }
  let ask : Move Request := .next 0 .origin
    (Surroundings.calm (fun _ => .error (NetworkFault.address request.url).error) [])
  let moves := .begin request :: List.replicate 40 ask
  obtain ⟨l, hl⟩ : ∃ l : Layer, Layer.build 0 true { breaker := { failureThreshold := 3 } } = .ok l :=
    ⟨_, rfl⟩
  obtain ⟨-, -, -, -, heq⟩ := Layer.build_eq_ok_iff.mp hl
  have hone : (l.overNetwork.run {} moves).strands.length = 1 := by
    subst heq
    decide +kernel
  have hhopeless : ∀ t ∈ (l.overNetwork.run {} moves).strands, Hopeless l t := by
    subst heq
    decide +kernel
  obtain ⟨t, ht⟩ := List.length_eq_one_iff.mp hone
  obtain ⟨-, hclosed, -⟩ := hall _ l moves t hl rfl ht (hhopeless t (by rw [ht]; exact List.mem_singleton_self t))
  have hopened : (l.overNetwork.run {} moves).breaker.circuit = .opened := by
    subst heq
    decide +kernel
  rw [hopened] at hclosed
  cases hclosed

end Whole

end Resilience
