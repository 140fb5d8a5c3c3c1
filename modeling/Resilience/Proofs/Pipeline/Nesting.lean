/-
# A layer within a layer

A layer is a transport, so another layer can be put around it.  An outer layer without breaker and
without retries makes one attempt, and passes on how it ends.  This file says what a caller sees who
sends a request through the outer layer and not through the inner one.

* `Request.Built`: the requests that a caller can build.
* `Alike`: two programs end alike, ask the same material questions and leave the breaker alike.
* `Layer.alike_plain`: **the outer layer passes everything on**: it does to a request what the inner
  layer does to the request as it is sent for one attempt.
* `Layer.send_outgoing`: that request has its body but no accessor for it, so the inner layer treats it
  as it treats the request itself, unless that one has a body and an accessor, and the first attempt
  has failed and is not the last.
* `send_nested`: the whole.
-/
import Resilience.Proofs.Pipeline.Course
import Resilience.Proofs.Program.Steady

namespace Resilience

/-! ## 1. Requests as they are built -/

namespace Request

/-- A request that was built by the methods for that. -/
inductive Built : Request → Prop
  | fresh (method : String) (url : Url) : Built { method, url }
  | withHeader {r : Request} (h : Built r) (name : String) (value : ByteArray) :
      Built (r.withHeader name value)
  | appendHeader {r : Request} (h : Built r) (name : String) (value : ByteArray) :
      Built (r.appendHeader name value)
  | eraseHeader {r : Request} (h : Built r) (name : String) : Built (r.eraseHeader name)
  | withBody {r : Request} (h : Built r) (content : ByteArray) : Built (r.withBody content)
  | withStream {r : Request} (h : Built r) (content : ByteArray) : Built (r.withStream content)
  | withReplay {r : Request} (h : Built r) (body : Nat → Body) : Built (r.withReplay body)
  | withJson {r : Request} (h : Built r) (value : Json.Value) : Built (r.withJson value)

variable {r : Request}

/-- A request that was built knows whether it has a body. -/
theorem Built.hasBody_eq (h : r.Built) : r.hasBody = r.body.any fun b => !b.isEmpty := by
  induction h with
  | fresh method url => rfl
  | withHeader h name value ih => exact ih
  | appendHeader h name value ih => exact ih
  | eraseHeader h name ih => exact ih
  | withBody h content ih => rfl
  | withStream h content ih => rfl
  | withReplay h body ih => exact ih
  | withJson h value ih => rfl

end Request

/-! ## 2. A request in parts -/

namespace Layer

variable (l : Layer)

/-- What comes before the attempts. -/
def entry (request : Request) (attempts : Program Outcome) : Program Outcome := do
  .trace (.span "execute" [("method", request.method), ("url", request.url.text)])
  match ← .query .context with
  | some reason => pure (.error (.ofContext reason))
  | none =>
    match ← l.admission with
    | some e => pure (.error e)
    | none => attempts

/-- The first attempt: a look at the context, and the exchange. -/
def first (inner : Transport) (outgoing : Request) (respond : Outcome → Program Outcome) :
    Program Outcome := do
  match ← .query .context with
  | some reason => pure (.error (.ofContext reason))
  | none => respond (← inner outgoing)

/-- What follows the first attempt, with `left` more after it; `kept` is what is left of the request. -/
def respond (inner : Transport) (left : Nat) (kept : Request) (o : Outcome) : Program Outcome :=
  match l.judge o with
  | .success r => l.succeed kept 0 r
  | .aborted e => do
    .trace (.debug "attempt aborted by caller-side error"
      [("attempt", toString 0), ("error", e.message)])
    pure (.error e)
  | .failure f => do
    if l.policy.breakerEnabled then Breaker.onFailure l.index
    match left with
    | 0 =>
      .observe l.index (.attempt (record kept 0 f.outcome none))
      l.giveUp 0 f
    | left + 1 => l.backOff kept 0 f (l.attempts inner left 1 kept)

/-- A request is what comes before the attempts, the first attempt, and what follows it. -/
theorem send_eq (inner : Transport) (r : Request) :
    l.send inner r = l.entry r (first inner (r.outgoing r.body)
      (l.respond inner (l.budget - 1) { r with body := none })) := by
  rw [send, attempts.eq_def]
  rfl

/-! ## 3. Running the parts -/

section Run

variable {l} {env : Surroundings} {past : List Asked} {request outgoing : Request} {p : Program Outcome}
  {respond : Outcome → Program Outcome} {reason : ContextEnd}

/-- The line with which a request begins. -/
def span (request : Request) : Asked :=
  .line (.span "execute" [("method", request.method), ("url", request.url.text)])

theorem span_eq (request : Request) :
    .line (.span "execute" [("method", request.method), ("url", request.url.text)]) = span request :=
  rfl

/-- A request ends at once if its context is over. -/
theorem run_entry_of_ended (h : env (past ++ [span request]) .context = some reason) :
    (l.entry request p).run env past =
      ([span request, ⟨.context, some reason⟩], .error (.ofContext reason)) := by
  rw [entry, Program.run_trace_bind, Program.run_query_bind, span_eq, h, Program.run_pure]

/-- Otherwise its admission is decided, and if it is admitted the attempts begin. -/
theorem run_entry_of_live (l : Layer) (h : env (past ++ [span request]) .context = none) :
    ∃ asked refusal, l.admission.Yields asked refusal ∧ ∀ p : Program Outcome,
      (l.entry request p).run env past =
        match refusal with
        | some e => (span request :: ⟨.context, none⟩ :: asked, .error e)
        | none =>
          ((span request :: ⟨.context, none⟩ :: asked) ++
            (p.run env (past ++ span request :: ⟨.context, none⟩ :: asked)).1,
            (p.run env (past ++ span request :: ⟨.context, none⟩ :: asked)).2) := by
  refine ⟨_, _, l.admission.yields_run env (past ++ [span request] ++ [⟨.context, none⟩]), fun p => ?_⟩
  rw [entry, Program.run_trace_bind, Program.run_query_bind, span_eq, h]
  simp only [Program.run_bind]
  cases (l.admission.run env (past ++ [span request] ++ [⟨.context, none⟩])).2 with
  | some e => simp [Program.run_pure]
  | none => simp

/-- The first attempt is not made if the context is over. -/
theorem run_first_of_ended {inner : Transport} (h : env past .context = some reason) :
    (first inner outgoing respond).run env past =
      ([⟨.context, some reason⟩], .error (.ofContext reason)) := by
  rw [first, Program.run_query_bind, h, Program.run_pure]

/-- Otherwise it is made, ... -/
theorem run_first_of_live {inner : Transport} (h : env past .context = none) :
    (first inner outgoing respond).run env past =
      (⟨.context, none⟩ :: ((inner outgoing >>= respond).run env (past ++ [⟨.context, none⟩])).1,
        ((inner outgoing >>= respond).run env (past ++ [⟨.context, none⟩])).2) := by
  rw [first, Program.run_query_bind, h]

/-- ... and over the innermost transport it is one exchange. -/
theorem run_first_exchange (outgoing : Request) (h : env past .context = none) :
    ∃ o, ∀ respond, (first .exchange outgoing respond).run env past =
      ([⟨.context, none⟩, ⟨.exchange outgoing, o⟩] ++
        ((respond o).run env (past ++ [⟨.context, none⟩, ⟨.exchange outgoing, o⟩])).1,
        ((respond o).run env (past ++ [⟨.context, none⟩, ⟨.exchange outgoing, o⟩])).2) := by
  refine ⟨env (past ++ [⟨.context, none⟩]) (.exchange outgoing), fun respond => ?_⟩
  rw [run_first_of_live h, Transport.exchange, Program.run_query_bind]
  simp only [List.append_assoc, List.cons_append, List.nil_append]

end Run

/-! ## 4. The outer layer passes everything on -/

/-- `p.Plain l`: the layer has no breaker and makes no retries, and the same responses are failing ones
for it as for `l`. -/
structure Plain (p l : Layer) : Prop where
  breaker : p.policy.breakerEnabled = false
  retry : p.policy.retryEnabled = false
  threshold : p.policy.serverErrorThreshold = l.policy.serverErrorThreshold

variable {l} {p : Layer} {inner : Transport} {env : Surroundings} {past log : List Asked}
  {request kept : Request} {left attempt : Nat} {o result : Outcome}

/-- No request ends with a response that is a failing one. -/
theorem Loop.status_lt {r : Response} (h : l.Loop inner left attempt request log result)
    (hr : result = .ok r) : r.status.code < l.policy.serverErrorThreshold.toNat := by
  induction h with
  | @succeeded left attempt request kept o made tell r' line h ho ht =>
    cases hr
    unfold judge at ho
    split at ho <;> split at ho <;> cases ho
    assumption
  | @exhausted attempt request kept o made tell f line h ho ht =>
    cases f with
    | response r => cases hr
    | error e =>
      rw [lastWord] at hr
      split at hr <;> cases hr
  | retried h ho ht hk hd next ih => exact ih hr
  | _ => cases hr

theorem Sent.status_lt {r : Response} (h : l.Sent inner request log (.ok r)) :
    r.status.code < l.policy.serverErrorThreshold.toNat := by
  cases h with
  | entered h hloop => exact hloop.status_lt rfl

/-- **After its attempt a plain layer only tells what came back, and passes it on.** -/
theorem Plain.settles (hp : p.Plain l) (inner : Transport) (kept : Request)
    (ho : ∀ r, o = .ok r → r.status.code < l.policy.serverErrorThreshold.toNat) :
    (p.respond inner 0 kept o).Settles o := by
  cases o with
  | ok r =>
    have hjudge : p.judge (.ok r) = .success r := by
      rw [judge, hp.threshold]
      exact if_pos (ho r rfl)
    rw [respond, hjudge]
    simp only [succeed, hp.breaker]
    exact ⟨trivial, fun _ => ⟨trivial, fun _ => rfl⟩⟩
  | error e =>
    cases he : e.isDependencyFailure with
    | true =>
      have hjudge : p.judge (.error e) = .failure (.error e) := if_pos he
      rw [respond, hjudge]
      simp only [hp.breaker, giveUp, hp.retry]
      exact ⟨trivial, fun _ => ⟨trivial, fun _ => rfl⟩⟩
    | false =>
      have hjudge : p.judge (.error e) = .aborted e := if_neg (by simp [he])
      rw [respond, hjudge]
      exact ⟨trivial, fun _ => rfl⟩

end Layer

/-- A program that settles ends with its result and asks nothing material. -/
theorem Program.Settles.run {α : Type} {p : Program α} {a : α} (h : p.Settles a) (env : Surroundings)
    (past : List Asked) : (p.run env past).2 = a ∧ material (p.run env past).1 = [] := by
  induction p generalizing past with
  | done b => exact ⟨h, rfl⟩
  | ask q next ih =>
    obtain ⟨hresult, hmaterial⟩ := ih (env past q) (h.2 _) (past ++ [⟨q, env past q⟩])
    refine ⟨hresult, ?_⟩
    have hq : q.isMaterial = false := by
      cases q with
      | observe => rfl
      | trace => rfl
      | _ => exact h.1.elim
    exact (material_cons_of_not hq).trans hmaterial

/-- **Alike**: in the surroundings the two programs end with the same result and ask the same material
questions with the same answers, exchanges among them; and, whatever the clock of the layer's breaker
shows and wherever the breaker stands, they leave it in the same state. -/
structure Alike (l : Layer) (env : Surroundings) (p q : Program Outcome) : Prop where
  result : env.result p = env.result q
  asked : material (env.log p) = material (env.log q)
  breaker : ∀ clock, Steady clock → ∀ s,
    breakerAfter l.index l.breaker clock [] (env.log p) s =
      breakerAfter l.index l.breaker clock [] (env.log q) s

section Alike

variable {l : Layer} {env : Surroundings} {p q r : Program Outcome}

/-- The material questions decide about the breaker. -/
theorem Alike.of_asked (hresult : env.result p = env.result q)
    (hasked : material (env.log p) = material (env.log q)) : Alike l env p q where
  result := hresult
  asked := hasked
  breaker := by
    intro clock hclock s
    rw [breakerAfter_material hclock rfl (env.log p), breakerAfter_material hclock rfl (env.log q),
      hasked]

theorem Alike.trans (h : Alike l env p q) (h' : Alike l env q r) : Alike l env p r :=
  .of_asked (h.result.trans h'.result) (h.asked.trans h'.asked)

end Alike

namespace Layer

variable {l p : Layer} {env : Surroundings}

/-- A plain layer looks at the context twice, and then makes its attempt. -/
theorem Plain.run_send (hp : p.Plain l) (inner : Transport) (r : Request)
    (hfirst : env [span r] .context = none)
    (hsecond : env [span r, ⟨.context, none⟩] .context = none) :
    (p.send inner r).run env [] =
      let attempt := (inner (r.outgoing r.body) >>= p.respond inner 0 { r with body := none }).run env
        [span r, ⟨.context, none⟩, ⟨.context, none⟩]
      (span r :: ⟨.context, none⟩ :: ⟨.context, none⟩ :: attempt.1, attempt.2) := by
  have hbudget : p.budget - 1 = 0 := by
    rw [budget, hp.retry]
    rfl
  have hadmission : ∀ {asked refusal}, p.admission.Yields asked refusal →
      asked = [] ∧ refusal = none := by
    intro asked refusal h
    rw [admission, hp.breaker] at h
    exact Program.yields_pure_iff.mp h
  obtain ⟨asked, refusal, hyields, hrun⟩ := run_entry_of_live p
    (show env ([] ++ [span r]) .context = none from hfirst)
  obtain ⟨rfl, rfl⟩ := hadmission hyields
  have hlive : env ([] ++ span r :: ⟨.context, none⟩ :: []) .context = none := hsecond
  rw [send_eq, hbudget, hrun]
  dsimp only
  rw [run_first_of_live hlive]
  rfl

/-- **A plain layer around another one** does to a request what the other one does to the request as it
is sent for one attempt. -/
theorem alike_plain (hp : p.Plain l) (henv : env.Steady) (r : Request) :
    Alike l env (p.send (l.send .exchange) r) (l.send .exchange (r.outgoing r.body)) := by
  have hsame : ∀ past, material past = [] → env past .context = env [] .context :=
    fun past h => henv past [] h _
  cases hc : env [] .context with
  | some reason =>
    have hended : ∀ (l : Layer) (inner : Transport) (r : Request), (l.send inner r).run env [] =
        ([span r, ⟨.context, some reason⟩], .error (.ofContext reason)) := fun l inner r =>
      (congrArg (fun p => Program.run env p []) (l.send_eq inner r)).trans
        (run_entry_of_ended ((hsame _ rfl).trans hc))
    refine .of_asked ?_ ?_
    · rw [Surroundings.result, Surroundings.result, hended, hended]
    · rw [Surroundings.log, Surroundings.log, hended, hended]
      rfl
  | none =>
    obtain ⟨log, o, hpair⟩ : ∃ log o,
        (l.send .exchange (r.outgoing r.body)).run env [] = (log, o) := ⟨_, _, rfl⟩
    have hyields := (l.send .exchange (r.outgoing r.body)).yields_run env []
    rw [hpair] at hyields
    have hstatus : ∀ r', o = .ok r' → r'.status.code < l.policy.serverErrorThreshold.toNat := by
      rintro r' rfl
      exact (send_sent hyields).status_lt
    -- the inner layer does not see what the outer one has asked so far
    have hinner : (l.send .exchange (r.outgoing r.body)).run env
        [span r, ⟨.context, none⟩, ⟨.context, none⟩] = (log, o) := by
      rw [← hpair]
      exact Program.run_eq_of_material henv _ rfl
    have hwhole := hp.run_send (l.send .exchange) r ((hsame _ rfl).trans hc) ((hsame _ rfl).trans hc)
    rw [Program.run_bind, hinner] at hwhole
    obtain ⟨hresult, hmaterial⟩ := (hp.settles (l.send .exchange) { r with body := none }
      hstatus).run env
        ([span r, ⟨.context, none⟩, ⟨.context, none⟩] ++ log)
    refine .of_asked ?_ ?_
    · rw [Surroundings.result, Surroundings.result, hwhole, hpair]
      exact hresult
    · rw [Surroundings.log, Surroundings.log, hwhole, hpair]
      change material (log ++ _) = material log
      rw [material_append, hmaterial, List.append_nil]

/-! ## 5. A request and what is sent of it -/

/-- Two requests are told alike, and neither has a body that a later attempt would need. -/
structure Bodiless (k k' : Request) : Prop where
  method : k.method = k'.method
  url : k.url = k'.url
  headers : k.headers = k'.headers
  left : k.hasBody = false
  right : k'.hasBody = false

section Compare

variable {k k' : Request} {inner : Transport} {left attempt : Nat} {o : Outcome} {f : LastFailure}

theorem succeed_eq (hm : k.method = k'.method) (hu : k.url = k'.url) (attempt : Nat) (r : Response) :
    l.succeed k attempt r = l.succeed k' attempt r := by
  simp only [succeed, record, hm, hu]

theorem Bodiless.isReplayable (h : k.hasBody = false) : k.isReplayable = true := by
  rw [Request.isReplayable, h]
  rfl

/-- Later attempts do not tell such requests apart. -/
theorem Bodiless.attempts_eq (h : Bodiless k k') (h0 : attempt ≠ 0) :
    l.attempts inner left attempt k = l.attempts inner left attempt k' := by
  induction left using Nat.strongRecOn generalizing attempt with
  | ind left ih =>
    have hsend : ∀ {k : Request}, k.hasBody = false →
        k.forAttempt? attempt = some (k.outgoing none, k) := by
      intro k hk
      rw [Request.forAttempt?, if_neg h0, hk]
      rfl
    have hsame : k.outgoing none = k'.outgoing none := by
      simp only [Request.outgoing, h.method, h.url, h.headers]
    rw [attempts.eq_def, attempts.eq_def]
    simp only [hsend h.left, hsend h.right, hsame, succeed_eq h.method h.url]
    cases left with
    | zero => simp only [record, h.method, h.url]
    | succ left =>
      simp only [backOff, isReplayable h.left, isReplayable h.right, record, h.method, h.url,
        ih left (Nat.lt_succ_self left) (Nat.succ_ne_zero attempt)]

/-- What follows the first attempt does not tell them apart. -/
theorem Bodiless.respond_eq (h : Bodiless k k') :
    l.respond inner left k o = l.respond inner left k' o := by
  simp only [respond, succeed_eq h.method h.url]
  cases left with
  | zero => simp only [record, h.method, h.url]
  | succ left =>
    simp only [backOff, isReplayable h.left, isReplayable h.right, record, h.method, h.url,
      h.attempts_eq Nat.one_ne_zero]

/-- What follows the first attempt depends on what is left of the request only if there is a failure
and another attempt. -/
theorem respond_eq_of_last (hm : k.method = k'.method) (hu : k.url = k'.url)
    (h : l.due o ≠ some .failure ∨ left = 0) :
    l.respond inner left k o = l.respond inner left k' o := by
  rw [respond, respond]
  cases ho : l.judge o with
  | success r => exact succeed_eq hm hu 0 r
  | aborted e => rfl
  | failure f =>
    rcases h with h | rfl
    · exact absurd (due_eq_of_failure ho).1 h
    · simp only [record, hm, hu]

theorem exists_judge_eq_failure (h : l.due o = some .failure) : ∃ f, l.judge o = .failure f := by
  cases ho : l.judge o with
  | failure f => exact ⟨f, rfl⟩
  | success r =>
    rw [(due_eq_of_success ho).1] at h
    cases h
  | aborted e =>
    rw [due_eq_of_aborted ho] at h
    cases h

/-- After a failure that is not the last one the breaker is told, and then the layer backs off. -/
theorem respond_yields {log : List Asked} {result : Outcome} (ho : l.judge o = .failure f)
    (h : (l.respond inner (left + 1) k o).Yields log result) :
    ∃ tell tail, log = tell ++ tail ∧ l.tellFailure.Yields tell () ∧
      (l.backOff k 0 f (l.attempts inner left 1 k)).Yields tail result := by
  simp only [respond, ho] at h
  exact Program.yields_ite_iff.mp h

/-- A failure that is not the last one, and the body cannot be had again. -/
theorem run_respond_of_lost (ho : l.judge o = .failure f) (hk : k.isReplayable = false)
    (env : Surroundings) (past : List Asked) :
    outcomes ((l.respond inner (left + 1) k o).run env past).1 = [] ∧
      ((l.respond inner (left + 1) k o).run env past).2 = .error .bodyNotRetriable := by
  have h := (l.respond inner (left + 1) k o).yields_run env past
  generalize (l.respond inner (left + 1) k o).run env past = run at h ⊢
  obtain ⟨tell, tail, hlog, ht, h⟩ := respond_yields ho h
  rcases backOff_yields h with ⟨-, hresult, line, rfl⟩ | ⟨hk', -⟩
  · refine ⟨?_, hresult⟩
    rw [hlog, outcomes_append, (quiet_tellFailure l).outcomes_eq_nil ht]
    rfl
  · rw [hk] at hk'
    cases hk'

/-- A failure that is not the last one, and the body can be had again: there is a delay. -/
theorem run_respond_of_kept (ho : l.judge o = .failure f) (hk : k.isReplayable = true)
    (env : Surroundings) (past : List Asked) :
    ∃ delay answer, ⟨.pause delay, answer⟩ ∈ ((l.respond inner (left + 1) k o).run env past).1 := by
  have h := (l.respond inner (left + 1) k o).yields_run env past
  generalize (l.respond inner (left + 1) k o).run env past = run at h ⊢
  obtain ⟨tell, tail, hlog, ht, h⟩ := respond_yields ho h
  rcases backOff_yields h with
    ⟨hk', -⟩ | ⟨-, draw, delay, -, ⟨line, reason, -, rfl⟩ | ⟨line, rest, -, rfl⟩⟩
  · rw [hk] at hk'
    cases hk'
  · exact ⟨delay, some reason, by simp [hlog]⟩
  · exact ⟨delay, none, by simp [hlog]⟩

/-- **What a request asks up to its first answer does not depend on what follows it.**  Without an answer
that is all it asks. -/
theorem run_started (l : Layer) (request outgoing : Request) (env : Surroundings) :
    (∃ run, outcomes run.1 = [] ∧
        ∀ respond, (l.entry request (first .exchange outgoing respond)).run env [] = run) ∨
      ∃ front o, outcomes front = [o] ∧ ∀ respond,
        (l.entry request (first .exchange outgoing respond)).run env [] =
          (front ++ ((respond o).run env front).1, ((respond o).run env front).2) := by
  cases hc : env ([] ++ [span request]) .context with
  | some reason =>
    exact Or.inl ⟨([span request, ⟨.context, some reason⟩], .error (.ofContext reason)), rfl,
      fun respond => run_entry_of_ended hc⟩
  | none =>
    obtain ⟨asked, refusal, hyields, hrun⟩ := run_entry_of_live l hc
    have hquiet : outcomes (span request :: ⟨.context, none⟩ :: asked) = [] :=
      (admission_admission hyields).quiet.1
    cases refusal with
    | some e =>
      exact Or.inl ⟨(span request :: ⟨.context, none⟩ :: asked, .error e), hquiet, fun respond => hrun _⟩
    | none =>
      dsimp only at hrun
      generalize span request :: ⟨.context, none⟩ :: asked = front at hrun hquiet
      cases hc' : env ([] ++ front) .context with
      | some reason =>
        refine Or.inl ⟨(front ++ [⟨.context, some reason⟩], .error (.ofContext reason)), ?_, ?_⟩
        · rw [outcomes_append, hquiet]
          rfl
        · intro respond
          rw [hrun, run_first_of_ended hc']
      | none =>
        obtain ⟨o, hfirst⟩ := run_first_exchange outgoing hc'
        refine Or.inr ⟨front ++ [⟨.context, none⟩, ⟨.exchange outgoing, o⟩], o, ?_, ?_⟩
        · rw [outcomes_append, hquiet]
          rfl
        · intro respond
          rw [hrun, hfirst respond]
          simp only [List.nil_append, List.append_assoc]

/-- Without a body, or without a way to have it again, a request and what is sent of it are treated
alike. -/
theorem send_outgoing_eq {r : Request} (hr : r.Built) (h : r.hasBody = false ∨ r.replay = none) :
    l.send .exchange (r.outgoing r.body) = l.send .exchange r := by
  rw [send_eq, send_eq]
  refine congrArg (fun respond => l.entry r (first .exchange (r.outgoing r.body) respond))
    (funext fun o => ?_)
  by_cases hbody : r.hasBody = false
  · exact Bodiless.respond_eq ⟨rfl, rfl, rfl, hr.hasBody_eq.symm.trans hbody, hbody⟩
  · have hreplay : r.replay = none := h.resolve_left hbody
    have hkept : { r.outgoing r.body with body := none } = { r with body := none } := by
      rw [Request.outgoing, ← hr.hasBody_eq, hreplay]
    rw [hkept]

/-- The body of what was sent cannot be had again. -/
theorem not_isReplayable_outgoing {r : Request} (hr : r.Built) (hb : r.hasBody = true) :
    ({ r.outgoing r.body with body := none } : Request).isReplayable = false := by
  have hsent : (r.outgoing r.body).hasBody = true := hr.hasBody_eq.symm.trans hb
  change (!(r.outgoing r.body).hasBody || false) = false
  rw [hsent]
  rfl

/-- **A request and what is sent of it.**  Without a body, or without a way to have it again, the two
are treated alike.  In any case they are treated alike unless the first attempt fails and is not the
last; then what was sent cannot be sent again. -/
theorem send_outgoing {r : Request} (hr : r.Built) (env : Surroundings) :
    ((r.hasBody = false ∨ r.replay = none) →
      l.send .exchange (r.outgoing r.body) = l.send .exchange r) ∧
    ((l.send .exchange (r.outgoing r.body)).run env [] = (l.send .exchange r).run env [] ∨
      ∃ o, 1 < l.budget ∧ l.due o = some .failure ∧ r.hasBody = true ∧ r.replay ≠ none ∧
        outcomes (env.log (l.send .exchange (r.outgoing r.body))) = [o] ∧
        env.result (l.send .exchange (r.outgoing r.body)) = .error .bodyNotRetriable ∧
        (outcomes (env.log (l.send .exchange r))).head? = some o ∧
        ∃ delay answer, ⟨.pause delay, answer⟩ ∈ env.log (l.send .exchange r)) := by
  have hsent : l.send .exchange (r.outgoing r.body) = l.entry r (first .exchange (r.outgoing r.body)
      (l.respond .exchange (l.budget - 1) { r.outgoing r.body with body := none })) := send_eq ..
  refine ⟨send_outgoing_eq hr, ?_⟩
  by_cases hlost : r.hasBody = false ∨ r.replay = none
  · exact Or.inl (congrArg (fun p => Program.run env p []) (send_outgoing_eq hr hlost))
  · obtain ⟨hbody, hreplay⟩ := not_or.mp hlost
    rw [Surroundings.log, Surroundings.log, Surroundings.result, hsent, send_eq]
    rcases run_started l r (r.outgoing r.body) env with ⟨run, -, hrun⟩ | ⟨front, o, hfront, hrun⟩
    · exact Or.inl ((hrun _).trans (hrun _).symm)
    · rw [hrun, hrun]
      by_cases hlast : l.due o ≠ some .failure ∨ l.budget - 1 = 0
      · have hsame : l.respond .exchange (l.budget - 1) { r.outgoing r.body with body := none } o =
            l.respond .exchange (l.budget - 1) { r with body := none } o :=
          respond_eq_of_last rfl rfl hlast
        exact Or.inl (by rw [hsame])
      · obtain ⟨hdue, hleft⟩ := not_or.mp hlast
        obtain ⟨f, hf⟩ := exists_judge_eq_failure (Classical.not_not.mp hdue)
        obtain ⟨left, hl⟩ := Nat.exists_eq_succ_of_ne_zero hleft
        rw [hl]
        have hhas : r.hasBody = true := eq_true_of_ne_false hbody
        have hyes : ({ r with body := none } : Request).isReplayable = true := by
          rw [Request.isReplayable, Option.isSome_iff_ne_none.mpr hreplay, Bool.or_true]
        obtain ⟨hnone, hresult⟩ := run_respond_of_lost hf (not_isReplayable_outgoing hr hhas) env front
        obtain ⟨delay, answer, hpause⟩ := run_respond_of_kept hf hyes env front
        refine Or.inr ⟨o, by omega, Classical.not_not.mp hdue, hhas, hreplay, ?_, hresult, ?_, delay,
          answer, List.mem_append_right _ hpause⟩
        · rw [outcomes_append, hfront, hnone]
          rfl
        · rw [outcomes_append, hfront]
          rfl

end Compare

end Layer

/-! ## 6. The whole -/

/-- **A layer within a plain one.**  In steady surroundings a request that was built ends through both
layers as the request that is sent for one attempt ends through the inner layer alone.  If the request
has no body, or no way to have it again, that is how the request itself ends through the inner layer.
If it has both, it may end otherwise: if the first attempt fails and is not the last, the inner layer
alone waits and tries again, but within the other one it makes no second attempt. -/
theorem send_nested {l p : Layer} (hp : p.Plain l) {r : Request} (hr : r.Built) {env : Surroundings}
    (henv : env.Steady) :
    Alike l env (p.send (l.send .exchange) r) (l.send .exchange (r.outgoing r.body)) ∧
    ((r.hasBody = false ∨ r.replay = none) →
      Alike l env (p.send (l.send .exchange) r) (l.send .exchange r)) ∧
    (Alike l env (p.send (l.send .exchange) r) (l.send .exchange r) ∨
      ∃ o, 1 < l.budget ∧ l.due o = some .failure ∧ r.hasBody = true ∧ r.replay ≠ none ∧
        outcomes (env.log (p.send (l.send .exchange) r)) = [o] ∧
        env.result (p.send (l.send .exchange) r) = .error .bodyNotRetriable ∧
        (outcomes (env.log (l.send .exchange r))).head? = some o ∧
        ∃ delay answer, ⟨.pause delay, answer⟩ ∈ env.log (l.send .exchange r)) := by
  have halike := Layer.alike_plain hp henv r
  obtain ⟨hsame, hcases⟩ := Layer.send_outgoing (l := l) hr env
  refine ⟨halike, fun h => hsame h ▸ halike, ?_⟩
  rcases hcases with heq | ⟨o, hbudget, hdue, hbody, hreplay, hone, hresult, hdirect⟩
  · exact Or.inl (halike.trans (.of_asked (congrArg Prod.snd heq)
      (congrArg (fun run => material run.1) heq)))
  · refine Or.inr ⟨o, hbudget, hdue, hbody, hreplay, ?_, halike.result.trans hresult, hdirect⟩
    rw [← outcomes_material, halike.asked, outcomes_material, hone]

/-- Calm surroundings are steady. -/
theorem Surroundings.steady_calm (s : Nat → Outcome) : (Surroundings.calm s).Steady := by
  intro past past' h q
  cases q with
  | exchange request =>
    change s (outcomes past).length = s (outcomes past').length
    rw [← outcomes_material past, h, outcomes_material]
  | _ => rfl

/-- A request without a body, answered by status 503 and then by status 200. -/
theorem send_nested_without_body :
    let l : Layer := ⟨0, ⟨true, true, 500⟩, {}, RetryConfig.strategy {}⟩
    let p : Layer := ⟨1, ⟨false, false, 500⟩, {}, RetryConfig.strategy {}⟩
    let r : Request :=
      { method := "GET", url := ⟨"http", "", "", some "a.test", none, .segments [""], none, none⟩ }
    let env := Surroundings.calm fun i => .ok { status := ⟨if i < 1 then 503 else 200⟩ }
    p.Plain l ∧ r.Built ∧ env.Steady ∧
      Alike l env (p.send (l.send .exchange) r) (l.send .exchange r) := by
  intro l p r env
  have hp : p.Plain l := ⟨rfl, rfl, rfl⟩
  have hr : r.Built := .fresh ..
  have henv : env.Steady := Surroundings.steady_calm _
  exact ⟨hp, hr, henv, (send_nested hp hr henv).2.1 (Or.inl rfl)⟩

/-- The request ends because its body cannot be had again. -/
def isBodyLost : Outcome → Bool
  | .error .bodyNotRetriable => true
  | _ => false

theorem isBodyLost_iff {o : Outcome} : isBodyLost o = true ↔ o = .error .bodyNotRetriable := by
  constructor
  · intro h
    unfold isBodyLost at h
    split at h
    · rfl
    · cases h
  · rintro rfl
    rfl

/-- A request with a body in memory, answered by status 503 and then by status 200.  Alone, the inner
layer repeats it and it ends well; within a plain layer it is not repeated. -/
theorem send_nested_loses_accessor :
    let l : Layer := ⟨0, ⟨true, true, 500⟩, {}, RetryConfig.strategy {}⟩
    let p : Layer := ⟨1, ⟨false, false, 500⟩, {}, RetryConfig.strategy {}⟩
    let r : Request := Request.withBody
      { method := "PUT", url := ⟨"http", "", "", some "a.test", none, .segments [""], none, none⟩ }
      ⟨#[1]⟩
    let env := Surroundings.calm fun i => .ok { status := ⟨if i < 1 then 503 else 200⟩ }
    p.Plain l ∧ r.Built ∧ env.Steady ∧
      env.result (p.send (l.send .exchange) r) = .error .bodyNotRetriable ∧
      env.result (l.send .exchange r) = .ok { status := ⟨200⟩ } := by
  intro l p r env
  refine ⟨⟨rfl, rfl, rfl⟩, .withBody (.fresh ..) _, Surroundings.steady_calm _, ?_, ?_⟩
  · exact isBodyLost_iff.mp (by decide +kernel)
  · -- the delay is a matter of floating point, so that the second attempt is made is left to the rules
    obtain ⟨k, hk⟩ := Surroundings.stops_calm (fun i => .ok { status := ⟨if i < 1 then 503 else 200⟩ })
      (rfl : Layer.build 0 true {} = .ok l) r
    obtain rfl : k = 1 := LayerConfig.isFinal_first_good (by decide) hk.final fun j hj =>
      hk.first j (Nat.zero_le j) hj
    exact hk.result_eq

end Resilience
