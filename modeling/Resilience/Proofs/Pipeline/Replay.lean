/-
# Requests that can be repeated

Whether a request can be sent more than once is settled when it is built: all that counts is the body
that was set last, and whether an accessor was given for it since.  This file says so for every chain of
calls, and that neither the attempts nor the loop ever find it otherwise.

* `EndsInStream`: the body that a chain sets last can be read once, and no accessor is given after it.
* `isReplayable_build_eq_false_iff`: exactly such a chain makes a request that cannot be repeated.  Both
  sides follow the same rule for one more call, so the induction on the chain has nothing else to do.
* `Request.afterAttempts`: what is left of a request after attempts of any indices, in any order; there
  is always as much left of it as is needed for another one (`isSome_forAttempt?_succ`).
* `Layer.BodyLost`: the two ways in which a request ends because its body cannot be had again;
  `Loop.bodyLost` says that there is no third one, and `Loop.getLast?_ne` that no attempt lacks its body.
* `replayability_of_built_request`: the whole.
-/
import Mathlib.Data.List.Basic
import Mathlib.Data.List.Induction
import Resilience.Proofs.Pipeline.Payload

namespace Resilience

/-! ## 1. Chains of calls -/

/-- The body that the chain sets last is one that can be read once, and no accessor is given after it. -/
def EndsInStream (calls : List BuilderCall) : Prop :=
  ∃ front content back, calls = front ++ .withStream content :: back ∧ ∀ c ∈ back, c.IsHeader

section Chains

variable {r : Request} {calls : List BuilderCall} {c : BuilderCall}

/-- A call leaves a request that cannot be repeated if it sets such a body, or if it changes headers of
one that cannot be repeated. -/
theorem isReplayable_apply_eq_false_iff : (c.apply r).isReplayable = false ↔
    (∃ content, c = .withStream content) ∨ (c.IsHeader ∧ r.isReplayable = false) := by
  cases c with
  | withHeader | appendHeader | eraseHeader =>
    exact ⟨fun h => Or.inr ⟨trivial, h⟩, fun h => h.elim nofun fun h => h.2⟩
  | withStream content => exact ⟨fun _ => Or.inl ⟨content, rfl⟩, fun _ => rfl⟩
  | withBody | withJson | withReplay =>
    simp [BuilderCall.apply, BuilderCall.IsHeader, Request.isReplayable, Request.withJson,
      Request.withBody, Request.withReplay]

/-- A chain with one more call ends in such a body if the call sets it, or if it changes headers after a
chain that does. -/
theorem endsInStream_concat_iff : EndsInStream (calls ++ [c]) ↔
    (∃ content, c = .withStream content) ∨ (c.IsHeader ∧ EndsInStream calls) := by
  constructor
  · rintro ⟨front, content, back, hcalls, hback⟩
    rcases List.eq_nil_or_concat back with rfl | ⟨back, last, rfl⟩
    · exact Or.inl ⟨content, (List.append_inj' hcalls rfl).2 |> List.singleton_inj.mp⟩
    · rw [List.concat_eq_append] at hcalls hback
      rw [← List.cons_append, ← List.append_assoc] at hcalls
      obtain ⟨rfl, hlast⟩ := List.append_inj' hcalls rfl
      cases hlast
      refine Or.inr ⟨hback c (by simp), front, content, back, rfl, fun d hd => hback d ?_⟩
      exact List.mem_append_left _ hd
  · rintro (⟨content, rfl⟩ | ⟨hc, front, content, back, rfl, hback⟩)
    · exact ⟨calls, content, [], rfl, nofun⟩
    · refine ⟨front, content, back ++ [c], by simp, fun d hd => ?_⟩
      rcases List.mem_append.mp hd with hd | hd
      · exact hback d hd
      · rwa [List.mem_singleton.mp hd]

/-- **Exactly a chain that ends in such a body makes a request that cannot be repeated.** -/
theorem isReplayable_build_eq_false_iff (method : String) (url : Url) (calls : List BuilderCall) :
    (Request.build { method, url } calls).isReplayable = false ↔ EndsInStream calls := by
  induction calls using List.reverseRecOn with
  | nil =>
    refine ⟨nofun, ?_⟩
    rintro ⟨front, content, back, hcalls, -⟩
    simp at hcalls
  | append_singleton calls c ih =>
    have hbuild : Request.build { method, url } (calls ++ [c]) =
        c.apply (Request.build { method, url } calls) := by
      simp only [Request.build, List.foldl_append, List.foldl_cons, List.foldl_nil]
    rw [hbuild, isReplayable_apply_eq_false_iff, endsInStream_concat_iff, ih]

end Chains

/-! ## 2. Attempts in any order -/

namespace Request

/-- What is left of the request after an attempt; one that cannot be made leaves it as it is. -/
def attempted (r : Request) (attempt : Nat) : Request :=
  match r.forAttempt? attempt with
  | some (_, kept) => kept
  | none => r

/-- What is left of the request after attempts of these indices. -/
def afterAttempts (r : Request) (attempts : List Nat) : Request := attempts.foldl attempted r

variable {r : Request}

theorem isReplayable_attempted (attempt : Nat) :
    (r.attempted attempt).isReplayable = r.isReplayable := by
  unfold attempted
  split
  · rename_i h
    exact isReplayable_of_forAttempt? h
  · rfl

/-- **Attempts do not change whether there can be another one.** -/
theorem isReplayable_afterAttempts (attempts : List Nat) :
    (r.afterAttempts attempts).isReplayable = r.isReplayable := by
  induction attempts generalizing r with
  | nil => rfl
  | cons attempt attempts ih => exact ih.trans (isReplayable_attempted attempt)

/-- **A later attempt can be made exactly if the request can be repeated.** -/
theorem isSome_forAttempt?_succ (r : Request) (n : Nat) :
    (r.forAttempt? (n + 1)).isSome = r.isReplayable := by
  unfold forAttempt? isReplayable
  rw [if_neg (Nat.succ_ne_zero n)]
  cases r.hasBody with
  | false => rfl
  | true => cases r.replay <;> rfl

end Request

/-! ## 3. Where the loop ends for want of a body -/

namespace Layer

variable {l : Layer} {left attempt : Nat} {request kept : Request} {log made front : List Asked}
  {o result : Outcome}

/-- **No attempt lacks its body**, if the request can be repeated or the attempt is the first: the loop
never ends directly after a look that has found the context alive. -/
theorem Loop.getLast?_ne (h : l.Loop .exchange left attempt request log result)
    (hsend : attempt ≠ 0 → request.isReplayable = true) : log.getLast? ≠ some ⟨.context, none⟩ := by
  induction h with
  | ended reason => simp
  | unsendable h => exact absurd h (Request.forAttempt?_ne_none hsend)
  | succeeded h ho ht => simp [Layer.ended, Asked.notice]
  | aborted h ho => simp [Asked.line]
  | exhausted h ho ht => simp [Asked.line]
  | notReplayable h ho ht hk => simp [Asked.line]
  | interrupted reason h ho ht hk hd => simp
  | @retried left attempt request kept o made tell draw rest f delay line result h ho ht hk hd next
      ih =>
    have hlog : made ++ (tell ++ (draw ++ l.ended kept attempt f.outcome (some delay) ::
          .line line :: ⟨.pause delay, none⟩ :: rest)) =
        (made ++ (tell ++ (draw ++ [l.ended kept attempt f.outcome (some delay), .line line,
          ⟨.pause delay, none⟩]))) ++ rest := by
      simp only [List.append_assoc, List.cons_append, List.nil_append]
    rw [hlog, List.getLast?_append_of_ne_nil _ next.ne_nil]
    exact ih fun _ => hk

variable (l) in
/-- **Why a loop ends because the body cannot be had again**, from the attempt of this index with `left`
more after it. -/
inductive BodyLost (left attempt : Nat) (request : Request) (log : List Asked) : Prop
  /-- That is what its last exchange came to. -/
  | inside {front : List Outcome} (h : outcomes log = front ++ [.error .bodyNotRetriable])
  /-- The attempt failed and another one was left, but the request cannot be repeated.  The attempt was
  recorded without a delay, and there was none. -/
  | checked {front : List Asked} {o : Outcome} {line : TraceLine}
      (hk : request.isReplayable = false) (hleft : left ≠ 0) (ho : outcomes log = [o])
      (hd : l.due o = some .failure) (hpauses : pauses log = [])
      (hlog : log = front ++ [l.ended request attempt (l.told o) none, .line line])

/-- What neither makes an exchange nor waits may come before. -/
theorem BodyLost.prepend (h : l.BodyLost left attempt request log) (hf : outcomes front = [])
    (hp : Prompt front) : l.BodyLost left attempt request (front ++ log) := by
  rcases h with h | ⟨hk, hleft, ho, hd, hpauses, rfl⟩
  · exact .inside (by rw [outcomes_append, hf, h, List.nil_append])
  · refine .checked hk hleft ?_ hd ?_ (List.append_assoc ..).symm
    · rw [outcomes_append, hf, ho, List.nil_append]
    · rw [pauses_append, hp.pauses_eq_nil, hpauses, List.nil_append]

/-- An error that is a failure is the outcome itself. -/
theorem eq_of_judge_eq_failure {e : HttpError} (h : l.judge o = .failure (.error e)) :
    o = .error e ∧ e.isDependencyFailure = true := by
  unfold judge at h
  split at h <;> split at h <;> cases h
  rename_i he
  exact ⟨rfl, he⟩

/-- **There is no third way.**  The induction is over the rules of the loop: after a retry the request can
be repeated, so what comes later ends inside. -/
theorem Loop.bodyLost (h : l.Loop .exchange left attempt request log result)
    (hr : result = .error .bodyNotRetriable)
    (hsend : attempt ≠ 0 → request.isReplayable = true) : l.BodyLost left attempt request log := by
  induction h with
  | ended reason => cases reason <;> cases hr
  | interrupted reason h ho ht hk hd => cases reason <;> cases hr
  | succeeded h ho ht => cases hr
  | unsendable h => exact absurd h (Request.forAttempt?_ne_none hsend)
  | @aborted left attempt request kept o made e line h ho =>
    cases hr
    obtain ⟨rfl, -⟩ := judge_eq_aborted ho
    have houtcomes : outcomes (made ++ [.line line]) = [] ++ [.error .bodyNotRetriable] := by
      rw [outcomes_append, h.outcomes_eq]
      rfl
    exact .inside houtcomes
  | @exhausted attempt request kept o made tell f line h ho ht =>
    cases f with
    | response r => cases hr
    | error e =>
      rw [lastWord] at hr
      split at hr
      · cases hr
      · cases hr
        cases (eq_of_judge_eq_failure ho).2
  | @notReplayable left attempt request kept o made tell f line h ho ht hk =>
    obtain ⟨hdue, htold⟩ := due_eq_of_failure ho
    have houtcomes : outcomes (made ++ (tell ++ [l.ended kept attempt f.outcome none, .line line])) =
        [o] := h.outcomes_append _ (quiet_tellFailure l) ht
    have hpauses : pauses (made ++ (tell ++ [l.ended kept attempt f.outcome none, .line line])) = [] := by
      rw [pauses_append, h.prompt.pauses_eq_nil, pauses_append, (prompt_tellFailure ht).pauses_eq_nil]
      rfl
    have hlog : made ++ (tell ++ [l.ended kept attempt f.outcome none, .line line]) =
        (made ++ tell) ++ [l.ended request attempt (l.told o) none, .line line] := by
      rw [h.ended_eq, htold, List.append_assoc]
    exact .checked (h.isReplayable_eq ▸ hk) (Nat.succ_ne_zero left) houtcomes hdue hpauses hlog
  | @retried left attempt request kept o made tell draw rest f delay line result h ho ht hk hd next
      ih =>
    rcases ih hr fun _ => hk with ⟨hinside⟩ | ⟨hlost, -⟩
    · have houtcomes : outcomes (l.ended kept attempt f.outcome (some delay) :: .line line ::
          ⟨.pause delay, none⟩ :: rest) = _ := hinside
      have hwhole := h.outcomes_backOff (l.ended kept attempt f.outcome (some delay) ::
        .line line :: ⟨.pause delay, none⟩ :: rest) ht hd
      rw [houtcomes, ← List.cons_append] at hwhole
      exact .inside hwhole
    · rw [hk] at hlost
      cases hlost

/-- **A request never ends for want of a body at its attempts themselves**, and if it ends because the body
cannot be had again, it is in one of the two ways. -/
theorem Sent.bodyLost (h : l.Sent .exchange request log result) :
    log.getLast? ≠ some ⟨.context, none⟩ ∧
      (result = .error .bodyNotRetriable → l.BodyLost (l.budget - 1) 0 request log) := by
  cases h with
  | ended reason =>
    refine ⟨by simp, fun hr => ?_⟩
    cases reason <;> cases hr
  | refused h =>
    cases h with
    | rejected wait hb => exact ⟨by simp [Asked.line], nofun⟩
  | @entered line asked log result h hloop =>
    have hquiet : outcomes (.line line :: ⟨.context, none⟩ :: asked) = [] := h.quiet.1
    constructor
    · have hlast := hloop.getLast?_ne fun h0 => absurd rfl h0
      rw [← List.cons_append, ← List.cons_append, List.getLast?_append_of_ne_nil _ hloop.ne_nil]
      exact hlast
    · intro hr
      exact (hloop.bodyLost hr fun h0 => absurd rfl h0).prepend hquiet (h.prompt_front line)

end Layer

/-! ## 4. The whole -/

/-- **When a request can be repeated.**  Take any chain of calls.  The request that it makes cannot be
repeated exactly if the body that is set last can be read once and no accessor is given for it since.  Its
first attempt can be made; after that and any attempts of any indices, in any order, a later attempt can be
made exactly if the request can be repeated, and this is still as it was.  So no attempt through any layer,
in any surroundings, lacks its body, which is when nothing would follow the look at the context before it;
and a request that ends because its body cannot be had again either learned so from its last exchange, or
was found so after its first attempt, before any delay. -/
theorem replayability_of_built_request (method : String) (url : Url) (calls : List BuilderCall) :
    let request := Request.build { method, url } calls
    (request.isReplayable = false ↔ EndsInStream calls) ∧
      (∃ sent kept, request.forAttempt? 0 = some (sent, kept) ∧ ∀ attempts : List Nat,
        (kept.afterAttempts attempts).isReplayable = request.isReplayable ∧
          ∀ n, ((kept.afterAttempts attempts).forAttempt? (n + 1)).isSome = request.isReplayable) ∧
      ∀ (l : Layer) (env : Surroundings),
        (env.log (l.send .exchange request)).getLast? ≠ some ⟨.context, none⟩ ∧
          (env.result (l.send .exchange request) = .error .bodyNotRetriable →
            l.BodyLost (l.budget - 1) 0 request (env.log (l.send .exchange request))) := by
  intro request
  refine ⟨isReplayable_build_eq_false_iff method url calls, ⟨_, _, rfl, fun attempts => ?_⟩, ?_⟩
  · have hkept : ({ request with body := none } : Request).isReplayable = request.isReplayable := rfl
    have hafter := Request.isReplayable_afterAttempts (r := { request with body := none }) attempts
    refine ⟨hafter.trans hkept, fun n => ?_⟩
    exact (Request.isSome_forAttempt?_succ _ n).trans (hafter.trans hkept)
  · intro l env
    exact (Layer.send_sent (env.yields (l.send .exchange request))).bodyLost

/-- A body in memory, then one that can be read once, then a header: after status 503 there is no second
attempt. -/
theorem replayability_of_streamed_request :
    ∃ l : Layer, Layer.build 0 true {} = .ok l ∧
      let calls : List BuilderCall :=
        [.withBody ⟨#[1]⟩, .withStream ⟨#[2]⟩, .withHeader "x-id" ⟨#[55]⟩]
      let url : Url := ⟨"http", "", "", some "a.test", none, .segments [""], none, none⟩
      let request := Request.build { method := "PUT", url } calls
      let env := Surroundings.calm fun _ => .ok { status := ⟨503⟩ }
      EndsInStream calls ∧ env.result (l.send .exchange request) = .error .bodyNotRetriable ∧
        l.BodyLost 2 0 request (env.log (l.send .exchange request)) := by
  obtain ⟨l, hl⟩ : ∃ l : Layer, Layer.build 0 true {} = .ok l := ⟨_, rfl⟩
  refine ⟨l, hl, ?_⟩
  intro calls url request env
  obtain ⟨hiff, -, hlost⟩ := replayability_of_built_request "PUT" url calls
  have hresult : env.result (l.send .exchange request) = .error .bodyNotRetriable := by
    obtain ⟨k, hk⟩ := Surroundings.stops_calm (fun _ => .ok { status := ⟨503⟩ }) hl request
    have h0 : k = 0 := by
      refine Nat.eq_zero_of_not_pos fun hpos => ?_
      exact hk.first 0 (Nat.le_refl 0) hpos (Or.inr (Or.inr (Or.inr rfl)))
    subst h0
    exact hk.result_eq
  have hbudget : l.budget = 3 := (Layer.budget_eq hl).1
  have hchecked := (hlost l env).2 hresult
  rw [hbudget] at hchecked
  exact ⟨hiff.mp rfl, hresult, hchecked⟩

end Resilience
