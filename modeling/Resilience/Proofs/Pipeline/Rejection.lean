/-
# What a rejected request is told

A request that the breaker rejects asks it once more, for the time to wait, and ends with the answer.
The two questions are two critical sections, so other requests, and callers that talk to the breaker
themselves, may come between them.  This file says what the request is told then.

* `Layer.traffic`: requests through a layer, and calls of its breaker, side by side.
* `Layer.Sent.of_rejected`: a rejected request asks for the time to wait, and ends with the answer.
* `Interleaving.exists_leaves`: a circuit that was open and is not has been left in between, by a reset
  or by a probe.
* `TurnedAway`: the rejection and the question for the time to wait, with all that came between them.
* `rejection_tells_wait`: **while the circuit stays open the request is told when to come back.**  It is
  told of no time only if somebody else has ended the stay in between.
* `rejection_without_wait`: and that can happen.
-/
import Resilience.Proofs.Breaker.Notices
import Resilience.Proofs.Pipeline.Course

namespace Resilience

open Interleaving

/-! ## 1. What a rejected request asks -/

namespace Layer

variable {l : Layer} {left attempt : Nat} {request : Request} {log more : List Asked} {result : Outcome}

variable (l) in
/-- The breaker of the layer makes no decision in the log. -/
def Undecided (log : List Asked) : Prop := ∀ x ∈ log, x.query ≠ .breaker l.index .decide

theorem Undecided.append (h : l.Undecided log) (hm : l.Undecided more) : l.Undecided (log ++ more) :=
  fun x hx => (List.mem_append.mp hx).elim (h x) (hm x)

theorem undecided_singleton {x : Asked} (hx : x.query ≠ .breaker l.index .decide) : l.Undecided [x] := by
  intro y hy
  rwa [List.mem_singleton.mp hy]

theorem Answered.undecided {kept : Request} {o : Outcome} {made : List Asked}
    (h : Answered .exchange attempt request kept o made) : l.Undecided made := by
  obtain ⟨outgoing, -, rfl⟩ := h.eq
  simp [Undecided]

theorem announces_ne_decide {q : Query} (h : q.Announces l.index) : q ≠ .breaker l.index .decide := by
  rintro rfl
  exact h

theorem undecided_tellSuccess {tell : List Asked} (ht : l.tellSuccess.Yields tell ()) :
    l.Undecided tell :=
  (only_tellSuccess nofun fun _ => announces_ne_decide).of_mem ht

theorem undecided_tellFailure {tell : List Asked} (ht : l.tellFailure.Yields tell ()) :
    l.Undecided tell :=
  (only_tellFailure nofun fun _ => announces_ne_decide).of_mem ht

/-- Neither a line ... -/
theorem undecided_line (line : TraceLine) : l.Undecided [.line line] :=
  undecided_singleton (by simp [Asked.line])

/-- ... nor the record of an attempt ... -/
theorem undecided_ended (outcome : AttemptOutcome) (backoff : Option Duration) :
    l.Undecided [l.ended request attempt outcome backoff] :=
  undecided_singleton (by simp [ended, Asked.notice])

/-- ... nor a delay, with what is told of it, asks for a decision. -/
theorem undecided_delayed {draw : List Asked} {delay : Duration}
    (hd : (l.strategy.nextBackoff l.index attempt).Yields draw delay) (outcome : AttemptOutcome)
    (line : TraceLine) (answer : Option ContextEnd) :
    l.Undecided (draw ++ [l.ended request attempt outcome (some delay), .line line,
      ⟨.pause delay, answer⟩]) := by
  have honly : (l.strategy.nextBackoff l.index attempt).Only fun q => q ≠ .breaker l.index .decide :=
    Strategy.only_nextBackoff nofun fun _ => nofun
  have hpause : l.Undecided [⟨.pause delay, answer⟩] := undecided_singleton nofun
  exact Undecided.append (honly.of_mem hd)
    ((undecided_ended outcome (some delay)).append ((undecided_line line).append hpause))

/-- **The loop asks for no decision**: that is a matter of the admission. -/
theorem Loop.undecided (h : l.Loop .exchange left attempt request log result) : l.Undecided log := by
  induction h with
  | ended reason => exact undecided_singleton nofun
  | unsendable h => exact undecided_singleton nofun
  | succeeded h ho ht =>
    exact h.undecided.append ((undecided_tellSuccess ht).append
      ((undecided_line _).append (undecided_ended _ _)))
  | aborted h ho => exact h.undecided.append (undecided_line _)
  | exhausted h ho ht | notReplayable h ho ht hk =>
    exact h.undecided.append ((undecided_tellFailure ht).append
      ((undecided_ended _ _).append (undecided_line _)))
  | interrupted reason h ho ht hk hd =>
    exact h.undecided.append ((undecided_tellFailure ht).append (undecided_delayed hd _ _ _))
  | @retried left attempt request kept o made tell draw rest f delay line result h ho ht hk hd hnext ih =>
    have hwait : l.Undecided (draw ++ [l.ended kept attempt f.outcome (some delay), .line line,
        ⟨.pause delay, none⟩] ++ rest) := (undecided_delayed hd f.outcome line none).append ih
    rw [List.append_assoc] at hwait
    exact h.undecided.append ((undecided_tellFailure ht).append hwait)

/-- **A rejected request asks for the time to wait, and ends with the answer.** -/
theorem Sent.of_rejected (h : l.Sent .exchange request log result)
    (hx : l.learned .decide .rejected ∈ log) :
    ∃ opening wait line line' notice, result = .error (.circuitOpen wait) ∧
      log = opening ++ l.learned .decide .rejected :: ([.line line, .notice l.index notice] ++
        l.learned .remaining wait :: [.line line']) := by
  cases h with
  | @ended line reason =>
    rcases List.mem_cons.mp hx with hx | hx
    · cases hx
    · cases List.mem_singleton.mp hx
  | @refused line asked e h =>
    cases h with
    | rejected wait hb => exact ⟨[_, _, _], wait, _, _, _, rfl, rfl⟩
  | @entered line asked log result h hl =>
    -- the request was admitted, so nobody has rejected it
    exfalso
    simp only [List.mem_cons, List.mem_append] at hx
    rcases hx with hx | hx | hx | hx
    · cases hx
    · cases hx
    · cases h <;> simp [learned, Asked.line, Asked.notice] at hx
    · exact hl.undecided _ hx rfl

end Layer

/-! ## 2. The time to wait -/

namespace BreakerState

variable {config : BreakerConfig} {now : Instant} {s : BreakerState}

/-- A breaker that rejects a call is open, and stays so. -/
theorem opened_of_rejected (h : (s.admission config now).1 = .rejected) :
    (s.admission config now).2.circuit = .opened := by
  unfold admission at h ⊢
  split at h
  · cases h
  · cases h
  · rename_i hc
    split at h
    · cases h
    · rename_i hcool
      simp [hc, hcool]

/-- A reset and a probe are all that an open circuit can be left by. -/
theorem leaving_section {part : Section} (hs : s.circuit = .opened)
    (ht : (s.enter config now part).2.circuit ≠ .opened) :
    part = .reset ∨ part = .decide ∧ (s.admission config now).1 = .probing := by
  cases part with
  | reset => exact .inl rfl
  | decide =>
    by_cases hcool : s.cooledDown config now
    · exact .inr ⟨rfl, by simp [admission, hs, hcool]⟩
    · exact absurd (by simp [enter, admission, hs, hcool]) ht
  | success => exact absurd (by simp [enter, onSuccess, hs]) ht
  | failure => exact absurd (by simp [enter, onFailure, hs]) ht
  | look | remaining | snapshot => exact absurd hs ht

end BreakerState

/-! ## 3. What comes in between -/

namespace Interleaving

variable {ι α : Type} {I : Interleaving ι α} {s t : BreakerState} {trace : List Happening}
  {z : Happening}

variable (I) in
/-- The question ends a stay of the circuit in the open position. -/
def Leaves (z : Happening) : Prop := z.before.circuit = .opened ∧ (z.after I).circuit ≠ .opened

/-- A circuit that was open and is not has been left in between. -/
theorem exists_leaves (h : Linked I s trace t) (hs : s.circuit = .opened)
    (ht : t.circuit ≠ .opened) : ∃ z ∈ trace, Leaves I z := by
  induction h with
  | nil s => exact absurd hs ht
  | @cons x rest t hr ih =>
    by_cases hx : (x.after I).circuit = .opened
    · obtain ⟨z, hz, hleaves⟩ := ih hx ht
      exact ⟨z, List.mem_cons_of_mem _ hz, hleaves⟩
    · exact ⟨x, List.mem_cons_self, hs, hx⟩

/-- The stay is ended by a reset or by a probe. -/
theorem Leaves.asked_eq (h : Leaves I z) (hz : ∀ part, z.asked.query = .breaker I.layer part →
      z.asked = ⟨.breaker I.layer part, (z.before.enter I.config z.now part).1⟩) :
    z.asked.query = .breaker I.layer .reset ∨ z.asked = ⟨.breaker I.layer .decide, .probing⟩ := by
  obtain ⟨hb, ha⟩ := h
  by_cases hq : ∃ part, z.asked.query = .breaker I.layer part
  · obtain ⟨part, hq⟩ := hq
    rw [Happening.after_eq_enter I hq] at ha
    rcases BreakerState.leaving_section hb ha with rfl | ⟨rfl, hp⟩
    · exact .inl hq
    · refine .inr ((hz _ hq).trans ?_)
      rw [BreakerState.enter, hp]
  · rw [Happening.after_eq_before I (by simpa using hq)] at ha
    exact absurd hb ha

/-- The place of one of the questions of a strand among those of all strands. -/
theorem exists_eq_append_cons {i : Nat} {x : Asked} {a b : List Asked}
    (h : (trace.filter fun h => h.strand = i).map Happening.asked = a ++ x :: b) :
    ∃ past y future, trace = past ++ y :: future ∧ (y.strand = i ∧ y.asked = x) ∧
      (past.filter fun h => h.strand = i).map Happening.asked = a ∧
      (future.filter fun h => h.strand = i).map Happening.asked = b := by
  obtain ⟨front, back, hfilter, rfl, hback⟩ := List.map_eq_append_iff.mp h
  obtain ⟨past, rest, rfl, rfl, hrest⟩ := List.filter_eq_append_iff.mp hfilter
  obtain ⟨y, tail, rfl, hy, rfl⟩ := List.map_eq_cons_iff.mp hback
  obtain ⟨others, future, rfl, hothers, hi, rfl⟩ := List.filter_eq_cons_iff.mp hrest
  refine ⟨past ++ others, y, future, (List.append_assoc ..).symm, ⟨of_decide_eq_true hi, hy⟩, ?_, rfl⟩
  rw [List.filter_append, List.filter_eq_nil_iff.mpr hothers, List.append_nil]

end Interleaving

/-! ## 4. Requests and calls side by side -/

/-- Requests through the layer, and calls of its breaker, side by side. -/
def Layer.traffic (l : Layer) :
    Interleaving (Request ⊕ Breaker.Operation) (Outcome ⊕ Breaker.Reply) where
  layer := l.index
  config := l.breaker
  program
    | .inl request => do pure (.inl (← l.send .exchange request))
    | .inr call => do pure (.inr (← call.program l.index l.breaker))

variable {l : Layer} {trace : List Happening} {i : Nat} {wait : Option Duration}

variable (l) in
/-- The request on strand `i` was rejected, asked for the time to wait, and learned `wait`. -/
structure TurnedAway (trace : List Happening) (i : Nat) (wait : Option Duration) (mid : List Happening)
    (x y : Happening) : Prop where
  /-- `mid` is what came between the rejection and the question for the time to wait. -/
  split : ∃ past future, trace = past ++ x :: (mid ++ y :: future)
  rejected : x.strand = i ∧ x.asked = l.learned .decide .rejected
  asked : y.strand = i ∧ y.asked = l.learned .remaining wait
  /-- The request itself has only spoken of its rejection in between. -/
  silent : ∀ z ∈ mid, z.strand = i → ∀ part, z.asked.query ≠ .breaker l.index part
  /-- If the circuit is open at the second question, the request learns a time within the cool-down. -/
  told : y.before.circuit = .opened → ∃ d, wait = some d ∧ d ≤ l.breaker.resetTimeout
  /-- If it is not, the request learns of no time, and somebody else has reset the breaker or has been
  admitted as a probe in between. -/
  untold : y.before.circuit ≠ .opened → wait = none ∧ ∃ z ∈ mid, z.strand ≠ i ∧ Leaves l.traffic z ∧
    (z.asked.query = .breaker l.index .reset ∨ z.asked = l.learned .decide .probing)

/-- **Rejection and reading, in the history of all strands.** -/
theorem exists_turnedAway {s t : BreakerState} {opening : List Asked} {line line' : TraceLine}
    {notice : Notice} (hl : Linked l.traffic s trace t)
    (hanswered : ∀ z ∈ trace, ∀ part, z.asked.query = .breaker l.index part →
      z.asked = ⟨.breaker l.index part, (z.before.enter l.breaker z.now part).1⟩)
    (hlog : (trace.filter fun h => h.strand = i).map Happening.asked =
      opening ++ l.learned .decide .rejected :: ([.line line, .notice l.index notice] ++
        l.learned .remaining wait :: [.line line'])) :
    ∃ mid x y, TurnedAway l trace i wait mid x y := by
  obtain ⟨past, x, rest, rfl, hx, -, hrest⟩ := exists_eq_append_cons hlog
  obtain ⟨mid, y, future, rfl, hy, hmid, -⟩ := exists_eq_append_cons hrest
  have hxa := hanswered x (by simp) .decide (congrArg Asked.query hx.2)
  have hya := hanswered y (by simp) .remaining (congrArg Asked.query hy.2)
  have hwait : wait = y.before.remaining l.breaker y.now := by
    rw [hy.2] at hya
    injection hya
  have hreject : (x.before.admission l.breaker x.now).1 = .rejected := by
    rw [hx.2] at hxa
    injection hxa with _ h
    exact h.symm
  have hsilent : ∀ z ∈ mid, z.strand = i → ∀ part, z.asked.query ≠ .breaker l.index part := by
    intro z hz hzi part
    have : z.asked ∈ [Asked.line line, .notice l.index notice] :=
      hmid ▸ List.mem_map_of_mem (List.mem_filter.mpr ⟨hz, decide_eq_true hzi⟩)
    simp only [List.mem_cons, List.not_mem_nil, or_false] at this
    rcases this with h | h <;> rw [h] <;> nofun
  -- the breaker between the two questions
  obtain ⟨_, -, hl⟩ := linked_append_iff.mp hl
  obtain ⟨-, hl⟩ := linked_cons_iff.mp hl
  obtain ⟨u, hl, hfuture⟩ := linked_append_iff.mp hl
  obtain ⟨rfl, -⟩ := linked_cons_iff.mp hfuture
  have hopen : (x.after l.traffic).circuit = .opened := by
    have hq : x.asked.query = .breaker l.index .decide := congrArg Asked.query hx.2
    rw [Happening.after_eq_enter l.traffic hq]
    exact BreakerState.opened_of_rejected hreject
  refine ⟨mid, x, y, ⟨past, future, rfl⟩, hx, hy, hsilent, fun ho => ?_, fun ho => ?_⟩
  · cases hd : wait with
    | none => exact absurd ho (BreakerState.remaining_eq_none_iff.mp (hwait.symm.trans hd))
    | some d => exact ⟨d, rfl, BreakerState.remaining_le (hwait.symm.trans hd)⟩
  · refine ⟨hwait.trans (BreakerState.remaining_eq_none_iff.mpr ho), ?_⟩
    obtain ⟨z, hz, hleaves⟩ := exists_leaves hl hopen ho
    have hza := hleaves.asked_eq (hanswered z (by simp [hz]))
    refine ⟨z, hz, fun hzi => ?_, hleaves, hza⟩
    rcases hza with hq | hq
    · exact hsilent z hz hzi _ hq
    · exact hsilent z hz hzi _ (congrArg Asked.query hq)

/-- The time to wait that a rejected request is told. -/
def toldWait? : Outcome → Option (Option Duration)
  | .error (.circuitOpen wait) => some wait
  | _ => none

theorem toldWait?_eq_some_iff {o : Outcome} : toldWait? o = some wait ↔ o = .error (.circuitOpen wait) := by
  constructor
  · intro h
    unfold toldWait? at h
    split at h
    · rw [Option.some.inj h]
    · cases h
  · rintro rfl
    rfl

/-- What a request that its layer has rejected has ended with. -/
def Layer.refusal? (l : Layer) (s : Strand (Request ⊕ Breaker.Operation) (Outcome ⊕ Breaker.Reply)) :
    Option Outcome :=
  match s.rest with
  | .done (.inl result) => if s.log.any (Asked.isRefusal l.index) then some result else none
  | _ => none

theorem Layer.refusal?_eq_some_iff {result : Outcome}
    {s : Strand (Request ⊕ Breaker.Operation) (Outcome ⊕ Breaker.Reply)} :
    l.refusal? s = some result ↔ s.rest = .done (.inl result) ∧ l.learned .decide .rejected ∈ s.log := by
  have hany : s.log.any (Asked.isRefusal l.index) = true ↔ l.learned .decide .rejected ∈ s.log := by
    rw [List.any_eq_true]
    constructor
    · rintro ⟨x, hx, hrefusal⟩
      unfold Asked.isRefusal at hrefusal
      split at hrefusal
      · obtain ⟨rfl, rfl⟩ := of_decide_eq_true hrefusal
        exact hx
      · cases hrefusal
    · exact fun hx => ⟨_, hx, decide_eq_true ⟨rfl, rfl⟩⟩
  unfold refusal?
  split
  · rename_i o hrest
    rw [hrest, ← hany]
    by_cases h : s.log.any (Asked.isRefusal l.index) <;> simp [h]
  · rename_i hrest
    simpa using fun h => absurd h (hrest result)

/-- **A rejected request is told when to come back, as long as the circuit stays open.**  Let any number
of requests and of calls of the breaker run side by side, however they come between each other and
whatever the clock shows.  A request that its layer rejects ends with the time that it learned, which is
within the cool-down; only if somebody else has reset the breaker or has been admitted as a probe since
the rejection, and the circuit is not open any more, does it learn of none. -/
theorem rejection_tells_wait (l : Layer) (s : BreakerState)
    (moves : List (Move (Request ⊕ Breaker.Operation))) {i : Nat} {result : Outcome}
    (h : (l.traffic.run { breaker := s } moves).strands[i]?.bind l.refusal? = some result) :
    ∃ wait mid x y, result = .error (.circuitOpen wait) ∧
      TurnedAway l (l.traffic.run { breaker := s } moves).trace i wait mid x y := by
  obtain ⟨⟨source, log, rest⟩, hi, h⟩ := Option.bind_eq_some_iff.mp h
  obtain ⟨rfl, hr⟩ := Layer.refusal?_eq_some_iff.mp h
  have hleads := leads_run (I := l.traffic) (w := { breaker := s }) rfl moves _
    (List.mem_of_getElem? hi)
  have hyields := hleads.yields_of_done
  cases source with
  | inr call =>
    -- a call of the breaker has no outcome
    rw [Layer.traffic, Program.yields_bind_iff] at hyields
    obtain ⟨_, reply, _, -, -, hpure⟩ := hyields
    cases hpure
  | inl request =>
    rw [Layer.traffic, Program.yields_bind_iff] at hyields
    obtain ⟨log, o, _, rfl, hsend, hpure⟩ := hyields
    cases hpure
    rw [List.append_nil] at hr hi
    obtain ⟨opening, wait, line, line', notice, rfl, hlog⟩ := (Layer.send_sent hsend).of_rejected hr
    obtain ⟨-, hlogs⟩ := log_eq_run (I := l.traffic) (w := { breaker := s }) rfl rfl moves
    obtain ⟨mid, x, y, hturned⟩ := exists_turnedAway
      (linked_run (I := l.traffic) (w := { breaker := s }) rfl moves)
      (answered_run (I := l.traffic) rfl moves) ((hlogs i _ hi).symm.trans hlog)
    exact ⟨wait, mid, x, y, rfl, hturned⟩

/-- A request that is rejected ten seconds after a failure has opened the circuit, and asks for the time
to wait after ten more. -/
theorem rejection_tells_wait_open :
    let l : Layer := ⟨0, ⟨true, true, 500⟩, { failureThreshold := 1 }, RetryConfig.strategy {}⟩
    let request : Request :=
      { method := "GET", url := ⟨"http", "", "", some "a.test", none, .segments [""], none, none⟩ }
    let ask (strand times : Nat) (seconds : UInt64) : List (Move (Request ⊕ Breaker.Operation)) :=
      List.replicate times
        (.next strand ⟨.ofSeconds seconds⟩ (Surroundings.calm (fun _ => .error .cancelled) []))
    let moves := [.begin (.inr .onFailure), .begin (.inl request)] ++ ask 0 3 0 ++ ask 1 6 10 ++ ask 1 2 20
    (l.traffic.run {} moves).strands[1]?.bind l.refusal? =
        some (.error (.circuitOpen (some (.ofSeconds 40)))) ∧
      ∃ mid x y, TurnedAway l (l.traffic.run {} moves).trace 1 (some (.ofSeconds 40)) mid x y := by
  intro l request ask moves
  have h : (l.traffic.run {} moves).strands[1]?.bind l.refusal? =
      some (.error (.circuitOpen (some (.ofSeconds 40)))) := by
    have hwait : ((l.traffic.run {} moves).strands[1]?.bind l.refusal?).bind toldWait? =
        some (some (.ofSeconds 40)) := by decide +kernel
    obtain ⟨o, ho, hwait⟩ := Option.bind_eq_some_iff.mp hwait
    rw [ho, toldWait?_eq_some_iff.mp hwait]
  obtain ⟨wait, mid, x, y, hresult, hturned⟩ := rejection_tells_wait l .initial moves h
  cases hresult
  exact ⟨h, mid, x, y, hturned⟩

/-- A request is rejected, and learns of no time to wait: between its two questions somebody else has
reset the breaker. -/
theorem rejection_without_wait :
    ¬ ∀ (l : Layer) (moves : List (Move (Request ⊕ Breaker.Operation))) (i : Nat) (result : Outcome),
      (l.traffic.run {} moves).strands[i]?.bind l.refusal? = some result →
        ∃ d, result = .error (.circuitOpen (some d)) ∧ d ≤ l.breaker.resetTimeout := by
  intro hall
  let l : Layer := ⟨0, ⟨true, true, 500⟩, { failureThreshold := 1 }, RetryConfig.strategy {}⟩
  let request : Request :=
    { method := "GET", url := ⟨"http", "", "", some "a.test", none, .segments [""], none, none⟩ }
  let ask (strand times : Nat) : List (Move (Request ⊕ Breaker.Operation)) :=
    List.replicate times (.next strand .origin (Surroundings.calm (fun _ => .error .cancelled) []))
  -- the request looks, is rejected and says so; then comes the reset; then the request asks again
  let moves := [.begin (.inr .onFailure), .begin (.inl request), .begin (.inr .reset)] ++ ask 0 3 ++
    ask 1 6 ++ ask 2 1 ++ ask 1 2
  have hwait : ((l.traffic.run {} moves).strands[1]?.bind l.refusal?).bind toldWait? =
      some none := by decide +kernel
  obtain ⟨o, ho, hwait⟩ := Option.bind_eq_some_iff.mp hwait
  obtain ⟨d, hd, -⟩ := hall l moves 1 o ho
  rw [toldWait?_eq_some_iff.mp hwait] at hd
  cases hd

end Resilience
