/-
# Calls of a breaker from many threads

A call that asks whether a request may be tried holds the breaker's lock twice: it looks, and if it saw
the circuit open it decides under a lock of its own.  Between the two any other call may come.  This
file says that it still is one step: however the critical sections of any number of calls come between
each other, the calls answer, and leave the breaker, as if they were made one after another.

* `Breaker.Operation`, `Breaker.Reply`: the calls, as programs (`Operation.program`) and in one step
  (`Operation.atomic`).
* `Breaker.Linearizes`: an order of the calls explains a run.
* `Breaker.Pending.step`: **where a call takes effect.**  A call that looks and does not see the circuit
  open takes effect there; one that sees it open has done nothing yet, and takes effect when it
  decides; every other call has a single section.
* `Breaker.linearized_step`: **the invariant.**  Every call either has not taken effect or will answer
  what the order says; a move adds at most one call to the end of the order.
* `Breaker.exists_opening`: between two probes the circuit was opened again.
* `Breaker.calls_linearizable`: the whole.
-/
import Resilience.Proofs.Breaker.History
import Resilience.Proofs.Program.Interleaving

namespace Resilience

open Interleaving

/-! ## 1. Calls, as programs and in one step -/

namespace Breaker

/-- A call of a breaker. -/
inductive Operation where
  /-- Asks whether a call may be made. -/
  | isAllowed
  /-- Reports a success. -/
  | onSuccess
  /-- Reports a failure. -/
  | onFailure
  /-- Forgets everything. -/
  | reset
  /-- Asks for the time until an open circuit has cooled down. -/
  | remaining
  /-- Asks for the position. -/
  | circuit
  /-- Asks for all that is remembered. -/
  | metrics
deriving DecidableEq

/-- What a call answers. -/
inductive Reply where
  | allowed (answer : Bool)
  | finished
  | remaining (wait : Option Duration)
  | circuit (c : Circuit)
  | metrics (s : BreakerState)
deriving DecidableEq

/-- The call as a program: one or two critical sections, then what it tells. -/
def Operation.program (layer : Nat) (config : BreakerConfig) : Operation → Program Reply
  | .isAllowed => do pure (.allowed (← Breaker.isAllowed layer))
  | .onSuccess => do
    Breaker.onSuccess layer config
    pure .finished
  | .onFailure => do
    Breaker.onFailure layer
    pure .finished
  | .reset => do
    Breaker.reset layer
    pure .finished
  | .remaining => do pure (.remaining (← Breaker.remaining layer))
  | .circuit => do pure (.circuit (← Breaker.circuit layer))
  | .metrics => do pure (.metrics (← Breaker.metrics layer))

/-- The call in one step, at the instant `now`: what it answers, and what it leaves behind. -/
def Operation.atomic (config : BreakerConfig) (now : Instant) (s : BreakerState) :
    Operation → Reply × BreakerState
  | .isAllowed => (.allowed (s.isAllowed config now).1, (s.isAllowed config now).2)
  | .onSuccess => (.finished, s.onSuccess config)
  | .onFailure => (.finished, s.onFailure config now)
  | .reset => (.finished, s.reset)
  | .remaining => (.remaining (s.remaining config now), s)
  | .circuit => (.circuit s.circuit, s)
  | .metrics => (.metrics s, s)

/-- Calls of the breaker of a layer that run side by side. -/
def calls (layer : Nat) (config : BreakerConfig) : Interleaving Operation Reply where
  layer := layer
  config := config
  program := Operation.program layer config

/-- How a call that saw the circuit open goes on. -/
def deciding (layer : Nat) : Program Reply := do
  let answer ← enter layer .decide
  match answer with
  | .admitted => pure (.allowed true)
  | .rejected =>
    .trace (.debug "Circuit breaker rejecting call - state: OPEN" [])
    .observe layer (.rejection .opened)
    pure (.allowed false)
  | .probing =>
    .trace (.info "Circuit breaker half-open, admitting probe request" [])
    .observe layer (.transition ⟨.opened, .halfOpen⟩)
    pure (.allowed true)

/-! ## 2. Where a call takes effect -/

section Effect

variable {layer : Nat} {config : BreakerConfig} {now : Instant} {s : BreakerState} {call : Operation}
  {rest : Program Reply}

variable (layer config) in
/-- The call has not taken effect: it has not begun, or has only seen that the circuit was open. -/
inductive Pending : Operation → Program Reply → Prop
  | fresh (call : Operation) : Pending call (call.program layer config)
  | looked : Pending .isAllowed (deciding layer)

theorem program_isAllowed : Operation.program layer config .isAllowed =
    .ask (.breaker layer .look) fun seen => if seen then deciding layer else pure (.allowed true) := by
  simp only [Operation.program, Breaker.isAllowed, enter, Program.query, Program.monad_bind_eq,
    Program.bind_ask, Program.bind_done]
  congr 1
  funext seen
  cases seen with
  | false => rfl
  | true =>
    simp only [if_true, deciding, enter, Program.query, Program.monad_bind_eq, Program.bind_ask,
      Program.bind_done]
    congr 1
    funext answer
    cases answer <;> rfl

/-- A call that decides answers as the question in one step. -/
theorem settles_deciding (layer : Nat) (config : BreakerConfig) :
    ∃ next, deciding layer = .ask (.breaker layer .decide) next ∧
      ∀ (s : BreakerState) (now : Instant),
        (next (s.admission config now).1).Settles (.allowed (s.isAllowed config now).1) := by
  refine ⟨_, rfl, fun s now => ?_⟩
  change Program.Settles _ (Reply.allowed (s.admission config now).1.allows)
  cases (s.admission config now).1 with
  | admitted => rfl
  | rejected => exact ⟨trivial, fun _ => ⟨trivial, fun _ => rfl⟩⟩
  | probing => exact ⟨trivial, fun _ => ⟨trivial, fun _ => rfl⟩⟩

/-- **Where a call takes effect.**  The next question of a call that has not taken effect is for the
breaker.  Either it is a look that leaves the breaker alone, and the call still has not taken effect; or
it does to the breaker what the call in one step does, and the call will answer the same. -/
theorem Pending.step (h : Pending layer config call rest) :
    ∃ part next, rest = .ask (.breaker layer part) next ∧ ∀ s now,
      (part = .look ∧ (s.enter config now part).2 = s ∧
        Pending layer config call (next (s.enter config now part).1)) ∨
      ∃ reply, call.atomic config now s = (reply, (s.enter config now part).2) ∧
        (next (s.enter config now part).1).Settles reply := by
  cases h with
  | looked =>
    obtain ⟨next, heq, hnext⟩ := settles_deciding layer config
    exact ⟨.decide, next, heq, fun s now => Or.inr ⟨_, rfl, hnext s now⟩⟩
  | fresh =>
    cases call with
    | isAllowed =>
      refine ⟨.look, _, program_isAllowed, fun s now => ?_⟩
      by_cases hs : s.circuit = .opened
      · left
        refine ⟨rfl, rfl, ?_⟩
        simp only [BreakerState.enter, hs, beq_self_eq_true, if_true]
        exact .looked
      · right
        refine ⟨.allowed true, ?_, ?_⟩
        · rw [Operation.atomic, BreakerState.isAllowed_of_ne hs]
          rfl
        · have hb : (s.circuit == .opened) = false := beq_eq_false_iff_ne.mpr hs
          simp only [BreakerState.enter, hb]
          rfl
    | onSuccess =>
      obtain ⟨tell, heq, htell⟩ := exists_onSuccess_eq layer config
      rw [Operation.program, heq]
      exact ⟨.success, _, rfl, fun s now =>
        Or.inr ⟨.finished, rfl, (htell _).tells_of_announces.settles _⟩⟩
    | onFailure =>
      obtain ⟨tell, heq, htell⟩ := exists_onFailure_eq layer
      rw [Operation.program, heq]
      exact ⟨.failure, _, rfl, fun s now =>
        Or.inr ⟨.finished, rfl, (htell _).tells_of_announces.settles _⟩⟩
    | reset =>
      obtain ⟨tell, heq, htell⟩ := exists_reset_eq layer
      rw [Operation.program, heq]
      exact ⟨.reset, _, rfl, fun s now =>
        Or.inr ⟨.finished, rfl, (htell _).tells_of_announces.settles _⟩⟩
    | remaining => exact ⟨.remaining, _, rfl, fun s now => Or.inr ⟨_, rfl, rfl⟩⟩
    | circuit => exact ⟨.snapshot, _, rfl, fun s now => Or.inr ⟨_, rfl, rfl⟩⟩
    | metrics => exact ⟨.snapshot, _, rfl, fun s now => Or.inr ⟨_, rfl, rfl⟩⟩

/-- A call that decides asks whether a call may be made. -/
theorem Pending.of_decide {next : BreakerState.Admission → Program Reply}
    (h : Pending layer config call (.ask (.breaker layer .decide) next)) : call = .isAllowed := by
  generalize hr : Program.ask (.breaker layer .decide) next = r at h
  cases h with
  | looked => rfl
  | fresh =>
    cases call with
    | isAllowed => rfl
    | _ => cases hr

end Effect

/-! ## 3. Orders of calls -/

/-- A call in an order of calls. -/
structure Turn where
  /-- The number of the call. -/
  strand : Nat
  call : Operation
  /-- When it takes effect. -/
  now : Instant
  reply : Reply

/-- The calls of an order one after another, each in one step: what they answer, and what they leave
behind. -/
def serial (config : BreakerConfig) (s : BreakerState) : List Turn → List Reply × BreakerState
  | [] => ([], s)
  | t :: rest =>
    let (reply, s) := t.call.atomic config t.now s
    let (replies, s) := serial config s rest
    (reply :: replies, s)

theorem serial_concat (config : BreakerConfig) (s : BreakerState) (order : List Turn) (t : Turn) :
    serial config s (order ++ [t]) =
      ((serial config s order).1 ++ [(t.call.atomic config t.now (serial config s order).2).1],
        (t.call.atomic config t.now (serial config s order).2).2) := by
  induction order generalizing s with
  | nil => rfl
  | cons x order ih => simp only [List.cons_append, serial, ih]

/-- What a call has answered, if it is over. -/
def reply? (w : State Operation Reply) (i : Nat) : Option Reply :=
  match w.strands[i]? with
  | some ⟨_, _, .done reply⟩ => some reply
  | _ => none

theorem reply?_eq_some_iff {w : State Operation Reply} {i : Nat} {reply : Reply} :
    reply? w i = some reply ↔ ∃ strand, w.strands[i]? = some strand ∧ strand.rest = .done reply := by
  rw [reply?]
  constructor
  · intro h
    split at h
    · rename_i hs
      cases h
      exact ⟨_, hs, rfl⟩
    · cases h
  · rintro ⟨⟨call, log, rest⟩, hs, rfl⟩
    rw [hs]

variable (layer : Nat) (config : BreakerConfig)

/-- The calls that the moves make of a breaker in the state `s`. -/
def play (s : BreakerState) (moves : List (Move Operation)) : State Operation Reply :=
  (calls layer config).run { breaker := s } moves

/-- **The order explains the run.**  One after another and each in one step, the calls of the order
answer what they answer in the run, and leave the breaker as the run does. -/
structure Linearizes (s : BreakerState) (moves : List (Move Operation)) (order : List Turn) :
    Prop where
  /-- The order gives the replies and the breaker. -/
  legal : serial config s order = (order.map Turn.reply, (play layer config s moves).breaker)
  /-- A call has one turn at most. -/
  once : (order.map Turn.strand).Nodup
  /-- Each turn is that of a call that has begun. -/
  begun : ∀ t ∈ order, ∃ strand,
    (play layer config s moves).strands[t.strand]? = some strand ∧ strand.source = t.call
  /-- Every call that is over has its turn, with what it answered. -/
  answered : ∀ i reply, reply? (play layer config s moves) i = some reply →
    ∃ t ∈ order, t.strand = i ∧ t.reply = reply
  /-- The instant of a turn was shown at a question of its call. -/
  clocked : ∀ t ∈ order, ∃ h ∈ (play layer config s moves).trace,
    h.strand = t.strand ∧ h.now = t.now
  /-- A call that is over before another one begins has its turn before it. -/
  realTime : ∀ front, front <+: moves → ∀ a ∈ order, ∀ b ∈ order,
    (reply? (play layer config s front) a.strand).isSome →
    (play layer config s front).strands.length ≤ b.strand → List.Sublist [a, b] order

/-! ## 4. The invariant -/

variable {layer config} {s : BreakerState} {w w' : State Operation Reply} {m : Move Operation}
  {order : List Turn} {moves : List (Move Operation)} {i : Nat} {call : Operation}
  {log : List Asked} {reply : Reply}

variable (layer config s) in
/-- What an order of the calls that have taken effect has to do with the state of a run. -/
structure Invariant (w : State Operation Reply) (order : List Turn) : Prop where
  legal : serial config s order = (order.map Turn.reply, w.breaker)
  once : (order.map Turn.strand).Nodup
  /-- A call of the order will answer what the order says. -/
  settled : ∀ t ∈ order, ∃ strand, w.strands[t.strand]? = some strand ∧
    strand.source = t.call ∧ strand.rest.Settles t.reply
  /-- All other calls have not taken effect. -/
  pending : ∀ i strand, w.strands[i]? = some strand → (∀ t ∈ order, t.strand ≠ i) →
    Pending layer config strand.source strand.rest
  clocked : ∀ t ∈ order, ∃ h ∈ w.trace, h.strand = t.strand ∧ h.now = t.now

/-- A question that only tells something leaves the breaker alone. -/
theorem answer_snd_of_tells {I : Interleaving Operation Reply} {now : Instant}
    {env : (q : Query) → q.Answer} {q : Query} (h : q.Tells) : (I.answer now env s q).2 = s := by
  cases q with
  | breaker layer part => exact h.elim
  | _ => rfl

theorem answer_breaker {now : Instant} {env : (q : Query) → q.Answer} {part : Section} :
    (calls layer config).answer now env s (.breaker layer part) = s.enter config now part :=
  if_pos rfl

/-- The order of no call explains a run in which no call has begun. -/
theorem invariant_nil : Invariant layer config s { breaker := s } [] where
  legal := rfl
  once := List.nodup_nil
  settled := by simp
  pending := by simp
  clocked := by simp

/-- **A call that begins keeps the invariant.** -/
theorem Invariant.of_begun (h : Invariant layer config s w order) (call : Operation) :
    Invariant layer config s
      { w with strands := w.strands ++ [⟨call, [], call.program layer config⟩] } order where
  legal := h.legal
  once := h.once
  settled := by
    intro t ht
    obtain ⟨strand, hs, hsettled⟩ := h.settled t ht
    have hlt := (List.getElem?_eq_some_iff.mp hs).1
    exact ⟨strand, (List.getElem?_append_left hlt).trans hs, hsettled⟩
  pending := by
    intro i strand hs hi
    rcases getElem?_concat_cases hs with hs | rfl
    · exact h.pending i strand hs hi
    · exact .fresh call
  clocked := h.clocked

/-- A call that has taken effect will answer what the order says. -/
theorem Invariant.settles (h : Invariant layer config s w order) {rest : Program Reply} {t : Turn}
    (hi : w.strands[i]? = some ⟨call, log, rest⟩) (ht : t ∈ order) (hti : t.strand = i) :
    rest.Settles t.reply := by
  obtain ⟨strand, hs, -, hsettles⟩ := h.settled t ht
  rw [hti, hi] at hs
  cases hs
  exact hsettles

section Asked

variable {q : Query} {next : q.Answer → Program Reply} {answer : q.Answer} {t : Turn}
  {happened : List Happening}

/-- **A question that leaves the breaker alone keeps the invariant**, if its call goes on as it has to. -/
theorem Invariant.of_unchanged (h : Invariant layer config s w order)
    (hi : w.strands[i]? = some ⟨call, log, .ask q next⟩)
    (hsettled : ∀ t ∈ order, t.strand = i → (next answer).Settles t.reply)
    (hpending : (∀ t ∈ order, t.strand ≠ i) → Pending layer config call (next answer)) :
    Invariant layer config s
      { w with
        recorder := (calls layer config).hear w.recorder q
        strands := w.strands.set i ⟨call, log ++ [⟨q, answer⟩], next answer⟩
        trace := w.trace ++ happened } order where
  legal := h.legal
  once := h.once
  settled := by
    intro t ht
    obtain ⟨strand, hs, hcall, hsettles⟩ := h.settled t ht
    by_cases hti : t.strand = i
    · rw [hti, hi] at hs
      cases hs
      rw [hti]
      exact ⟨_, getElem?_set_self hi _, hcall, hsettled t ht hti⟩
    · exact ⟨strand, (List.getElem?_set_ne (Ne.symm hti)).trans hs, hcall, hsettles⟩
  pending := by
    intro j strand hs hj
    rcases getElem?_set_cases hs with ⟨-, hs⟩ | ⟨rfl, rfl⟩
    · exact h.pending j strand hs hj
    · exact hpending hj
  clocked := by
    intro t ht
    obtain ⟨x, hx, hxt⟩ := h.clocked t ht
    exact ⟨x, List.mem_append_left _ hx, hxt⟩

/-- **A call that takes effect takes its turn at the end of the order.** -/
theorem Invariant.of_effect (h : Invariant layer config s w order)
    (hi : w.strands[i]? = some ⟨call, log, .ask q next⟩) (hnot : ∀ t ∈ order, t.strand ≠ i)
    {now : Instant} {breaker : BreakerState}
    (heffect : call.atomic config now w.breaker = (reply, breaker))
    (hsettles : (next answer).Settles reply) :
    Invariant layer config s
      { breaker := breaker
        recorder := (calls layer config).hear w.recorder q
        strands := w.strands.set i ⟨call, log ++ [⟨q, answer⟩], next answer⟩
        trace := w.trace ++ [⟨i, ⟨q, answer⟩, now, w.breaker⟩] }
      (order ++ [⟨i, call, now, reply⟩]) where
  legal := by
    rw [serial_concat, h.legal, heffect, List.map_append]
    rfl
  once := by
    rw [List.map_append]
    refine List.nodup_append.mpr ⟨h.once, by simp, ?_⟩
    intro a ha b hb
    obtain ⟨t, ht, rfl⟩ := List.mem_map.mp ha
    rw [List.map_singleton, List.mem_singleton] at hb
    subst hb
    exact hnot t ht
  settled := by
    intro t ht
    rcases List.mem_append.mp ht with ht | ht
    · obtain ⟨strand, hs, hsettled⟩ := h.settled t ht
      exact ⟨strand, (List.getElem?_set_ne (Ne.symm (hnot t ht))).trans hs, hsettled⟩
    · rw [List.mem_singleton.mp ht]
      exact ⟨_, getElem?_set_self hi _, rfl, hsettles⟩
  pending := by
    intro j strand hs hj
    rcases getElem?_set_cases hs with ⟨-, hs⟩ | ⟨rfl, rfl⟩
    · exact h.pending j strand hs fun t ht => hj t (List.mem_append_left _ ht)
    · exact absurd rfl (hj ⟨j, call, now, reply⟩ (by simp))
  clocked := by
    intro t ht
    rcases List.mem_append.mp ht with ht | ht
    · obtain ⟨x, hx, hxt⟩ := h.clocked t ht
      exact ⟨x, List.mem_append_left _ hx, hxt⟩
    · rw [List.mem_singleton.mp ht]
      exact ⟨_, List.mem_append_right _ (List.mem_singleton_self _), rfl, rfl⟩

end Asked

/-- **Each move keeps the invariant**, and adds one call at most to the end of the order. -/
theorem linearized_step (h : Invariant layer config s w order)
    (hr : (calls layer config).Rule w m w') :
    ∃ new, new.length ≤ 1 ∧ Invariant layer config s w' (order ++ new) := by
  have stays : ∀ {v}, Invariant layer config s v order →
      ∃ new, new.length ≤ 1 ∧ Invariant layer config s v (order ++ new) := by
    intro v hv
    refine ⟨[], Nat.zero_le _, ?_⟩
    rwa [List.append_nil]
  cases hr with
  | idle => exact stays h
  | begun call => exact stays (h.of_begun call)
  | @asked i now env call log q next hi =>
    by_cases hturn : ∃ t ∈ order, t.strand = i
    · -- the call has taken effect before, so it only tells something
      obtain ⟨t, ht, hti⟩ := hturn
      rw [answer_snd_of_tells (h.settles hi ht hti).1]
      refine stays (h.of_unchanged hi (fun t ht hti => (h.settles hi ht hti).2 _) ?_)
      exact fun hnot => absurd hti (hnot t ht)
    · have hnot : ∀ t ∈ order, t.strand ≠ i := fun t ht hti => hturn ⟨t, ht, hti⟩
      obtain ⟨part, tail, heq, hstep⟩ := (h.pending i _ hi hnot).step
      cases heq
      rcases hstep w.breaker now with ⟨-, hsame, hpending⟩ | ⟨reply, heffect, hsettles⟩
      · rw [answer_breaker, hsame]
        exact stays (h.of_unchanged hi (fun t ht hti => absurd hti (hnot t ht)) fun _ => hpending)
      · rw [answer_breaker]
        exact ⟨_, Nat.le_refl _, h.of_effect hi hnot heffect hsettles⟩

/-- **A run is explained by an order, and each beginning of the run by a beginning of the order.** -/
theorem exists_invariant (h : Invariant layer config s w order) (moves : List (Move Operation)) :
    ∃ more, Invariant layer config s ((calls layer config).run w moves) (order ++ more) ∧
      ∀ front, front <+: moves → ∃ early, early <+: order ++ more ∧
        Invariant layer config s ((calls layer config).run w front) early := by
  induction moves generalizing w order with
  | nil =>
    refine ⟨[], by rwa [List.append_nil], fun front hf => ⟨order, List.prefix_append _ _, ?_⟩⟩
    rwa [List.prefix_nil.mp hf]
  | cons m moves ih =>
    obtain ⟨new, -, hnew⟩ := linearized_step h ((calls layer config).step_rule w m)
    obtain ⟨more, hmore, hfront⟩ := ih hnew
    rw [List.append_assoc] at hmore
    refine ⟨new ++ more, hmore, fun front hf => ?_⟩
    rcases List.prefix_cons_iff.mp hf with rfl | ⟨front, rfl, hf⟩
    · exact ⟨order, List.prefix_append _ _, h⟩
    · obtain ⟨early, hearly, hinv⟩ := hfront front (List.cons_prefix_cons.mp hf).2
      rw [List.append_assoc] at hearly
      exact ⟨early, hearly, hinv⟩

/-- A call that is over has its turn. -/
theorem Invariant.exists_turn (h : Invariant layer config s w order)
    (hr : reply? w i = some reply) : ∃ t ∈ order, t.strand = i ∧ t.reply = reply := by
  obtain ⟨strand, hs, hdone⟩ := reply?_eq_some_iff.mp hr
  by_cases hturn : ∃ t ∈ order, t.strand = i
  · obtain ⟨t, ht, hti⟩ := hturn
    obtain ⟨strand', hs', -, hsettles⟩ := h.settled t ht
    rw [hti, hs] at hs'
    cases hs'
    rw [hdone] at hsettles
    exact ⟨t, ht, hti, hsettles.symm⟩
  · obtain ⟨part, next, heq, -⟩ := (h.pending i strand hs fun t ht hti => hturn ⟨t, ht, hti⟩).step
    rw [hdone] at heq
    cases heq

/-- **Any run of calls is explained by an order.** -/
theorem exists_linearizes (layer : Nat) (config : BreakerConfig) (s : BreakerState)
    (moves : List (Move Operation)) : ∃ order, Linearizes layer config s moves order := by
  obtain ⟨order, h, hfront⟩ := exists_invariant (invariant_nil (s := s)) moves
  rw [List.nil_append] at h hfront
  refine ⟨order, h.legal, h.once, ?_, ?_, h.clocked, ?_⟩
  · intro t ht
    obtain ⟨strand, hs, hcall, -⟩ := h.settled t ht
    exact ⟨strand, hs, hcall⟩
  · intro i reply hr
    exact h.exists_turn hr
  · intro front hf a ha b hb hover hbegun
    obtain ⟨early, ⟨late, rfl⟩, hearly⟩ := hfront front hf
    -- at that moment `a` has had its turn, and `b` cannot have had it
    have ha' : a ∈ early := by
      obtain ⟨reply, hr⟩ := Option.isSome_iff_exists.mp hover
      obtain ⟨t, ht, hta, -⟩ := hearly.exists_turn hr
      refine (List.mem_append.mp ha).resolve_right fun hlate => ?_
      have hdisjoint := h.once
      rw [List.map_append, List.nodup_append] at hdisjoint
      exact hdisjoint.2.2 _ (List.mem_map_of_mem ht) _ (List.mem_map_of_mem hlate) hta
    have hb' : b ∈ late := by
      refine (List.mem_append.mp hb).resolve_left fun hb' => ?_
      obtain ⟨strand, hs, -⟩ := hearly.settled b hb'
      exact absurd (List.getElem?_eq_some_iff.mp hs).1 (Nat.not_lt.mpr hbegun)
    exact (List.singleton_sublist.mpr ha').append (List.singleton_sublist.mpr hb')

/-! ## 5. Probes, lost races, and calls at one instant -/

section Changes

variable {I : Interleaving Operation Reply}

variable (I) in
/-- The change of position that a question makes, if it makes one. -/
def change? (h : Happening) : Option Transition := h.before.transition? (h.after I)

theorem change?_eq_some_iff {h : Happening} {c d : Circuit} :
    change? I h = some ⟨c, d⟩ ↔ c ≠ d ∧ h.before.circuit = c ∧ (h.after I).circuit = d := by
  rw [change?, BreakerState.transition?]
  constructor
  · intro hc
    split at hc
    · cases hc
    · rename_i hne
      cases hc
      exact ⟨hne, rfl, rfl⟩
  · rintro ⟨hne, rfl, rfl⟩
    exact if_neg hne

/-- A circuit that was not open and is has been opened. -/
theorem exists_opening {t : BreakerState} {trace : List Happening} (h : Linked I s trace t)
    (hs : s.circuit ≠ .opened) (ht : t.circuit = .opened) :
    ∃ x ∈ trace, ∃ c, change? I x = some ⟨c, .opened⟩ := by
  induction h with
  | nil s => exact absurd ht hs
  | @cons x rest t hr ih =>
    by_cases hx : (x.after I).circuit = .opened
    · exact ⟨x, List.mem_cons_self, _, change?_eq_some_iff.mpr ⟨hs, rfl, hx⟩⟩
    · obtain ⟨y, hy, hc⟩ := ih hx ht
      exact ⟨y, List.mem_cons_of_mem _ hy, hc⟩

/-- **Between two probes the circuit was opened again.** -/
theorem opening_between_probes {t : BreakerState} {past mid future : List Happening} {x y : Happening}
    (h : Linked I s (past ++ x :: (mid ++ y :: future)) t)
    (hx : change? I x = some ⟨.opened, .halfOpen⟩) (hy : change? I y = some ⟨.opened, .halfOpen⟩) :
    ∃ z ∈ mid, ∃ c, change? I z = some ⟨c, .opened⟩ := by
  obtain ⟨-, -, hxafter⟩ := change?_eq_some_iff.mp hx
  obtain ⟨-, hybefore, -⟩ := change?_eq_some_iff.mp hy
  obtain ⟨_, -, h⟩ := linked_append_iff.mp h
  obtain ⟨-, h⟩ := linked_cons_iff.mp h
  obtain ⟨u, hmid, h⟩ := linked_append_iff.mp h
  obtain ⟨rfl, -⟩ := linked_cons_iff.mp h
  exact exists_opening hmid (by rw [hxafter]; nofun) hybefore

end Changes

variable (layer config) in
/-- Every call that has decided will answer as the question in one step. -/
def Decided (w : State Operation Reply) : Prop :=
  ∀ h ∈ w.trace, h.asked.query = .breaker layer .decide →
    ∃ strand, w.strands[h.strand]? = some strand ∧
      strand.rest.Settles (.allowed (h.before.isAllowed config h.now).1)

/-- Each move keeps that. -/
theorem Decided.step (h : Decided layer config w) (hinv : Invariant layer config s w order)
    (hr : (calls layer config).Rule w m w') : Decided layer config w' := by
  cases hr with
  | idle => exact h
  | begun call =>
    intro x hx hdecide
    obtain ⟨strand, hs, hsettles⟩ := h x hx hdecide
    have hlt := (List.getElem?_eq_some_iff.mp hs).1
    exact ⟨strand, (List.getElem?_append_left hlt).trans hs, hsettles⟩
  | @asked i now env call log q next hi =>
    intro x hx hdecide
    rcases List.mem_append.mp hx with hx | hx
    · obtain ⟨strand, hs, hsettles⟩ := h x hx hdecide
      by_cases hxi : x.strand = i
      · rw [hxi, hi] at hs
        cases hs
        rw [hxi]
        exact ⟨_, getElem?_set_self hi _, hsettles.2 _⟩
      · exact ⟨strand, (List.getElem?_set_ne (Ne.symm hxi)).trans hs, hsettles⟩
    · -- the call decides just now, so it has not taken effect before
      cases List.mem_singleton.mp hx
      cases hdecide
      have hnot : ∀ t ∈ order, t.strand ≠ i := fun t ht hti => (hinv.settles hi ht hti).1
      have hpending := hinv.pending i _ hi hnot
      cases hpending.of_decide
      obtain ⟨part, tail, heq, hstep⟩ := hpending.step
      cases heq
      rcases hstep w.breaker now with ⟨hlook, -⟩ | ⟨reply, heffect, hsettles⟩
      · cases hlook
      · cases heffect
        rw [answer_breaker]
        exact ⟨_, getElem?_set_self hi _, hsettles⟩

/-- **A call that has decided answers as the question in one step.** -/
theorem decided_play (s : BreakerState) (moves : List (Move Operation)) :
    Decided layer config (play layer config s moves) := by
  have h : (∃ order, Invariant layer config s (play layer config s moves) order) ∧
      Decided layer config (play layer config s moves) := by
    refine run_induction (P := fun v => (∃ order, Invariant layer config s v order) ∧
      Decided layer config v) ⟨⟨[], invariant_nil⟩, fun h hh => nomatch hh⟩ ?_ moves
    rintro v m v' hr ⟨⟨order, hinv⟩, hdecided⟩
    obtain ⟨new, -, hnew⟩ := linearized_step hinv hr
    exact ⟨⟨_, hnew⟩, hdecided.step hinv hr⟩
  exact h.2

/-- Asked again at the same instant, a breaker gives the same answer. -/
theorem isAllowed_isAllowed (now : Instant) :
    ((s.isAllowed config now).2.isAllowed config now).1 = (s.isAllowed config now).1 := by
  by_cases ho : s.circuit = .opened
  · have rejects : ∀ {t : BreakerState}, t.circuit = .opened → t.cooledDown config now = false →
        t.isAllowed config now = (false, { t with rejected := t.rejected.tick }) := by
      intro t ht hc
      rw [BreakerState.isAllowed_of_opened ht, if_neg (Bool.eq_false_iff.mp hc)]
    cases hc : s.cooledDown config now with
    | true =>
      rw [BreakerState.isAllowed_of_opened ho, hc, if_pos rfl]
      rfl
    | false =>
      -- the counter of rejections is all that has changed
      rw [rejects ho hc, rejects (t := { s with rejected := s.rejected.tick }) ho hc]
  · rw [BreakerState.isAllowed_of_ne ho, BreakerState.isAllowed_of_ne ho]

/-- All that happens is that calls ask, at the instant `now`, whether a request may be tried; those of
the calls that were there before make no move. -/
def Simultaneous (before : Nat) (now : Instant) (moves : List (Move Operation)) : Prop :=
  ∀ m ∈ moves, m = .begin .isAllowed ∨ ∃ i env, before ≤ i ∧ m = .next i now env

variable (layer config) in
/-- The breaker would answer `a`, and the calls from `before` on have not taken effect or will answer
that. -/
structure Unanimous (before : Nat) (now : Instant) (a : Bool) (w : State Operation Reply) : Prop where
  next : (w.breaker.isAllowed config now).1 = a
  strands : ∀ i strand, before ≤ i → w.strands[i]? = some strand →
    Pending layer config .isAllowed strand.rest ∨ strand.rest.Settles (.allowed a)

section Simultaneous

variable {before : Nat} {now : Instant} {a : Bool}

/-- While one strand goes on, the others stay as they are. -/
theorem Unanimous.strands_set (h : Unanimous layer config before now a w)
    {strand : Strand Operation Reply}
    (hstrand : Pending layer config .isAllowed strand.rest ∨ strand.rest.Settles (.allowed a)) :
    ∀ j other, before ≤ j → (w.strands.set i strand)[j]? = some other →
      Pending layer config .isAllowed other.rest ∨ other.rest.Settles (.allowed a) := by
  intro j other hj hs
  rcases getElem?_set_cases hs with ⟨-, hs⟩ | ⟨-, rfl⟩
  · exact h.strands j other hj hs
  · exact hstrand

/-- Each move of simultaneous calls keeps that. -/
theorem Unanimous.step (h : Unanimous layer config before now a w)
    (hm : m = .begin .isAllowed ∨ ∃ i env, before ≤ i ∧ m = .next i now env)
    (hr : (calls layer config).Rule w m w') : Unanimous layer config before now a w' := by
  cases hr with
  | idle => exact h
  | begun call =>
    rcases hm with hm | ⟨_, _, _, hm⟩
    · cases hm
      refine ⟨h.next, fun i strand hle hs => ?_⟩
      rcases getElem?_concat_cases hs with hs | rfl
      · exact h.strands i strand hle hs
      · exact .inl (.fresh .isAllowed)
    · cases hm
  | @asked i _ env call log q tail hi =>
    rcases hm with hm | ⟨_, _, hle, hm⟩
    · cases hm
    cases hm
    rcases h.strands i _ hle hi with hpending | hsettles
    · obtain ⟨part, next, heq, hstep⟩ := hpending.step
      cases heq
      rw [answer_breaker]
      rcases hstep w.breaker now with ⟨-, hsame, hpending⟩ | ⟨reply, heffect, hsettles⟩
      · rw [hsame]
        exact ⟨h.next, h.strands_set (.inl hpending)⟩
      · rw [Operation.atomic, h.next] at heffect
        obtain ⟨rfl, hafter⟩ := Prod.mk.inj heffect
        rw [← hafter]
        exact ⟨(isAllowed_isAllowed now).trans h.next, h.strands_set (.inr hsettles)⟩
    · rw [answer_snd_of_tells hsettles.1]
      exact ⟨h.next, h.strands_set (.inr (hsettles.2 _))⟩

/-- So does any number of moves. -/
theorem Unanimous.run (h : Unanimous layer config before now a w) (hm : Simultaneous before now moves) :
    Unanimous layer config before now a ((calls layer config).run w moves) := by
  induction moves generalizing w with
  | nil => exact h
  | cons m moves ih =>
    exact ih (h.step (hm m List.mem_cons_self) ((calls layer config).step_rule w m))
      fun m' hm' => hm m' (List.mem_cons_of_mem m hm')

/-- **Calls at one instant agree.**  While all that happens is that calls ask at one instant whether a
request may be tried, they all get the answer that the first would have got in one step. -/
theorem reply_of_simultaneous {front later : List (Move Operation)}
    (h : Simultaneous (play layer config s front).strands.length now later)
    (hi : (play layer config s front).strands.length ≤ i)
    (hr : reply? (play layer config s (front ++ later)) i = some reply) :
    reply = .allowed ((play layer config s front).breaker.isAllowed config now).1 := by
  rw [play, run_append] at hr
  have hstart : Unanimous layer config (play layer config s front).strands.length now
      ((play layer config s front).breaker.isAllowed config now).1 (play layer config s front) := by
    refine ⟨rfl, fun j strand hj hs => ?_⟩
    exact absurd (List.getElem?_eq_some_iff.mp hs).1 (Nat.not_lt.mpr hj)
  obtain ⟨strand, hs, hdone⟩ := reply?_eq_some_iff.mp hr
  rcases (hstart.run h).strands i strand hi hs with hpending | hsettles
  · obtain ⟨part, next, heq, -⟩ := hpending.step
    rw [hdone] at heq
    cases heq
  · rw [hdone] at hsettles
    exact hsettles

end Simultaneous

/-! ## 6. The whole -/

/-- **Calls of a breaker are one step each.**  Whatever calls any number of threads make, however their
critical sections come between each other, and whatever the clock shows:

* an order of the calls explains the run;
* between two probes the circuit was opened again;
* a call that saw the circuit open, and decides when another has ended that, answers yes;
* calls that ask at one instant get one answer. -/
theorem calls_linearizable (layer : Nat) (config : BreakerConfig) (s : BreakerState)
    (moves : List (Move Operation)) :
    (∃ order, Linearizes layer config s moves order) ∧
    (∀ past x mid y future,
      (play layer config s moves).trace = past ++ x :: (mid ++ y :: future) →
      change? (calls layer config) x = some ⟨.opened, .halfOpen⟩ →
      change? (calls layer config) y = some ⟨.opened, .halfOpen⟩ →
      ∃ z ∈ mid, ∃ c, change? (calls layer config) z = some ⟨c, .opened⟩) ∧
    (∀ h ∈ (play layer config s moves).trace, h.asked.query = .breaker layer .decide →
      h.before.circuit ≠ .opened → ∀ reply, reply? (play layer config s moves) h.strand = some reply →
      reply = .allowed true) ∧
    (∀ front later now, moves = front ++ later →
      Simultaneous (play layer config s front).strands.length now later →
      ∀ i reply, (play layer config s front).strands.length ≤ i →
      reply? (play layer config s moves) i = some reply →
      reply = .allowed ((play layer config s front).breaker.isAllowed config now).1) := by
  refine ⟨exists_linearizes layer config s moves, ?_, ?_, ?_⟩
  · intro past x mid y future htrace hx hy
    have hlinked := linked_run (I := calls layer config) (w := { breaker := s }) rfl moves
    rw [show (calls layer config).run { breaker := s } moves = play layer config s moves from rfl,
      htrace] at hlinked
    exact opening_between_probes hlinked hx hy
  · intro h hh hdecide hne reply hr
    obtain ⟨strand, hs, hsettles⟩ := decided_play s moves h hh hdecide
    obtain ⟨strand', hs', hdone⟩ := reply?_eq_some_iff.mp hr
    rw [hs] at hs'
    cases hs'
    rw [hdone, BreakerState.isAllowed_of_ne hne] at hsettles
    exact hsettles
  · rintro front later now rfl hsim i reply hi hr
    exact reply_of_simultaneous hsim hi hr

end Breaker

end Resilience
