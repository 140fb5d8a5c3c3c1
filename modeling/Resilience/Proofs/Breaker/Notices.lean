/-
# What the observer hears of a breaker

A call changes the breaker under its lock and tells the observer when the lock is released.  Between the
two other calls may come, so the observer hears of changes late, and not in the order in which they were
made.  This file says that it still hears of every change and of every rejection, and of each once.

* `Breaker.Record`: what a call that is over has asked, one rule for each way in which a call can go.
* `Breaker.Record.told`: **the ledger of a call.**  It has told of the change that it made and of the
  rejection that it met, and of nothing else.
* `Breaker.Edge`, `Breaker.Chain`: the changes that a call can make, and changes each of which begins
  where the one before has ended.
* `Breaker.chain_of_linked`: **the changes under the lock are a chain**, from the position at the
  beginning to the position at the end.
* `Breaker.OneByOne`: no call begins before the one before has returned; then what was asked is what
  the calls asked, one after another (`OneByOne.inTurn`).
* `Breaker.hears_each_change_once`: the whole.
-/
import Mathlib.Data.List.DropRight
import Resilience.Proofs.Breaker.Linearization

namespace Resilience

open Interleaving

/-! ## 1. Changes and rejections in a log -/

namespace Asked

variable (layer : Nat)

/-- The change that a call made of the breaker of the layer, as its section says. -/
def change? : Asked → Option Transition
  | ⟨.breaker i .decide, answer⟩ =>
    if i = layer ∧ answer = .probing then some ⟨.opened, .halfOpen⟩ else none
  | ⟨.breaker i .success, change⟩ => if i = layer then change else none
  | ⟨.breaker i .failure, (change, _)⟩ => if i = layer then change else none
  | ⟨.breaker i .reset, change⟩ => if i = layer then change else none
  | _ => none

/-- The change that the observer of the layer was told of. -/
def transition? : Asked → Option Transition
  | ⟨.observe i (.transition t), _⟩ => if i = layer then some t else none
  | _ => none

/-- Whether the breaker of the layer rejected a call. -/
def isRefusal : Asked → Bool
  | ⟨.breaker i .decide, answer⟩ => decide (i = layer ∧ answer = .rejected)
  | _ => false

/-- Whether the observer of the layer was told of a rejection. -/
def isRejection : Asked → Bool
  | ⟨.observe i (.rejection _), _⟩ => decide (i = layer)
  | _ => false

/-- Whether the breaker of the layer was reset. -/
def isReset : Asked → Bool
  | ⟨.breaker i .reset, _⟩ => decide (i = layer)
  | _ => false

end Asked

/-- What was asked since the latest reset of the breaker of the layer. -/
def sinceReset (layer : Nat) (log : List Asked) : List Asked :=
  log.rtakeWhile fun x => !x.isReset layer

section SinceReset

variable {layer : Nat} {log more : List Asked} {x : Asked}

theorem sinceReset_concat (layer : Nat) (log : List Asked) (x : Asked) :
    sinceReset layer (log ++ [x]) = if x.isReset layer then [] else sinceReset layer log ++ [x] := by
  rw [sinceReset, List.rtakeWhile_concat]
  cases x.isReset layer <;> rfl

/-- What comes after a log without a reset comes after the latest reset. -/
theorem sinceReset_append (h : ∀ x ∈ more, x.isReset layer = false) :
    sinceReset layer (log ++ more) = sinceReset layer log ++ more := by
  induction more using List.reverseRecOn with
  | nil => simp
  | append_singleton more x ih =>
    rw [← List.append_assoc, sinceReset_concat, h x (by simp), ih fun y hy => h y (by simp [hy]),
      List.append_assoc]
    rfl

/-- What comes after a reset comes after the latest reset. -/
theorem sinceReset_append_cons (hx : x.isReset layer = true)
    (h : ∀ y ∈ more, y.isReset layer = false) : sinceReset layer (log ++ x :: more) = more := by
  rw [← List.singleton_append, ← List.append_assoc, sinceReset_append h, sinceReset_concat, hx]
  rfl

end SinceReset

namespace Breaker

/-! ## 2. The ledger of a call -/

section Record

variable {layer : Nat} {config : BreakerConfig} {call : Operation} {log : List Asked} {reply : Reply}

/-- What a call tells of a change, if there was one: some lines, and a notice. -/
def tale (layer : Nat) (lines : List TraceLine) (change : Option Transition) : List Asked :=
  lines.map .line ++ change.toList.map fun t => .notice layer (.transition t)

variable (layer) in
/-- `Record layer call log reply`: the call has asked the questions of `log` and has answered
`reply`. -/
inductive Record : Operation → List Asked → Reply → Prop
  /-- The circuit was not open. -/
  | passed : Record .isAllowed [⟨.breaker layer .look, false⟩] (.allowed true)
  /-- The circuit was open, but is not any more. -/
  | admitted :
      Record .isAllowed [⟨.breaker layer .look, true⟩, ⟨.breaker layer .decide, .admitted⟩]
        (.allowed true)
  /-- The circuit is open. -/
  | rejected (line : TraceLine) :
      Record .isAllowed
        [⟨.breaker layer .look, true⟩, ⟨.breaker layer .decide, .rejected⟩, .line line,
          .notice layer (.rejection .opened)]
        (.allowed false)
  /-- The circuit has become half-open for the call. -/
  | probing (line : TraceLine) :
      Record .isAllowed
        [⟨.breaker layer .look, true⟩, ⟨.breaker layer .decide, .probing⟩, .line line,
          .notice layer (.transition ⟨.opened, .halfOpen⟩)]
        (.allowed true)
  /-- A success was reported. -/
  | succeeded (change : Option Transition) (lines : List TraceLine) :
      Record .onSuccess (⟨.breaker layer .success, change⟩ :: tale layer lines change) .finished
  /-- A failure was reported. -/
  | failed (change : Option Transition) (count : Nat) (lines : List TraceLine) :
      Record .onFailure (⟨.breaker layer .failure, (change, count)⟩ :: tale layer lines change) .finished
  /-- The breaker was reset. -/
  | forgotten (change : Option Transition) (lines : List TraceLine) :
      Record .reset (⟨.breaker layer .reset, change⟩ :: tale layer lines change) .finished
  /-- The time to wait was asked for. -/
  | remaining (wait : Option Duration) :
      Record .remaining [⟨.breaker layer .remaining, wait⟩] (.remaining wait)
  /-- The position was asked for. -/
  | circuit (s : BreakerState) :
      Record .circuit [⟨.breaker layer .snapshot, s⟩] (.circuit s.circuit)
  /-- All that is remembered was asked for. -/
  | metrics (s : BreakerState) :
      Record .metrics [⟨.breaker layer .snapshot, s⟩] (.metrics s)

theorem announce_yields {change : Option Transition} (h : (announce layer change).Yields log ()) :
    log = tale layer [] change := by
  cases change with
  | none => exact (Program.yields_pure_iff.mp h).1
  | some t => exact Program.yields_query_iff.mp h

/-- A line of the trace before a change is announced. -/
theorem line_announce_yields {change : Option Transition} {line : TraceLine}
    (h : (Program.trace line >>= fun _ => announce layer change).Yields log ()) :
    log = tale layer [line] change := by
  replace h := Program.yields_trace_bind_iff.mp h
  obtain ⟨rest, rfl, h⟩ := h
  rw [announce_yields h]
  rfl

theorem onSuccess_yields (h : (onSuccess layer config).Yields log ()) :
    Record layer .onSuccess log .finished := by
  replace h := Program.yields_query_bind_iff.mp h
  obtain ⟨change, rest, rfl, h⟩ := h
  cases change with
  | none =>
    replace h : (announce layer none).Yields rest () := h
    rw [announce_yields h]
    exact .succeeded none []
  | some t =>
    rw [line_announce_yields h]
    exact .succeeded (some t) [_]

theorem onFailure_yields (h : (onFailure layer).Yields log ()) :
    Record layer .onFailure log .finished := by
  replace h := Program.yields_query_bind_iff.mp h
  obtain ⟨⟨change, count⟩, rest, rfl, h⟩ := h
  match change with
  | none =>
    rw [announce_yields h]
    exact .failed none count []
  | some ⟨.halfOpen, c⟩ =>
    rw [line_announce_yields h]
    exact .failed _ count [_]
  | some ⟨.closed, c⟩ =>
    rw [line_announce_yields h]
    exact .failed _ count [_]
  | some ⟨.opened, c⟩ =>
    rw [line_announce_yields h]
    exact .failed _ count [_]

theorem reset_yields (h : (reset layer).Yields log ()) : Record layer .reset log .finished := by
  replace h := Program.yields_query_bind_iff.mp h
  obtain ⟨change, rest, rfl, h⟩ := h
  rw [line_announce_yields h]
  exact .forgotten change [_]

theorem isAllowed_yields {answer : Bool} (h : (isAllowed layer).Yields log answer) :
    Record layer .isAllowed log (.allowed answer) := by
  cases answers_of_yields h with
  | passed => exact .passed
  | admitted => exact .admitted
  | rejected line => exact .rejected line
  | probing line => exact .probing line

/-- **A call that is over follows a rule.** -/
theorem Record.of_yields (h : (call.program layer config).Yields log reply) :
    Record layer call log reply := by
  -- every call is one of the programs above, and then its reply
  cases call with
  | isAllowed =>
    rw [Operation.program, Program.yields_bind_pure_iff] at h
    obtain ⟨answer, h, rfl⟩ := h
    exact isAllowed_yields h
  | onSuccess =>
    rw [Operation.program, Program.yields_bind_pure_iff] at h
    obtain ⟨⟨⟩, h, rfl⟩ := h
    exact onSuccess_yields h
  | onFailure =>
    rw [Operation.program, Program.yields_bind_pure_iff] at h
    obtain ⟨⟨⟩, h, rfl⟩ := h
    exact onFailure_yields h
  | reset =>
    rw [Operation.program, Program.yields_bind_pure_iff] at h
    obtain ⟨⟨⟩, h, rfl⟩ := h
    exact reset_yields h
  | remaining =>
    rw [Operation.program, Program.yields_bind_pure_iff] at h
    obtain ⟨wait, h, rfl⟩ := h
    rw [Program.yields_query_iff.mp h]
    exact .remaining wait
  | circuit =>
    rw [Operation.program, Program.yields_bind_pure_iff] at h
    obtain ⟨c, h, rfl⟩ := h
    replace h := Program.yields_query_bind_iff.mp h
    obtain ⟨s, rest, rfl, h⟩ := h
    replace h := Program.yields_pure_iff.mp h
    obtain ⟨rfl, rfl⟩ := h
    exact .circuit s
  | metrics =>
    rw [Operation.program, Program.yields_bind_pure_iff] at h
    obtain ⟨s, h, rfl⟩ := h
    rw [Program.yields_query_iff.mp h]
    exact .metrics s

/-- What a call tells makes no change, and it is no rejection and no reset. -/
theorem of_mem_tale {x : Asked} {lines : List TraceLine} {change : Option Transition}
    (h : x ∈ tale layer lines change) :
    x.change? layer = none ∧ x.isRefusal layer = false ∧ x.isRejection layer = false ∧
      x.isReset layer = false := by
  rcases List.mem_append.mp h with h | h
  · obtain ⟨line, -, rfl⟩ := List.mem_map.mp h
    exact ⟨rfl, rfl, rfl, rfl⟩
  · obtain ⟨t, -, rfl⟩ := List.mem_map.mp h
    exact ⟨rfl, rfl, rfl, rfl⟩

/-- It is about no section. -/
theorem not_breaker_of_mem_tale {x : Asked} {lines : List TraceLine} {change : Option Transition}
    (h : x ∈ tale layer lines change) (part : Section) : x.query ≠ .breaker layer part := by
  rcases List.mem_append.mp h with h | h
  · obtain ⟨line, -, rfl⟩ := List.mem_map.mp h
    nofun
  · obtain ⟨t, -, rfl⟩ := List.mem_map.mp h
    nofun

/-- It tells the observer of the change. -/
theorem transitions_tale (layer : Nat) (lines : List TraceLine) (change : Option Transition) :
    (tale layer lines change).filterMap (Asked.transition? layer) = change.toList := by
  have hlines : (lines.map Asked.line).filterMap (Asked.transition? layer) = [] := by
    rw [List.filterMap_map]
    exact List.filterMap_eq_nil_iff.mpr fun _ _ => rfl
  rw [tale, List.filterMap_append, hlines]
  cases change with
  | none => rfl
  | some t => simp [Asked.notice, Asked.transition?]

variable (layer) in
/-- **The ledger of a call that is over.**  It has told of the change that it made, and of the rejection
that it met, and of nothing else. -/
structure Told (log : List Asked) (reply : Reply) : Prop where
  transitions : log.filterMap (Asked.transition? layer) = log.filterMap (Asked.change? layer)
  rejections : log.countP (Asked.isRejection layer) = if reply = .allowed false then 1 else 0
  /-- A reset between a rejection and what tells of it is not its own. -/
  latest : ∀ past,
    (sinceReset layer past).countP (Asked.isRejection layer) =
      (sinceReset layer past).countP (Asked.isRefusal layer) →
    (sinceReset layer (past ++ log)).countP (Asked.isRejection layer) =
      (sinceReset layer (past ++ log)).countP (Asked.isRefusal layer)

/-- A call without a reset tells of its rejections since the latest reset, too. -/
theorem latest_of_not_isReset (hreset : ∀ x ∈ log, x.isReset layer = false)
    (h : log.countP (Asked.isRejection layer) = log.countP (Asked.isRefusal layer)) (past : List Asked)
    (hpast : (sinceReset layer past).countP (Asked.isRejection layer) =
      (sinceReset layer past).countP (Asked.isRefusal layer)) :
    (sinceReset layer (past ++ log)).countP (Asked.isRejection layer) =
      (sinceReset layer (past ++ log)).countP (Asked.isRefusal layer) := by
  rw [sinceReset_append hreset, List.countP_append, List.countP_append, hpast, h]

/-- A section, and what is told of the change that it made. -/
theorem Told.of_tale {part : Section} {answer : part.Answer} {lines : List TraceLine}
    {change : Option Transition}
    (hchange : (⟨.breaker layer part, answer⟩ : Asked).change? layer = change)
    (hrefusal : (⟨.breaker layer part, answer⟩ : Asked).isRefusal layer = false)
    (hreply : reply ≠ .allowed false) :
    Told layer (⟨.breaker layer part, answer⟩ :: tale layer lines change) reply := by
  have hnone : (tale layer lines change).filterMap (Asked.change? layer) = [] :=
    List.filterMap_eq_nil_iff.mpr fun x hx => (of_mem_tale hx).1
  have hrefusals : (tale layer lines change).countP (Asked.isRefusal layer) = 0 :=
    List.countP_eq_zero.mpr fun x hx => by simp [(of_mem_tale hx).2.1]
  have hrejections : (tale layer lines change).countP (Asked.isRejection layer) = 0 :=
    List.countP_eq_zero.mpr fun x hx => by simp [(of_mem_tale hx).2.2.1]
  refine ⟨?_, ?_, fun past hpast => ?_⟩
  · rw [List.filterMap_cons_none rfl, transitions_tale, List.filterMap_cons, hchange, hnone]
    cases change <;> rfl
  · rw [if_neg hreply, List.countP_cons_of_neg (by nofun), hrejections]
  · cases hreset : (⟨.breaker layer part, answer⟩ : Asked).isReset layer with
    | true =>
      rw [sinceReset_append_cons hreset fun x hx => (of_mem_tale hx).2.2.2, hrejections, hrefusals]
    | false =>
      refine latest_of_not_isReset (fun x hx => ?_) ?_ past hpast
      · rcases List.mem_cons.mp hx with rfl | hx
        · exact hreset
        · exact (of_mem_tale hx).2.2.2
      · rw [List.countP_cons_of_neg (by nofun), hrejections,
          List.countP_cons_of_neg (by rw [hrefusal]; nofun), hrefusals]

/-- **Every call that is over has kept its ledger.** -/
theorem Record.told (h : Record layer call log reply) : Told layer log reply := by
  cases h with
  | succeeded change lines => exact .of_tale (if_pos rfl) rfl nofun
  | failed change count lines => exact .of_tale (if_pos rfl) rfl nofun
  | forgotten change lines => exact .of_tale (if_pos rfl) rfl nofun
  | passed => exact ⟨rfl, rfl, latest_of_not_isReset (by simp [Asked.isReset]) rfl⟩
  | admitted =>
    refine ⟨?_, rfl, latest_of_not_isReset (by simp [Asked.isReset]) ?_⟩
    · simp [List.filterMap_cons, Asked.transition?, Asked.change?]
    · simp [Asked.isRejection, Asked.isRefusal]
  | rejected line =>
    refine ⟨?_, ?_, latest_of_not_isReset (by simp [Asked.isReset, Asked.line, Asked.notice]) ?_⟩
    · simp [List.filterMap_cons, Asked.transition?, Asked.change?, Asked.line, Asked.notice]
    · simp [Asked.isRejection, Asked.line, Asked.notice]
    · simp [Asked.isRejection, Asked.isRefusal, Asked.line, Asked.notice]
  | probing line =>
    refine ⟨?_, ?_, latest_of_not_isReset (by simp [Asked.isReset, Asked.line, Asked.notice]) ?_⟩
    · simp [List.filterMap_cons, Asked.transition?, Asked.change?, Asked.line, Asked.notice]
    · simp [Asked.isRejection, Asked.line, Asked.notice]
    · simp [Asked.isRejection, Asked.isRefusal, Asked.line, Asked.notice]
  | remaining wait => exact ⟨rfl, rfl, latest_of_not_isReset (by simp [Asked.isReset]) rfl⟩
  | circuit s => exact ⟨rfl, rfl, latest_of_not_isReset (by simp [Asked.isReset]) rfl⟩
  | metrics s => exact ⟨rfl, rfl, latest_of_not_isReset (by simp [Asked.isReset]) rfl⟩

end Record

/-! ## 3. The changes under the lock -/

/-- A change that a call can make. -/
inductive Edge : Operation → Transition → Prop
  | opens : Edge .onFailure ⟨.closed, .opened⟩
  | reopens : Edge .onFailure ⟨.halfOpen, .opened⟩
  | probes : Edge .isAllowed ⟨.opened, .halfOpen⟩
  | recovers : Edge .onSuccess ⟨.halfOpen, .closed⟩
  /-- A reset closes a circuit from wherever it is. -/
  | resets {c : Circuit} (h : c ≠ .closed) : Edge .reset ⟨c, .closed⟩

/-- `Chain c changes d`: the first change begins at `c`, each begins where the one before has ended, and
the last ends at `d`. -/
inductive Chain : Circuit → List Transition → Circuit → Prop
  | nil (c : Circuit) : Chain c [] c
  | cons {c d e : Circuit} {rest : List Transition} (h : Chain d rest e) : Chain c (⟨c, d⟩ :: rest) e

/-- How often a position is entered, less how often it is left. -/
def balance (c : Circuit) (changes : List Transition) : Int :=
  changes.countP (fun t => t.target = c) - changes.countP fun t => t.source = c

/-- **A chain enters a position as often as it leaves it**, but for where it begins and ends. -/
theorem Chain.balance_eq {b e : Circuit} {changes : List Transition} (h : Chain b changes e)
    (c : Circuit) :
    balance c changes = (if e = c then 1 else 0) - (if b = c then 1 else 0) := by
  induction h with
  | nil b => simp [balance]
  | @cons b d e rest hr ih =>
    simp only [balance, List.countP_cons, decide_eq_true_eq] at ih ⊢
    -- the first change ends at `d`, where the rest begins
    by_cases hb : b = c <;> by_cases hd : d = c <;> simp only [hb, hd, if_true, if_false] at ih ⊢ <;>
      omega

section Changes

variable {I : Interleaving Operation Reply} {config : BreakerConfig} {now : Instant}
  {s t : BreakerState} {x : Happening} {trace : List Happening}

/-- A call, among those that run side by side. -/
def operation : BreakerCall → Operation
  | .isAllowed => .isAllowed
  | .onSuccess => .onSuccess
  | .onFailure => .onFailure
  | .reset => .reset

theorem transition?_self (s : BreakerState) : s.transition? s = none := if_pos rfl

/-- **The rules of the breaker make the changes that a call can make**, and no others. -/
theorem Edge.of_rule {call : BreakerCall} {change : Transition} (h : s.Rule config now call t)
    (hc : s.transition? t = some change) : Edge (operation call) change := by
  have same : ∀ {t : BreakerState}, t.circuit = s.circuit → s.transition? t ≠ some change := by
    intro t ht
    rw [BreakerState.transition?, if_pos ht.symm]
    rintro ⟨⟩
  have moved : ∀ {c d : Circuit}, s.circuit = c → t.circuit = d → c ≠ d → change = ⟨c, d⟩ := by
    rintro c d rfl rfl hne
    rw [BreakerState.transition?, if_neg hne] at hc
    exact (Option.some_inj.mp hc).symm
  cases h with
  | passed => exact absurd hc (same rfl)
  | rejected => exact absurd hc (same rfl)
  | cleared => exact absurd hc (same rfl)
  | late => exact absurd hc (same rfl)
  | probed => exact absurd hc (same rfl)
  | counted => exact absurd hc (same rfl)
  | extended => exact absurd hc (same rfl)
  | probing h => exact moved h rfl (by rintro ⟨⟩) ▸ .probes
  | recovered h => exact moved h rfl (by rintro ⟨⟩) ▸ .recovers
  | tripped h => exact moved h rfl (by rintro ⟨⟩) ▸ .opens
  | reopened h => exact moved h rfl (by rintro ⟨⟩) ▸ .reopens
  | forgotten =>
    by_cases h : s.circuit = .closed
    · exact absurd hc (same h.symm)
    · exact moved rfl rfl h ▸ .resets h

/-- What a section reports is the change that it made. -/
theorem change?_enter (layer : Nat) (part : Section) :
    (⟨.breaker layer part, (s.enter config now part).1⟩ : Asked).change? layer =
      s.transition? (s.enter config now part).2 := by
  cases part with
  | look => exact (transition?_self s).symm
  | remaining => exact (transition?_self s).symm
  | snapshot => exact (transition?_self s).symm
  | success => exact if_pos rfl
  | failure => exact if_pos rfl
  | reset => exact if_pos rfl
  | decide =>
    obtain ⟨circuit, failures, probes, lastFailure, totalSuccesses, totalFailures, rejected⟩ := s
    cases circuit with
    | closed => exact (if_neg (by rintro ⟨-, ⟨⟩⟩)).trans (transition?_self _).symm
    | halfOpen => exact (if_neg (by rintro ⟨-, ⟨⟩⟩)).trans (transition?_self _).symm
    | opened =>
      simp only [BreakerState.enter, BreakerState.admission]
      split
      · exact if_pos ⟨rfl, rfl⟩
      · exact (if_neg (by rintro ⟨-, ⟨⟩⟩)).trans (if_pos rfl).symm

/-- What a section makes of the count of rejections. -/
theorem rejected_enter (layer : Nat) (part : Section) :
    (s.enter config now part).2.rejected =
      if (⟨.breaker layer part, (s.enter config now part).1⟩ : Asked).isReset layer then .zero
      else if (⟨.breaker layer part, (s.enter config now part).1⟩ : Asked).isRefusal layer then
        s.rejected.tick
      else s.rejected := by
  cases part with
  | look => rfl
  | remaining => rfl
  | snapshot => rfl
  | reset => exact (if_pos (decide_eq_true rfl)).symm
  | success =>
    have hr : s.Rule config now .onSuccess (s.onSuccess config) := BreakerState.rule_onSuccess
    change (s.onSuccess config).rejected = s.rejected
    generalize s.onSuccess config = t at hr
    cases hr <;> rfl
  | failure =>
    have hr : s.Rule config now .onFailure (s.onFailure config now) := BreakerState.rule_onFailure
    change (s.onFailure config now).rejected = s.rejected
    generalize s.onFailure config now = t at hr
    cases hr <;> rfl
  | decide =>
    obtain ⟨circuit, failures, probes, lastFailure, totalSuccesses, totalFailures, rejected⟩ := s
    cases circuit with
    | closed => simp [BreakerState.enter, BreakerState.admission, Asked.isReset, Asked.isRefusal]
    | halfOpen => simp [BreakerState.enter, BreakerState.admission, Asked.isReset, Asked.isRefusal]
    | opened =>
      simp only [BreakerState.enter, BreakerState.admission]
      split <;> simp [Asked.isReset, Asked.isRefusal, BreakerState.moveTo]

variable (I) in
/-- What the question was for the breaker of the layer, the breaker has answered. -/
def Genuine (x : Happening) : Prop :=
  ∀ part, x.asked.query = .breaker I.layer part →
    x.asked = ⟨.breaker I.layer part, (x.before.enter I.config x.now part).1⟩

/-- A question that is not for the breaker of the layer makes no change and is no reset. -/
theorem of_not_breaker {a : Asked} {layer : Nat} (h : ∀ part, a.query ≠ .breaker layer part) :
    a.change? layer = none ∧ a.isRefusal layer = false ∧ a.isReset layer = false := by
  obtain ⟨q, answer⟩ := a
  cases q with
  | breaker i part =>
    have hi : i ≠ layer := fun hi => h part (congrArg (Query.breaker · part) hi)
    cases part with
    | decide => exact ⟨if_neg fun h => hi h.1, decide_eq_false fun h => hi h.1, rfl⟩
    | success => exact ⟨if_neg hi, rfl, rfl⟩
    | failure => exact ⟨if_neg hi, rfl, rfl⟩
    | reset => exact ⟨if_neg hi, rfl, decide_eq_false hi⟩
    | _ => exact ⟨rfl, rfl, rfl⟩
  | _ => exact ⟨rfl, rfl, rfl⟩

/-- **What a call learns of a change is the change.** -/
theorem change?_asked (h : Genuine I x) : x.asked.change? I.layer = change? I x := by
  by_cases hq : ∃ part, x.asked.query = .breaker I.layer part
  · obtain ⟨part, hq⟩ := hq
    rw [h part hq, change?, Happening.after_eq_enter I hq, change?_enter]
  · have hother : ∀ part, x.asked.query ≠ .breaker I.layer part := fun part hp => hq ⟨part, hp⟩
    rw [(of_not_breaker hother).1, change?, Happening.after_eq_before I hother, transition?_self]

/-- A reset clears the count of rejections, and a rejection adds one. -/
theorem rejected_after (h : Genuine I x) : (x.after I).rejected =
    if x.asked.isReset I.layer then .zero
    else if x.asked.isRefusal I.layer then x.before.rejected.tick else x.before.rejected := by
  by_cases hq : ∃ part, x.asked.query = .breaker I.layer part
  · obtain ⟨part, hq⟩ := hq
    rw [h part hq, Happening.after_eq_enter I hq, rejected_enter I.layer part]
  · have hother : ∀ part, x.asked.query ≠ .breaker I.layer part := fun part hp => hq ⟨part, hp⟩
    obtain ⟨-, hrefusal, hreset⟩ := of_not_breaker hother
    rw [hrefusal, hreset, Happening.after_eq_before I hother]
    rfl

/-- A change that a happening made is one that its question can make. -/
theorem Edge.of_change {change : Transition} (hc : change? I x = some change) :
    ∃ part call, x.asked.query = .breaker I.layer part ∧ Edge call change ∧
      (part = .decide ∧ call = .isAllowed ∨ part = .success ∧ call = .onSuccess ∨
        part = .failure ∧ call = .onFailure ∨ part = .reset ∧ call = .reset) := by
  have hq : ∃ part, x.asked.query = .breaker I.layer part := by
    by_contra hno
    rw [Breaker.change?, Happening.after_eq_before I fun part hp => hno ⟨part, hp⟩,
      transition?_self] at hc
    cases hc
  obtain ⟨part, hq⟩ := hq
  rw [Breaker.change?, Happening.after_eq_enter I hq] at hc
  refine ⟨part, ?_⟩
  cases part with
  | decide =>
    have hr : x.before.Rule I.config x.now .isAllowed _ := BreakerState.rule_isAllowed
    exact ⟨.isAllowed, hq, .of_rule hr hc, by simp⟩
  | success =>
    have hr : x.before.Rule I.config x.now .onSuccess _ := BreakerState.rule_onSuccess
    exact ⟨.onSuccess, hq, .of_rule hr hc, by simp⟩
  | failure =>
    have hr : x.before.Rule I.config x.now .onFailure _ := BreakerState.rule_onFailure
    exact ⟨.onFailure, hq, .of_rule hr hc, by simp⟩
  | reset =>
    have hr : x.before.Rule I.config x.now .reset _ := .forgotten
    exact ⟨.reset, hq, .of_rule hr hc, by simp⟩
  | _ =>
    rw [BreakerState.enter, transition?_self] at hc
    cases hc

variable (I) in
/-- The changes under the lock, in the order in which they were made. -/
def changes (trace : List Happening) : List Transition := trace.filterMap (change? I)

/-- **The changes under the lock are a chain**, from the position at the beginning to the position at
the end. -/
theorem chain_of_linked (h : Linked I s trace t) :
    Chain s.circuit (changes I trace) t.circuit := by
  induction h with
  | nil s => exact .nil _
  | @cons x rest t hr ih =>
    rw [changes, List.filterMap_cons]
    cases hc : change? I x with
    | none =>
      have hsame : x.before.circuit = (x.after I).circuit := by
        by_contra hne
        rw [change?, BreakerState.transition?, if_neg hne] at hc
        cases hc
      rw [hsame]
      exact ih
    | some change =>
      obtain ⟨c, d⟩ := change
      obtain ⟨-, rfl, rfl⟩ := change?_eq_some_iff.mp hc
      exact .cons ih

/-- **The breaker counts its rejections since the latest reset.** -/
theorem rejected_of_linked (h : Linked I s trace t) (hs : s.rejected = .zero)
    (hg : ∀ x ∈ trace, Genuine I x) :
    t.rejected.value =
      min ((sinceReset I.layer (trace.map Happening.asked)).countP (Asked.isRefusal I.layer))
        18446744073709551615 := by
  induction trace using List.reverseRecOn generalizing t with
  | nil =>
    rw [linked_nil_iff.mp h, hs]
    rfl
  | append_singleton trace x ih =>
    obtain ⟨u, hu, hx⟩ := linked_append_iff.mp h
    rw [linked_cons_iff, linked_nil_iff] at hx
    obtain ⟨rfl, rfl⟩ := hx
    have ih := ih hu fun y hy => hg y (List.mem_append_left _ hy)
    rw [rejected_after (hg x (by simp)), List.map_append, List.map_singleton, sinceReset_concat]
    cases x.asked.isReset I.layer with
    | true => rfl
    | false =>
      simp only [Bool.false_eq_true, if_false, List.countP_append, List.countP_singleton]
      cases x.asked.isRefusal I.layer with
      | false =>
        simp only [Bool.false_eq_true, if_false, Nat.add_zero]
        exact ih
      | true =>
        simp only [if_true, Counter.value_tick, ih]
        omega

end Changes

/-! ## 4. The observer -/

section Observer

variable {layer : Nat} {config : BreakerConfig} {I : Interleaving Operation Reply} {r : Recorder}
  {log : List Asked}

theorem transitions_hear (r : Recorder) (x : Asked) : (I.hear r x.query).transitions =
    r.transitions ++ (x.transition? I.layer).toList := by
  obtain ⟨q, answer⟩ := x
  cases q with
  | observe i notice =>
    rw [hear]
    by_cases hi : i = I.layer
    · rw [if_pos hi]
      cases notice with
      | transition t => rw [Asked.transition?, if_pos hi]; rfl
      | _ => exact (List.append_nil _).symm
    · rw [if_neg hi]
      cases notice with
      | transition t => rw [Asked.transition?, if_neg hi]; exact (List.append_nil _).symm
      | _ => exact (List.append_nil _).symm
  | _ => exact (List.append_nil _).symm

theorem rejections_hear (r : Recorder) (x : Asked) : (I.hear r x.query).rejections =
    r.rejections + (x.isRejection I.layer).toNat := by
  obtain ⟨q, answer⟩ := x
  cases q with
  | observe i notice =>
    rw [hear]
    by_cases hi : i = I.layer
    · rw [if_pos hi]
      cases notice with
      | rejection c => rw [Asked.isRejection, decide_eq_true hi]; rfl
      | _ => rfl
    · rw [if_neg hi]
      cases notice with
      | rejection c => rw [Asked.isRejection, decide_eq_false hi]; rfl
      | _ => rfl
  | _ => rfl

/-- The observer keeps the changes that it is told of, in order, ... -/
theorem transitions_foldl_hear (r : Recorder) (log : List Asked) :
    (log.foldl (fun r x => I.hear r x.query) r).transitions =
      r.transitions ++ log.filterMap (Asked.transition? I.layer) := by
  induction log generalizing r with
  | nil => exact (List.append_nil _).symm
  | cons x log ih =>
    rw [List.foldl_cons, ih, transitions_hear, List.append_assoc, List.filterMap_cons]
    cases x.transition? I.layer <;> rfl

/-- ... and counts the rejections. -/
theorem rejections_foldl_hear (r : Recorder) (log : List Asked) :
    (log.foldl (fun r x => I.hear r x.query) r).rejections =
      r.rejections + log.countP (Asked.isRejection I.layer) := by
  induction log generalizing r with
  | nil => rfl
  | cons x log ih =>
    rw [List.foldl_cons, ih, rejections_hear, List.countP_cons, Nat.add_assoc, Nat.add_comm (log.countP _)]
    cases x.isRejection I.layer <;> rfl

end Observer

/-! ## 5. One call after another -/

/-- What the program of a strand has ended with. -/
def result? (s : Strand Operation Reply) : Option Reply :=
  match s.rest with
  | .done reply => some reply
  | .ask .. => none

theorem result?_eq_some_iff {s : Strand Operation Reply} {reply : Reply} :
    result? s = some reply ↔ s.rest = .done reply := by
  rw [result?]
  cases s.rest with
  | done other => simp
  | ask q next => simp

/-- All calls that have begun have returned. -/
def AllReturned (w : State Operation Reply) : Prop := ∀ s ∈ w.strands, (result? s).isSome

instance (w : State Operation Reply) : Decidable (AllReturned w) :=
  inferInstanceAs (Decidable (∀ s ∈ w.strands, (result? s).isSome))

/-- What the calls have answered. -/
def replies (w : State Operation Reply) : List Reply := w.strands.filterMap result?

/-- No call begins before all others have returned. -/
def OneByOne (I : Interleaving Operation Reply) (w : State Operation Reply) :
    List (Move Operation) → Prop
  | [] => True
  | .begin call :: moves => AllReturned w ∧ OneByOne I (I.step w (.begin call)) moves
  | .next i now env :: moves => OneByOne I (I.step w (.next i now env)) moves

instance decidableOneByOne (I : Interleaving Operation Reply) (w : State Operation Reply) :
    (moves : List (Move Operation)) → Decidable (OneByOne I w moves)
  | [] => .isTrue trivial
  | .begin call :: moves =>
    have := decidableOneByOne I (I.step w (.begin call)) moves
    inferInstanceAs (Decidable (_ ∧ _))
  | .next i now env :: moves => decidableOneByOne I (I.step w (.next i now env)) moves

section OneByOne

variable {I : Interleaving Operation Reply} {w : State Operation Reply}
  {moves : List (Move Operation)}

/-- All that was asked so far is what the calls asked, one after another, and only the last call is
under way. -/
structure InTurn (w : State Operation Reply) : Prop where
  asked : w.trace.map Happening.asked = w.strands.flatMap Strand.log
  returned : ∀ i s, w.strands[i]? = some s → i + 1 < w.strands.length → (result? s).isSome

/-- A call that begins when all others have returned keeps that. -/
theorem InTurn.begun (h : InTurn w) (hover : AllReturned w) (call : Operation) :
    InTurn (I.step w (.begin call)) where
  asked := by
    rw [step, List.flatMap_append, ← h.asked]
    exact (List.append_nil _).symm
  returned := by
    intro i s hs hi
    rcases getElem?_concat_cases hs with hs | rfl
    · exact hover s (List.mem_of_getElem? hs)
    · rw [step, List.length_append, List.length_singleton] at hi
      have hlt : i < w.strands.length := Nat.lt_of_add_lt_add_right hi
      rw [step, List.getElem?_append_left hlt] at hs
      exact hover _ (List.mem_of_getElem? hs)

/-- The next question of a call keeps it: the call is the last one. -/
theorem InTurn.asked_next (h : InTurn w) (i : Nat) (now : Instant) (env : (q : Query) → q.Answer) :
    InTurn (I.step w (.next i now env)) := by
  have hr := I.step_rule w (.next i now env)
  generalize I.step w (.next i now env) = w' at hr
  cases hr with
  | idle => exact h
  | @asked _ _ _ source log q next hi =>
    have hlt := (List.getElem?_eq_some_iff.mp hi).1
    have hlast : i + 1 = w.strands.length := by
      by_contra hne
      exact absurd (h.returned i _ hi (by omega)) (by nofun)
    refine ⟨?_, fun j s hs hj => ?_⟩
    · rw [List.map_append, h.asked, List.set_eq_take_append_cons_drop, if_pos hlt, hlast,
        List.drop_length]
      conv_lhs => rw [← List.take_append_drop i w.strands, List.drop_eq_getElem_cons hlt, hlast,
        List.drop_length, (List.getElem?_eq_some_iff.mp hi).2]
      simp
    · rw [List.length_set] at hj
      rcases getElem?_set_cases hs with ⟨-, hs⟩ | ⟨rfl, rfl⟩
      · exact h.returned j s hs hj
      · omega

/-- **Calls that run one after another ask one after another.** -/
theorem OneByOne.inTurn (hw : InTurn w) (h : OneByOne I w moves) : InTurn (I.run w moves) := by
  induction moves generalizing w with
  | nil => exact hw
  | cons m moves ih =>
    cases m with
    | «begin» call => exact ih (hw.begun h.1 call) h.2
    | next i now env => exact ih (hw.asked_next i now env) h

end OneByOne

/-! ## 6. The whole -/

section Whole

variable {layer : Nat} {config : BreakerConfig} {call : Operation} {log : List Asked} {reply : Reply}
  {strands : List (Strand Operation Reply)} {w : State Operation Reply}

/-- A section belongs to the calls that have it. -/
theorem Record.source_eq (h : Record layer call log reply) {x : Asked} (hx : x ∈ log) :
    (x.query = .breaker layer .decide → call = .isAllowed) ∧
      (x.query = .breaker layer .success → call = .onSuccess) ∧
      (x.query = .breaker layer .failure → call = .onFailure) ∧
      (x.query = .breaker layer .reset → call = .reset) := by
  cases h with
  | succeeded | failed | forgotten =>
    rcases List.mem_cons.mp hx with rfl | hx
    · simp
    · have hne := not_breaker_of_mem_tale hx
      exact ⟨(absurd · (hne _)), (absurd · (hne _)), (absurd · (hne _)), (absurd · (hne _))⟩
  | _ =>
    simp only [List.mem_cons, List.not_mem_nil, or_false] at hx
    rcases hx with rfl | rfl | rfl | rfl <;> simp [Asked.line, Asked.notice]

variable (layer config) in
/-- What is so after every run of calls of a new breaker. -/
structure Played (w : State Operation Reply) : Prop where
  leads : ∀ s ∈ w.strands, ((calls layer config).program s.source).Leads s.log s.rest
  logs : (w.strands.flatMap Strand.log).Perm (w.trace.map Happening.asked)
  linked : Linked (calls layer config) .initial w.trace w.breaker
  genuine : ∀ x ∈ w.trace, Genuine (calls layer config) x
  transitions : w.recorder.transitions =
    (w.trace.map Happening.asked).filterMap (Asked.transition? layer)
  rejections : w.recorder.rejections =
    (w.trace.map Happening.asked).countP (Asked.isRejection layer)
  /-- What a happening asked is in the log of its call. -/
  source : ∀ x ∈ w.trace, ∃ s, w.strands[x.strand]? = some s ∧ x.asked ∈ s.log

theorem played (moves : List (Move Operation)) :
    Played layer config (play layer config .initial moves) where
  leads := leads_run (I := calls layer config) rfl moves
  logs := perm_logs (I := calls layer config) rfl rfl moves
  linked := linked_run (I := calls layer config) (w := { breaker := .initial }) rfl moves
  genuine := answered_run (I := calls layer config) rfl moves
  transitions := by
    rw [play, recorder_run (I := calls layer config) rfl moves, transitions_foldl_hear]
    rfl
  rejections := by
    rw [play, recorder_run (I := calls layer config) rfl moves, rejections_foldl_hear]
    exact Nat.zero_add _
  source := by
    intro x hx
    obtain ⟨hnumbers, hlogs⟩ :=
      log_eq_run (I := calls layer config) (w := { breaker := .initial }) rfl rfl moves
    have hs := List.getElem?_eq_getElem (hnumbers x hx)
    refine ⟨_, hs, ?_⟩
    rw [hlogs x.strand _ hs]
    exact List.mem_map_of_mem (List.mem_filter.mpr ⟨hx, by simp⟩)

/-- Calls that have returned have kept their ledgers. -/
theorem Played.told (h : Played layer config w) (hover : AllReturned w) :
    ∀ s ∈ w.strands, ∃ reply, result? s = some reply ∧ Told layer s.log reply := by
  intro s hs
  obtain ⟨reply, hreply⟩ := Option.isSome_iff_exists.mp (hover s hs)
  have hleads := h.leads s hs
  rw [result?_eq_some_iff.mp hreply] at hleads
  exact ⟨reply, hreply, (Record.of_yields hleads.yields_of_done).told⟩

/-- What the calls learned of changes are the changes. -/
theorem Played.filterMap_change? (h : Played layer config w) :
    (w.trace.map Happening.asked).filterMap (Asked.change? layer) =
      changes (calls layer config) w.trace := by
  rw [List.filterMap_map]
  exact List.filterMap_congr fun x hx => change?_asked (h.genuine x hx)

/-- A change is one that the call which made it can make. -/
theorem Played.edge (h : Played layer config w) {x : Happening} (hx : x ∈ w.trace) {t : Transition}
    (hc : change? (calls layer config) x = some t) :
    ∃ s, w.strands[x.strand]? = some s ∧ Edge s.source t := by
  obtain ⟨s, hs, hlog⟩ := h.source x hx
  obtain ⟨part, call, hq, hedge, hcall⟩ := Edge.of_change hc
  obtain ⟨more, reply, hyields⟩ := (h.leads s (List.mem_of_getElem? hs)).exists_yields
  obtain ⟨hdecide, hsuccess, hfailure, hreset⟩ :=
    (Record.of_yields hyields).source_eq (List.mem_append_left more hlog)
  refine ⟨s, hs, ?_⟩
  rcases hcall with ⟨rfl, rfl⟩ | ⟨rfl, rfl⟩ | ⟨rfl, rfl⟩ | ⟨rfl, rfl⟩
  · exact hdecide hq ▸ hedge
  · exact hsuccess hq ▸ hedge
  · exact hfailure hq ▸ hedge
  · exact hreset hq ▸ hedge

/-- Calls that have returned have told of the changes that they made. -/
theorem flatMap_transition?_eq
    (h : ∀ s ∈ strands, ∃ reply, result? s = some reply ∧ Told layer s.log reply) :
    (strands.flatMap Strand.log).filterMap (Asked.transition? layer) =
      (strands.flatMap Strand.log).filterMap (Asked.change? layer) := by
  rw [List.filterMap_flatMap, List.filterMap_flatMap]
  refine List.flatMap_congr fun s hs => ?_
  obtain ⟨reply, -, htold⟩ := h s hs
  exact htold.transitions

/-- The observer was told of one rejection for each answer that was no. -/
theorem countP_isRejection_eq
    (h : ∀ s ∈ strands, ∃ reply, result? s = some reply ∧ Told layer s.log reply) :
    (strands.flatMap Strand.log).countP (Asked.isRejection layer) =
      (strands.filterMap result?).count (.allowed false) := by
  induction strands with
  | nil => rfl
  | cons s strands ih =>
    obtain ⟨reply, hreply, htold⟩ := h s List.mem_cons_self
    rw [List.flatMap_cons, List.countP_append, ih fun s hs => h s (List.mem_cons_of_mem _ hs),
      List.filterMap_cons_some hreply, List.count_cons, htold.rejections, Nat.add_comm]
    simp

/-- Calls one after another tell of their rejections since the latest reset. -/
theorem countP_sinceReset_eq
    (h : ∀ s ∈ strands, ∃ reply, result? s = some reply ∧ Told layer s.log reply) :
    (sinceReset layer (strands.flatMap Strand.log)).countP (Asked.isRejection layer) =
      (sinceReset layer (strands.flatMap Strand.log)).countP (Asked.isRefusal layer) := by
  induction strands using List.reverseRecOn with
  | nil => rfl
  | append_singleton strands s ih =>
    obtain ⟨reply, -, htold⟩ := h s (by simp)
    rw [List.flatMap_append, List.flatMap_cons, List.flatMap_nil, List.append_nil]
    exact htold.latest _ (ih fun s hs => h s (List.mem_append_left _ hs))

variable (layer config) in
/-- **The observer has heard of everything, and of everything once.** -/
structure Heard (w : State Operation Reply) : Prop where
  /-- It was told of the changes that were made under the lock, in some order, ... -/
  told : w.recorder.transitions.Perm (changes (calls layer config) w.trace)
  /-- ... and of a rejection for each call that was answered with no. -/
  rejections : w.recorder.rejections = (replies w).count (.allowed false)
  /-- By what it was told each position was entered as often as it was left, but for the position at the
  beginning and the position now. -/
  balanced : ∀ c, balance c w.recorder.transitions =
    (if w.breaker.circuit = c then 1 else 0) - (if Circuit.closed = c then 1 else 0)
  /-- Each change is one that the call which made it can make. -/
  edges : ∀ x ∈ w.trace, ∀ t, change? (calls layer config) x = some t →
    ∃ s, w.strands[x.strand]? = some s ∧ Edge s.source t

variable (layer config) in
/-- **The observer has heard of everything in order.** -/
structure HeardInOrder (w : State Operation Reply) : Prop where
  /-- It was told of the changes in the order in which they were made, ... -/
  told : w.recorder.transitions = changes (calls layer config) w.trace
  /-- ... each of which begins where the one before has ended. -/
  chain : Chain .closed w.recorder.transitions w.breaker.circuit
  /-- The breaker counts the rejections that the observer was told of since the latest reset. -/
  rejected : w.breaker.rejected.value =
    min ((sinceReset layer (w.trace.map Happening.asked)).countP (Asked.isRejection layer))
      18446744073709551615

theorem Played.heard (h : Played layer config w) (hover : AllReturned w) :
    Heard layer config w := by
  have hperm : w.recorder.transitions.Perm (changes (calls layer config) w.trace) := by
    rw [h.transitions, ← h.filterMap_change?]
    refine (h.logs.filterMap _).symm.trans ?_
    rw [flatMap_transition?_eq (h.told hover)]
    exact h.logs.filterMap _
  refine ⟨hperm, ?_, fun c => ?_, fun x hx t hc => h.edge hx hc⟩
  · rw [h.rejections, ← h.logs.countP_eq, countP_isRejection_eq (h.told hover), replies]
  · rw [balance, hperm.countP_eq, hperm.countP_eq]
    exact (chain_of_linked h.linked).balance_eq c

theorem Played.heardInOrder (h : Played layer config w) (hover : AllReturned w) (hturn : InTurn w) :
    HeardInOrder layer config w := by
  have htold : w.recorder.transitions = changes (calls layer config) w.trace := by
    rw [h.transitions, hturn.asked, flatMap_transition?_eq (h.told hover), ← hturn.asked,
      h.filterMap_change?]
  refine ⟨htold, ?_, ?_⟩
  · rw [htold]
    exact chain_of_linked h.linked
  · rw [rejected_of_linked h.linked rfl h.genuine, hturn.asked, countP_sinceReset_eq (h.told hover)]
    rfl

/-- **The observer hears of each change once.**  Let any number of threads make any calls of a new
breaker, however the critical sections and the notices of the calls come between each other, and
whatever the clock shows.  Once all calls have returned, the observer has heard of every change and of
every rejection, and of each once; and if the calls were made one after another, in order. -/
theorem hears_each_change_once (layer : Nat) (config : BreakerConfig) (moves : List (Move Operation))
    (hover : AllReturned (play layer config .initial moves)) :
    Heard layer config (play layer config .initial moves) ∧
      (OneByOne (calls layer config) { breaker := .initial } moves →
        HeardInOrder layer config (play layer config .initial moves)) := by
  refine ⟨(played moves).heard hover, fun horder => (played moves).heardInOrder hover ?_⟩
  exact horder.inTurn ⟨rfl, nofun⟩

/-- A failure opens the circuit, a call is rejected, and a reset closes the circuit again.  If the reset
is announced before the failure, the observer hears of the two changes the other way round; if the calls
are made one after another, it hears of them in order. -/
theorem hears_each_change_once_late :
    let config : BreakerConfig := { failureThreshold := 1 }
    let env : (q : Query) → q.Answer := fun
      | .context => none
      | .breaker _ part => (BreakerState.initial.enter {} .origin part).1
      | .observe .. => ()
      | .trace _ => ()
      | .sample _ => none
      | .exchange _ => .error .cancelled
      | .pause _ => none
    let ask (strand times : Nat) : List (Move Operation) :=
      List.replicate times (.next strand .origin env)
    let race := [.begin .onFailure, .begin .isAllowed, .begin .reset] ++ ask 0 1 ++ ask 1 2 ++ ask 2 3 ++
      ask 0 2 ++ ask 1 2
    let turns := [.begin .onFailure] ++ ask 0 3 ++ [.begin .isAllowed] ++ ask 1 4 ++
      [.begin .onFailure] ++ ask 2 1
    (AllReturned (play 0 config .initial race) ∧
      (play 0 config .initial race).recorder.transitions = [⟨.opened, .closed⟩, ⟨.closed, .opened⟩] ∧
      [⟨.opened, .closed⟩, ⟨.closed, .opened⟩].Perm
        (changes (calls 0 config) (play 0 config .initial race).trace) ∧
      (play 0 config .initial race).recorder.rejections = 1) ∧
    (AllReturned (play 0 config .initial turns) ∧
      Chain .closed (play 0 config .initial turns).recorder.transitions .opened ∧
      (play 0 config .initial turns).breaker.rejected.value = 1) := by
  intro config env ask race turns
  have hrace : AllReturned (play 0 config .initial race) := by decide +kernel
  have hturns : AllReturned (play 0 config .initial turns) := by decide +kernel
  obtain ⟨h, -⟩ := hears_each_change_once 0 config race hrace
  obtain ⟨-, hordered⟩ := hears_each_change_once 0 config turns hturns
  have ho := hordered (by decide +kernel)
  have htold : (play 0 config .initial race).recorder.transitions =
      [⟨.opened, .closed⟩, ⟨.closed, .opened⟩] := by decide +kernel
  refine ⟨⟨hrace, htold, htold ▸ h.told, h.rejections.trans (by decide +kernel)⟩, hturns, ?_, ?_⟩
  · have hopen : (play 0 config .initial turns).breaker.circuit = .opened := by decide +kernel
    exact hopen ▸ ho.chain
  · exact ho.rejected.trans (by decide +kernel)

end Whole

end Breaker

end Resilience
