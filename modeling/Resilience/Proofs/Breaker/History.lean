/-
# Histories of a breaker

A breaker lives through a sequence of calls, each made at some instant.  This file says what such a
sequence leaves behind, and what a single call can do.

* `BreakerCall`, `BreakerEvent`: the calls, and a call at an instant.
* `BreakerState.step`, `BreakerState.run`: what a call and a history make of a state.
* `BreakerState.Rule`: the rules of the breaker, one for each way in which a call can go.  Everything
  that is kept along a history is proved by a case split on the rules (`step_rule`).
* `Breaker.Answers`: the same for the questions of `Breaker.isAllowed`.
* `World.perform_isAllowed` and its companions: the programs of the calls do what `step` says, on every
  breaker of a world and with every clock that it may have.
-/
import Resilience.Breaker.Call
import Resilience.Proofs.Program.Run
import Resilience.Simulation.Task

namespace Resilience

/-! ## 1. Calls and histories -/

/-- A call of a breaker that may change it. -/
inductive BreakerCall where
  /-- Asks whether a call may be made. -/
  | isAllowed
  /-- Reports a success. -/
  | onSuccess
  /-- Reports a failure. -/
  | onFailure
  /-- Forgets everything. -/
  | reset
deriving DecidableEq

/-- A call at an instant. -/
structure BreakerEvent where
  /-- The call. -/
  call : BreakerCall
  /-- When it is made. -/
  now : Instant
deriving DecidableEq

namespace BreakerState

variable (config : BreakerConfig)

/-- What a call leaves behind. -/
def step (s : BreakerState) (e : BreakerEvent) : BreakerState :=
  match e.call with
  | .isAllowed => (s.isAllowed config e.now).2
  | .onSuccess => s.onSuccess config
  | .onFailure => s.onFailure config e.now
  | .reset => s.reset

/-- What a history leaves behind. -/
def run (s : BreakerState) (events : List BreakerEvent) : BreakerState := events.foldl (step config) s

theorem run_append (s : BreakerState) (events more : List BreakerEvent) :
    s.run config (events ++ more) = (s.run config events).run config more := by
  rw [run, List.foldl_append]
  rfl

theorem run_concat (s : BreakerState) (events : List BreakerEvent) (e : BreakerEvent) :
    s.run config (events ++ [e]) = (s.run config events).step config e := by
  rw [run_append]
  rfl

/-! ## 2. The rules of a call -/

/-- One more success in all. -/
def succeeded (s : BreakerState) : BreakerState :=
  { s with totalSuccesses := s.totalSuccesses.tick }

/-- One more failure, at the instant `now`. -/
def failed (now : Instant) (s : BreakerState) : BreakerState :=
  { s with
    failures := s.failures.tick
    totalFailures := s.totalFailures.tick
    lastFailure := some now }

/-- `s.Rule config now call t`: the call, made at the instant `now` in the state `s`, leaves `t`. -/
inductive Rule (config : BreakerConfig) (now : Instant) (s : BreakerState) :
    BreakerCall → BreakerState → Prop
  /-- A circuit that is not open lets the call pass. -/
  | passed (h : s.circuit ≠ .opened) : Rule config now s .isAllowed s
  /-- An open circuit that has cooled down lets the call pass as a probe. -/
  | probing (h : s.circuit = .opened) (hc : s.cooledDown config now = true) :
      Rule config now s .isAllowed (s.moveTo .halfOpen)
  /-- An open circuit that has not cooled down rejects the call. -/
  | rejected (h : s.circuit = .opened) (hc : s.cooledDown config now = false) :
      Rule config now s .isAllowed { s with rejected := s.rejected.tick }
  /-- A success clears the count of failures of a closed circuit. -/
  | cleared (h : s.circuit = .closed) :
      Rule config now s .onSuccess { s.succeeded with failures := .zero }
  /-- A success comes too late for an open circuit. -/
  | late (h : s.circuit = .opened) : Rule config now s .onSuccess s.succeeded
  /-- A success of a probe is counted. -/
  | probed (h : s.circuit = .halfOpen) (hn : s.probes.tick.value < config.successesNeeded.toNat) :
      Rule config now s .onSuccess { s.succeeded with probes := s.probes.tick }
  /-- The last success that is needed closes the circuit. -/
  | recovered (h : s.circuit = .halfOpen)
      (hn : config.successesNeeded.toNat ≤ s.probes.tick.value) :
      Rule config now s .onSuccess (s.succeeded.moveTo .closed)
  /-- A failure below the threshold is counted. -/
  | counted (h : s.circuit = .closed) (hn : s.failures.tick.value < config.failureThreshold.toNat) :
      Rule config now s .onFailure (s.failed now)
  /-- The failure that reaches the threshold opens the circuit. -/
  | tripped (h : s.circuit = .closed) (hn : config.failureThreshold.toNat ≤ s.failures.tick.value) :
      Rule config now s .onFailure ((s.failed now).moveTo .opened)
  /-- A failure dates the cool-down of an open circuit anew. -/
  | extended (h : s.circuit = .opened) : Rule config now s .onFailure (s.failed now)
  /-- A failure of a probe opens the circuit. -/
  | reopened (h : s.circuit = .halfOpen) :
      Rule config now s .onFailure ((s.failed now).moveTo .opened)
  /-- A reset forgets everything. -/
  | forgotten : Rule config now s .reset initial

variable {config} {now : Instant} {s : BreakerState}

@[simp] theorem circuit_failed : (s.failed now).circuit = s.circuit := rfl

theorem isAllowed_of_ne (h : s.circuit ≠ .opened) : s.isAllowed config now = (true, s) := by
  unfold isAllowed admission
  cases hs : s.circuit with
  | opened => exact absurd hs h
  | closed => rfl
  | halfOpen => rfl

theorem isAllowed_of_opened (h : s.circuit = .opened) :
    s.isAllowed config now =
      if s.cooledDown config now then (true, s.moveTo .halfOpen)
      else (false, { s with rejected := s.rejected.tick }) := by
  unfold isAllowed admission
  rw [h]
  cases s.cooledDown config now <;> rfl

theorem rule_isAllowed : s.Rule config now .isAllowed (s.isAllowed config now).2 := by
  by_cases h : s.circuit = .opened
  · rw [isAllowed_of_opened h]
    cases hc : s.cooledDown config now with
    | true => exact .probing h hc
    | false => exact .rejected h hc
  · rw [isAllowed_of_ne h]
    exact .passed h

theorem rule_onSuccess : s.Rule config now .onSuccess (s.onSuccess config) := by
  obtain ⟨circuit, failures, probes, lastFailure, totalSuccesses, totalFailures, rejected⟩ := s
  cases circuit with
  | closed => exact .cleared rfl
  | opened => exact .late rfl
  | halfOpen =>
    by_cases hn : config.successesNeeded.toNat ≤ probes.tick.value
    · simp only [onSuccess, if_pos hn]
      exact .recovered rfl hn
    · simp only [onSuccess, if_neg hn]
      exact .probed rfl (Nat.lt_of_not_le hn)

theorem rule_onFailure : s.Rule config now .onFailure (s.onFailure config now) := by
  obtain ⟨circuit, failures, probes, lastFailure, totalSuccesses, totalFailures, rejected⟩ := s
  cases circuit with
  | closed =>
    by_cases hn : config.failureThreshold.toNat ≤ failures.tick.value
    · simp only [onFailure, if_pos hn]
      exact .tripped rfl hn
    · simp only [onFailure, if_neg hn]
      exact .counted rfl (Nat.lt_of_not_le hn)
  | opened => exact .extended rfl
  | halfOpen => exact .reopened rfl

/-- **Every call follows a rule.** -/
theorem step_rule (s : BreakerState) (e : BreakerEvent) :
    s.Rule config e.now e.call (s.step config e) := by
  obtain ⟨call, now⟩ := e
  cases call with
  | isAllowed => exact rule_isAllowed
  | onSuccess => exact rule_onSuccess
  | onFailure => exact rule_onFailure
  | reset => exact .forgotten

/-- A section that does not look at the clock goes the same way at every instant. -/
theorem enter_eq_enter {part : Section} {other : Instant} (h : part.readsClock s = false) :
    s.enter config now part = s.enter config other part := by
  cases part with
  | decide =>
    have hs : s.circuit ≠ .opened := by simpa [Section.readsClock] using h
    simp only [enter, admission]
    cases hc : s.circuit with
    | opened => exact absurd hc hs
    | closed => rfl
    | halfOpen => rfl
  | failure => cases h
  | remaining =>
    simp only [enter, remaining]
    cases hc : s.circuit with
    | opened =>
      have hl : s.lastFailure = none := by simpa [Section.readsClock, hc] using h
      rw [hl]
    | closed => rfl
    | halfOpen => rfl
  | look => rfl
  | success => rfl
  | reset => rfl
  | snapshot => rfl

end BreakerState

/-! ## 3. The programs of the calls -/

/-- The question only tells something. -/
def Query.Tells : Query → Prop
  | .observe .. => True
  | .trace _ => True
  | _ => False

namespace Program

variable {α β : Type}

/-- The program only tells something before it ends, and ends with `a`. -/
def Settles : Program α → α → Prop
  | .done b, a => b = a
  | .ask q next, a => q.Tells ∧ ∀ answer, (next answer).Settles a

/-- A program that only tells something, followed by a result, ends with it. -/
theorem Only.settles {p : Program β} (h : p.Only Query.Tells) (a : α) :
    (p >>= fun _ => pure a).Settles a := by
  rw [monad_bind_eq]
  induction p with
  | done u => rfl
  | ask q next ih => exact ⟨h.1, fun answer => ih answer (h.2 answer)⟩

end Program

/-- The question writes a line, or tells the observer of the layer of a change. -/
def Query.Announces (layer : Nat) : Query → Prop
  | .observe i (.transition _) => i = layer
  | .trace _ => True
  | _ => False

theorem Query.Announces.tells {layer : Nat} {q : Query} (h : q.Announces layer) : q.Tells := by
  cases q with
  | observe => trivial
  | trace => trivial
  | _ => exact h.elim

/-- What announces a change only tells something. -/
theorem Program.Only.tells_of_announces {α : Type} {layer : Nat} {p : Program α}
    (h : p.Only (Query.Announces layer)) : p.Only Query.Tells :=
  h.mono fun _ => Query.Announces.tells

/-- What announces a change makes no exchange and records no attempt. -/
theorem Query.Announces.isQuiet {layer : Nat} {q : Query} (h : q.Announces layer) : q.IsQuiet := by
  cases q with
  | observe i notice =>
    cases notice with
    | transition t => trivial
    | _ => exact h.elim
  | trace line => trivial
  | _ => exact h.elim

/-- Neither does it wait or draw a sample. -/
theorem Query.Announces.isPrompt {layer : Nat} {q : Query} (h : q.Announces layer) : q.IsPrompt := by
  cases q with
  | observe => trivial
  | trace => trivial
  | _ => exact h.elim

namespace World

/-- What the clock of a layer's breaker shows. -/
def instant (w : World) (layer : Nat) : Instant := (w.readClock (w.station layer).clock).1

variable {w : World} {layer : Nat} {part : Section}

theorem stations_readClock (source : ClockSource) : (w.readClock source).2.stations = w.stations := by
  cases source with
  | manual =>
    simp only [readClock]
    cases w.manual.now with
    | ok t => rfl
    | error f => rfl
  | run => rfl
  | ticking => rfl

theorem length_stations_enter :
    (w.enter layer part).2.stations.length = w.stations.length := by
  cases h : part.readsClock (w.station layer).state with
  | true => simp only [enter, h, if_true, stations_readClock, List.length_modify]
  | false => simp only [enter, h, Bool.false_eq_true, if_false, List.length_modify]

/-- A section learns what the state of the breaker and its clock say. -/
theorem enter_fst : (w.enter layer part).1 =
    ((w.station layer).state.enter (w.station layer).config (w.instant layer) part).1 := by
  cases h : part.readsClock (w.station layer).state with
  | true =>
    simp only [enter, h, if_true]
    rfl
  | false =>
    simp only [enter, h, Bool.false_eq_true, if_false]
    rw [BreakerState.enter_eq_enter h]

/-- A section changes the state of its breaker, and of its layer nothing else. -/
theorem station_enter (hl : layer < w.stations.length) : (w.enter layer part).2.station layer =
    { w.station layer with
      state := ((w.station layer).state.enter (w.station layer).config (w.instant layer) part).2 } := by
  have get : ∀ f : Station → Station,
      ((w.stations.modify layer f)[layer]?).getD default = f (w.station layer) := by
    intro f
    rw [List.getElem?_modify_eq, station, List.getElem?_eq_getElem hl]
    rfl
  cases h : part.readsClock (w.station layer).state with
  | true =>
    simp only [enter, h, if_true]
    rw [station, stations_readClock, get]
    rfl
  | false =>
    simp only [enter, h, Bool.false_eq_true, if_false]
    rw [station, get, BreakerState.enter_eq_enter h]

/-- Looking at a breaker changes nothing that a later section depends on. -/
theorem station_look (hl : layer < w.stations.length) :
    (w.enter layer .look).2.station layer = w.station layer := station_enter hl

theorem instant_look (hl : layer < w.stations.length) :
    (w.enter layer .look).2.instant layer = w.instant layer := by
  rw [instant, instant, station_look hl]
  cases (w.station layer).clock with
  | manual =>
    simp only [readClock]
    cases hm : w.manual.now with
    | ok t =>
      have : (w.enter layer .look).2.manual.now = .ok t := hm
      rw [this]
    | error f =>
      have : (w.enter layer .look).2.manual.now = .error f := hm
      rw [this]
  | run => rfl
  | ticking => rfl

theorem station_observe (notice : Notice) (other : Nat) :
    (w.observe other notice).station layer = w.station layer := by
  unfold observe
  split <;> rfl

end World

variable {α : Type} {w : World} {layer : Nat} {part : Section}

/-- A program that only tells something leaves all breakers alone. -/
theorem Program.Only.station_perform {p : Program α} (h : p.Only Query.Tells) (w : World) :
    (p.perform w).2.station layer = w.station layer := by
  induction p generalizing w with
  | done a => rfl
  | ask q next ih =>
    cases q with
    | observe other notice => exact (ih () (h.2 ()) _).trans (w.station_observe notice other)
    | trace line => exact ih () (h.2 ()) _
    | _ => exact h.1.elim

theorem Program.perform_enter_bind {f : part.Answer → Program α} :
    (Breaker.enter layer part >>= f).perform w =
      (f (w.enter layer part).1).perform (w.enter layer part).2 := rfl

/-- A section that is followed by what only tells something does what it does alone. -/
theorem Program.station_perform_enter {f : part.Answer → Program α}
    (hf : ∀ answer, (f answer).Only Query.Tells) (hl : layer < w.stations.length) :
    ((Breaker.enter layer part >>= f).perform w).2.station layer =
      { w.station layer with
        state := ((w.station layer).state.enter (w.station layer).config (w.instant layer) part).2 } :=
  ((hf _).station_perform _).trans (World.station_enter hl)

theorem Breaker.only_announce (layer : Nat) (change : Option Transition) :
    (Breaker.announce layer change).Only (Query.Announces layer) := by
  cases change with
  | none => exact Program.only_pure ()
  | some t => exact Program.only_observe.mpr rfl

theorem Breaker.only_tell (line : TraceLine) (notice : Notice) (answer : Bool) :
    (Program.trace line >>= fun _ => Program.observe layer notice >>= fun _ =>
      pure answer : Program Bool).Only Query.Tells :=
  Program.Only.bind (Program.only_trace.mpr trivial) fun _ =>
    Program.Only.bind (Program.only_observe.mpr trivial) fun _ => Program.only_pure answer

/-- **The question whether a call may be made, rule by rule**: what is asked, and the answer. -/
inductive Breaker.Answers (layer : Nat) : List Asked → Bool → Prop
  /-- The circuit was not open. -/
  | passed : Breaker.Answers layer [⟨.breaker layer .look, false⟩] true
  /-- The circuit was open, but is not any more. -/
  | admitted :
      Breaker.Answers layer [⟨.breaker layer .look, true⟩, ⟨.breaker layer .decide, .admitted⟩] true
  /-- The circuit is open. -/
  | rejected (line : TraceLine) :
      Breaker.Answers layer [⟨.breaker layer .look, true⟩, ⟨.breaker layer .decide, .rejected⟩,
        .line line, .notice layer (.rejection .opened)] false
  /-- The circuit has become half-open for the call. -/
  | probing (line : TraceLine) :
      Breaker.Answers layer [⟨.breaker layer .look, true⟩, ⟨.breaker layer .decide, .probing⟩,
        .line line, .notice layer (.transition ⟨.opened, .halfOpen⟩)] true

/-- Every run of the question follows the rules. -/
theorem Breaker.answers_of_yields {log : List Asked} {answer : Bool}
    (h : (Breaker.isAllowed layer).Yields log answer) : Breaker.Answers layer log answer := by
  replace h := Program.yields_query_bind_iff.mp h
  obtain ⟨seen, rest, rfl, h⟩ := h
  cases seen with
  | false =>
    replace h := Program.yields_pure_iff.mp h
    obtain ⟨rfl, rfl⟩ := h
    exact .passed
  | true =>
    replace h := Program.yields_query_bind_iff.mp h
    obtain ⟨decision, rest, rfl, h⟩ := h
    cases decision with
    | admitted =>
      replace h := Program.yields_pure_iff.mp h
      obtain ⟨rfl, rfl⟩ := h
      exact .admitted
    | rejected =>
      replace h := Program.yields_trace_bind_iff.mp h
      obtain ⟨rest, rfl, h⟩ := h
      replace h := Program.yields_observe_bind_iff.mp h
      obtain ⟨rest, rfl, h⟩ := h
      replace h := Program.yields_pure_iff.mp h
      obtain ⟨rfl, rfl⟩ := h
      exact .rejected _
    | probing =>
      replace h := Program.yields_trace_bind_iff.mp h
      obtain ⟨rest, rfl, h⟩ := h
      replace h := Program.yields_observe_bind_iff.mp h
      obtain ⟨rest, rfl, h⟩ := h
      replace h := Program.yields_pure_iff.mp h
      obtain ⟨rfl, rfl⟩ := h
      exact .probing _

/-- A report of a success is one section, followed by what only announces it. -/
theorem Breaker.exists_onSuccess_eq (layer : Nat) (config : BreakerConfig) :
    ∃ tell, Breaker.onSuccess layer config = (Breaker.enter layer .success >>= tell) ∧
      ∀ change, (tell change).Only (Query.Announces layer) := by
  refine ⟨_, rfl, fun change => ?_⟩
  refine Program.Only.ite (Program.Only.bind (Program.only_trace.mpr trivial) fun _ => ?_) ?_
  · exact Breaker.only_announce layer change
  · exact Breaker.only_announce layer change

/-- So is a report of a failure ... -/
theorem Breaker.exists_onFailure_eq (layer : Nat) :
    ∃ tell, Breaker.onFailure layer = (Breaker.enter layer .failure >>= tell) ∧
      ∀ answer, (tell answer).Only (Query.Announces layer) := by
  refine ⟨_, rfl, fun answer => ?_⟩
  obtain ⟨change, count⟩ := answer
  have warned : ∀ line, (Program.trace line >>= fun _ => Breaker.announce layer change).Only
      (Query.Announces layer) :=
    fun _ => Program.Only.bind (Program.only_trace.mpr trivial) fun _ => Breaker.only_announce layer change
  match change with
  | none => exact Breaker.only_announce layer none
  | some ⟨.halfOpen, _⟩ => exact warned _
  | some ⟨.closed, _⟩ => exact warned _
  | some ⟨.opened, _⟩ => exact warned _

/-- ... and a reset. -/
theorem Breaker.exists_reset_eq (layer : Nat) :
    ∃ tell, Breaker.reset layer = (Breaker.enter layer .reset >>= tell) ∧
      ∀ change, (tell change).Only (Query.Announces layer) :=
  ⟨_, rfl, fun change =>
    Program.Only.bind (Program.only_trace.mpr trivial) fun _ => Breaker.only_announce layer change⟩

/-- So a report asks for its section, and what announces a change. -/
theorem Breaker.only_onSuccess {P : Query → Prop} {config : BreakerConfig}
    (hs : P (.breaker layer .success)) (ha : ∀ q, q.Announces layer → P q) :
    (Breaker.onSuccess layer config).Only P := by
  obtain ⟨tell, heq, htell⟩ := Breaker.exists_onSuccess_eq layer config
  rw [heq]
  exact .bind (Program.only_query.mpr hs) fun change => (htell change).mono ha

theorem Breaker.only_onFailure {P : Query → Prop} (hs : P (.breaker layer .failure))
    (ha : ∀ q, q.Announces layer → P q) : (Breaker.onFailure layer).Only P := by
  obtain ⟨tell, heq, htell⟩ := Breaker.exists_onFailure_eq layer
  rw [heq]
  exact .bind (Program.only_query.mpr hs) fun answer => (htell answer).mono ha

namespace World

/-- **The program of the question answers and leaves what the state of the breaker says.** -/
theorem perform_isAllowed (hl : layer < w.stations.length) :
    let s := w.station layer
    ((Breaker.isAllowed layer).perform w).1 = (s.state.isAllowed s.config (w.instant layer)).1 ∧
      ((Breaker.isAllowed layer).perform w).2.station layer =
        { s with state := s.state.step s.config ⟨.isAllowed, w.instant layer⟩ } := by
  intro s
  have seen : (w.enter layer .look).1 = (s.state.circuit == .opened) := enter_fst
  unfold Breaker.isAllowed
  rw [Program.perform_enter_bind, seen]
  by_cases hs : s.state.circuit = .opened
  · -- nothing comes in between, so the decision is on the state that was seen
    have hl' : layer < (w.enter layer .look).2.stations.length := by rwa [length_stations_enter]
    have answer : ((w.enter layer .look).2.enter layer .decide).1 = _ := enter_fst
    rw [station_look hl, instant_look hl] at answer
    rw [if_pos (beq_iff_eq.mpr hs)]
    constructor
    · rw [Program.perform_enter_bind, answer]
      change _ = (s.state.admission s.config (w.instant layer)).1.allows
      simp only [BreakerState.enter]
      cases (s.state.admission s.config (w.instant layer)).1 <;> rfl
    · refine (Program.station_perform_enter (fun answer => ?_) hl').trans ?_
      · cases answer with
        | admitted => exact Program.only_pure true
        | probing => exact Breaker.only_tell _ _ true
        | rejected => exact Breaker.only_tell _ _ false
      · rw [station_look hl, instant_look hl]
        rfl
  · rw [if_neg (mt beq_iff_eq.mp hs)]
    constructor
    · rw [BreakerState.isAllowed_of_ne hs]
      rfl
    · simp only [BreakerState.step, BreakerState.isAllowed_of_ne hs]
      exact station_look hl

theorem perform_onSuccess (hl : layer < w.stations.length) :
    let s := w.station layer
    ((Breaker.onSuccess layer s.config).perform w).2.station layer =
      { s with state := s.state.step s.config ⟨.onSuccess, w.instant layer⟩ } := by
  intro s
  obtain ⟨tell, heq, htell⟩ := Breaker.exists_onSuccess_eq layer s.config
  rw [heq]
  exact Program.station_perform_enter (fun answer => (htell answer).tells_of_announces) hl

theorem perform_onFailure (hl : layer < w.stations.length) :
    let s := w.station layer
    ((Breaker.onFailure layer).perform w).2.station layer =
      { s with state := s.state.step s.config ⟨.onFailure, w.instant layer⟩ } := by
  intro s
  obtain ⟨tell, heq, htell⟩ := Breaker.exists_onFailure_eq layer
  rw [heq]
  exact Program.station_perform_enter (fun answer => (htell answer).tells_of_announces) hl

theorem perform_reset (hl : layer < w.stations.length) :
    let s := w.station layer
    ((Breaker.reset layer).perform w).2.station layer =
      { s with state := s.state.step s.config ⟨.reset, w.instant layer⟩ } := by
  intro s
  obtain ⟨tell, heq, htell⟩ := Breaker.exists_reset_eq layer
  rw [heq]
  exact Program.station_perform_enter (fun answer => (htell answer).tells_of_announces) hl

end World

end Resilience
