/-
# Runs of programs

A program asks and its surroundings answer.  This file says what a run of a program is, in two ways,
so that a statement can be made about every way in which the surroundings may answer, and still be
proved along the program.

* **As a relation.**  `p.Yields log a`: asking `p` in order the questions of `log`, and answering as
  there, ends with `a`.  The relation splits along the structure of `p` (`yields_ask_iff`,
  `yields_bind_iff`), which is how every statement about a run is proved.
* **As a function.**  `p.run env past`: the log and the result in the surroundings `env`, which may
  answer in any way that depends on all that they were asked before.  It always has a result, and
  what it gives is a run in the first sense (`yields_run`).

`Only P p` says that all questions of `p`, whatever the answers, are of the kind `P`; a part of a
program that makes no exchange and records no attempt (`Quiet`) leaves those of a log alone, and so does
one that neither waits nor draws (`Prompt`) with the waits and the samples.
-/
import Resilience.Program

namespace Resilience

/-- A question with its answer. -/
structure Asked where
  /-- The question. -/
  query : Query
  /-- The answer. -/
  answer : query.Answer

namespace Asked

/-- What the question makes of the breaker of the layer, if the clock shows `now`. -/
def effect (layer : Nat) (config : BreakerConfig) (now : Instant) (x : Asked) (s : BreakerState) :
    BreakerState :=
  match x.query with
  | .breaker i part => if i = layer then (s.enter config now part).2 else s
  | _ => s

/-- A line of the trace as it stands in a log. -/
def line (line : TraceLine) : Asked := ⟨.trace line, ()⟩

/-- A notice to the observer of a layer as it stands in a log. -/
def notice (layer : Nat) (notice : Notice) : Asked := ⟨.observe layer notice, ()⟩

end Asked

/-- What the surroundings answer to a question, given all that they were asked before. -/
def Surroundings := List Asked → (q : Query) → q.Answer

namespace Program

variable {α β : Type}

/-! ## 1. Runs as a relation -/

/-- `p.Yields log a`: the program asks the questions of `log` and, answered as there, ends with
`a`. -/
inductive Yields : Program α → List Asked → α → Prop
  | done (a : α) : Yields (.done a) [] a
  | ask {q : Query} {next : q.Answer → Program α} {log : List Asked} {a : α}
      (answer : q.Answer) (h : Yields (next answer) log a) :
      Yields (.ask q next) (⟨q, answer⟩ :: log) a

/-- The monad's sequencing is `bind`. -/
theorem monad_bind_eq (p : Program α) (f : α → Program β) : p >>= f = p.bind f := rfl

@[simp] theorem yields_done_iff {a b : α} {log : List Asked} :
    (done a).Yields log b ↔ log = [] ∧ b = a := by
  constructor
  · rintro ⟨⟩
    exact ⟨rfl, rfl⟩
  · rintro ⟨rfl, rfl⟩
    exact .done _

@[simp] theorem yields_pure_iff {a b : α} {log : List Asked} :
    (pure a : Program α).Yields log b ↔ log = [] ∧ b = a :=
  yields_done_iff

@[simp] theorem yields_ask_iff {q : Query} {next : q.Answer → Program α} {log : List Asked} {b : α} :
    (ask q next).Yields log b ↔
      ∃ (answer : q.Answer) (rest : List Asked),
        log = ⟨q, answer⟩ :: rest ∧ (next answer).Yields rest b := by
  constructor
  · intro h
    cases h with
    | ask answer h => exact ⟨answer, _, rfl, h⟩
  · rintro ⟨answer, rest, rfl, h⟩
    exact .ask answer h

/-- **A run of one program after another splits where the first one ends.** -/
theorem yields_bind_iff {p : Program α} {f : α → Program β} {log : List Asked} {b : β} :
    (p >>= f).Yields log b ↔
      ∃ (first : List Asked) (a : α) (rest : List Asked),
        log = first ++ rest ∧ p.Yields first a ∧ (f a).Yields rest b := by
  rw [monad_bind_eq]
  induction p generalizing log with
  | done a =>
    constructor
    · intro h
      exact ⟨[], a, log, rfl, .done a, h⟩
    · rintro ⟨first, a', rest, rfl, h, hf⟩
      obtain ⟨rfl, rfl⟩ := yields_done_iff.mp h
      exact hf
  | ask q next ih =>
    rw [bind_ask, yields_ask_iff]
    constructor
    · rintro ⟨answer, rest, rfl, h⟩
      obtain ⟨first, a, rest, rfl, hp, hf⟩ := (ih answer).mp h
      exact ⟨⟨q, answer⟩ :: first, a, rest, rfl, .ask answer hp, hf⟩
    · rintro ⟨first, a, rest, rfl, hq, hf⟩
      obtain ⟨answer, tail, rfl, hp⟩ := yields_ask_iff.mp hq
      exact ⟨answer, tail ++ rest, rfl, (ih answer).mpr ⟨tail, a, rest, rfl, hp, hf⟩⟩

/-- A question alone is answered in any way. -/
@[simp] theorem yields_query_iff {q : Query} {log : List Asked} {b : q.Answer} :
    (query q).Yields log b ↔ log = [⟨q, b⟩] := by
  simp only [query, yields_ask_iff, yields_done_iff]
  constructor
  · rintro ⟨answer, rest, rfl, rfl, rfl⟩
    rfl
  · rintro rfl
    exact ⟨b, [], rfl, rfl, rfl⟩

/-- A question comes first in the log of what is done with its answer. -/
theorem yields_query_bind_iff {q : Query} {f : q.Answer → Program α} {log : List Asked} {a : α} :
    (query q >>= f).Yields log a ↔
      ∃ (answer : q.Answer) (rest : List Asked),
        log = ⟨q, answer⟩ :: rest ∧ (f answer).Yields rest a :=
  yields_ask_iff

/-- The same for a line of the trace. -/
theorem yields_trace_bind_iff {line : TraceLine} {f : Unit → Program α} {log : List Asked} {a : α} :
    (trace line >>= f).Yields log a ↔
      ∃ rest, log = .line line :: rest ∧ (f ()).Yields rest a := by
  rw [trace, yields_query_bind_iff]
  exact ⟨fun ⟨_, h⟩ => h, fun h => ⟨(), h⟩⟩

/-- The same for a notice to an observer. -/
theorem yields_observe_bind_iff {layer : Nat} {notice : Notice} {f : Unit → Program α}
    {log : List Asked} {a : α} :
    (observe layer notice >>= f).Yields log a ↔
      ∃ rest, log = .notice layer notice :: rest ∧ (f ()).Yields rest a := by
  rw [observe, yields_query_bind_iff]
  exact ⟨fun ⟨_, h⟩ => h, fun h => ⟨(), h⟩⟩

/-- Does `p` if the switch is on. -/
def when (on : Bool) (p : Program Unit) : Program Unit := if on then p else pure ()

/-- What is made of the result of a program asks nothing more. -/
theorem yields_bind_pure_iff {p : Program α} {f : α → β} {log : List Asked} {b : β} :
    (p >>= fun a => pure (f a)).Yields log b ↔ ∃ a, p.Yields log a ∧ b = f a := by
  rw [yields_bind_iff]
  constructor
  · rintro ⟨first, a, rest, rfl, hp, hf⟩
    obtain ⟨rfl, rfl⟩ := yields_pure_iff.mp hf
    rw [List.append_nil]
    exact ⟨a, hp, rfl⟩
  · rintro ⟨a, hp, rfl⟩
    exact ⟨log, a, [], (List.append_nil log).symm, hp, yields_pure_iff.mpr ⟨rfl, rfl⟩⟩

/-- A part that is done only if a switch is on comes first in the log, if at all. -/
theorem yields_ite_iff {on : Bool} {p : Program Unit} {rest : Unit → Program α}
    {log : List Asked} {a : α} :
    (if on = true then p >>= rest else rest ()).Yields log a ↔
      ∃ first tail : List Asked,
        log = first ++ tail ∧ (when on p).Yields first () ∧ (rest ()).Yields tail a := by
  cases on with
  | false =>
    constructor
    · intro h
      exact ⟨[], log, rfl, .done (), h⟩
    · rintro ⟨first, tail, rfl, h, ht⟩
      obtain ⟨rfl, -⟩ := yields_pure_iff.mp h
      exact ht
  | true =>
    constructor
    · intro h
      obtain ⟨first, ⟨⟩, tail, rfl, hp, ht⟩ := yields_bind_iff.mp h
      exact ⟨first, tail, rfl, hp, ht⟩
    · rintro ⟨first, tail, rfl, hp, ht⟩
      exact yields_bind_iff.mpr ⟨first, (), tail, rfl, hp, ht⟩

/-! ## 2. Runs as a function -/

/-- The log and the result of the program in the surroundings `env`, which have been asked `past`
before. -/
def run (env : Surroundings) : Program α → List Asked → List Asked × α
  | .done a, _ => ([], a)
  | .ask q next, past =>
    let answer := env past q
    let (log, a) := (next answer).run env (past ++ [⟨q, answer⟩])
    (⟨q, answer⟩ :: log, a)

/-- **Whatever the surroundings answer, the program ends**, and the log is a run of it. -/
theorem yields_run (env : Surroundings) (p : Program α) (past : List Asked) :
    p.Yields (p.run env past).1 (p.run env past).2 := by
  induction p generalizing past with
  | done a => exact .done a
  | ask q next ih => exact .ask _ (ih (env past q) (past ++ [⟨q, env past q⟩]))

/-- All that a log holds was answered by the surroundings. -/
theorem exists_answer_of_mem_run {env : Surroundings} {p : Program α} {past : List Asked}
    {x : Asked} (h : x ∈ (p.run env past).1) : ∃ before, x = ⟨x.query, env before x.query⟩ := by
  induction p generalizing past with
  | done a => simp [run] at h
  | ask q next ih =>
    rcases List.mem_cons.mp h with rfl | h
    · exact ⟨past, rfl⟩
    · exact ih _ h

/-- Each answer in a log is the one that the surroundings give at its place. -/
theorem eq_answer_of_run {env : Surroundings} {p : Program α} {past front back : List Asked} {x : Asked}
    (h : (p.run env past).1 = front ++ x :: back) : x = ⟨x.query, env (past ++ front) x.query⟩ := by
  induction p generalizing past front with
  | done a => simp [run] at h
  | ask q next ih =>
    cases front with
    | nil =>
      obtain ⟨rfl, -⟩ := List.cons_eq_cons.mp h
      rw [List.append_nil]
    | cons y front =>
      obtain ⟨rfl, hrest⟩ := List.cons_eq_cons.mp h
      have := ih _ hrest
      rwa [List.append_assoc, List.singleton_append] at this

/-! ## 3. The kinds of questions that a program asks -/

/-- All questions of the program are of the kind `P`, whatever the answers. -/
def Only (P : Query → Prop) : Program α → Prop
  | .done _ => True
  | .ask q next => P q ∧ ∀ answer, (next answer).Only P

variable {P Q : Query → Prop}

@[simp] theorem only_pure (a : α) : (pure a : Program α).Only P := trivial

@[simp] theorem only_query {q : Query} : (query q).Only P ↔ P q :=
  ⟨fun h => h.1, fun h => ⟨h, fun _ => trivial⟩⟩

@[simp] theorem only_trace {line : TraceLine} : (trace line).Only P ↔ P (.trace line) := only_query

@[simp] theorem only_observe {layer : Nat} {notice : Notice} :
    (observe layer notice).Only P ↔ P (.observe layer notice) := only_query

theorem Only.mono {p : Program α} (h : p.Only P) (hq : ∀ q, P q → Q q) : p.Only Q := by
  induction p with
  | done a => trivial
  | ask q next ih => exact ⟨hq q h.1, fun answer => ih answer (h.2 answer)⟩

theorem Only.when {on : Bool} {p : Program Unit} (h : p.Only P) : (when on p).Only P := by
  cases on with
  | false => trivial
  | true => exact h

/-- One program after another asks what the two of them ask. -/
theorem Only.bind {p : Program α} {f : α → Program β} (hp : p.Only P) (hf : ∀ a, (f a).Only P) :
    (p >>= f).Only P := by
  rw [monad_bind_eq]
  induction p with
  | done a => exact hf a
  | ask q next ih => exact ⟨hp.1, fun answer => ih answer (hp.2 answer)⟩

theorem Only.ite {c : Prop} [Decidable c] {p q : Program α} (hp : p.Only P) (hq : q.Only P) :
    (if c then p else q).Only P := by
  split
  · exact hp
  · exact hq

/-- A part that is done only if a switch is on, and what comes after it. -/
theorem Only.when_bind {on : Bool} {p : Program Unit} {rest : Unit → Program α} (hp : p.Only P)
    (hr : (rest ()).Only P) : (if on = true then p >>= rest else rest ()).Only P :=
  .ite (.bind hp fun _ => hr) hr

/-- The log of a run holds only questions that the program asks. -/
theorem Only.of_mem {p : Program α} {log : List Asked} {a : α} (h : p.Only P)
    (hy : p.Yields log a) : ∀ x ∈ log, P x.query := by
  induction hy with
  | done a => simp
  | ask answer _ ih =>
    intro x hx
    rcases List.mem_cons.mp hx with rfl | hx
    · exact h.1
    · exact ih (h.2 answer) x hx

end Program

namespace Surroundings

variable {α : Type}

/-- What the program asks in the surroundings, with the answers. -/
def log (env : Surroundings) (p : Program α) : List Asked := (p.run env []).1

/-- What the program ends with in the surroundings. -/
def result (env : Surroundings) (p : Program α) : α := (p.run env []).2

/-- The log and the result are a run. -/
theorem yields (env : Surroundings) (p : Program α) : p.Yields (env.log p) (env.result p) :=
  p.yields_run env []

end Surroundings

/-! ## 4. The exchanges and the attempts of a log -/

namespace Asked

/-- The outcome of the exchange, if the question was for one. -/
def outcome? : Asked → Option Outcome
  | ⟨.exchange _, o⟩ => some o
  | _ => none

/-- The record of an attempt, if an observer was told of one. -/
def record? : Asked → Option AttemptRecord
  | ⟨.observe _ (.attempt record), _⟩ => some record
  | _ => none

end Asked

/-- The outcomes of the exchanges in a log, in order. -/
def outcomes (log : List Asked) : List Outcome := log.filterMap Asked.outcome?

/-- The attempts in a log that an observer was told of, in order. -/
def records (log : List Asked) : List AttemptRecord := log.filterMap Asked.record?

@[simp] theorem outcomes_nil : outcomes [] = [] := rfl

@[simp] theorem records_nil : records [] = [] := rfl

@[simp] theorem outcomes_append (log rest : List Asked) :
    outcomes (log ++ rest) = outcomes log ++ outcomes rest :=
  List.filterMap_append

@[simp] theorem records_append (log rest : List Asked) :
    records (log ++ rest) = records log ++ records rest :=
  List.filterMap_append

@[simp] theorem outcomes_cons_exchange (request : Request) (o : Outcome) (log : List Asked) :
    outcomes (⟨.exchange request, o⟩ :: log) = o :: outcomes log := rfl

@[simp] theorem records_cons_exchange (request : Request) (o : Outcome) (log : List Asked) :
    records (⟨.exchange request, o⟩ :: log) = records log := rfl

@[simp] theorem outcomes_cons_notice (layer : Nat) (notice : Notice) (log : List Asked) :
    outcomes (.notice layer notice :: log) = outcomes log := rfl

@[simp] theorem records_cons_attempt (layer : Nat) (record : AttemptRecord) (log : List Asked) :
    records (.notice layer (.attempt record) :: log) = record :: records log := rfl

@[simp] theorem outcomes_cons_line (line : TraceLine) (log : List Asked) :
    outcomes (.line line :: log) = outcomes log := rfl

@[simp] theorem records_cons_line (line : TraceLine) (log : List Asked) :
    records (.line line :: log) = records log := rfl

@[simp] theorem outcomes_cons_context (answer : Option ContextEnd) (log : List Asked) :
    outcomes (⟨.context, answer⟩ :: log) = outcomes log := rfl

@[simp] theorem records_cons_context (answer : Option ContextEnd) (log : List Asked) :
    records (⟨.context, answer⟩ :: log) = records log := rfl

@[simp] theorem outcomes_cons_pause (delay : Duration) (answer : Option ContextEnd)
    (log : List Asked) : outcomes (⟨.pause delay, answer⟩ :: log) = outcomes log := rfl

@[simp] theorem records_cons_pause (delay : Duration) (answer : Option ContextEnd)
    (log : List Asked) : records (⟨.pause delay, answer⟩ :: log) = records log := rfl

/-- Whether the question is neither for an exchange nor the record of an attempt. -/
def Query.IsQuiet : Query → Prop
  | .exchange _ => False
  | .observe _ (.attempt _) => False
  | _ => True

theorem Asked.outcome?_eq_none {x : Asked} (h : x.query.IsQuiet) : x.outcome? = none := by
  obtain ⟨q, answer⟩ := x
  cases q with
  | exchange request => exact h.elim
  | _ => rfl

theorem Asked.record?_eq_none {x : Asked} (h : x.query.IsQuiet) : x.record? = none := by
  obtain ⟨q, answer⟩ := x
  cases q with
  | observe layer notice =>
    cases notice with
    | attempt record => exact h.elim
    | _ => rfl
  | _ => rfl

/-- A program that makes no exchange and records no attempt. -/
abbrev Program.Quiet {α : Type} (p : Program α) : Prop := p.Only Query.IsQuiet

variable {α : Type} {p : Program α} {log : List Asked} {a : α}

/-- **A quiet part of a program adds no outcome to the log** ... -/
theorem Program.Quiet.outcomes_eq_nil (h : p.Quiet) (hy : p.Yields log a) : outcomes log = [] :=
  List.filterMap_eq_nil_iff.mpr fun x hx => Asked.outcome?_eq_none (h.of_mem hy x hx)

/-- ... and no attempt. -/
theorem Program.Quiet.records_eq_nil (h : p.Quiet) (hy : p.Yields log a) : records log = [] :=
  List.filterMap_eq_nil_iff.mpr fun x hx => Asked.record?_eq_none (h.of_mem hy x hx)

/-- The surroundings answer the exchanges by the sequence `o`. -/
def Surroundings.Follows (env : Surroundings) (o : Nat → Outcome) : Prop :=
  ∀ past request, env past (.exchange request) = o (outcomes past).length

/-- In surroundings that follow a sequence, the outcomes of a log are those of the sequence. -/
theorem Surroundings.Follows.getElem?_outcomes {env : Surroundings} {o : Nat → Outcome}
    (h : env.Follows o) (p : Program α) (past : List Asked) {i : Nat} {x : Outcome}
    (hx : (outcomes (p.run env past).1)[i]? = some x) : x = o ((outcomes past).length + i) := by
  induction p generalizing past i with
  | done a => simp [Program.run] at hx
  | ask q next ih =>
    simp only [Program.run] at hx
    cases ho : (⟨q, env past q⟩ : Asked).outcome? with
    | none =>
      have hcons : ∀ log, outcomes (⟨q, env past q⟩ :: log) = outcomes log :=
        fun _ => List.filterMap_cons_none ho
      rw [hcons] at hx
      rw [ih _ _ hx, outcomes_append, hcons, outcomes_nil, List.append_nil]
    | some y =>
      cases q with
      | exchange request =>
        cases i with
        | zero =>
          simp only [outcomes_cons_exchange, List.getElem?_cons_zero, Option.some.injEq] at hx
          rw [← hx, h past request, Nat.add_zero]
        | succ i =>
          simp only [outcomes_cons_exchange, List.getElem?_cons_succ] at hx
          rw [ih _ _ hx, outcomes_append, List.length_append, outcomes_cons_exchange,
            outcomes_nil, List.length_singleton, Nat.add_assoc, Nat.add_comm 1 i]
      | _ => cases ho

/-! ## 5. The waits and the samples of a log -/

namespace Asked

/-- How long the wait was to take, if the question was for one. -/
def delay? : Asked → Option Duration
  | ⟨.pause delay, _⟩ => some delay
  | _ => none

/-- What the source of randomness gave, if it was asked for a sample. -/
def sample? : Asked → Option (Option Float)
  | ⟨.sample _, sample⟩ => some sample
  | _ => none

end Asked

/-- The waits that were asked for in a log, in order. -/
def pauses (log : List Asked) : List Duration := log.filterMap Asked.delay?

/-- The samples that were drawn in a log, in order. -/
def samples (log : List Asked) : List (Option Float) := log.filterMap Asked.sample?

@[simp] theorem pauses_append (log rest : List Asked) :
    pauses (log ++ rest) = pauses log ++ pauses rest :=
  List.filterMap_append

@[simp] theorem samples_append (log rest : List Asked) :
    samples (log ++ rest) = samples log ++ samples rest :=
  List.filterMap_append

/-- Whether the question neither waits nor draws a sample. -/
def Query.IsPrompt : Query → Prop
  | .pause _ => False
  | .sample _ => False
  | _ => True

/-- Nothing in the log waits or draws a sample. -/
def Prompt (log : List Asked) : Prop := ∀ x ∈ log, x.query.IsPrompt

section Prompt

variable {log rest : List Asked} {x : Asked}

theorem Asked.delay?_eq_none (h : x.query.IsPrompt) : x.delay? = none := by
  obtain ⟨q, answer⟩ := x
  cases q with
  | pause delay => exact h.elim
  | _ => rfl

theorem Asked.sample?_eq_none (h : x.query.IsPrompt) : x.sample? = none := by
  obtain ⟨q, answer⟩ := x
  cases q with
  | sample layer => exact h.elim
  | _ => rfl

theorem prompt_nil : Prompt [] := fun _ hx => nomatch hx

@[simp] theorem prompt_cons_iff : Prompt (x :: log) ↔ x.query.IsPrompt ∧ Prompt log :=
  List.forall_mem_cons

theorem prompt_singleton (h : x.query.IsPrompt) : Prompt [x] := prompt_cons_iff.mpr ⟨h, prompt_nil⟩

theorem prompt_pair {y : Asked} (hx : x.query.IsPrompt) (hy : y.query.IsPrompt) : Prompt [x, y] :=
  prompt_cons_iff.mpr ⟨hx, prompt_singleton hy⟩

@[simp] theorem prompt_append_iff : Prompt (log ++ rest) ↔ Prompt log ∧ Prompt rest :=
  List.forall_mem_append

theorem Prompt.pauses_eq_nil (h : Prompt log) : pauses log = [] :=
  List.filterMap_eq_nil_iff.mpr fun x hx => Asked.delay?_eq_none (h x hx)

theorem Prompt.samples_eq_nil (h : Prompt log) : samples log = [] :=
  List.filterMap_eq_nil_iff.mpr fun x hx => Asked.sample?_eq_none (h x hx)

end Prompt

end Resilience
