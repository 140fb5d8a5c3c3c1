/-
# Steady surroundings

A look at the context, a line in the trace and a notice to an observer take no time and change nothing
that is asked for later.  In surroundings that work so, two programs that ask for the same exchanges,
waits and samples, and enter the same sections of breakers, are answered alike, whatever else they ask.

* `Query.isMaterial`, `material`: the questions that matter, and those of a log.
* `Surroundings.Steady`: the answers depend on nothing else that was asked before.
* `run_eq_of_material`: **a program does not see what does not matter.**
* `breakerAfter`: what the sections in a log make of a breaker; `breakerAfter_material` says that the
  material questions of the log decide it.
-/
import Resilience.Proofs.Program.Run

namespace Resilience

/-! ## 1. What matters -/

/-- Whether the question may take time or change something that is asked for later. -/
def Query.isMaterial : Query → Bool
  | .context => false
  | .observe .. => false
  | .trace _ => false
  | _ => true

/-- The material questions of a log. -/
def material (log : List Asked) : List Asked := log.filter fun x => x.query.isMaterial

section Material

variable {log rest : List Asked} {x : Asked}

@[simp] theorem material_nil : material [] = [] := rfl

@[simp] theorem material_append (log rest : List Asked) :
    material (log ++ rest) = material log ++ material rest := List.filter_append ..

theorem material_cons_of_not (h : x.query.isMaterial = false) : material (x :: log) = material log :=
  List.filter_cons_of_neg (by simp [h])

theorem material_cons_of (h : x.query.isMaterial = true) :
    material (x :: log) = x :: material log := List.filter_cons_of_pos h

@[simp] theorem material_cons_line (line : TraceLine) : material (.line line :: log) = material log :=
  rfl

@[simp] theorem material_cons_notice (layer : Nat) (notice : Notice) :
    material (.notice layer notice :: log) = material log := rfl

@[simp] theorem material_cons_context (answer : Option ContextEnd) :
    material (⟨.context, answer⟩ :: log) = material log := rfl

/-- The exchanges are among the material questions. -/
theorem outcomes_material (log : List Asked) : outcomes (material log) = outcomes log := by
  induction log with
  | nil => rfl
  | cons x log ih =>
    obtain ⟨q, answer⟩ := x
    cases q with
    | exchange request => exact congrArg (List.cons answer) ih
    | _ => exact ih

end Material

/-! ## 2. Steady surroundings -/

/-- A value that is read off the past depends on its material questions alone. -/
def Steady {β : Type} (f : List Asked → β) : Prop :=
  ∀ past past', material past = material past' → f past = f past'

/-- The answers depend on the material questions of the past alone. -/
def Surroundings.Steady (env : Surroundings) : Prop :=
  ∀ past past', material past = material past' → ∀ q, env past q = env past' q

namespace Program

variable {α β : Type} {env : Surroundings} {past past' : List Asked}

theorem run_pure (env : Surroundings) (a : α) (past : List Asked) :
    (pure a : Program α).run env past = ([], a) := rfl

/-- A question comes first in the log of what is done with its answer. -/
theorem run_query_bind (env : Surroundings) (q : Query) (f : q.Answer → Program β)
    (past : List Asked) :
    (query q >>= f).run env past =
      (⟨q, env past q⟩ :: ((f (env past q)).run env (past ++ [⟨q, env past q⟩])).1,
        ((f (env past q)).run env (past ++ [⟨q, env past q⟩])).2) := rfl

theorem run_trace_bind (env : Surroundings) (line : TraceLine) (f : Unit → Program β)
    (past : List Asked) :
    (trace line >>= f).run env past =
      (.line line :: ((f ()).run env (past ++ [.line line])).1,
        ((f ()).run env (past ++ [.line line])).2) := rfl

/-- A run of one program after another is a run of the first and one of the second. -/
theorem run_bind (env : Surroundings) (p : Program α) (f : α → Program β) (past : List Asked) :
    (p >>= f).run env past =
      ((p.run env past).1 ++ ((f (p.run env past).2).run env (past ++ (p.run env past).1)).1,
        ((f (p.run env past).2).run env (past ++ (p.run env past).1)).2) := by
  rw [monad_bind_eq]
  induction p generalizing past with
  | done a =>
    change (f a).run env past = ([] ++ ((f a).run env (past ++ [])).1, ((f a).run env (past ++ [])).2)
    rw [List.append_nil]
    rfl
  | ask q next ih =>
    simp only [bind_ask, run, ih, List.append_assoc, List.cons_append, List.nil_append]

/-- **A program does not see what does not matter**: where the past differs in that alone, it runs in
the same way. -/
theorem run_eq_of_material (henv : env.Steady) (p : Program α) (h : material past = material past') :
    p.run env past = p.run env past' := by
  induction p generalizing past past' with
  | done a => rfl
  | ask q next ih =>
    have hanswer : env past q = env past' q := henv past past' h q
    have hpast : material (past ++ [⟨q, env past' q⟩]) = material (past' ++ [⟨q, env past' q⟩]) := by
      rw [material_append, material_append, h]
    simp only [run, hanswer, ih _ hpast]

end Program

/-! ## 3. The breaker at the end of a log -/

/-- What the sections in a log make of a breaker, where the clock shows `clock past` when `past` has
been asked. -/
def breakerAfter (layer : Nat) (config : BreakerConfig) (clock : List Asked → Instant) :
    (past log : List Asked) → BreakerState → BreakerState
  | _, [], s => s
  | past, x :: log, s =>
    breakerAfter layer config clock (past ++ [x]) log (x.effect layer config (clock past) s)

/-- One log after another makes of a breaker what the first makes of it, and then the second. -/
theorem breakerAfter_append {layer : Nat} {config : BreakerConfig} {clock : List Asked → Instant}
    (past log more : List Asked) (s : BreakerState) :
    breakerAfter layer config clock past (log ++ more) s =
      breakerAfter layer config clock (past ++ log) more
        (breakerAfter layer config clock past log s) := by
  induction log generalizing past s with
  | nil =>
    rw [List.append_nil]
    rfl
  | cons x log ih =>
    rw [List.cons_append, breakerAfter, breakerAfter, ih, List.append_assoc, List.singleton_append]

/-- **The material questions decide what becomes of a breaker**, if they decide what its clock shows. -/
theorem breakerAfter_material {layer : Nat} {config : BreakerConfig} {clock : List Asked → Instant}
    (hclock : Steady clock) {past past' : List Asked} (h : material past = material past')
    (log : List Asked) (s : BreakerState) :
    breakerAfter layer config clock past log s =
      breakerAfter layer config clock past' (material log) s := by
  induction log generalizing past past' s with
  | nil => rfl
  | cons x log ih =>
    cases hx : x.query.isMaterial with
    | true =>
      rw [material_cons_of hx, breakerAfter, breakerAfter, hclock past past' h]
      exact ih (by rw [material_append, material_append, h]) _
    | false =>
      have heffect : x.effect layer config (clock past) s = s := by
        obtain ⟨q, answer⟩ := x
        cases q with
        | breaker i part => cases hx
        | _ => rfl
      rw [material_cons_of_not hx, breakerAfter, heffect]
      refine ih ?_ s
      rw [material_append, material_cons_of_not hx, material_nil, List.append_nil, h]

end Resilience
