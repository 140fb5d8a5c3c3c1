/-
# Programs

A request on its way is a program: it asks its surroundings one question after another and goes on
with the answers.  Everything that other requests can interfere with is such a question, so a run of
several requests is an interleaving of their questions.

* `Query`, `Query.Answer`: the questions and the types of their answers.
* `Program`: a tree of questions with results at its leaves.  Every branch is finite, so every program
  ends after finitely many answers.
* `Program.bind`: one program after another.
-/
import Resilience.Breaker.Section
import Resilience.Http.Request
import Resilience.Http.Response
import Resilience.Observer

namespace Resilience

/-- How an exchange ends: with a response or an error. -/
abbrev Outcome := Except HttpError Response

/-- A question to the surroundings.  Breakers, observers and sources of randomness are those of a
layer, the innermost one first. -/
inductive Query where
  | context
  | breaker (layer : Nat) (part : Section)
  | observe (layer : Nat) (notice : Notice)
  | trace (line : TraceLine)
  | sample (layer : Nat)
  | exchange (request : Request)
  /-- Waits, or less if the context ends before. -/
  | pause (delay : Duration)

/-- The type of the answers. -/
@[reducible] def Query.Answer : Query → Type
  | .context => Option ContextEnd
  | .breaker _ part => part.Answer
  | .observe .. => Unit
  | .trace _ => Unit
  | .sample _ => Option Float
  | .exchange _ => Outcome
  | .pause _ => Option ContextEnd

/-- A program with a result of type `α`. -/
inductive Program (α : Type) where
  | done (a : α)
  /-- A question, and how to go on with each answer. -/
  | ask (q : Query) (next : q.Answer → Program α)

namespace Program

variable {α β γ : Type}

/-- Goes on with the result of a program. -/
def bind : Program α → (α → Program β) → Program β
  | .done a, f => f a
  | .ask q next, f => .ask q fun answer => (next answer).bind f

instance : Monad Program where
  pure := .done
  bind := bind

/-- The program that asks one question. -/
def query (q : Query) : Program q.Answer := .ask q .done

@[simp] theorem bind_done (a : α) (f : α → Program β) : (done a).bind f = f a := rfl

@[simp] theorem bind_ask (q : Query) (next : q.Answer → Program α) (f : α → Program β) :
    (ask q next).bind f = .ask q fun answer => (next answer).bind f := rfl

theorem bind_assoc (p : Program α) (f : α → Program β) (g : β → Program γ) :
    (p.bind f).bind g = p.bind fun a => (f a).bind g := by
  induction p with
  | done a => rfl
  | ask q next ih => simp only [bind_ask, ih]

theorem bind_pure (p : Program α) : p.bind .done = p := by
  induction p with
  | done a => rfl
  | ask q next ih => simp only [bind_ask, ih]

/-- Writes a line. -/
def trace (line : TraceLine) : Program Unit := query (.trace line)

/-- Tells the observer of a layer. -/
def observe (layer : Nat) (notice : Notice) : Program Unit := query (.observe layer notice)

end Program

end Resilience
