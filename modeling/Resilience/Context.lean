/-
# Contexts

A context tells a request when to give up: when it is cancelled, or when its deadline has come.
Contexts are derived from one another; cancelling one cancels those below it.

* `Token`: what is cancelled, named by the way down to it from the topmost token.
* `Tokens`: which tokens exist and which have been cancelled.
* `Context`: a token and perhaps a deadline; `Context.ended?` tells why it is over.
-/
import Resilience.Clock

namespace Resilience

/-- Why a context is over. -/
inductive ContextEnd where
  | cancelled
  | deadlineExceeded
deriving DecidableEq

/-- The reason in words. -/
def ContextEnd.message : ContextEnd → String
  | .cancelled => "context cancelled"
  | .deadlineExceeded => "context deadline exceeded"

/-- Something that can be cancelled: the numbers on the way from the topmost token, last first. -/
structure Token where
  /-- The numbers on the way, its own first. -/
  path : List Nat
deriving DecidableEq, Inhabited

/-- Whether `t` is `a` or lies below it. -/
def Token.isUnder (t a : Token) : Bool := a.path.isSuffixOf t.path

/-- The tokens that exist and those that were cancelled. -/
structure Tokens where
  made : Nat := 0
  /-- The tokens that were cancelled themselves. -/
  cancelled : List Token := []
deriving DecidableEq, Inhabited

namespace Tokens

/-- Makes a topmost token. -/
def create (ts : Tokens) : Token × Tokens := (⟨[ts.made]⟩, { ts with made := ts.made + 1 })

/-- Makes a token below another one. -/
def child (ts : Tokens) (t : Token) : Token × Tokens :=
  (⟨ts.made :: t.path⟩, { ts with made := ts.made + 1 })

/-- Cancels a token and those below it. -/
def cancel (ts : Tokens) (t : Token) : Tokens := { ts with cancelled := t :: ts.cancelled }

/-- Whether the token or one above it was cancelled. -/
def isCancelled (ts : Tokens) (t : Token) : Bool := ts.cancelled.any fun a => t.isUnder a

variable {ts : Tokens} {t a : Token}

theorem isCancelled_iff : ts.isCancelled t = true ↔ ∃ a ∈ ts.cancelled, a.path <:+ t.path := by
  simp only [isCancelled, Token.isUnder, List.any_eq_true, List.isSuffixOf_iff_suffix]

/-- **Cancelling a token reaches those below it**, and no others. -/
theorem isCancelled_cancel_iff :
    (ts.cancel a).isCancelled t = true ↔ a.path <:+ t.path ∨ ts.isCancelled t = true := by
  simp only [isCancelled_iff, cancel, List.mem_cons, or_and_right, exists_or, exists_eq_left]

end Tokens

/-- A token, and perhaps a deadline. -/
structure Context where
  token : Token
  deadline : Option Instant := none
deriving DecidableEq, Inhabited

namespace Context

/-- The context with the deadline `t`, unless it has an earlier one. -/
def withDeadline (c : Context) (t : Instant) : Context :=
  { c with
    deadline := some
      (match c.deadline with
      | some d => min d t
      | none => t) }

/-- The context with a deadline `d` from now, unless it has an earlier one; a deadline that does not
exist changes nothing. -/
def withTimeout (c : Context) (now : Instant) (d : Duration) : Context :=
  match now.after? d with
  | some t => c.withDeadline t
  | none => c

/-- The time until the deadline. -/
def remaining (c : Context) (now : Instant) : Option Duration := c.deadline.map fun t => t.since now

/-- Why the context is over, if it is. -/
def ended? (c : Context) (tokens : Tokens) (now : Instant) : Option ContextEnd :=
  if tokens.isCancelled c.token then some .cancelled
  else
    match c.deadline with
    | some t => if t ≤ now then some .deadlineExceeded else none
    | none => none

variable {c : Context} {tokens : Tokens} {now : Instant}

@[simp] theorem token_withDeadline (c : Context) (t : Instant) : (c.withDeadline t).token = c.token := rfl

@[simp] theorem token_withTimeout (c : Context) (now : Instant) (d : Duration) :
    (c.withTimeout now d).token = c.token := by
  unfold withTimeout
  split <;> rfl

/-- A context is over when its token is cancelled or its deadline has come. -/
theorem ended?_ne_none_iff :
    c.ended? tokens now ≠ none ↔
      tokens.isCancelled c.token = true ∨ ∃ t, c.deadline = some t ∧ t ≤ now := by
  unfold ended?
  by_cases hc : tokens.isCancelled c.token = true
  · simp [hc]
  · cases hd : c.deadline <;> simp [hc]

/-- The cancellation is told before the deadline. -/
theorem ended?_eq_cancelled_iff :
    c.ended? tokens now = some .cancelled ↔ tokens.isCancelled c.token = true := by
  unfold ended?
  by_cases hc : tokens.isCancelled c.token = true
  · simp [hc]
  · cases hd : c.deadline <;> simp [hc]

end Context

end Resilience
