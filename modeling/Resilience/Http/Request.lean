/-
# Requests

A request is sent once for each attempt.  The first attempt takes its body; each later one needs the
body again, and gets it from a replay accessor if the request has one.

* `Body`: a body in memory, or one that can be read once.
* `Request`: a request; `Request.withBody`, `withStream`, `withReplay`, `withJson` and the changes of
  headers build it.
* `Request.isReplayable`: whether there can be a second attempt.
* `Request.forAttempt?`: what is sent for an attempt, and what is left of the request.
-/
import Resilience.Http.Headers
import Resilience.Json.Value
import Resilience.Url.Basic

namespace Resilience

/-- The body of a request. -/
inductive Body where
  | bytes (content : ByteArray)
  /-- Bytes that can be read once. -/
  | stream (content : ByteArray)

namespace Body

/-- Whether the body is known to be empty; a stream never is. -/
def isEmpty : Body → Bool
  | .bytes content => content.isEmpty
  | .stream _ => false

/-- The bytes of a body in memory. -/
def bytes? : Body → Option ByteArray
  | .bytes content => some content
  | .stream _ => none

/-- The body as a record. -/
def describe : Body → String
  | .bytes content => Text.wrapped "Bytes" (Text.quotedBytes content)
  | .stream _ => Text.wrapped "Stream" "Body"

end Body

/-- An accessor that gives the body again at each call. -/
structure Replay where
  /-- The body that the call of the given index gives, counted from zero. -/
  body : Nat → Body
  calls : Nat := 0

/-- A request. -/
structure Request where
  method : String
  url : Url
  headers : Headers := .empty
  /-- The body, unless there is none or the first attempt has taken it. -/
  body : Option Body := none
  /-- The accessor that gives the body again. -/
  replay : Option Replay := none
  hasBody : Bool := false

namespace Request

/-- Gives a header one value. -/
def withHeader (r : Request) (name : String) (value : ByteArray) : Request :=
  { r with headers := r.headers.insert name value }

/-- Adds a value to a header. -/
def appendHeader (r : Request) (name : String) (value : ByteArray) : Request :=
  { r with headers := r.headers.append name value }

/-- Takes a header out. -/
def eraseHeader (r : Request) (name : String) : Request :=
  { r with headers := r.headers.erase name }

/-- Gives the request a body in memory, which each later attempt gets again. -/
def withBody (r : Request) (content : ByteArray) : Request :=
  { r with
    hasBody := !content.isEmpty
    body := some (.bytes content)
    replay := some { body := fun _ => .bytes content } }

/-- Gives the request a body that can be read once. -/
def withStream (r : Request) (content : ByteArray) : Request :=
  { r with
    hasBody := true
    body := some (.stream content)
    replay := none }

/-- Gives the request an accessor for its body. -/
def withReplay (r : Request) (body : Nat → Body) : Request :=
  { r with replay := some { body } }

/-- Gives the request the text of a value as its body, and says so in a header. -/
def withJson (r : Request) (value : Json.Value) : Request :=
  (r.withHeader "content-type" "application/json".toUTF8).withBody value.render.toUTF8

/-- Whether the request can be sent more than once. -/
def isReplayable (r : Request) : Bool := !r.hasBody || r.replay.isSome

/-- The request as it is sent with the given body: once, so without an accessor. -/
def outgoing (r : Request) (body : Option Body) : Request :=
  { r with
    body := body
    replay := none
    hasBody := body.any fun b => !b.isEmpty }

/-- What is sent for an attempt and what is left of the request; `none` if the body is needed again
and cannot be had. -/
def forAttempt? (r : Request) (attempt : Nat) : Option (Request × Request) :=
  if attempt = 0 then some (r.outgoing r.body, { r with body := none })
  else if !r.hasBody then some (r.outgoing none, r)
  else
    match r.replay with
    | some p =>
      let next := { r with replay := some { p with calls := p.calls + 1 } }
      some (r.outgoing (some (p.body p.calls)), next)
    | none => none

variable {r outgoing kept : Request} {attempt : Nat}

/-- **What an attempt can do.**  The first one takes the body; a later one carries none if there was none
to carry, and else what the accessor gives. -/
theorem forAttempt?_cases (h : r.forAttempt? attempt = some (outgoing, kept)) :
    (attempt = 0 ∧ outgoing = r.outgoing r.body ∧ kept = { r with body := none }) ∨
    (attempt ≠ 0 ∧ r.hasBody = false ∧ outgoing = r.outgoing none ∧ kept = r) ∨
    (attempt ≠ 0 ∧ r.hasBody = true ∧ ∃ p, r.replay = some p ∧
      outgoing = r.outgoing (some (p.body p.calls)) ∧
      kept = { r with replay := some { p with calls := p.calls + 1 } }) := by
  unfold forAttempt? at h
  split at h
  · rename_i h0
    cases h
    exact Or.inl ⟨h0, rfl, rfl⟩
  · rename_i h0
    split at h
    · rename_i hb
      cases h
      exact Or.inr (Or.inl ⟨h0, by simpa using hb, rfl, rfl⟩)
    · rename_i hb
      split at h
      · rename_i p hp
        cases h
        exact Or.inr (Or.inr ⟨h0, by simpa using hb, p, hp, rfl, rfl⟩)
      · cases h

/-- Making an attempt does not change whether there can be another one. -/
theorem isReplayable_of_forAttempt? (h : r.forAttempt? attempt = some (outgoing, kept)) :
    kept.isReplayable = r.isReplayable := by
  rcases forAttempt?_cases h with ⟨-, -, rfl⟩ | ⟨-, -, -, rfl⟩ | ⟨-, -, p, hp, -, rfl⟩
  · rfl
  · rfl
  · simp only [isReplayable, hp, Option.isSome_some]

/-- The request has the method, the address and the headers of the other one. -/
structure SameHead (r other : Request) : Prop where
  method : r.method = other.method
  url : r.url = other.url
  headers : r.headers = other.headers

theorem SameHead.trans {s t : Request} (h : r.SameHead s) (hs : s.SameHead t) : r.SameHead t :=
  ⟨h.method.trans hs.method, h.url.trans hs.url, h.headers.trans hs.headers⟩

/-- What is sent for an attempt, and what is left of the request, have its head. -/
theorem sameHead_of_forAttempt? (h : r.forAttempt? attempt = some (outgoing, kept)) :
    outgoing.SameHead r ∧ kept.SameHead r := by
  rcases forAttempt?_cases h with ⟨-, rfl, rfl⟩ | ⟨-, -, rfl, rfl⟩ | ⟨-, -, p, -, rfl, rfl⟩
  all_goals exact ⟨⟨rfl, rfl, rfl⟩, rfl, rfl, rfl⟩

/-- Only a later attempt can lack the body, and only if there is no way to have it again. -/
theorem forAttempt?_eq_none (h : r.forAttempt? attempt = none) :
    attempt ≠ 0 ∧ r.isReplayable = false := by
  unfold forAttempt? at h
  split at h
  · cases h
  · rename_i h0
    split at h
    · cases h
    · rename_i hb
      split at h
      · cases h
      · rename_i hp
        refine ⟨h0, ?_⟩
        simpa [isReplayable, hp] using hb

/-- So there is something to send for every attempt of a request that can be repeated, and for the first one
of any request. -/
theorem forAttempt?_ne_none (h : attempt ≠ 0 → r.isReplayable = true) :
    r.forAttempt? attempt ≠ none := by
  intro hnone
  obtain ⟨h0, hr⟩ := forAttempt?_eq_none hnone
  rw [h h0] at hr
  cases hr

/-- The request as a record. -/
def describe (r : Request) : String :=
  Text.record "HttpRequest"
    [("method", r.method),
     ("url", Text.quoted r.url.text),
     ("headers", r.headers.describe),
     ("body", Text.optional (r.body.map Body.describe)),
     ("replayable", Text.truth r.isReplayable)]

end Request

end Resilience
