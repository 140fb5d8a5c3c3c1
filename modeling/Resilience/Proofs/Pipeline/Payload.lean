/-
# What each attempt carries

The first attempt of a request takes its body, and each later one gets it again from the accessor.  The
two ways have to agree.  This file says what the transport inside is handed for each attempt of a
request whose body is in memory.

* `BuilderCall`, `Request.build`: a request is built by a chain of calls.
* `LastPayload`: the body that the chain sets last is in memory, and no accessor is put in its place.
* `Layer.Loop.forall_answers`: **what is kept from attempt to attempt holds at every attempt.**  It is an
  induction over the rules of the loop, made once for every property of requests.
* `payload_of_every_attempt`: every attempt carries the payload, with the same method, address and
  headers; only an empty payload is left out from the second attempt on (`not_empty_payload_repeated`).
-/
import Resilience.Proofs.Pipeline.Course

namespace Resilience

/-! ## 1. Chains of calls -/

/-- A call that builds a request further. -/
inductive BuilderCall where
  | withHeader (name : String) (value : ByteArray)
  | appendHeader (name : String) (value : ByteArray)
  | eraseHeader (name : String)
  | withBody (content : ByteArray)
  | withJson (value : Json.Value)
  | withStream (content : ByteArray)
  | withReplay (body : Nat → Body)

namespace BuilderCall

/-- What the call makes of a request. -/
def apply (r : Request) : BuilderCall → Request
  | .withHeader name value => r.withHeader name value
  | .appendHeader name value => r.appendHeader name value
  | .eraseHeader name => r.eraseHeader name
  | .withBody content => r.withBody content
  | .withJson value => r.withJson value
  | .withStream content => r.withStream content
  | .withReplay body => r.withReplay body

/-- The body in memory that the call sets, if it sets one. -/
def payload? : BuilderCall → Option ByteArray
  | .withBody content => some content
  | .withJson value => some value.render.toUTF8
  | _ => none

/-- The call changes headers and nothing else. -/
def IsHeader : BuilderCall → Prop
  | .withHeader .. => True
  | .appendHeader .. => True
  | .eraseHeader _ => True
  | _ => False

end BuilderCall

/-- The request that a chain of calls makes of another one. -/
def Request.build (r : Request) (calls : List BuilderCall) : Request := calls.foldl BuilderCall.apply r

/-- The last call of the chain that sets a body sets these bytes, and no accessor is given after it. -/
def LastPayload (calls : List BuilderCall) (content : ByteArray) : Prop :=
  ∃ front call back, calls = front ++ call :: back ∧ call.payload? = some content ∧
    ∀ c ∈ back, c.IsHeader

namespace Request

variable {r outgoing kept : Request} {content : ByteArray} {attempt : Nat}

/-! ## 2. One attempt -/

/-- The accessor of the request gives these bytes each time, and they count as a body unless there are
none. -/
structure Repeats (content : ByteArray) (r : Request) : Prop where
  hasBody_eq : r.hasBody = !content.isEmpty
  replay_eq : ∃ calls, r.replay = some { body := fun _ => .bytes content, calls }

/-- The body that an attempt with this payload carries. -/
def carried (content : ByteArray) (attempt : Nat) : Option Body :=
  if attempt = 0 ∨ content.isEmpty = false then some (.bytes content) else none

theorem repeats_withBody (r : Request) (content : ByteArray) : (r.withBody content).Repeats content :=
  ⟨rfl, 0, rfl⟩

/-- Headers do not bear on the body. -/
theorem apply_of_isHeader {c : BuilderCall} (hc : c.IsHeader) :
    ∃ headers, c.apply r = { r with headers } := by
  cases c with
  | withHeader | appendHeader | eraseHeader => exact ⟨_, rfl⟩
  | _ => exact hc.elim

theorem build_of_isHeader {calls : List BuilderCall} (h : ∀ c ∈ calls, c.IsHeader) :
    ∃ headers, r.build calls = { r with headers } := by
  induction calls generalizing r with
  | nil => exact ⟨r.headers, rfl⟩
  | cons c calls ih =>
    obtain ⟨headers, hc⟩ := apply_of_isHeader (r := r) (h c List.mem_cons_self)
    obtain ⟨headers', hrest⟩ := ih (r := c.apply r) fun c hc => h c (List.mem_cons_of_mem _ hc)
    refine ⟨headers', hrest.trans ?_⟩
    rw [hc]

/-- **A chain whose last body is in memory** makes a request with this body and an accessor for it. -/
theorem repeats_build {calls : List BuilderCall} (h : LastPayload calls content) :
    (r.build calls).Repeats content ∧ (r.build calls).body = some (.bytes content) := by
  obtain ⟨front, call, back, rfl, hcall, hback⟩ := h
  obtain ⟨other, hother⟩ : ∃ other : Request, call.apply (r.build front) = other.withBody content := by
    cases call with
    | withBody | withJson =>
      cases hcall
      exact ⟨_, rfl⟩
    | _ => cases hcall
  obtain ⟨headers, hheaders⟩ := build_of_isHeader (r := other.withBody content) hback
  have heq : r.build (front ++ call :: back) = { other.withBody content with headers } := by
    rw [← hheaders, ← hother]
    simp only [build, List.foldl_append, List.foldl_cons]
  rw [heq]
  exact ⟨⟨(repeats_withBody other content).hasBody_eq, (repeats_withBody other content).replay_eq⟩, rfl⟩

/-- **One attempt.**  A later attempt carries the payload again, and the first one what the request has;
the accessor gives the payload again. -/
theorem Repeats.of_forAttempt? (h : r.Repeats content)
    (hs : r.forAttempt? attempt = some (outgoing, kept))
    (hfirst : attempt = 0 → r.body = some (.bytes content)) :
    outgoing.body = carried content attempt ∧ kept.Repeats content := by
  obtain ⟨hhas, calls, hreplay⟩ := id h
  rcases forAttempt?_cases hs with ⟨h0, rfl, rfl⟩ | ⟨h0, hempty, rfl, rfl⟩ | ⟨h0, hfull, p, hp, rfl, rfl⟩
  · exact ⟨(hfirst h0).trans (if_pos (Or.inl h0)).symm, hhas, calls, hreplay⟩
  · refine ⟨(if_neg ?_).symm, h⟩
    rintro (h0' | hfull)
    · exact h0 h0'
    · simp [hhas, hfull] at hempty
  · obtain rfl := Option.some_inj.mp (hreplay.symm.trans hp)
    have hcontent : content.isEmpty = false := by simpa [hhas] using hfull
    exact ⟨(if_pos (Or.inr hcontent)).symm, hhas, calls + 1, rfl⟩

end Request

/-! ## 3. All attempts -/

namespace Layer

variable {l : Layer} {left attempt : Nat} {request kept : Request} {log made : List Asked}
  {o result : Outcome}

section ForAll

variable {P Q : Nat → Request → Prop}
  (step : ∀ {attempt r outgoing kept}, P attempt r →
    r.forAttempt? attempt = some (outgoing, kept) → Q attempt outgoing ∧ P (attempt + 1) kept)
include step

/-- An attempt, and those that follow it. -/
theorem Answered.forall_answers (h : Answered .exchange attempt request kept o made)
    (hP : P attempt request)
    (hlog : P (attempt + 1) kept →
      ∀ k a, (answers log)[k]? = some a → Q (attempt + 1 + k) a.request) :
    ∀ k a, (answers (made ++ log))[k]? = some a → Q (attempt + k) a.request := by
  obtain ⟨outgoing, hsend, rfl⟩ := h.eq
  obtain ⟨hQ, hkept⟩ := step hP hsend
  intro k a ha
  change (⟨outgoing, o, opening log⟩ :: answers log)[k]? = some a at ha
  cases k with
  | zero =>
    cases ha
    exact hQ
  | succ k =>
    have := hlog hkept k a ha
    rwa [Nat.add_assoc, Nat.add_comm 1 k] at this

/-- **What is kept from attempt to attempt holds at every attempt.**  `P` is what the request keeps, and
`Q` what is said of the request that is sent. -/
theorem Loop.forall_answers (h : l.Loop .exchange left attempt request log result)
    (hP : P attempt request) :
    ∀ k a, (answers log)[k]? = some a → Q (attempt + k) a.request := by
  -- nothing is sent after the last attempt
  have last : ∀ {log attempt}, outcomes log = [] →
      ∀ k a, (answers log)[k]? = some a → Q (attempt + k) a.request := by
    intro log attempt hnone k a ha
    rw [answers_eq_nil hnone] at ha
    cases ha
  induction h with
  | ended reason => exact last rfl
  | unsendable h => exact last rfl
  | succeeded h ho ht =>
    refine h.forall_answers step hP fun _ => last ?_
    rw [outcomes_append, (quiet_tellSuccess l).outcomes_eq_nil ht]
    rfl
  | aborted h ho => exact h.forall_answers step hP fun _ => last rfl
  | exhausted h ho ht | notReplayable h ho ht hk =>
    refine h.forall_answers step hP fun _ => last ?_
    rw [outcomes_append, (quiet_tellFailure l).outcomes_eq_nil ht]
    rfl
  | interrupted reason h ho ht hk hd =>
    refine h.forall_answers step hP fun _ => last ?_
    rw [outcomes_append, (quiet_tellFailure l).outcomes_eq_nil ht, outcomes_append,
      (quiet_nextBackoff _ _ _).outcomes_eq_nil hd]
    rfl
  | retried h ho ht hk hd next ih =>
    refine h.forall_answers step hP fun hkept => ?_
    rw [answers_append ((quiet_tellFailure l).outcomes_eq_nil ht),
      answers_append ((quiet_nextBackoff _ _ _).outcomes_eq_nil hd)]
    exact ih hkept

/-- The same for a whole request, whose attempts begin at zero. -/
theorem Sent.forall_answers (h : l.Sent .exchange request log result) (hP : P 0 request) :
    ∀ k a, (answers log)[k]? = some a → Q k a.request := by
  cases h with
  | ended reason => intro k a ha; cases ha
  | refused h =>
    intro k a ha
    rw [answers_cons rfl, answers_cons rfl, answers_eq_nil h.quiet.1] at ha
    cases ha
  | entered h hloop =>
    intro k a ha
    rw [answers_cons rfl, answers_cons rfl, answers_append h.quiet.1] at ha
    have := hloop.forall_answers step hP k a ha
    rwa [Nat.zero_add] at this

end ForAll

/-- Each attempt of a request with such an accessor has the head of the request and carries the
payload. -/
theorem Sent.carries {content : ByteArray} (h : l.Sent .exchange request log result)
    (hrepeats : request.Repeats content) (hbody : request.body = some (.bytes content)) :
    ∀ k a, (answers log)[k]? = some a →
      a.request.SameHead request ∧ a.request.body = Request.carried content k := by
  -- what is left of the request keeps the accessor and the head; the body is there for the first attempt
  refine h.forall_answers
    (P := fun attempt r => r.Repeats content ∧ r.SameHead request ∧
      (attempt = 0 → r.body = some (.bytes content)))
    (Q := fun attempt r => r.SameHead request ∧ r.body = Request.carried content attempt)
    (fun {attempt r outgoing kept} hP hs => ?_) ⟨hrepeats, ⟨rfl, rfl, rfl⟩, fun _ => hbody⟩
  obtain ⟨hr, hhead, hfirst⟩ := hP
  obtain ⟨houtgoing, hkept⟩ := Request.sameHead_of_forAttempt? hs
  obtain ⟨hcarried, hnext⟩ := hr.of_forAttempt? hs hfirst
  exact ⟨⟨houtgoing.trans hhead, hcarried⟩, hnext, hkept.trans hhead, nofun⟩

end Layer

/-! ## 4. The payload -/

/-- **Every attempt carries the payload.**  Take any layer, any chain of calls whose last body is in
memory, and surroundings that answer in any way.  Each request that the transport inside is handed has
the method, the address and the headers of the one that was built; the first one carries the payload, and
each later one carries it again, or no body if the payload is empty. -/
theorem payload_of_every_attempt (l : Layer) (env : Surroundings) (method : String) (url : Url)
    {calls : List BuilderCall} {content : ByteArray} (h : LastPayload calls content) :
    let request := Request.build { method, url } calls
    ∀ (k : Nat) (a : Answer), (answers (env.log (l.send .exchange request)))[k]? = some a →
      a.request.method = request.method ∧ a.request.url = request.url ∧
        a.request.headers = request.headers ∧
        a.request.body =
          if k = 0 ∨ content.isEmpty = false then some (.bytes content) else none := by
  intro request k a ha
  obtain ⟨hrepeats, hbody⟩ := Request.repeats_build (r := { method, url }) h
  have hsent := Layer.send_sent (env.yields (l.send .exchange request))
  obtain ⟨hhead, hcarried⟩ := hsent.carries hrepeats hbody k a ha
  exact ⟨hhead.method, hhead.url, hhead.headers, hcarried⟩

/-- With the default settings, a request that can be repeated is sent again after status 503. -/
theorem exists_second_answer {l : Layer} (hl : Layer.build 0 true {} = .ok l) (request : Request)
    (hr : request.isReplayable = true) :
    ∃ a, (answers ((Surroundings.calm fun i => .ok { status := ⟨if i < 1 then 503 else 200⟩ }).log
      (l.send .exchange request)))[1]? = some a := by
  obtain ⟨k, hk⟩ := Surroundings.stops_calm (fun i => .ok { status := ⟨if i < 1 then 503 else 200⟩ })
    hl request
  rw [hr] at hk
  obtain rfl : k = 1 := LayerConfig.isFinal_first_good (by decide) hk.final fun j hj =>
    hk.first j (Nat.zero_le j) hj
  have hexchanges := hk.exchanges_eq
  rw [← map_outcome_answers, List.length_map] at hexchanges
  exact ⟨_, List.getElem?_eq_getElem (by omega)⟩

/-- A body set twice, then a header: the second attempt carries the second body. -/
theorem payload_of_second_attempt :
    ∃ l : Layer, Layer.build 0 true {} = .ok l ∧
      let calls : List BuilderCall :=
        [.withStream ⟨#[0]⟩, .withBody ⟨#[1, 2]⟩, .withHeader "x-id" ⟨#[55]⟩]
      let url : Url := ⟨"http", "", "", some "a.test", none, .segments [""], none, none⟩
      let env := Surroundings.calm fun i => .ok { status := ⟨if i < 1 then 503 else 200⟩ }
      LastPayload calls ⟨#[1, 2]⟩ ∧
        ∃ a : Answer, (answers (env.log (l.send .exchange (Request.build { method := "PUT", url } calls))))[1]? =
            some a ∧ a.request.body = some (.bytes ⟨#[1, 2]⟩) := by
  obtain ⟨l, hl⟩ : ∃ l : Layer, Layer.build 0 true {} = .ok l := ⟨_, rfl⟩
  refine ⟨l, hl, ?_⟩
  intro calls url env
  have hlast : LastPayload calls ⟨#[1, 2]⟩ :=
    ⟨[.withStream ⟨#[0]⟩], .withBody ⟨#[1, 2]⟩, [.withHeader "x-id" ⟨#[55]⟩], rfl, rfl,
      fun c hc => by rw [List.mem_singleton.mp hc]; trivial⟩
  obtain ⟨a, ha⟩ := exists_second_answer hl (Request.build { method := "PUT", url } calls) rfl
  obtain ⟨-, -, -, hbody⟩ := payload_of_every_attempt l env "PUT" url hlast 1 a ha
  exact ⟨hlast, a, ha, hbody⟩

/-- An empty payload is not carried by every attempt: the second one has no body. -/
theorem not_empty_payload_repeated :
    ¬ ∀ (l : Layer) (env : Surroundings) (method : String) (url : Url) (calls : List BuilderCall)
      (content : ByteArray), LastPayload calls content →
        ∀ (k : Nat) (a : Answer),
          (answers (env.log (l.send .exchange (Request.build { method, url } calls))))[k]? = some a →
            a.request.body = some (.bytes content) := by
  intro hall
  obtain ⟨l, hl⟩ : ∃ l : Layer, Layer.build 0 true {} = .ok l := ⟨_, rfl⟩
  let url : Url := ⟨"http", "", "", some "a.test", none, .segments [""], none, none⟩
  let env := Surroundings.calm fun i => .ok { status := ⟨if i < 1 then 503 else 200⟩ }
  let request := Request.build { method := "PUT", url } [.withBody .empty]
  have hlast : LastPayload [.withBody .empty] .empty := ⟨[], .withBody .empty, [], rfl, rfl, nofun⟩
  obtain ⟨a, ha⟩ := exists_second_answer hl request rfl
  have hsent := Layer.send_sent (env.yields (l.send .exchange request))
  obtain ⟨-, hnone⟩ := hsent.carries (Request.repeats_withBody _ .empty) rfl 1 a ha
  rw [hall l env "PUT" url _ .empty hlast 1 a ha] at hnone
  cases hnone

end Resilience
