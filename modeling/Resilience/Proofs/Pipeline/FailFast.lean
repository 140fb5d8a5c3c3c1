/-
# Failing fast

A request that meets an open breaker is turned away at once.  This file says what that leaves alone, for
requests that come one after another: the request makes no exchange and changes nothing but the count of
rejections, so until the breaker has cooled down the next request finds it as it was.

* `history`: the calls of the breaker in a log; `breakerAfter_eq_run` says that what a log makes of a breaker
  is what this history makes of it.
* `Arrival`, `Layer.afterAll`: requests one after another, in surroundings in which the breaker answers for
  itself.
* `Layer.run_entry_of_opened`: **what a request asks if it is turned away.**  It does not depend on what
  would follow.
* `FailsFast`: all that a request does that is turned away.
* `Layer.after_inCoolDown`, `Layer.afterAll_inCoolDown`: **the step and the run.**  A request within the
  cool-down, and any number of them, leave the breaker as it was but for the count of rejections.
* `fails_fast`: the whole.
-/
import Resilience.Proofs.Breaker.CoolDown
import Resilience.Proofs.Pipeline.Nesting

namespace Resilience

/-! ## 1. The calls of a log -/

/-- The call of a breaker that takes effect in the section, if one does. -/
def Section.call? : Section → Option BreakerCall
  | .decide => some .isAllowed
  | .success => some .onSuccess
  | .failure => some .onFailure
  | .reset => some .reset
  | _ => none

/-- The call of the layer's breaker that takes effect with the question, if one does. -/
def Asked.call? (layer : Nat) (x : Asked) : Option BreakerCall :=
  match x.query with
  | .breaker i part => if i = layer then part.call? else none
  | _ => none

/-- The calls of the layer's breaker in a log, where the clock shows `clock past` when `past` has been
asked. -/
def history (layer : Nat) (clock : List Asked → Instant) : (past log : List Asked) → List BreakerEvent
  | _, [] => []
  | past, x :: log =>
    ((x.call? layer).map fun call => ⟨call, clock past⟩).toList ++
      history layer clock (past ++ [x]) log

section History

variable {layer : Nat} {config : BreakerConfig} {clock : List Asked → Instant} {now : Instant}

theorem BreakerState.enter_snd (s : BreakerState) (part : Section) : (s.enter config now part).2 =
    s.run config (part.call?.map fun call => ⟨call, now⟩).toList := by
  cases part <;> rfl

/-- An open circuit that has not cooled down rejects, and counts that. -/
theorem BreakerState.admission_of_opened {s : BreakerState} (ho : s.circuit = .opened)
    (hc : s.cooledDown config now = false) :
    s.admission config now = (.rejected, { s with rejected := s.rejected.tick }) := by
  simp [admission, ho, hc]

theorem Asked.effect_eq_run (x : Asked) (s : BreakerState) : x.effect layer config now s =
    s.run config ((x.call? layer).map fun call => ⟨call, now⟩).toList := by
  obtain ⟨q, answer⟩ := x
  cases q with
  | breaker i part =>
    by_cases hi : i = layer
    · simp only [effect, call?, if_pos hi]
      exact s.enter_snd part
    · simp only [effect, call?, if_neg hi]
      rfl
  | _ => rfl

/-- **What a log makes of a breaker** is what the calls in it make of it. -/
theorem breakerAfter_eq_run (past log : List Asked) (s : BreakerState) :
    breakerAfter layer config clock past log s = s.run config (history layer clock past log) := by
  induction log generalizing past s with
  | nil => rfl
  | cons x log ih => rw [breakerAfter, history, BreakerState.run_append, ih, x.effect_eq_run]

end History

/-! ## 2. Requests one after another -/

/-- A request that arrives at a layer. -/
structure Arrival where
  request : Request
  /-- What answers it, but for the breaker of the layer. -/
  env : Surroundings
  /-- What the clock of the breaker shows when the request has asked this so far. -/
  clock : List Asked → Instant

/-- What the observers were told, in order. -/
def notices (log : List Asked) : List (Nat × Notice) :=
  log.filterMap fun
    | ⟨.observe layer notice, _⟩ => some (layer, notice)
    | _ => none

namespace Layer

variable (l : Layer) (s : BreakerState)

/-- What answers a request that finds the breaker of the layer in the state `s`: the breaker for itself,
and what the request brings with it for all else. -/
def around (a : Arrival) : Surroundings := fun past q =>
  match q with
  | .breaker i part =>
    if i = l.index then
      ((breakerAfter l.index l.breaker a.clock [] past s).enter l.breaker (a.clock past) part).1
    else a.env past (.breaker i part)
  | q => a.env past q

/-- What the request asks, with the answers. -/
def logOf (a : Arrival) : List Asked := (l.around s a).log (l.send .exchange a.request)

/-- What the request ends with. -/
def resultOf (a : Arrival) : Outcome := (l.around s a).result (l.send .exchange a.request)

/-- What the request leaves of the breaker. -/
def after (a : Arrival) : BreakerState := breakerAfter l.index l.breaker a.clock [] (l.logOf s a) s

/-- What requests leave of the breaker, one after another. -/
def afterAll (arrivals : List Arrival) : BreakerState := arrivals.foldl l.after s

/-- The calls that requests make of the breaker, one after another. -/
def historyOf : BreakerState → List Arrival → List BreakerEvent
  | _, [] => []
  | s, a :: arrivals => history l.index a.clock [] (l.logOf s a) ++ historyOf (l.after s a) arrivals

variable {l s}

/-- Requests make of a breaker what their calls make of it. -/
theorem afterAll_eq_run (arrivals : List Arrival) :
    l.afterAll s arrivals = s.run l.breaker (l.historyOf s arrivals) := by
  induction arrivals generalizing s with
  | nil => rfl
  | cons a arrivals ih =>
    rw [historyOf, BreakerState.run_append, ← breakerAfter_eq_run]
    exact ih

/-- The breaker answers for itself. -/
theorem around_breaker (a : Arrival) (past : List Asked) (part : Section) :
    l.around s a past (.breaker l.index part) =
      ((breakerAfter l.index l.breaker a.clock [] past s).enter l.breaker (a.clock past) part).1 :=
  if_pos rfl

theorem learned_inj {part : Section} {answer answer' : part.Answer} :
    l.learned part answer = ⟨.breaker l.index part, answer'⟩ ↔ answer = answer' := by
  simp [learned]

/-! ## 3. A request that meets an open breaker -/

/-- What a request has asked when the breaker decides on it. -/
def seen (l : Layer) (request : Request) : List Asked :=
  [span request, ⟨.context, none⟩, l.learned .look true]

/-- What a request that is turned away has asked when it asks for the time to wait. -/
def turnedDown (l : Layer) (request : Request) (line : TraceLine) : List Asked :=
  l.seen request ++
    [l.learned .decide .rejected, .line line, .notice l.index (.rejection .opened)]

/-- All that a request asks that is turned away. -/
def refusal (l : Layer) (request : Request) (line line' : TraceLine) (wait : Option Duration) :
    List Asked :=
  l.turnedDown request line ++ [l.learned .remaining wait, .line line']

section Opened

variable {a : Arrival} {clock : List Asked → Instant} {request : Request} {line line' : TraceLine}
  {t now : Instant} {wait : Option Duration}

theorem breakerAfter_seen : breakerAfter l.index l.breaker clock [] (l.seen request) s = s := by
  simp [seen, breakerAfter, Asked.effect, learned, span, Asked.line, BreakerState.enter]

/-- A request that is turned away is counted; ... -/
theorem breakerAfter_turnedDown (ho : s.circuit = .opened)
    (hc : s.cooledDown l.breaker (clock (l.seen request)) = false) :
    breakerAfter l.index l.breaker clock [] (l.turnedDown request line) s =
      { s with rejected := s.rejected.tick } := by
  rw [turnedDown, breakerAfter_append, breakerAfter_seen, List.nil_append]
  simp [breakerAfter, Asked.effect, learned, Asked.line, Asked.notice, BreakerState.enter,
    BreakerState.admission_of_opened ho hc]

/-- ... what it asks after that changes nothing. -/
theorem breakerAfter_refusal (ho : s.circuit = .opened)
    (hc : s.cooledDown l.breaker (clock (l.seen request)) = false) :
    breakerAfter l.index l.breaker clock [] (l.refusal request line line' wait) s =
      { s with rejected := s.rejected.tick } := by
  rw [refusal, breakerAfter_append, breakerAfter_turnedDown ho hc]
  simp [breakerAfter, Asked.effect, learned, Asked.line, BreakerState.enter]

/-- **What a request asks that meets an open breaker** does not depend on what would follow its admission:
it is turned away. -/
theorem run_entry_of_opened (hb : l.policy.breakerEnabled = true) (ho : s.circuit = .opened)
    (ht : s.lastFailure = some t)
    (hc : s.cooledDown l.breaker (a.clock (l.seen a.request)) = false)
    (hlive : a.env [span a.request] .context = none) :
    ∃ line line', ∃ wait : Duration,
      wait = l.breaker.resetTimeout - (a.clock (l.turnedDown a.request line)).since t ∧ ∀ p,
        (l.entry a.request p).run (l.around s a) [] =
          (l.refusal a.request line line' (some wait), .error (.circuitOpen (some wait))) := by
  have hlook : l.around s a ([] ++ [span a.request]) .context = none := hlive
  obtain ⟨asked, refusal?, hyields, hrun⟩ := run_entry_of_live l hlook
  -- the answers up to the end of the admission are those of the breaker itself
  have answered : ∀ (front back : List Asked) (part : Section) (answer : part.Answer),
      span a.request :: ⟨.context, none⟩ :: asked = front ++ l.learned part answer :: back →
        answer = l.around s a front (.breaker l.index part) := by
    intro front back part answer heq
    have hlog : ((l.entry a.request (pure (.error .cancelled))).run (l.around s a) []).1 =
        front ++ l.learned part answer :: back := by
      rw [hrun, ← heq]
      cases refusal? with
      | some e => rfl
      | none => exact List.append_nil _
    have hanswer : l.learned part answer =
        ⟨.breaker l.index part, l.around s a front (.breaker l.index part)⟩ :=
      Program.eq_answer_of_run hlog
    exact learned_inj.mp hanswer
  have hdecide : l.around s a (l.seen a.request) (.breaker l.index .decide) = .rejected := by
    rw [around_breaker, breakerAfter_seen, BreakerState.enter, BreakerState.admission_of_opened ho hc]
  cases admission_admission hyields with
  | unasked h =>
    rw [hb] at h
    cases h
  | passed h =>
    -- the circuit is seen open
    have hclosed : false = l.around s a [span a.request, ⟨.context, none⟩] (.breaker l.index .look) :=
      answered [_, _] [] .look false rfl
    have hopen : l.around s a [span a.request, ⟨.context, none⟩] (.breaker l.index .look) = true := by
      rw [around_breaker]
      exact beq_iff_eq.mpr ho
    rw [hopen] at hclosed
    cases hclosed
  | late h =>
    have hadmitted : .admitted = l.around s a (l.seen a.request) (.breaker l.index .decide) :=
      answered (l.seen a.request) [] .decide .admitted rfl
    rw [hdecide] at hadmitted
    cases hadmitted
  | probe h =>
    have hprobing : .probing = l.around s a (l.seen a.request) (.breaker l.index .decide) :=
      answered (l.seen a.request) [_, _] .decide .probing rfl
    rw [hdecide] at hprobing
    cases hprobing
  | @rejected line line' wait h =>
    have hwait : wait = l.around s a (l.turnedDown a.request line) (.breaker l.index .remaining) :=
      answered (l.turnedDown a.request line) [.line line'] .remaining wait rfl
    rw [around_breaker, breakerAfter_turnedDown ho hc] at hwait
    have htold : wait =
        some (l.breaker.resetTimeout - (a.clock (l.turnedDown a.request line)).since t) :=
      hwait.trans (BreakerState.remaining_of_lastFailure ho ht)
    refine ⟨line, line', _, rfl, fun p => ?_⟩
    rw [hrun, htold]
    rfl

end Opened

end Layer

/-- **What a request does that is turned away**: it fails at once, and leaves everything else alone. -/
structure FailsFast (l : Layer) (s : BreakerState) (a : Arrival) (wait : Duration) : Prop where
  /-- It is told when to come back. -/
  result_eq : l.resultOf s a = .error (.circuitOpen (some wait))
  /-- It makes no exchange and records no attempt, ... -/
  quiet : outcomes (l.logOf s a) = [] ∧ records (l.logOf s a) = []
  /-- ... and neither waits nor draws a sample. -/
  prompt : Prompt (l.logOf s a)
  /-- The observers are told of one rejection, and of nothing else. -/
  told : notices (l.logOf s a) = [(l.index, .rejection .opened)]
  /-- The breaker counts one more rejection, and is otherwise as it was. -/
  after_eq : l.after s a = { s with rejected := s.rejected.tick }
  /-- The body, its accessor and the headers are not looked at: any others give the same run. -/
  unread : ∀ other : Request, other.method = a.request.method → other.url = a.request.url →
    l.logOf s { a with request := other } = l.logOf s a ∧
      l.resultOf s { a with request := other } = l.resultOf s a

namespace Layer

variable {l : Layer} {s : BreakerState} {a : Arrival} {t now : Instant}

variable (l) in
/-- When the breaker decides on the request, no more than the cool-down has passed since the failure at `t`. -/
def InCoolDown (t : Instant) (a : Arrival) : Prop :=
  (a.clock (l.seen a.request)).since t ≤ l.breaker.resetTimeout

/-- So the breaker has not cooled down. -/
theorem InCoolDown.cooledDown_eq (h : l.InCoolDown t a) (ht : s.lastFailure = some t) :
    s.cooledDown l.breaker (a.clock (l.seen a.request)) = false :=
  BreakerState.cooledDown_eq_false ht (Nat.le_refl _) h

/-- What is asked of a request before its attempts depends on its method and its address alone. -/
theorem entry_congr {r r' : Request} (hm : r.method = r'.method) (hu : r.url = r'.url)
    (p : Program Outcome) : l.entry r p = l.entry r' p := by
  rw [entry, entry, hm, hu]

/-- **A request that meets an open breaker fails fast**, if its context is not over; it is told the time that
is left when it asks. -/
theorem failsFast_of_opened (hb : l.policy.breakerEnabled = true) (ho : s.circuit = .opened)
    (ht : s.lastFailure = some t) (ha : l.InCoolDown t a) (hlive : a.env [span a.request] .context = none) :
    ∃ past, FailsFast l s a (l.breaker.resetTimeout - (a.clock past).since t) := by
  have hc := ha.cooledDown_eq ht
  obtain ⟨line, line', wait, rfl, hrun⟩ := run_entry_of_opened hb ho ht hc hlive
  refine ⟨l.turnedDown a.request line, ?_⟩
  generalize (l.breaker.resetTimeout - (a.clock (l.turnedDown a.request line)).since t) = wait at hrun
  have hsend : (l.send .exchange a.request).run (l.around s a) [] =
      (l.refusal a.request line line' (some wait), .error (.circuitOpen (some wait))) := by
    rw [send_eq]
    exact hrun _
  have hlog : l.logOf s a = l.refusal a.request line line' (some wait) := congrArg Prod.fst hsend
  have hresult : l.resultOf s a = .error (.circuitOpen (some wait)) := congrArg Prod.snd hsend
  refine ⟨hresult, ?quiet, ?prompt, ?told, ?after_eq, ?unread⟩
  case quiet =>
    rw [hlog]
    exact ⟨rfl, rfl⟩
  case prompt =>
    rw [hlog]
    simp [Prompt, refusal, turnedDown, seen, learned, span, Asked.line, Asked.notice, Query.IsPrompt]
  case told =>
    rw [hlog]
    rfl
  case after_eq =>
    rw [after, hlog]
    exact breakerAfter_refusal ho hc
  case unread =>
    intro other hm hu
    have hother : (l.send .exchange other).run (l.around s { a with request := other }) [] =
        (l.refusal a.request line line' (some wait), .error (.circuitOpen (some wait))) := by
      rw [send_eq, entry_congr hm hu]
      exact hrun _
    rw [hlog, hresult]
    exact ⟨congrArg Prod.fst hother, congrArg Prod.snd hother⟩

/-- **The step.**  A request within the cool-down makes no exchange, and leaves the breaker as it was but for
the count of rejections. -/
theorem after_inCoolDown (hb : l.policy.breakerEnabled = true) (ho : s.circuit = .opened)
    (ht : s.lastFailure = some t) (ha : l.InCoolDown t a) :
    outcomes (l.logOf s a) = [] ∧ ∃ rejected, l.after s a = { s with rejected } := by
  cases hc : a.env [span a.request] .context with
  | none =>
    obtain ⟨past, hfast⟩ := failsFast_of_opened hb ho ht ha hc
    exact ⟨hfast.quiet.1, _, hfast.after_eq⟩
  | some reason =>
    -- the context is over, and the breaker is not even asked
    have hended : l.around s a ([] ++ [span a.request]) .context = some reason := hc
    have hlog : l.logOf s a = [span a.request, ⟨.context, some reason⟩] := by
      rw [logOf, Surroundings.log, send_eq, run_entry_of_ended hended]
    rw [after, hlog]
    exact ⟨rfl, s.rejected, rfl⟩

/-- **The run.**  So do any number of requests. -/
theorem afterAll_inCoolDown (hb : l.policy.breakerEnabled = true) (ho : s.circuit = .opened)
    (ht : s.lastFailure = some t) {arrivals : List Arrival} (hw : ∀ a ∈ arrivals, l.InCoolDown t a) :
    ∃ rejected, l.afterAll s arrivals = { s with rejected } := by
  induction arrivals generalizing s with
  | nil => exact ⟨s.rejected, rfl⟩
  | cons a arrivals ih =>
    obtain ⟨-, rejected, hafter⟩ := after_inCoolDown hb ho ht (hw a List.mem_cons_self)
    have hstep : l.afterAll s (a :: arrivals) = l.afterAll { s with rejected } arrivals := by
      rw [← hafter]
      rfl
    obtain ⟨rejected', hrest⟩ :=
      ih (s := { s with rejected }) ho ht fun b hb => hw b (List.mem_cons_of_mem a hb)
    exact ⟨rejected', hstep.trans hrest⟩

end Layer

/-! ## 4. The whole -/

/-- **A breaker that is open lets nothing through until it has cooled down, and is left alone.**  Let any
requests have gone through a layer with valid settings, one after another, each with a context that ends
whenever it likes, exchanges that come to anything, and any reading of the clock; and let the breaker be open
now.  Its latest failure was at some instant `t`.  A request whose context is not over, and that comes at an
instant within the cool-down that counts from `t`, fails fast and is told the rest of the cool-down.  However
many requests come within the cool-down, and however the clock moves meanwhile, the breaker stays as it is
but for the count of rejections, and no such request makes an exchange. -/
theorem fails_fast {index : Nat} {c : LayerConfig} {l : Layer} (hl : Layer.build index true c = .ok l)
    (hb : c.breaker.enabled = true) (earlier : List Arrival)
    (ho : (l.afterAll .initial earlier).circuit = .opened) :
    let s := l.afterAll .initial earlier
    ∃ t, LatestFailure (l.historyOf .initial earlier) t ∧ s.lastFailure = some t ∧
      (∀ a now, a.env [Layer.span a.request] .context = none → (∀ past, a.clock past = now) →
        now.since t ≤ c.breaker.resetTimeout →
          FailsFast l s a (c.breaker.resetTimeout - now.since t) ∧
            (s.rejected.value < 18446744073709551615 →
              (l.after s a).rejected.value = s.rejected.value + 1)) ∧
      ∀ more, (∀ a ∈ more, l.InCoolDown t a) →
        (∃ rejected, l.afterAll s more = { s with rejected }) ∧
          ∀ a, l.InCoolDown t a → outcomes (l.logOf (l.afterAll s more) a) = [] := by
  intro s
  obtain ⟨-, -, hvalid, -, heq⟩ := Layer.build_eq_ok_iff.mp hl
  have hb : l.policy.breakerEnabled = true := by rw [heq]; exact hb
  have hconfig : l.breaker = c.breaker := by rw [heq]
  have hrun : s = BreakerState.initial.run c.breaker (l.historyOf .initial earlier) := by
    rw [← hconfig]
    exact Layer.afterAll_eq_run earlier
  have hsound : s.Sound c.breaker := by
    rw [hrun]
    exact (BreakerState.Sound.initial hvalid).run hvalid _
  obtain ⟨t, ht⟩ := hsound.exists_lastFailure (by rw [ho]; nofun)
  have hlatest : LatestFailure (l.historyOf .initial earlier) t := by
    rw [hrun] at ht
    exact BreakerState.lastFailure_run.mp ht
  rw [← hconfig]
  refine ⟨t, hlatest, ht, ?_, ?_⟩
  · intro a now hlive hclock hnow
    have hcool : l.InCoolDown t a := by
      rw [Layer.InCoolDown, hclock]
      exact hnow
    obtain ⟨past, hfast⟩ := Layer.failsFast_of_opened hb ho ht hcool hlive
    rw [hclock] at hfast
    refine ⟨hfast, fun hlt => ?_⟩
    rw [hfast.after_eq]
    exact Counter.value_tick_of_lt hlt
  · intro more hmore
    obtain ⟨rejected, hafter⟩ := Layer.afterAll_inCoolDown hb ho ht hmore
    refine ⟨⟨rejected, hafter⟩, fun a ha => ?_⟩
    rw [hafter]
    exact (Layer.after_inCoolDown (s := { s with rejected }) hb ho ht ha).1

/-- Where one failure opens the breaker, a request that comes ten seconds after it is told to come back in
fifty. -/
theorem fails_fast_after_failure :
    let l : Layer :=
      ⟨0, ⟨true, false, 500⟩, { failureThreshold := 1 }, RetryConfig.strategy { enabled := false }⟩
    let request : Request :=
      { method := "GET", url := ⟨"http", "", "", some "a.test", none, .segments [""], none, none⟩ }
    let failed : Arrival :=
      ⟨request, Surroundings.calm fun _ => .ok { status := ⟨503⟩ }, fun _ => .origin⟩
    let next : Arrival :=
      ⟨request, Surroundings.calm fun _ => .ok { status := ⟨200⟩ }, fun _ => ⟨.ofSeconds 10⟩⟩
    Layer.build 0 true { breaker := { failureThreshold := 1 }, retry := { enabled := false } } = .ok l ∧
      (l.afterAll .initial [failed]).circuit = .opened ∧
      FailsFast l (l.afterAll .initial [failed]) next (.ofSeconds 50) ∧
      (l.after (l.afterAll .initial [failed]) next).rejected.value = 1 := by
  intro l request failed next
  have hl : Layer.build 0 true { breaker := { failureThreshold := 1 }, retry := { enabled := false } } =
      .ok l := rfl
  have ho : (l.afterAll .initial [failed]).circuit = .opened := by decide +kernel
  have hdate : (l.afterAll .initial [failed]).lastFailure = some .origin := by decide +kernel
  have hcount : (l.afterAll .initial [failed]).rejected.value = 0 := by decide +kernel
  obtain ⟨t, -, ht, hnext, -⟩ := fails_fast hl rfl [failed] ho
  obtain rfl : t = .origin := Option.some_inj.mp (ht.symm.trans hdate)
  obtain ⟨hfast, hone⟩ := hnext next ⟨.ofSeconds 10⟩ rfl (fun _ => rfl) (by decide)
  rw [hcount] at hone
  exact ⟨hl, ho, hfast, hone (by omega)⟩

end Resilience
