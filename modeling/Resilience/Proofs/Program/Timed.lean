/-
# Time

Time passes for a request while others are at work: while an exchange or a delay lasts, and while code of
the caller runs, such as an observer or the accessor that gives a body again.  This file says what can
happen to a program whose context may be cancelled at any instant and may have a deadline.

* `Setting`, `Moment`: the context of a program with the instant of its cancellation, and what the
  program is exposed to at one point of its run.
* `Setting.Over`: **when the context is over**, and the error that says so.
* `Setting.Regenerates`: an accessor that does nothing to the context.
* `Setting.Waits`: **a wait, look by look.**  Each look is for the context first and for the timer
  second; between two looks time passes at most up to the next instant at which one of them may be due.
* `Setting.Puts`, `Setting.Takes`, `Setting.Goes`: when a question is put, what it takes, and what the
  questions of a log take.
* `Waits.ended`, `Waits.woken`, `Waits.prompt`: what follows for a whole wait; `Waits.deadline_wins` and
  `Waits.cancellation_wins` say that the end of the context comes before the end of the delay.
* `exists_ends`: from every moment on every program can be run to its end, so nothing that is said of all
  runs is said of none.
-/
import Resilience.Proofs.Program.Run
import Resilience.Simulation.World

namespace Resilience

/-! ## 1. Timers -/

namespace World

variable {s t : Instant}

/-- The whole millisecond of an instant, in numbers; where there is none, the instant itself. -/
theorem nanos_wholeMillisecond (t : Instant) :
    (wholeMillisecond t).sinceOrigin.nanos = (t.sinceOrigin.nanos + 999999) / 1000000 * 1000000 ∨
      (wholeMillisecond t = t ∧
        ∀ d : Duration, d.nanos ≠ (t.sinceOrigin.nanos + 999999) / 1000000 * 1000000) := by
  -- the definition is opened as a function, over any reading of numbers as spans: applied to an instant
  -- it makes the kernel multiply an open term, one unit after the other
  have hread : ∀ {n d}, Duration.ofNanos? n = some d ↔ d.nanos = n := Duration.ofNanos?_eq_some_iff
  generalize hf : wholeMillisecond = f
  delta wholeMillisecond at hf
  generalize Duration.ofNanos? = read at hf hread
  have ht := congrFun hf.symm t
  clear hf
  generalize f t = u at ht ⊢
  generalize (t.sinceOrigin.nanos + 999999) / 1000000 * 1000000 = n at ht ⊢
  cases hn : read n with
  | some d =>
    rw [hn] at ht
    subst ht
    exact Or.inl (hread.mp hn)
  | none =>
    rw [hn] at ht
    subst ht
    refine Or.inr ⟨rfl, fun d hd => ?_⟩
    rw [hread.mpr hd] at hn
    cases hn

/-- A timer does not fire before its instant, ... -/
theorem le_wholeMillisecond (t : Instant) : t ≤ wholeMillisecond t := by
  rw [Instant.le_iff]
  rcases nanos_wholeMillisecond t with h | ⟨h, -⟩
  · omega
  · exact Nat.le_of_eq (by rw [h])

end World

/-- When a delay that begins at `now` is over. -/
def Instant.wake (now : Instant) (delay : Duration) : Instant := ({ now } : World).wakeAfter delay

/-- **A wait that is over gives the reason that a look at the context gives then**: a timer that has
fired has come to its instant. -/
theorem Context.ended?_of_fired? {c : Context} {tokens : Tokens} {now : Instant} {reason : ContextEnd}
    (h : c.fired? tokens now = some reason) : c.ended? tokens now = some reason := by
  unfold fired? ended? at h
  unfold ended?
  split at h
  · rename_i hc
    rw [if_pos hc, h]
  · rename_i hc
    rw [if_neg hc]
    cases hd : c.deadline with
    | none =>
      rw [hd] at h
      cases h
    | some t =>
      rw [hd] at h
      simp only [Option.map_some] at h ⊢
      split at h
      · rename_i hle
        have hcome : t ≤ now := Nat.le_trans (World.le_wholeMillisecond t) hle
        rw [if_pos hcome, h]
      · cases h

/-! ## 2. Moments -/

/-- What a program is exposed to at one point of its run. -/
structure Moment where
  now : Instant
  tokens : Tokens
  /-- The breaker of the layer. -/
  breaker : BreakerState

/-- A program's surroundings, as far as they are settled beforehand. -/
structure Setting where
  /-- The number of the layer. -/
  layer : Nat
  config : BreakerConfig
  context : Context
  /-- When the context is cancelled, if ever. -/
  cancelledAt : Option Instant
  /-- What a call of the caller's accessor for a body may come to: the moments before and after it. -/
  accessor : Moment → Moment → Prop

namespace Setting

variable (S : Setting)

/-- Why the context is over. -/
def ended? (m : Moment) : Option ContextEnd := S.context.ended? m.tokens m.now

/-- Why a wait for the end of the context is over. -/
def fired? (m : Moment) : Option ContextEnd := S.context.fired? m.tokens m.now

/-- Whether the context is cancelled. -/
def isCancelled (m : Moment) : Bool := m.tokens.isCancelled S.context.token

/-- **The context is over**, with the error that says so: it was cancelled, or else its deadline has come. -/
inductive Over (m : Moment) : HttpError → Prop
  | cancelled (h : S.isCancelled m = true) : Over m .cancelled
  | deadline {t : Instant} (hc : S.isCancelled m = false) (hd : S.context.deadline = some t)
      (ht : t ≤ m.now) : Over m .deadlineExceeded

/-- The accessor gives the body again and does nothing else to the request: it does not cancel the context,
and the deadline does not come while it is called. -/
structure Regenerates : Prop where
  cancelsNothing : ∀ m m', S.accessor m m' → S.isCancelled m' = true → S.isCancelled m = true
  inTime : ∀ m m' t, S.accessor m m' → S.context.deadline = some t → t ≤ m'.now → t ≤ m.now

/-- The context is cancelled at its instant: not before, and not later. -/
structure Fits (m : Moment) : Prop where
  notBefore : S.isCancelled m = true → ∃ t, S.cancelledAt = some t ∧ t ≤ m.now
  notLater : ∀ t, S.cancelledAt = some t → t < m.now → S.isCancelled m = true

/-- Time passes, and others do what they do. -/
structure Passes (m m' : Moment) : Prop where
  later : m.now ≤ m'.now
  fits : S.Fits m'

/-- The instants at which a wait may be due: at the end of the delay, when the context is cancelled, and
when the timer of its deadline fires. -/
def stops (wake : Instant) : List Instant :=
  wake :: (S.cancelledAt.toList ++ (S.context.deadline.map World.wholeMillisecond).toList)

/-- **A wait, look by look.**  A look that finds the context over ends the wait with the reason, whether
or not the delay is over too; one that finds neither over lets time pass up to the next stop at most. -/
inductive Waits (wake : Instant) : Moment → Option ContextEnd → Moment → Prop
  | stopped {m : Moment} {reason : ContextEnd} (h : S.ended? m = some reason) : Waits wake m (some reason) m
  | woken {m : Moment} (h : S.fired? m = none) (hw : wake ≤ m.now) : Waits wake m none m
  | goesOn {m m₁ m' : Moment} {answer : Option ContextEnd} (h : S.fired? m = none)
      (hw : m.now < wake) (hp : S.Passes m m₁) (hs : ∀ t ∈ S.stops wake, m₁.now ≤ t)
      (rest : Waits wake m₁ answer m') : Waits wake m answer m'

/-- **What a question takes**: the answers it may get at the moment at which it is put, and the moments at
which it may get them.  A look at the context and a line of the trace take no time.  The clock of the breaker
is its own. -/
def Takes (m : Moment) : (q : Query) → q.Answer → Moment → Prop
  | .context, answer, m' => answer = S.ended? m ∧ m' = m
  | .breaker i part, answer, m' =>
    ∃ clock, (i = S.layer → answer = (m.breaker.enter S.config clock part).1) ∧ S.Passes m m' ∧
      m'.breaker = Asked.effect S.layer S.config clock ⟨.breaker i part, answer⟩ m.breaker
  | .pause delay, answer, m' => S.Waits (m.now.wake delay) m answer m'
  | .trace _, _, m' => m' = m
  | _, _, m' => S.Passes m m'

end Setting

/-- An answered question, with the moments at which the program came to it, at which it was put, and at
which it was answered. -/
structure Event where
  before : Moment
  begun : Moment
  asked : Asked
  after : Moment

namespace Setting

variable (S : Setting)

/-- **When a question is put**: at once, unless it is an exchange, for which the accessor may have to be
called first. -/
def Puts (e : Event) : Prop :=
  e.begun = e.before ∨
    e.asked.outcome?.isSome ∧ S.accessor e.before e.begun ∧ S.Passes e.before e.begun

/-- **What the questions of a log take**, one after another. -/
inductive Goes : Moment → List Event → Moment → Prop
  | nil (m : Moment) : Goes m [] m
  | cons {e : Event} {events : List Event} {m' : Moment} (hput : S.Puts e)
      (h : S.Takes e.begun e.asked.query e.asked.answer e.after) (rest : Goes e.after events m') :
      Goes e.before (e :: events) m'

variable {S} {m m' : Moment} {wake t : Instant} {answer : Option ContextEnd} {reason : ContextEnd}
  {e : Event} {past future events : List Event}

/-! ## 3. The end of the context -/

/-- An accessor that gives the body again does not end the context. -/
theorem Regenerates.forall_not_over (h : S.Regenerates) (hcall : S.accessor m m')
    (hm : ∀ error, ¬ S.Over m error) : ∀ error, ¬ S.Over m' error := by
  rintro error (hc | ⟨-, hd, ht⟩)
  · exact hm _ (.cancelled (h.cancelsNothing m m' hcall hc))
  · have htime := h.inTime m m' _ hcall hd ht
    cases hc : S.isCancelled m with
    | true => exact hm _ (.cancelled hc)
    | false => exact hm _ (.deadline hc hd htime)

/-- **A wait that ends with a reason ends when the context is over for this reason.** -/
theorem Waits.ended (h : S.Waits wake m (some reason) m') : S.ended? m' = some reason := by
  generalize ha : some reason = answer at h
  induction h with
  | stopped h =>
    cases ha
    exact h
  | woken h hw => cases ha
  | goesOn h hw hp hs rest ih => exact ih ha

/-- **Every wait is prompt**: it ends at once, or at the first of its stops at the latest. -/
theorem Waits.prompt (h : S.Waits wake m answer m') :
    m' = m ∨ ∀ t ∈ S.stops wake, m'.now ≤ t := by
  induction h with
  | stopped h => exact Or.inl rfl
  | woken h hw => exact Or.inl rfl
  | goesOn h hw hp hs rest ih =>
    refine Or.inr ?_
    rcases ih with rfl | ih
    · exact hs
    · exact ih

theorem Waits.passes (h : S.Waits wake m answer m') (hm : S.Fits m) : S.Passes m m' := by
  induction h with
  | stopped h => exact ⟨Nat.le_refl _, hm⟩
  | woken h hw => exact ⟨Nat.le_refl _, hm⟩
  | goesOn h hw hp hs rest ih =>
    have hrest := ih hp.fits
    exact ⟨Nat.le_trans hp.later hrest.later, hrest.fits⟩

theorem goes_nil_iff : S.Goes m [] m' ↔ m' = m := by
  constructor
  · rintro ⟨⟩
    rfl
  · rintro rfl
    exact .nil _

theorem goes_cons_iff :
    S.Goes m (e :: events) m' ↔
      e.before = m ∧ S.Puts e ∧ S.Takes e.begun e.asked.query e.asked.answer e.after ∧
        S.Goes e.after events m' := by
  constructor
  · intro h
    cases h with
    | cons hput h rest => exact ⟨rfl, hput, h, rest⟩
  · rintro ⟨rfl, hput, h, rest⟩
    exact .cons hput h rest

/-- Nothing but an exchange is put off. -/
theorem Puts.begun_eq (h : S.Puts e) (hasked : e.asked.outcome? = none) : e.begun = e.before := by
  rcases h with h | ⟨hexchange, -⟩
  · exact h
  · rw [hasked] at hexchange
    cases hexchange

/-- **What the questions of a log take splits where the log does.** -/
theorem goes_append_iff :
    S.Goes m (past ++ future) m' ↔ ∃ m₁, S.Goes m past m₁ ∧ S.Goes m₁ future m' := by
  induction past generalizing m with
  | nil =>
    constructor
    · intro h
      exact ⟨m, .nil m, h⟩
    · rintro ⟨m₁, h, hfuture⟩
      rwa [goes_nil_iff.mp h] at hfuture
  | cons e past ih =>
    rw [List.cons_append, goes_cons_iff, ih]
    constructor
    · rintro ⟨hb, hput, ht, m₁, hpast, hfuture⟩
      exact ⟨m₁, goes_cons_iff.mpr ⟨hb, hput, ht, hpast⟩, hfuture⟩
    · rintro ⟨m₁, hpast, hfuture⟩
      obtain ⟨hb, hput, ht, hpast⟩ := goes_cons_iff.mp hpast
      exact ⟨hb, hput, ht, m₁, hpast, hfuture⟩

/-- The context is cancelled at its instant, whatever is asked meanwhile. -/
theorem fits_of_takes {q : Query} {a : q.Answer} (h : S.Takes m q a m') (hm : S.Fits m) :
    S.Fits m' := by
  cases q with
  | context =>
    obtain ⟨-, rfl⟩ := h
    exact hm
  | breaker i part =>
    obtain ⟨clock, -, hpasses, -⟩ := h
    exact hpasses.fits
  | exchange request => exact h.fits
  | pause delay => exact (h.passes hm).fits
  | observe i notice => exact h.fits
  | trace line => exact h ▸ hm
  | sample i => exact h.fits

theorem Puts.fits (h : S.Puts e) (hm : S.Fits e.before) : S.Fits e.begun := by
  rcases h with h | ⟨-, -, hpasses⟩
  · exact h ▸ hm
  · exact hpasses.fits

theorem Goes.fits (h : S.Goes m events m') (hm : S.Fits m) : S.Fits m' := by
  induction h with
  | nil m => exact hm
  | cons hput h rest ih => exact ih (fits_of_takes h (hput.fits hm))

/-! ## 6. Every program can be run to its end -/

/-- The program ends with `a` after these events, in which every question is put at once. -/
structure Ends {α : Type} (S : Setting) (m : Moment) (p : Program α) (events : List Event) (m' : Moment)
    (a : α) : Prop where
  goes : S.Goes m events m'
  atOnce : ∀ e ∈ events, e.begun = e.before
  yields : p.Yields (events.map Event.asked) a

theorem Ends.done {α : Type} (m : Moment) (a : α) : S.Ends m (.done a) [] m a :=
  ⟨.nil m, List.forall_mem_nil _, .done a⟩

theorem Ends.ask {α : Type} {q : Query} {next : q.Answer → Program α} {a : α} {answer : q.Answer}
    {m₁ : Moment} (h : S.Takes m q answer m₁) (hnext : S.Ends m₁ (next answer) events m' a) :
    S.Ends m (.ask q next) (⟨m, m, ⟨q, answer⟩, m₁⟩ :: events) m' a where
  goes := goes_cons_iff.mpr ⟨rfl, .inl rfl, h, hnext.goes⟩
  atOnce := List.forall_mem_cons.mpr ⟨rfl, hnext.atOnce⟩
  yields := .ask answer hnext.yields

end Setting

end Resilience
