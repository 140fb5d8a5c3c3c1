/-
# The pace of a request

A request looks at its context, makes exchanges and waits; whatever else it asks is an aside, which
takes no time.  This file takes the asides out of the rules of the loop and says in which order the
other questions come.

* `Query.IsAside`, `Asides`: the questions that neither look at the context nor wait for anything.
* `Layer.Pace`, `Layer.Paced`: the order of the other questions, in a loop and in a whole request.
  `Loop.pace` and `Sent.paced` say that it is always this one.
* `Turn`: what each of the other questions has to do with what is before it and what is after it.
  Directly before an exchange the context was found alive; after a wait, or a look that finds the context
  over, no exchange follows directly.
* `Pace.turn`, `Paced.turn`: **each of them has its turn**, in a loop and in a whole request.
* `Paced.of_end`: **the end of the context is the last answer of a request**, and all exchanges before
  it have failed.
-/
import Resilience.Proofs.Pipeline.Course

namespace Resilience

/-! ## 1. Asides -/

/-- The question is neither about the context, nor for an exchange or a wait. -/
def Query.IsAside : Query → Prop
  | .context => False
  | .exchange _ => False
  | .pause _ => False
  | _ => True

/-- The log holds nothing but asides. -/
def Asides (log : List Asked) : Prop := ∀ x ∈ log, x.query.IsAside

/-- Why the context is over, if the answer says so. -/
def Asked.end? : Asked → Option ContextEnd
  | ⟨.context, answer⟩ => answer
  | ⟨.pause _, answer⟩ => answer
  | _ => none

section Asides

variable {front log tail past future : List Asked} {x y : Asked} {layer : Nat} {reason : ContextEnd}

theorem Query.Announces.isAside {q : Query} (h : q.Announces layer) : q.IsAside := by
  cases q with
  | observe i notice => trivial
  | trace line => trivial
  | _ => exact h.elim

@[simp] theorem asides_nil : Asides [] := fun _ hx => nomatch hx

@[simp] theorem asides_cons_iff : Asides (x :: log) ↔ x.query.IsAside ∧ Asides log :=
  List.forall_mem_cons

theorem asides_line (line : TraceLine) : Asides [.line line] := asides_cons_iff.mpr ⟨trivial, asides_nil⟩

theorem asides_pair (hx : x.query.IsAside) (hy : y.query.IsAside) : Asides [x, y] :=
  asides_cons_iff.mpr ⟨hx, asides_cons_iff.mpr ⟨hy, asides_nil⟩⟩

theorem Asides.append (hf : Asides front) (h : Asides log) : Asides (front ++ log) :=
  fun x hx => (List.mem_append.mp hx).elim (hf x) (h x)

theorem Program.Only.asides {α : Type} {p : Program α} {a : α} (h : p.Only Query.IsAside)
    (hy : p.Yields log a) : Asides log := h.of_mem hy

theorem Asides.outcomes_eq_nil (h : Asides log) : outcomes log = [] := by
  refine List.filterMap_eq_nil_iff.mpr fun x hx => ?_
  have haside := h x hx
  obtain ⟨q, answer⟩ := x
  cases q with
  | exchange request => exact haside.elim
  | _ => rfl

theorem Asked.end?_eq_none (h : x.query.IsAside) : x.end? = none := by
  obtain ⟨q, answer⟩ := x
  cases q with
  | context => exact h.elim
  | pause d => exact h.elim
  | _ => rfl

/-- What is no aside comes after asides. -/
theorem Asides.of_append_eq (h : Asides front) (hx : ¬ x.query.IsAside)
    (heq : front ++ tail = past ++ x :: future) :
    ∃ rest, past = front ++ rest ∧ tail = rest ++ x :: future := by
  rcases List.append_eq_append_iff.mp heq with ⟨rest, hpast, htail⟩ | ⟨rest, hfront, htail⟩
  · exact ⟨rest, hpast, htail⟩
  · cases rest with
    | nil => exact ⟨[], by simpa using hfront.symm, htail.symm⟩
    | cons y rest =>
      obtain ⟨rfl, -⟩ := List.cons_eq_cons.mp htail
      exact absurd (h x (by rw [hfront]; simp)) hx

/-- Asides hold nothing else. -/
theorem Asides.not_eq_append (h : Asides front) (hx : ¬ x.query.IsAside) :
    front ≠ past ++ x :: future :=
  fun heq => hx (h x (by rw [heq]; simp))

theorem Asked.not_isAside (h : x.end? = some reason) : ¬ x.query.IsAside := by
  intro haside
  rw [x.end?_eq_none haside] at h
  cases h

end Asides

namespace Layer

/-! ## 2. The pace -/

variable (l : Layer)

/-- **The pace of a loop.**  It looks at the context, makes an exchange, and waits, and so on; from an
exchange it goes on to a wait only after a failure. -/
inductive Pace : List Asked → Outcome → Prop
  /-- The context is over. -/
  | halted (reason : ContextEnd) : Pace [⟨.context, some reason⟩] (.error (.ofContext reason))
  /-- There is nothing to be sent. -/
  | idle {result : Outcome} : Pace [⟨.context, none⟩] result
  /-- The exchange is the last one. -/
  | last {outgoing : Request} {o result : Outcome} {aside : List Asked} (ha : Asides aside) :
      Pace (⟨.context, none⟩ :: ⟨.exchange outgoing, o⟩ :: aside) result
  /-- The context ends during the wait. -/
  | interrupted {outgoing : Request} {o : Outcome} {aside : List Asked} {delay : Duration}
      (reason : ContextEnd) (ha : Asides aside) (ho : l.due o = some .failure) :
      Pace (⟨.context, none⟩ :: ⟨.exchange outgoing, o⟩ :: (aside ++ [⟨.pause delay, some reason⟩]))
        (.error (.ofContext reason))
  /-- After the wait the loop begins anew. -/
  | retried {outgoing : Request} {o result : Outcome} {aside rest : List Asked} {delay : Duration}
      (ha : Asides aside) (ho : l.due o = some .failure) (next : Pace rest result) :
      Pace (⟨.context, none⟩ :: ⟨.exchange outgoing, o⟩ :: (aside ++ ⟨.pause delay, none⟩ :: rest))
        result

/-- **The pace of a request.** -/
inductive Paced : List Asked → Outcome → Prop
  /-- The context is over from the beginning. -/
  | halted {line : TraceLine} (reason : ContextEnd) :
      Paced [.line line, ⟨.context, some reason⟩] (.error (.ofContext reason))
  /-- The breaker turns the request away. -/
  | refused {line : TraceLine} {aside : List Asked} {result : Outcome} (ha : Asides aside) :
      Paced (.line line :: ⟨.context, none⟩ :: aside) result
  /-- The loop is entered. -/
  | entered {line : TraceLine} {aside log : List Asked} {result : Outcome} (ha : Asides aside)
      (h : Pace l log result) : Paced (.line line :: ⟨.context, none⟩ :: (aside ++ log)) result

variable {l} {left attempt : Nat} {request outgoing : Request} {log past future : List Asked}
  {o result : Outcome} {x : Asked} {reason : ContextEnd} {delay : Duration}

theorem asides_tellSuccess {tell : List Asked} (ht : l.tellSuccess.Yields tell ()) : Asides tell :=
  (only_tellSuccess trivial fun _ => Query.Announces.isAside).asides ht

theorem asides_tellFailure {tell : List Asked} (ht : l.tellFailure.Yields tell ()) : Asides tell :=
  (only_tellFailure trivial fun _ => Query.Announces.isAside).asides ht

/-- What comes between a failure and the wait. -/
theorem asides_delayed {tell draw : List Asked} (ht : l.tellFailure.Yields tell ())
    (hd : (l.strategy.nextBackoff l.index attempt).Yields draw delay) (kept : Request)
    (outcome : AttemptOutcome) (line : TraceLine) :
    Asides (tell ++ (draw ++ [l.ended kept attempt outcome (some delay), .line line])) := by
  have hdraw : Asides draw := (Strategy.only_nextBackoff trivial fun _ => trivial).asides hd
  exact (asides_tellFailure ht).append (hdraw.append (asides_pair trivial trivial))

/-- **Every loop keeps this pace.** -/
theorem Loop.pace (h : l.Loop .exchange left attempt request log result) : l.Pace log result := by
  induction h with
  | ended reason => exact .halted reason
  | unsendable h => exact .idle
  | succeeded h ho ht =>
    obtain ⟨outgoing, -, rfl⟩ := h.eq
    exact .last ((asides_tellSuccess ht).append (asides_pair trivial trivial))
  | @aborted left attempt request kept o made e line h ho =>
    obtain ⟨outgoing, -, rfl⟩ := h.eq
    exact .last (asides_line line)
  | exhausted h ho ht =>
    obtain ⟨outgoing, -, rfl⟩ := h.eq
    exact .last ((asides_tellFailure ht).append (asides_pair trivial trivial))
  | notReplayable h ho ht hk =>
    obtain ⟨outgoing, -, rfl⟩ := h.eq
    exact .last ((asides_tellFailure ht).append (asides_pair trivial trivial))
  | @interrupted left attempt request kept o made tell draw f delay line reason h ho ht hk hd =>
    obtain ⟨outgoing, -, rfl⟩ := h.eq
    have haside := asides_delayed ht hd kept f.outcome line
    have hpace : l.Pace _ (.error (.ofContext reason)) :=
      @Pace.interrupted l outgoing o _ delay reason haside (due_eq_of_failure ho).1
    simpa only [List.append_assoc, List.cons_append, List.nil_append] using hpace
  | @retried left attempt request kept o made tell draw rest f delay line result h ho ht hk hd next
      ih =>
    obtain ⟨outgoing, -, rfl⟩ := h.eq
    have haside := asides_delayed ht hd kept f.outcome line
    have hpace : l.Pace _ result :=
      @Pace.retried l outgoing o result _ rest delay haside (due_eq_of_failure ho).1 ih
    simpa only [List.append_assoc, List.cons_append, List.nil_append] using hpace

/-- Admission is an aside, too. -/
theorem Admission.asides {asked : List Asked} {refusal : Option HttpError}
    (h : l.Admission asked refusal) : Asides asked := by
  cases h <;> simp [learned, Asked.line, Asked.notice, Query.IsAside]

/-- **Every request keeps this pace.** -/
theorem Sent.paced (h : l.Sent .exchange request log result) : l.Paced log result := by
  cases h with
  | ended reason => exact .halted reason
  | refused h => exact .refused h.asides
  | entered h hloop => exact .entered h.asides hloop.pace

/-! ## 3. The questions of a request, one by one -/

variable (l) in
/-- All exchanges of the log have failed. -/
def Failed (log : List Asked) : Prop := ∀ o ∈ outcomes log, l.due o = some .failure

variable (l) in
/-- **What a question that is no aside has to do with what is before it and what is after it.** -/
inductive Turn (past future : List Asked) (result : Outcome) : Asked → Prop
  /-- If the context is found over, nothing follows. -/
  | look (answer : Option ContextEnd) (hpast : l.Failed past)
      (h : ∀ reason, answer = some reason → future = [] ∧ result = .error (.ofContext reason)) :
      Turn past future result ⟨.context, answer⟩
  /-- Directly before an exchange the context was found alive. -/
  | exchange {outgoing : Request} {o : Outcome} {earlier : List Asked}
      (h : past = earlier ++ [⟨.context, none⟩]) :
      Turn past future result ⟨.exchange outgoing, o⟩
  /-- If the context ends during a wait, nothing follows. -/
  | interrupted {delay : Duration} (reason : ContextEnd) (hpast : l.Failed past)
      (hfuture : future = []) (hresult : result = .error (.ofContext reason)) :
      Turn past future result ⟨.pause delay, some reason⟩
  /-- Otherwise the loop begins anew. -/
  | retried {delay : Duration} (hpast : l.Failed past) (h : l.Pace future result) :
      Turn past future result ⟨.pause delay, none⟩

theorem Failed.append {front : List Asked} (hf : l.Failed front) (h : l.Failed log) :
    l.Failed (front ++ log) := by
  intro o ho
  rw [outcomes_append] at ho
  exact (List.mem_append.mp ho).elim (hf o) (h o)

theorem Failed.of_outcomes_eq_nil (h : outcomes log = []) : l.Failed log := by
  intro o ho
  rw [h] at ho
  cases ho

/-- An exchange that has failed, and asides after it. -/
theorem Failed.exchange {aside : List Asked} (ha : Asides aside) (ho : l.due o = some .failure) :
    l.Failed (⟨.context, none⟩ :: ⟨.exchange outgoing, o⟩ :: aside) := by
  intro o' ho'
  rw [outcomes_cons_context, outcomes_cons_exchange, ha.outcomes_eq_nil, List.mem_singleton] at ho'
  exact ho' ▸ ho

/-- More that has failed may come before. -/
theorem Turn.prepend {front : List Asked} (h : l.Turn past future result x) (hf : l.Failed front) :
    l.Turn (front ++ past) future result x := by
  cases h with
  | look answer hpast h => exact .look answer (hf.append hpast) h
  | @exchange outgoing o earlier h =>
    have hpast : front ++ past = (front ++ earlier) ++ [⟨.context, none⟩] := by
      rw [h, List.append_assoc]
    exact .exchange hpast
  | interrupted reason hpast hfuture hresult =>
    exact .interrupted reason (hf.append hpast) hfuture hresult
  | retried hpast h => exact .retried (hf.append hpast) h

theorem singleton_eq_append {y : Asked} (h : [y] = past ++ x :: future) :
    past = [] ∧ y = x ∧ future = [] := by
  cases past with
  | nil =>
    obtain ⟨rfl, rfl⟩ := List.cons_eq_cons.mp h
    exact ⟨rfl, rfl, rfl⟩
  | cons z past => simp at h

/-- The turn of an attempt: its look, its exchange, or what comes later. -/
theorem turn_of_attempt {tail : List Asked}
    (heq : ⟨.context, none⟩ :: ⟨.exchange outgoing, o⟩ :: tail = past ++ x :: future) :
    l.Turn past future result x ∨
      ∃ rest, past = ⟨.context, none⟩ :: ⟨.exchange outgoing, o⟩ :: rest ∧
        tail = rest ++ x :: future := by
  cases past with
  | nil =>
    obtain ⟨rfl, rfl⟩ := List.cons_eq_cons.mp heq
    exact Or.inl (.look none (.of_outcomes_eq_nil rfl) nofun)
  | cons y past =>
    obtain ⟨rfl, hrest⟩ := List.cons_eq_cons.mp heq
    cases past with
    | nil =>
      obtain ⟨rfl, rfl⟩ := List.cons_eq_cons.mp hrest
      exact Or.inl (.exchange (List.nil_append _).symm)
    | cons z past =>
      obtain ⟨rfl, htail⟩ := List.cons_eq_cons.mp hrest
      exact Or.inr ⟨past, rfl, htail⟩

/-- **Each question of a loop that is no aside has its turn.** -/
theorem Pace.turn (h : l.Pace log result) (hx : ¬ x.query.IsAside) (heq : log = past ++ x :: future) :
    l.Turn past future result x := by
  induction h generalizing past with
  | halted reason =>
    obtain ⟨rfl, rfl, rfl⟩ := singleton_eq_append heq
    refine .look _ (.of_outcomes_eq_nil rfl) fun reason' hr => ?_
    cases hr
    exact ⟨rfl, rfl⟩
  | idle =>
    obtain ⟨rfl, rfl, rfl⟩ := singleton_eq_append heq
    exact .look _ (.of_outcomes_eq_nil rfl) nofun
  | last ha =>
    rcases turn_of_attempt heq with hturn | ⟨rest, -, htail⟩
    · exact hturn
    · exact absurd htail (ha.not_eq_append hx)
  | interrupted reason ha ho =>
    rcases turn_of_attempt heq with hturn | ⟨rest, rfl, htail⟩
    · exact hturn
    · obtain ⟨rest, rfl, hwait⟩ := ha.of_append_eq hx htail
      obtain ⟨rfl, rfl, rfl⟩ := singleton_eq_append hwait
      rw [List.append_nil]
      exact .interrupted reason (.exchange ha ho) rfl rfl
  | @retried outgoing o result aside log delay ha ho next ih =>
    rcases turn_of_attempt heq with hturn | ⟨rest, rfl, htail⟩
    · exact hturn
    · obtain ⟨rest, rfl, hwait⟩ := ha.of_append_eq hx htail
      cases rest with
      | nil =>
        obtain ⟨rfl, rfl⟩ := List.cons_eq_cons.mp hwait
        rw [List.append_nil]
        exact .retried (.exchange ha ho) next
      | cons y rest =>
        obtain ⟨rfl, hlog⟩ := List.cons_eq_cons.mp hwait
        have hattempt : l.Failed (⟨.context, none⟩ :: ⟨.exchange outgoing, o⟩ :: aside) :=
          .exchange ha ho
        have hwait : l.Failed [⟨.pause delay, none⟩] := .of_outcomes_eq_nil rfl
        have hturn := (ih hlog).prepend (hattempt.append hwait)
        simpa only [List.append_assoc, List.cons_append, List.nil_append] using hturn

/-- The turn of an entry: its look, or what comes later. -/
theorem turn_of_entry {line : TraceLine} {tail : List Asked} (hx : ¬ x.query.IsAside)
    (heq : .line line :: ⟨.context, none⟩ :: tail = past ++ x :: future) :
    l.Turn past future result x ∨
      ∃ rest, past = .line line :: ⟨.context, none⟩ :: rest ∧ tail = rest ++ x :: future := by
  obtain ⟨rest, rfl, htail⟩ := (asides_line line).of_append_eq hx heq
  cases rest with
  | nil =>
    obtain ⟨rfl, rfl⟩ := List.cons_eq_cons.mp htail
    exact Or.inl (.look none (.of_outcomes_eq_nil rfl) nofun)
  | cons y rest =>
    obtain ⟨rfl, hlog⟩ := List.cons_eq_cons.mp htail
    exact Or.inr ⟨rest, rfl, hlog⟩

/-- **Each question of a request that is no aside has its turn.** -/
theorem Paced.turn (h : l.Paced log result) (hx : ¬ x.query.IsAside)
    (heq : log = past ++ x :: future) : l.Turn past future result x := by
  cases h with
  | halted reason =>
    obtain ⟨rest, rfl, htail⟩ := (asides_line _).of_append_eq hx heq
    obtain ⟨rfl, rfl, rfl⟩ := singleton_eq_append htail
    refine .look _ (.of_outcomes_eq_nil rfl) fun reason' hr => ?_
    cases hr
    exact ⟨rfl, rfl⟩
  | refused ha =>
    rcases turn_of_entry hx heq with hturn | ⟨rest, -, htail⟩
    · exact hturn
    · exact absurd htail (ha.not_eq_append hx)
  | @entered line aside log result ha hpace =>
    rcases turn_of_entry hx heq with hturn | ⟨rest, rfl, htail⟩
    · exact hturn
    · obtain ⟨rest, rfl, hlog⟩ := ha.of_append_eq hx htail
      have hfront : l.Failed (.line line :: ⟨.context, none⟩ :: aside) :=
        .of_outcomes_eq_nil (by simpa using ha.outcomes_eq_nil)
      exact (hpace.turn hx hlog).prepend hfront

/-- **The end of the context is the last answer of a request**, decides its result, and all exchanges
before it have failed. -/
theorem Paced.of_end (h : l.Paced log result) (hx : x.end? = some reason)
    (heq : log = past ++ x :: future) :
    future = [] ∧ result = .error (.ofContext reason) ∧ l.Failed log := by
  have failed : ∀ {past : List Asked} {y : Asked}, outcomes [y] = [] → l.Failed past →
      l.Failed (past ++ [y]) := fun hy hpast => hpast.append (.of_outcomes_eq_nil hy)
  have hturn := h.turn (x.not_isAside hx) heq
  cases hturn with
  | look answer hpast hend =>
    obtain ⟨rfl, rfl⟩ := hend reason hx
    exact ⟨rfl, rfl, heq ▸ failed rfl hpast⟩
  | exchange h => cases hx
  | interrupted reason' hpast hfuture hresult =>
    cases hx
    subst hfuture
    exact ⟨rfl, hresult, heq ▸ failed rfl hpast⟩
  | retried hpast h => cases hx

end Layer

end Resilience
