/-
# Programs side by side

Programs that run at the same time share one breaker and one observer.  Nothing else of one is seen by
another, and each question for the breaker is one critical section; so what they do together is an
interleaving of their questions.

* `Interleaving`: the layer whose breaker and observer are shared, and the programs that may begin.
* `Interleaving.State`: the breaker, the observer, the programs under way (`Strand`), and all that was
  asked so far, in the order in which it was answered (`Happening`).
* `Interleaving.Move`, `run`: a program begins, or the next question of one is answered.  Any number of
  programs may be under way, any of them may make the next move, and the clock may show anything; so
  `run` over all lists of moves is every way in which the programs can come between each other.
* `Interleaving.Rule`: the rules of a move.  What is kept along a run is proved by a case split on them
  (`step_rule`).
* `leads_run`: each strand has come as far as its log says.
* `linked_run`: the breaker is what the critical sections made of it, one after another.
* `perm_logs`, `sublist_trace`: what was asked is what the strands asked, each in its order.
* `log_eq_run`, `answered_run`, `recorder_run`: whose question each one is, that the breaker answers for
  itself, and that the observer holds what it was told.
-/
import Resilience.Proofs.Program.Run

namespace Resilience

/-! ## 1. How far a program has come -/

namespace Program

variable {α : Type}

/-- `p.Leads log rest`: the program asks the questions of `log` and, answered as there, goes on as
`rest`. -/
inductive Leads : Program α → List Asked → Program α → Prop
  | refl (p : Program α) : Leads p [] p
  | ask {q : Query} {next : q.Answer → Program α} {log : List Asked} {rest : Program α}
      (answer : q.Answer) (h : Leads (next answer) log rest) :
      Leads (.ask q next) (⟨q, answer⟩ :: log) rest

variable {p rest : Program α} {log : List Asked} {a : α}

/-- One more answer leads one question further. -/
theorem Leads.concat {q : Query} {next : q.Answer → Program α} (h : p.Leads log (.ask q next))
    (answer : q.Answer) : p.Leads (log ++ [⟨q, answer⟩]) (next answer) := by
  generalize hr : Program.ask q next = r at h
  induction h with
  | refl p =>
    subst hr
    exact .ask answer (.refl _)
  | ask first _ ih => exact .ask first (ih hr)

/-- A program that has come so far ends with what the rest of it ends with. -/
theorem Leads.yields (h : p.Leads log rest) {more : List Asked} (hr : rest.Yields more a) :
    p.Yields (log ++ more) a := by
  induction h with
  | refl p => exact hr
  | ask answer _ ih => exact .ask answer (ih hr)

/-- A program that has come to its end has made a run. -/
theorem Leads.yields_of_done (h : p.Leads log (.done a)) : p.Yields log a := by
  have := h.yields (.done a)
  rwa [List.append_nil] at this

/-- Every question can be answered. -/
theorem nonempty_answer (q : Query) : Nonempty q.Answer := by
  cases q with
  | context => exact ⟨none⟩
  | breaker layer part => exact ⟨(BreakerState.initial.enter {} .origin part).1⟩
  | observe layer notice => exact ⟨()⟩
  | trace line => exact ⟨()⟩
  | sample layer => exact ⟨none⟩
  | exchange request => exact ⟨.error .cancelled⟩
  | pause delay => exact ⟨none⟩

/-- Every program has a run. -/
theorem exists_yields (p : Program α) : ∃ log a, p.Yields log a := by
  induction p with
  | done a => exact ⟨[], a, .done a⟩
  | ask q next ih =>
    obtain ⟨answer⟩ := nonempty_answer q
    obtain ⟨log, a, h⟩ := ih answer
    exact ⟨_, a, .ask answer h⟩

/-- **What a program has asked so far is the beginning of a run.** -/
theorem Leads.exists_yields (h : p.Leads log rest) : ∃ more a, p.Yields (log ++ more) a := by
  obtain ⟨more, a, hr⟩ := rest.exists_yields
  exact ⟨more, a, h.yields hr⟩

/-- What a program has asked so far are questions that it asks. -/
theorem Only.of_mem_leads {P : Query → Prop} (hp : p.Only P) (h : p.Leads log rest) :
    ∀ x ∈ log, P x.query := by
  obtain ⟨more, a, hy⟩ := h.exists_yields
  exact fun x hx => hp.of_mem hy x (List.mem_append_left _ hx)

end Program

/-! ## 2. Strands and moves -/

/-- Programs that may run side by side over the breaker and the observer of one layer.  A thread that
makes several calls is several programs, each begun after the one before has ended. -/
structure Interleaving (ι α : Type) where
  /-- The layer. -/
  layer : Nat
  /-- The settings of its breaker. -/
  config : BreakerConfig
  /-- What a program may be begun for, and the program. -/
  program : ι → Program α

namespace Interleaving

variable {ι α : Type}

/-- A program under way. -/
structure Strand (ι α : Type) where
  /-- What it was begun for. -/
  source : ι
  /-- What it has asked so far. -/
  log : List Asked
  /-- How it goes on. -/
  rest : Program α

/-- A question as it was asked among those of the other strands. -/
structure Happening where
  /-- The number of the strand. -/
  strand : Nat
  /-- The question with its answer. -/
  asked : Asked
  /-- What the clock of the breaker showed. -/
  now : Instant
  /-- The breaker as it was found. -/
  before : BreakerState

/-- Programs under way, with all that they share. -/
structure State (ι α : Type) where
  breaker : BreakerState := .initial
  recorder : Recorder := {}
  strands : List (Strand ι α) := []
  /-- What was asked so far. -/
  trace : List Happening := []

/-- What can happen next. -/
inductive Move (ι : Type) where
  /-- A program begins. -/
  | begin (source : ι)
  /-- The next question of a strand is answered: those for the breaker by the breaker, whose clock shows
  `now`, all others by `env`. -/
  | next (strand : Nat) (now : Instant) (env : (q : Query) → q.Answer)

variable (I : Interleaving ι α)

/-- The answer to a question, and what it leaves of the breaker. -/
def answer (now : Instant) (env : (q : Query) → q.Answer) (s : BreakerState) :
    (q : Query) → q.Answer × BreakerState
  | .breaker layer part =>
    if layer = I.layer then s.enter I.config now part else (env (.breaker layer part), s)
  | q => (env q, s)

/-- What the observer keeps of a question. -/
def hear (r : Recorder) : Query → Recorder
  | .observe layer notice => if layer = I.layer then r.record notice else r
  | _ => r

/-- What a move makes of the state.  A strand that does not exist or has ended makes no move. -/
def step (w : State ι α) : Move ι → State ι α
  | .begin source => { w with strands := w.strands ++ [⟨source, [], I.program source⟩] }
  | .next i now env =>
    match w.strands[i]? with
    | some ⟨source, log, .ask q next⟩ =>
      let (answer, breaker) := I.answer now env w.breaker q
      { breaker := breaker
        recorder := I.hear w.recorder q
        strands := w.strands.set i ⟨source, log ++ [⟨q, answer⟩], next answer⟩
        trace := w.trace ++ [⟨i, ⟨q, answer⟩, now, w.breaker⟩] }
    | _ => w

/-- What moves make of the state. -/
def run (w : State ι α) (moves : List (Move ι)) : State ι α := moves.foldl I.step w

theorem run_append (w : State ι α) (moves more : List (Move ι)) :
    I.run w (moves ++ more) = I.run (I.run w moves) more := by
  rw [run, List.foldl_append]
  rfl

/-- `I.Rule w m w'`: the move `m`, made in the state `w`, leads to `w'`. -/
inductive Rule (w : State ι α) : Move ι → State ι α → Prop
  /-- A program begins. -/
  | begun (source : ι) :
      Rule w (.begin source) { w with strands := w.strands ++ [⟨source, [], I.program source⟩] }
  /-- A strand asks its next question. -/
  | asked {i : Nat} {now : Instant} {env : (q : Query) → q.Answer} {source : ι} {log : List Asked}
      {q : Query} {next : q.Answer → Program α}
      (h : w.strands[i]? = some ⟨source, log, .ask q next⟩) :
      Rule w (.next i now env)
        { breaker := (I.answer now env w.breaker q).2
          recorder := I.hear w.recorder q
          strands := w.strands.set i
            ⟨source, log ++ [⟨q, (I.answer now env w.breaker q).1⟩],
              next (I.answer now env w.breaker q).1⟩
          trace := w.trace ++ [⟨i, ⟨q, (I.answer now env w.breaker q).1⟩, now, w.breaker⟩] }
  /-- There is nothing to ask. -/
  | idle {i : Nat} {now : Instant} {env : (q : Query) → q.Answer} : Rule w (.next i now env) w

/-- **Every move follows a rule.** -/
theorem step_rule (w : State ι α) (m : Move ι) : I.Rule w m (I.step w m) := by
  cases m with
  | begin source => exact .begun source
  | next i now env =>
    rw [step]
    split
    · rename_i h
      exact .asked h
    · exact .idle

variable {I} {w w' : State ι α} {m : Move ι} {i : Nat}

/-- **What every rule keeps, every run keeps.** -/
theorem run_induction {P : State ι α → Prop} (hw : P w)
    (hr : ∀ v m v', I.Rule v m v' → P v → P v') (moves : List (Move ι)) : P (I.run w moves) := by
  induction moves generalizing w with
  | nil => exact hw
  | cons m moves ih => exact ih (hr w m _ (I.step_rule w m) hw)

/-! ## 3. Strands stay, and go on -/

theorem getElem?_set_self {s : Strand ι α} {l : List (Strand ι α)} (h : l[i]? = some s)
    (t : Strand ι α) : (l.set i t)[i]? = some t :=
  List.getElem?_set_self (List.getElem?_eq_some_iff.mp h).1

/-- A strand of a list with one more at its end is that one, or one of the others. -/
theorem getElem?_concat_cases {l : List (Strand ι α)} {s t : Strand ι α}
    (h : (l ++ [t])[i]? = some s) : l[i]? = some s ∨ s = t := by
  rw [List.getElem?_append] at h
  split at h
  · exact Or.inl h
  · exact Or.inr (List.mem_singleton.mp (List.mem_of_getElem? h))

/-- A strand of a list in which one was changed is that one, or one of the others. -/
theorem getElem?_set_cases {l : List (Strand ι α)} {s t : Strand ι α} {j : Nat}
    (h : (l.set j t)[i]? = some s) : i ≠ j ∧ l[i]? = some s ∨ i = j ∧ s = t := by
  by_cases hij : i = j
  · subst hij
    have hlt := (List.getElem?_eq_some_iff.mp h).1
    rw [List.length_set] at hlt
    rw [List.getElem?_set_self hlt] at h
    exact Or.inr ⟨rfl, (Option.some_inj.mp h).symm⟩
  · rw [List.getElem?_set_ne (Ne.symm hij)] at h
    exact Or.inl ⟨hij, h⟩

/-- A property of strands that a new strand has and every answer keeps holds of all strands. -/
theorem forall_strand {P : Strand ι α → Prop} (hw : w.strands = [])
    (hbegin : ∀ source, P ⟨source, [], I.program source⟩)
    (hask : ∀ source log q next answer, P ⟨source, log, .ask q next⟩ →
      P ⟨source, log ++ [⟨q, answer⟩], next answer⟩)
    (moves : List (Move ι)) : ∀ s ∈ (I.run w moves).strands, P s := by
  refine run_induction (P := fun v => ∀ s ∈ v.strands, P s) (by simp [hw]) ?_ moves
  intro v m v' hr ih s hs
  cases hr with
  | begun source =>
    rcases List.mem_append.mp hs with hs | hs
    · exact ih s hs
    · rw [List.mem_singleton.mp hs]
      exact hbegin source
  | asked h =>
    rcases List.mem_or_eq_of_mem_set hs with hs | rfl
    · exact ih s hs
    · exact hask _ _ _ _ _ (ih _ (List.mem_of_getElem? h))
  | idle => exact ih s hs

/-- **Each strand has come as far as its log says.** -/
theorem leads_run (hw : w.strands = []) (moves : List (Move ι)) :
    ∀ s ∈ (I.run w moves).strands, (I.program s.source).Leads s.log s.rest :=
  forall_strand hw (fun _ => .refl _) (fun _ _ _ _ answer h => h.concat answer) moves

/-! ## 4. The breaker, section after section -/

namespace Happening

variable (I)

/-- What a question leaves of the breaker. -/
def after (h : Happening) : BreakerState := h.asked.effect I.layer I.config h.now h.before

/-- Only the breaker changes the breaker. -/
theorem after_eq_answer (now : Instant) (env : (q : Query) → q.Answer) (s : BreakerState) (i : Nat)
    (q : Query) : (⟨i, ⟨q, (I.answer now env s q).1⟩, now, s⟩ : Happening).after I =
      (I.answer now env s q).2 := by
  cases q with
  | breaker layer part =>
    simp only [after, Asked.effect, answer]
    split <;> rfl
  | _ => rfl

/-- A section leaves what it leaves. -/
theorem after_eq_enter {h : Happening} {part : Section} (hq : h.asked.query = .breaker I.layer part) :
    h.after I = (h.before.enter I.config h.now part).2 := by
  obtain ⟨i, ⟨q, answer⟩, now, before⟩ := h
  cases hq
  exact if_pos rfl

/-- What is no question for the breaker leaves it alone. -/
theorem after_eq_before {h : Happening} (hq : ∀ part, h.asked.query ≠ .breaker I.layer part) :
    h.after I = h.before := by
  obtain ⟨i, ⟨q, answer⟩, now, before⟩ := h
  cases q with
  | breaker layer part => exact if_neg fun hl => hq part (congrArg (Query.breaker · part) hl)
  | _ => rfl

end Happening

variable (I) in
/-- The breaker goes from one state to another through the questions, one after another. -/
inductive Linked : BreakerState → List Happening → BreakerState → Prop
  | nil (s : BreakerState) : Linked s [] s
  | cons {h : Happening} {rest : List Happening} {t : BreakerState}
      (hr : Linked (h.after I) rest t) : Linked h.before (h :: rest) t

variable {s t u : BreakerState} {past future : List Happening} {h : Happening}

@[simp] theorem linked_nil_iff : Linked I s [] t ↔ t = s := by
  constructor
  · rintro ⟨⟩
    rfl
  · rintro rfl
    exact .nil _

@[simp] theorem linked_cons_iff :
    Linked I s (h :: future) t ↔ h.before = s ∧ Linked I (h.after I) future t := by
  constructor
  · intro hl
    cases hl with
    | cons hr => exact ⟨rfl, hr⟩
  · rintro ⟨rfl, hr⟩
    exact .cons hr

theorem linked_append_iff :
    Linked I s (past ++ future) t ↔ ∃ u, Linked I s past u ∧ Linked I u future t := by
  induction past generalizing s with
  | nil => simp
  | cons h past ih =>
    rw [List.cons_append, linked_cons_iff, ih]
    constructor
    · rintro ⟨hb, u, hp, hf⟩
      exact ⟨u, linked_cons_iff.mpr ⟨hb, hp⟩, hf⟩
    · rintro ⟨u, hp, hf⟩
      obtain ⟨hb, hp⟩ := linked_cons_iff.mp hp
      exact ⟨hb, u, hp, hf⟩

/-- **The breaker is what the questions made of it.** -/
theorem linked_run (hw : w.trace = []) (moves : List (Move ι)) :
    Linked I w.breaker (I.run w moves).trace (I.run w moves).breaker := by
  refine run_induction (P := fun v => Linked I w.breaker v.trace v.breaker) (by simp [hw]) ?_ moves
  intro v m v' hr ih
  cases hr with
  | begun source => exact ih
  | asked h =>
    refine linked_append_iff.mpr ⟨v.breaker, ih, linked_cons_iff.mpr ⟨rfl, ?_⟩⟩
    rw [Happening.after_eq_answer]
    exact .nil _
  | idle => exact ih

/-! ## 5. What was asked is what the strands asked -/

/-- Changing one element of a list to one that holds one thing more adds that thing. -/
theorem perm_flatMap_set {β γ : Type} {f : β → List γ} {l : List β} {b b' : β} {c : γ}
    (h : l[i]? = some b) (hf : f b' = f b ++ [c]) :
    ((l.set i b').flatMap f).Perm (l.flatMap f ++ [c]) := by
  induction l generalizing i with
  | nil => simp at h
  | cons x l ih =>
    cases i with
    | zero =>
      cases h
      simp only [List.set_cons_zero, List.flatMap_cons, hf, List.append_assoc]
      exact List.Perm.append_left _ List.perm_append_comm
    | succ i =>
      simp only [List.set_cons_succ, List.flatMap_cons, List.append_assoc]
      exact List.Perm.append_left _ (ih h)

/-- **What was asked is what the strands asked.** -/
theorem perm_logs (hw : w.strands = []) (ht : w.trace = []) (moves : List (Move ι)) :
    ((I.run w moves).strands.flatMap Strand.log).Perm
      ((I.run w moves).trace.map Happening.asked) := by
  refine run_induction (P := fun v => (v.strands.flatMap Strand.log).Perm (v.trace.map Happening.asked))
    (by simp [hw, ht]) ?_ moves
  intro v m v' hr ih
  cases hr with
  | begun source => simpa using ih
  | asked h =>
    rw [List.map_append]
    exact (perm_flatMap_set h rfl).trans (ih.append_right _)
  | idle => exact ih

/-- **Each strand asked its questions in its order.** -/
theorem sublist_trace (hw : w.strands = []) (moves : List (Move ι)) :
    ∀ s ∈ (I.run w moves).strands,
      List.Sublist s.log ((I.run w moves).trace.map Happening.asked) := by
  refine run_induction (P := fun v => ∀ s ∈ v.strands,
    List.Sublist s.log (v.trace.map Happening.asked)) (by simp [hw]) ?_ moves
  intro v m v' hr ih s hs
  cases hr with
  | begun source =>
    rcases List.mem_append.mp hs with hs | hs
    · exact ih s hs
    · rw [List.mem_singleton.mp hs]
      exact List.nil_sublist _
  | asked h =>
    rw [List.map_append]
    rcases List.mem_or_eq_of_mem_set hs with hs | rfl
    · exact (ih s hs).trans (List.sublist_append_left _ _)
    · exact (ih _ (List.mem_of_getElem? h)).append (List.Sublist.refl _)
  | idle => exact ih s hs

/-- **All that was asked are questions that the programs ask.** -/
theorem forall_asked {P : Query → Prop} (hP : ∀ source, (I.program source).Only P)
    (hw : w.strands = []) (ht : w.trace = []) (moves : List (Move ι)) :
    ∀ h ∈ (I.run w moves).trace, P h.asked.query := by
  intro h hh
  have hmem := (perm_logs hw ht moves).mem_iff.mpr (List.mem_map_of_mem hh)
  obtain ⟨s, hs, hlog⟩ := List.mem_flatMap.mp hmem
  exact (hP s.source).of_mem_leads (leads_run hw moves s hs) _ hlog

/-- What the observer hears of a question of its layer is the record, if it is one. -/
theorem attempts_hear {r : Recorder} {x : Asked}
    (h : ∀ i notice, x.query = .observe i notice → i = I.layer) :
    (I.hear r x.query).attempts = r.attempts ++ records [x] := by
  obtain ⟨q, answer⟩ := x
  cases q with
  | observe i notice =>
    rw [hear, if_pos (h i notice rfl)]
    cases notice with
    | attempt a => rfl
    | transition t => exact (List.append_nil _).symm
    | rejection c => exact (List.append_nil _).symm
  | _ => exact (List.append_nil _).symm

/-- **The observer holds the records that it was told**, in order. -/
theorem attempts_run (ht : w.trace = []) (moves : List (Move ι))
    (hI : ∀ h ∈ (I.run w moves).trace, ∀ i notice,
      h.asked.query = .observe i notice → i = I.layer) :
    (I.run w moves).recorder.attempts =
      w.recorder.attempts ++ records ((I.run w moves).trace.map Happening.asked) := by
  revert hI
  refine run_induction (P := fun v => (∀ h ∈ v.trace, ∀ i notice,
      h.asked.query = .observe i notice → i = I.layer) →
    v.recorder.attempts = w.recorder.attempts ++ records (v.trace.map Happening.asked))
    (by simp [ht]) ?_ moves
  intro v m v' hr ih hI
  cases hr with
  | begun source => exact ih hI
  | @asked i now env source log q next h =>
    have hlast := attempts_hear (I := I) (r := v.recorder) (x := ⟨q, (I.answer now env v.breaker q).1⟩)
      (hI _ (List.mem_append_right _ (List.mem_singleton_self _)))
    rw [List.map_append, records_append, ← List.append_assoc,
      ← ih fun x hx => hI x (List.mem_append_left _ hx)]
    exact hlast
  | idle => exact ih hI

/-! ## 6. Whose question, and whose answer -/

/-- **Each strand asked what stands under its number**, in that order, and every number is that of a
strand. -/
theorem log_eq_run (hw : w.strands = []) (ht : w.trace = []) (moves : List (Move ι)) :
    (∀ h ∈ (I.run w moves).trace, h.strand < (I.run w moves).strands.length) ∧
      ∀ i s, (I.run w moves).strands[i]? = some s →
        s.log = ((I.run w moves).trace.filter fun h => h.strand = i).map Happening.asked := by
  refine run_induction (P := fun v => (∀ h ∈ v.trace, h.strand < v.strands.length) ∧
    ∀ i s, v.strands[i]? = some s → s.log = (v.trace.filter fun h => h.strand = i).map Happening.asked)
    ⟨fun h hh => ?_, fun i s hs => ?_⟩ ?_ moves
  · rw [ht] at hh
    cases hh
  · rw [hw] at hs
    cases hs
  rintro v m v' hr ⟨hnumbers, hlogs⟩
  cases hr with
  | idle => exact ⟨hnumbers, hlogs⟩
  | begun source =>
    refine ⟨fun h hh => ?_, fun i s hs => ?_⟩
    · rw [List.length_append]
      exact Nat.lt_add_right _ (hnumbers h hh)
    · rw [List.getElem?_append] at hs
      split at hs
      · exact hlogs i s hs
      · -- nothing stands under the number of a strand that has just begun
        rename_i hlt
        have hnone : (v.trace.filter fun h => h.strand = i) = [] := by
          refine List.filter_eq_nil_iff.mpr fun h hh => ?_
          have := hnumbers h hh
          rw [decide_eq_true_eq]
          omega
        rw [hnone, List.mem_singleton.mp (List.mem_of_getElem? hs)]
        rfl
  | @asked i now env source log q next hi =>
    have hlt := (List.getElem?_eq_some_iff.mp hi).1
    refine ⟨fun h hh => ?_, fun j s hs => ?_⟩
    · rw [List.length_set]
      rcases List.mem_append.mp hh with hh | hh
      · exact hnumbers h hh
      · rw [List.mem_singleton.mp hh]
        exact hlt
    · rw [List.filter_append, List.map_append]
      rcases getElem?_set_cases hs with ⟨hji, hs⟩ | ⟨rfl, rfl⟩
      · rw [List.filter_cons_of_neg (by simpa using Ne.symm hji), List.filter_nil, List.map_nil,
          List.append_nil]
        exact hlogs j s hs
      · rw [List.filter_cons_of_pos (by simp)]
        exact congrArg (· ++ _) (hlogs j _ hi)

/-- **What the breaker of the layer is asked, it answers.** -/
theorem answered_run (ht : w.trace = []) (moves : List (Move ι)) :
    ∀ h ∈ (I.run w moves).trace, ∀ part, h.asked.query = .breaker I.layer part →
      h.asked = ⟨.breaker I.layer part, (h.before.enter I.config h.now part).1⟩ := by
  refine run_induction (P := fun v => ∀ h ∈ v.trace, ∀ part, h.asked.query = .breaker I.layer part →
    h.asked = ⟨.breaker I.layer part, (h.before.enter I.config h.now part).1⟩) (by simp [ht]) ?_ moves
  intro v m v' hr ih
  cases hr with
  | idle => exact ih
  | begun source => exact ih
  | asked hi =>
    intro h hh part hq
    rcases List.mem_append.mp hh with hh | hh
    · exact ih h hh part hq
    · cases List.mem_singleton.mp hh
      cases hq
      rw [answer, if_pos rfl]

/-- **The observer holds what it was told.** -/
theorem recorder_run (ht : w.trace = []) (moves : List (Move ι)) :
    (I.run w moves).recorder =
      ((I.run w moves).trace.map Happening.asked).foldl (fun r x => I.hear r x.query) w.recorder := by
  refine run_induction (P := fun v => v.recorder =
    (v.trace.map Happening.asked).foldl (fun r x => I.hear r x.query) w.recorder) (by simp [ht]) ?_ moves
  intro v m v' hr ih
  cases hr with
  | idle => exact ih
  | begun source => exact ih
  | asked hi =>
    rw [List.map_append, List.foldl_append, ← ih]
    rfl

end Interleaving

end Resilience
