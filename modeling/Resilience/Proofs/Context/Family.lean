/-
# Families of contexts

Contexts are made from one another, share tokens or have tokens of their own, and are cancelled in any
order while time passes.  This file follows all contexts that a run of calls makes.

* `ContextCall`, `Family.step`, `Family.run`: the calls, and what they make of the world.  Beside the
  contexts a family keeps what the calls say and the contexts do not: from which member each was derived,
  and the tree of the tokens.
* `Family.Under`, `Family.Derived`: to be on a token or below it, and to be derived through any chain.
* `Family.Resolves`: a wait for the end of a context, poll by poll.
* `Way.isSuffix_iff`: a token is named by its way up the tree, so to lie below another one is to end with
  its name.
* `Family.Sound`: **the invariant**, kept by everything that a call can do (`Family.Turn`).
* `Family.Grows`: what no call takes back.
* `Family.lawful_of_calls`: the laws of deriving and cancelling, after every run of calls.
-/
import Resilience.Proofs.Program.Timed
import Resilience.Simulation.Run

namespace Resilience

/-! ## 1. Deadlines -/

namespace Context

variable {c d e : Context}

/-- The context has the deadline of the other one or an earlier one; to have none is to have one
infinitely late. -/
def NoLater (c other : Context) : Prop :=
  ∀ t, other.deadline = some t → ∃ t', c.deadline = some t' ∧ t' ≤ t

theorem NoLater.refl (c : Context) : c.NoLater c := fun t h => ⟨t, h, Nat.le_refl _⟩

theorem NoLater.trans (h : c.NoLater d) (hd : d.NoLater e) : c.NoLater e := by
  intro t ht
  obtain ⟨u, hu, hut⟩ := hd t ht
  obtain ⟨v, hv, hvu⟩ := h u hu
  exact ⟨v, hv, Nat.le_trans hvu hut⟩

/-- The earlier deadline is kept. -/
theorem noLater_withDeadline (c : Context) (t : Instant) : (c.withDeadline t).NoLater c := by
  intro u hu
  refine ⟨min u t, ?_, ?_⟩
  · simp only [withDeadline, hu]
  · change (if u ≤ t then u else t) ≤ u
    split
    · exact Nat.le_refl _
    · rename_i h
      exact Nat.le_of_not_le h

theorem noLater_withTimeout (c : Context) (now : Instant) (timeout : Duration) :
    (c.withTimeout now timeout).NoLater c := by
  unfold withTimeout
  split
  · exact noLater_withDeadline c _
  · exact NoLater.refl c

/-- A context that is on the token of another one or below it, and no later, is over with it. -/
theorem NoLater.ended {tokens : Tokens} {now : Instant} (h : c.NoLater d)
    (ht : d.token.path <:+ c.token.path) (hd : d.ended? tokens now ≠ none) :
    c.ended? tokens now ≠ none := by
  rw [ended?_ne_none_iff] at hd ⊢
  rcases hd with hd | ⟨t, hd, hle⟩
  · obtain ⟨a, ha, had⟩ := Tokens.isCancelled_iff.mp hd
    exact Or.inl (Tokens.isCancelled_iff.mpr ⟨a, ha, had.trans ht⟩)
  · obtain ⟨u, hu, hut⟩ := h t hd
    exact Or.inr ⟨u, hu, Nat.le_trans hut hle⟩

end Context

/-! ## 2. Trees of tokens -/

/-- The token `n` of a tree is `a` or descends from it.  The tree is given by the parent of each token. -/
inductive Descends (parents : List (Option Nat)) : Nat → Nat → Prop
  | own (n : Nat) : Descends parents n n
  | up {n p a : Nat} (h : parents[n]? = some (some p)) (rest : Descends parents p a) :
      Descends parents n a

/-- The tokens on the way from `n` up to the topmost one. -/
inductive Way (parents : List (Option Nat)) : Nat → List Nat → Prop
  | top {n : Nat} (h : parents[n]? = some none) : Way parents n [n]
  | under {n p : Nat} {way : List Nat} (h : parents[n]? = some (some p)) (rest : Way parents p way) :
      Way parents n (n :: way)

namespace Way

variable {parents : List (Option Nat)} {n a : Nat} {way other : List Nat}

theorem head (h : Way parents n way) : way.head? = some n := by
  cases h <;> rfl

theorem unique (h : Way parents n way) (hother : Way parents n other) : way = other := by
  induction h generalizing other with
  | top h =>
    cases hother with
    | top => rfl
    | under h' => rw [h] at h'; cases h'
  | under h rest ih =>
    cases hother with
    | top h' => rw [h] at h'; cases h'
    | under h' rest' =>
      rw [h] at h'
      cases h'
      rw [ih rest']

/-- New tokens do not change the way. -/
theorem append (h : Way parents n way) (more : List (Option Nat)) : Way (parents ++ more) n way := by
  have hkept : ∀ {n : Nat} {p : Option Nat}, parents[n]? = some p → (parents ++ more)[n]? = some p := by
    intro n p h
    rw [List.getElem?_append_left (List.getElem?_eq_some_iff.mp h).1, h]
  induction h with
  | top h => exact .top (hkept h)
  | under h rest ih => exact .under (hkept h) ih

/-- A token whose way is at the end of that of another one is the other one or above it, ... -/
theorem descends_of_isSuffix (h : Way parents n way) (ha : Way parents a other)
    (hsuffix : other <:+ way) : Descends parents n a := by
  have hhead := ha.head
  induction h with
  | top h =>
    rcases List.suffix_cons_iff.mp hsuffix with rfl | hnil
    · cases hhead
      exact .own _
    · rw [List.suffix_nil.mp hnil] at hhead
      cases hhead
  | under h rest ih =>
    rcases List.suffix_cons_iff.mp hsuffix with rfl | hrest
    · cases hhead
      exact .own _
    · exact .up h (ih hrest)

/-- ... and the other way round. -/
theorem isSuffix_of_descends (hdescends : Descends parents n a) (h : Way parents n way)
    (ha : Way parents a other) : other <:+ way := by
  induction hdescends generalizing way with
  | own =>
    obtain rfl := h.unique ha
    exact List.suffix_refl _
  | up hp rest ih =>
    cases h with
    | top h' => rw [hp] at h'; cases h'
    | under h' hway =>
      rw [hp] at h'
      cases h'
      exact (ih hway ha).trans (List.suffix_cons _ _)

/-- **To descend from a token is to have its way at the end of one's own.** -/
theorem isSuffix_iff (h : Way parents n way) (ha : Way parents a other) :
    other <:+ way ↔ Descends parents n a :=
  ⟨h.descends_of_isSuffix ha, fun hdescends => isSuffix_of_descends hdescends h ha⟩

end Way

/-! ## 3. The world -/

namespace World

variable {w : World}

/-- Where nothing is to be cancelled later, time passes and that is all. -/
theorem advance_of_quiet (hp : w.plans = []) (ha : w.alarms = []) (d : Duration) :
    (w.advance d).tokens = w.tokens ∧ w.now ≤ (w.advance d).now ∧ (w.advance d).plans = [] ∧
      (w.advance d).alarms = [] := by
  have hring : w.ring w.now = w := by
    cases w
    cases ha
    rfl
  simp only [advance, hring]
  cases ht : w.now.after? d with
  | none => exact ⟨rfl, Nat.le_refl _, hp, ha⟩
  | some t =>
    refine ⟨rfl, ?_, rfl, ?_⟩
    · have hnanos := Instant.nanos_of_after? ht
      exact Instant.le_iff.mpr (hnanos ▸ Nat.le_add_right _ _)
    · simp only [startAlarms, hp, ha, List.map_nil, List.append_nil]

/-- **A wait for the end of a context is over when the context is**, for the reason that it tells.  The
induction is on the moves of the time; the last look is at the timer, which has come to its instant. -/
theorem ended?_of_awaitFor {c : Context} {fuel : Nat} {reason : ContextEnd}
    (h : (w.awaitFor c fuel).1 = some reason) : (w.awaitFor c fuel).2.ended? c = some reason := by
  induction fuel generalizing w with
  | zero => exact Context.ended?_of_fired? h
  | succ fuel ih =>
    unfold awaitFor at h ⊢
    cases hfired : w.fired? c with
    | some found =>
      simp only [hfired] at h ⊢
      exact Context.ended?_of_fired? (hfired.trans h)
    | none =>
      simp only [hfired] at h ⊢
      split at h
      · cases h
      · exact ih h

end World

/-! ## 4. Families -/

/-- Where the token for a new context comes from.  A token that no context holds is as good as that of a
context that nobody uses. -/
inductive TokenSource where
  | fresh
  /-- The token of a member. -/
  | of (i : Nat)
  /-- A new token below the one of a member. -/
  | below (i : Nat)

/-- A call that makes a context, cancels one, or lets time pass.  Contexts are numbered in the order in
which they are made. -/
inductive ContextCall where
  | background
  | withCancellation (source : TokenSource)
  | clone (i : Nat)
  | child (i : Nat)
  | withTimeout (i : Nat) (timeout : Duration)
  | withDeadline (i : Nat) (t : Instant)
  | cancel (i : Nat)
  | advance (d : Duration)

/-- A context and where it comes from. -/
structure Member where
  context : Context
  /-- The member that the context was derived from. -/
  source : Option Nat
  /-- The token of the context in the tree. -/
  node : Nat

/-- The contexts that a run of calls has made, in the world that it has left. -/
structure Family where
  world : World := {}
  members : List Member := []
  /-- The tree of the tokens: the parent of each, in the order in which they were made. -/
  parents : List (Option Nat) := []
  /-- The members that were cancelled. -/
  cancelled : List Nat := []

namespace Family

/-- Makes a context on a new topmost token. -/
def root (f : Family) : Family :=
  let (context, world) := f.world.background
  { f with
    world
    members := f.members ++ [{ context, source := none, node := f.parents.length }]
    parents := f.parents ++ [none] }

/-- Takes up a context on the token of a member. -/
def hold (f : Family) (m : Member) (context : Context) (source : Option Nat) : Family :=
  { f with members := f.members ++ [{ context, source, node := m.node }] }

/-- Makes a context below one on the token of a member. -/
def branch (f : Family) (m : Member) (context : Context) (source : Option Nat) : Family :=
  let (context, world) := f.world.childContext context
  { f with
    world
    members := f.members ++ [{ context, source, node := f.parents.length }]
    parents := f.parents ++ [some m.node] }

/-- Cancels a member. -/
def cancelAt (f : Family) (i : Nat) (m : Member) : Family :=
  { f with world := f.world.cancel m.context.token, cancelled := i :: f.cancelled }

/-- Lets time pass. -/
def pass (f : Family) (d : Duration) : Family := { f with world := f.world.advance d }

/-- What is made of a family by way of one of its members; nothing if there is no such member. -/
def through (f : Family) (i : Nat) (make : Member → Family) : Family :=
  match f.members[i]? with
  | some m => make m
  | none => f

/-- **What a call makes of a family.** -/
def step (f : Family) : ContextCall → Family
  | .background => f.root
  | .withCancellation .fresh => f.root
  | .withCancellation (.of i) => f.through i fun m => f.hold m { token := m.context.token } none
  | .withCancellation (.below i) => f.through i fun m => f.branch m { token := m.context.token } none
  | .clone i => f.through i fun m => f.hold m m.context (some i)
  | .child i => f.through i fun m => f.branch m m.context (some i)
  | .withTimeout i d => f.through i fun m => f.hold m (m.context.withTimeout f.world.now d) (some i)
  | .withDeadline i t => f.through i fun m => f.hold m (m.context.withDeadline t) (some i)
  | .cancel i => f.through i fun m => f.cancelAt i m
  | .advance d => f.pass d

/-- What a run of calls makes of a family. -/
def run (f : Family) (calls : List ContextCall) : Family := calls.foldl step f

/-- Why a member is over, if it is. -/
def ended? (f : Family) (i : Nat) : Option ContextEnd :=
  f.members[i]?.bind fun m => f.world.ended? m.context

/-- What a poll of a wait for the end of a member finds: a cancellation, or else the timer of the
deadline. -/
def poll? (f : Family) (i : Nat) : Option ContextEnd :=
  f.members[i]?.bind fun m => f.world.fired? m.context

/-- **A wait for the end of a member, poll by poll.**  Between two polls any calls are made. -/
inductive Resolves (i : Nat) : Family → ContextEnd → Family → Prop
  | ready {f : Family} {reason : ContextEnd} (h : f.poll? i = some reason) : Resolves i f reason f
  | pending {f f' : Family} {reason : ContextEnd} (h : f.poll? i = none) (calls : List ContextCall)
      (rest : Resolves i (f.run calls) reason f') : Resolves i f reason f'

/-- The member `j` is on the token of the member `i` or on one that descends from it. -/
def Under (f : Family) (j i : Nat) : Prop :=
  ∃ m s, f.members[j]? = some m ∧ f.members[i]? = some s ∧ Descends f.parents m.node s.node

/-- The member `j` is derived from the member `i`, directly or through others. -/
inductive Derived (f : Family) : Nat → Nat → Prop
  | direct {j i : Nat} {m : Member} (h : f.members[j]? = some m) (hs : m.source = some i) :
      Derived f j i
  | chain {j k i : Nat} {m : Member} (h : f.members[j]? = some m) (hs : m.source = some k)
      (rest : Derived f k i) : Derived f j i

variable {f f' g : Family} {i j k : Nat} {m s : Member}

/-! ## 5. What a call can do -/

/-- What a call can make of a family. -/
inductive Turn (f : Family) : Family → Prop
  | nothing : Turn f f
  | root : Turn f f.root
  /-- A context on the token of a member: no later than it, or not derived from it. -/
  | hold {i : Nat} {m : Member} {c : Context} {source : Option Nat} (hm : f.members[i]? = some m)
      (ht : c.token = m.context.token) (hs : source = none ∨ source = some i ∧ c.NoLater m.context) :
      Turn f (f.hold m c source)
  | branch {i : Nat} {m : Member} {c : Context} {source : Option Nat} (hm : f.members[i]? = some m)
      (ht : c.token = m.context.token) (hs : source = none ∨ source = some i ∧ c.NoLater m.context) :
      Turn f (f.branch m c source)
  | cancel {i : Nat} {m : Member} (hm : f.members[i]? = some m) : Turn f (f.cancelAt i m)
  | pass (d : Duration) : Turn f (f.pass d)

theorem turn_through {make : Member → Family}
    (h : ∀ m, f.members[i]? = some m → Turn f (make m)) : Turn f (f.through i make) := by
  unfold through
  split
  · rename_i m hm
    exact h m hm
  · exact .nothing

theorem turn_step (f : Family) (call : ContextCall) : Turn f (f.step call) := by
  cases call with
  | background => exact .root
  | withCancellation source =>
    cases source with
    | fresh => exact .root
    | of i => exact turn_through fun m hm => .hold hm rfl (Or.inl rfl)
    | below i => exact turn_through fun m hm => .branch hm rfl (Or.inl rfl)
  | clone i => exact turn_through fun m hm => .hold hm rfl (Or.inr ⟨rfl, .refl _⟩)
  | child i => exact turn_through fun m hm => .branch hm rfl (Or.inr ⟨rfl, .refl _⟩)
  | withTimeout i d =>
    exact turn_through fun m hm => .hold hm (Context.token_withTimeout ..)
      (Or.inr ⟨rfl, Context.noLater_withTimeout _ _ _⟩)
  | withDeadline i t =>
    exact turn_through fun m hm => .hold hm (Context.token_withDeadline ..)
      (Or.inr ⟨rfl, Context.noLater_withDeadline _ _⟩)
  | cancel i => exact turn_through fun m hm => .cancel hm
  | advance d => exact .pass d

/-! ## 6. The invariant -/

/-- The member is no later than its source, and on its token or below it. -/
def Bound (f : Family) (m : Member) : Prop :=
  ∀ k, m.source = some k →
    ∃ s, f.members[k]? = some s ∧ m.context.NoLater s.context ∧
      s.context.token.path <:+ m.context.token.path

/-- **The invariant of families.** -/
structure Sound (f : Family) : Prop where
  /-- The tokens of the world are those of the tree. -/
  made_eq : f.world.tokens.made = f.parents.length
  /-- A token is named by its way up the tree. -/
  way : ∀ m ∈ f.members, Way f.parents m.node m.context.token.path
  bound : ∀ m ∈ f.members, f.Bound m
  /-- The tokens that were cancelled are those of the cancelled members. -/
  token_of_cancelled : ∀ i ∈ f.cancelled, ∃ m, f.members[i]? = some m ∧
    m.context.token ∈ f.world.tokens.cancelled
  cancelled_of_token : ∀ t ∈ f.world.tokens.cancelled, ∃ i ∈ f.cancelled, ∃ m,
    f.members[i]? = some m ∧ m.context.token = t
  /-- Nothing is to be cancelled later. -/
  noPlans : f.world.plans = []
  noAlarms : f.world.alarms = []

/-- What no call takes back. -/
structure Grows (f f' : Family) : Prop where
  members : ∀ (i : Nat) (m : Member), f.members[i]? = some m → f'.members[i]? = some m
  cancelled : ∀ t ∈ f.world.tokens.cancelled, t ∈ f'.world.tokens.cancelled
  now : f.world.now ≤ f'.world.now

theorem Grows.refl (f : Family) : f.Grows f := ⟨fun _ _ h => h, fun _ h => h, Nat.le_refl _⟩

theorem Grows.trans (h : f.Grows f') (h' : f'.Grows g) : f.Grows g where
  members i m hm := h'.members i m (h.members i m hm)
  cancelled t ht := h'.cancelled t (h.cancelled t ht)
  now := Nat.le_trans h.now h'.now

theorem Bound.of_grows (h : f.Bound m) (hf : f.Grows f') : f'.Bound m := by
  intro k hk
  obtain ⟨s, hs, hrest⟩ := h k hk
  exact ⟨s, hf.members k s hs, hrest⟩

/-- The family with one more member, and with these more tokens in the tree. -/
def add (f : Family) (more : List (Option Nat)) (m : Member) : Family :=
  { f with
    world := { f.world with tokens := { f.world.tokens with made := f.world.tokens.made + more.length } }
    members := f.members ++ [m]
    parents := f.parents ++ more }

theorem hold_eq_add (m : Member) (c : Context) (source : Option Nat) :
    f.hold m c source = f.add [] ⟨c, source, m.node⟩ := by
  simp only [hold, add, List.append_nil, List.length_nil, Nat.add_zero]

theorem grows_add (more : List (Option Nat)) (m : Member) : f.Grows (f.add more m) where
  members i n hn := by
    change (f.members ++ [m])[i]? = some n
    rw [List.getElem?_append_left (List.getElem?_eq_some_iff.mp hn).1, hn]
  cancelled t ht := ht
  now := Nat.le_refl _

/-- A new member whose token is named by its way keeps the invariant. -/
theorem Sound.of_add (h : f.Sound) (more : List (Option Nat)) (m : Member)
    (hway : Way (f.parents ++ more) m.node m.context.token.path) (hbound : f.Bound m) :
    (f.add more m).Sound where
  made_eq := by
    change f.world.tokens.made + more.length = (f.parents ++ more).length
    rw [h.made_eq, List.length_append]
  way n hn := by
    rcases List.mem_append.mp hn with hn | hn
    · exact (h.way n hn).append more
    · rw [List.mem_singleton.mp hn]
      exact hway
  bound n hn := by
    rcases List.mem_append.mp hn with hn | hn
    · exact (h.bound n hn).of_grows (grows_add more m)
    · rw [List.mem_singleton.mp hn]
      exact hbound.of_grows (grows_add more m)
  token_of_cancelled i hi := by
    obtain ⟨n, hn, ht⟩ := h.token_of_cancelled i hi
    exact ⟨n, (grows_add more m).members i n hn, ht⟩
  cancelled_of_token t ht := by
    obtain ⟨i, hi, n, hn, ht⟩ := h.cancelled_of_token t ht
    exact ⟨i, hi, n, (grows_add more m).members i n hn, ht⟩
  noPlans := h.noPlans
  noAlarms := h.noAlarms

theorem grows_cancelAt (i : Nat) (m : Member) : f.Grows (f.cancelAt i m) where
  members _ _ hn := hn
  cancelled _ ht := List.mem_cons_of_mem _ ht
  now := Nat.le_refl _

/-- Cancelling a member keeps the invariant. -/
theorem Sound.of_cancel (h : f.Sound) (hm : f.members[i]? = some m) : (f.cancelAt i m).Sound where
  made_eq := h.made_eq
  way := h.way
  bound n hn := (h.bound n hn).of_grows (grows_cancelAt i m)
  token_of_cancelled j hj := by
    rcases List.mem_cons.mp hj with rfl | hj
    · exact ⟨m, hm, List.mem_cons_self⟩
    · obtain ⟨n, hn, ht⟩ := h.token_of_cancelled j hj
      exact ⟨n, hn, List.mem_cons_of_mem _ ht⟩
  cancelled_of_token t ht := by
    rcases List.mem_cons.mp ht with rfl | ht
    · exact ⟨i, List.mem_cons_self, m, hm, rfl⟩
    · obtain ⟨j, hj, hn⟩ := h.cancelled_of_token t ht
      exact ⟨j, List.mem_cons_of_mem _ hj, hn⟩
  noPlans := h.noPlans
  noAlarms := h.noAlarms

/-- So does a change of the world that leaves the tokens alone. -/
theorem Sound.of_world (h : f.Sound) {w : World} (ht : w.tokens = f.world.tokens) (hp : w.plans = [])
    (ha : w.alarms = []) : ({ f with world := w } : Family).Sound where
  made_eq := ht ▸ h.made_eq
  way := h.way
  bound := h.bound
  token_of_cancelled := ht ▸ h.token_of_cancelled
  cancelled_of_token := ht ▸ h.cancelled_of_token
  noPlans := hp
  noAlarms := ha

/-- **One call** keeps the invariant and takes nothing back. -/
theorem Sound.turn (h : f.Sound) (hturn : Turn f f') : f'.Sound ∧ f.Grows f' := by
  cases hturn with
  | nothing => exact ⟨h, .refl f⟩
  | root =>
    refine ⟨h.of_add [none] ⟨⟨⟨[f.world.tokens.made]⟩, none⟩, none, f.parents.length⟩ ?_ ?_,
      grows_add [none] _⟩
    · rw [h.made_eq]
      exact .top (List.getElem?_concat_length ..)
    · rintro k ⟨⟩
  | @hold i m c source hm ht hs =>
    rw [hold_eq_add]
    refine ⟨h.of_add [] _ ?_ ?_, grows_add [] _⟩
    · rw [List.append_nil, ht]
      exact h.way m (List.mem_of_getElem? hm)
    · rintro k hk
      rcases hs with rfl | ⟨rfl, hlater⟩
      · cases hk
      · cases hk
        exact ⟨m, hm, hlater, ht ▸ List.suffix_refl _⟩
  | @branch i m c source hm ht hs =>
    refine ⟨h.of_add [some m.node]
      ⟨{ c with token := ⟨f.world.tokens.made :: c.token.path⟩ }, source, f.parents.length⟩ ?_ ?_,
      grows_add [some m.node] _⟩
    · rw [h.made_eq, ht]
      exact .under (List.getElem?_concat_length ..) ((h.way m (List.mem_of_getElem? hm)).append _)
    · rintro k hk
      rcases hs with rfl | ⟨rfl, hlater⟩
      · cases hk
      · cases hk
        exact ⟨m, hm, hlater, ht ▸ List.suffix_cons _ _⟩
  | @cancel i m hm => exact ⟨h.of_cancel hm, grows_cancelAt i m⟩
  | pass d =>
    obtain ⟨htokens, hnow, hplans, halarms⟩ := World.advance_of_quiet h.noPlans h.noAlarms d
    exact ⟨h.of_world htokens hplans halarms, fun _ _ h => h, fun t ht => htokens.symm ▸ ht, hnow⟩

/-- **Every run of calls** keeps the invariant and takes nothing back. -/
theorem Sound.run (h : f.Sound) (calls : List ContextCall) : (f.run calls).Sound ∧ f.Grows (f.run calls) := by
  induction calls generalizing f with
  | nil => exact ⟨h, .refl f⟩
  | cons call calls ih =>
    obtain ⟨hsound, hgrows⟩ := h.turn (turn_step f call)
    obtain ⟨hend, hrest⟩ := ih hsound
    exact ⟨hend, hgrows.trans hrest⟩

theorem sound_start : ({} : Family).Sound where
  made_eq := rfl
  way := nofun
  bound := nofun
  token_of_cancelled := nofun
  cancelled_of_token := nofun
  noPlans := rfl
  noAlarms := rfl

/-! ## 7. The end of a member -/

theorem ended?_eq (hm : f.members[i]? = some m) :
    f.ended? i = m.context.ended? f.world.tokens f.world.now := by
  simp only [ended?, hm, Option.bind_some, World.ended?]

theorem exists_of_ended? (h : f.ended? i ≠ none) : ∃ m, f.members[i]? = some m := by
  cases hm : f.members[i]? with
  | some m => exact ⟨m, rfl⟩
  | none => exact absurd (by simp only [ended?, hm, Option.bind_none]) h

/-- **To be on a token or below it is to end with its name.** -/
theorem Sound.isSuffix_iff (h : f.Sound) (hj : f.members[j]? = some m) (hi : f.members[i]? = some s) :
    s.context.token.path <:+ m.context.token.path ↔ f.Under j i := by
  rw [(h.way m (List.mem_of_getElem? hj)).isSuffix_iff (h.way s (List.mem_of_getElem? hi))]
  constructor
  · exact fun hd => ⟨m, s, hj, hi, hd⟩
  · rintro ⟨m', s', hj', hi', hd⟩
    cases hj.symm.trans hj'
    cases hi.symm.trans hi'
    exact hd

/-- **Cancelled are the members on a token that was cancelled or below it**, and no others. -/
theorem Sound.ended?_eq_cancelled_iff (h : f.Sound) (j : Nat) :
    f.ended? j = some .cancelled ↔ ∃ i ∈ f.cancelled, f.Under j i := by
  constructor
  · intro hj
    obtain ⟨m, hm⟩ := exists_of_ended? (hj ▸ Option.some_ne_none _)
    rw [ended?_eq hm, Context.ended?_eq_cancelled_iff, Tokens.isCancelled_iff] at hj
    obtain ⟨a, ha, hsuffix⟩ := hj
    obtain ⟨i, hi, s, hs, rfl⟩ := h.cancelled_of_token a ha
    exact ⟨i, hi, (h.isSuffix_iff hm hs).mp hsuffix⟩
  · rintro ⟨i, hi, hunder⟩
    obtain ⟨m, s, hm, hs, -⟩ := id hunder
    obtain ⟨s', hs', ht⟩ := h.token_of_cancelled i hi
    cases hs.symm.trans hs'
    rw [ended?_eq hm, Context.ended?_eq_cancelled_iff, Tokens.isCancelled_iff]
    exact ⟨_, ht, (h.isSuffix_iff hm hs).mpr hunder⟩

theorem step_cancel (hi : f.members[i]? = some s) : f.step (.cancel i) = f.cancelAt i s := by
  simp only [step, through, hi]

/-- **Cancelling a member** cancels those on its token or below it; ... -/
theorem Sound.ended?_cancel_iff (h : f.Sound) (hi : f.members[i]? = some s) (j : Nat) :
    (f.step (.cancel i)).ended? j = some .cancelled ↔ f.ended? j = some .cancelled ∨ f.Under j i := by
  rw [step_cancel hi]
  cases hj : f.members[j]? with
  | none =>
    have hnone : ∀ f' : Family, f'.members = f.members → f'.ended? j = none := by
      intro f' hf'
      simp only [ended?, hf', hj, Option.bind_none]
    rw [hnone f rfl, hnone (f.cancelAt i s) rfl]
    refine ⟨nofun, ?_⟩
    rintro (⟨⟨⟩⟩ | ⟨m, s', hm, -⟩)
    rw [hj] at hm
    cases hm
  | some m =>
    rw [ended?_eq hj, ended?_eq (f := f.cancelAt i s) hj, Context.ended?_eq_cancelled_iff,
      Context.ended?_eq_cancelled_iff, ← h.isSuffix_iff hj hi]
    exact Tokens.isCancelled_cancel_iff.trans Or.comm

/-- ... the others do not notice. -/
theorem Sound.ended?_cancel_of_not_under (h : f.Sound) (hunder : ¬ f.Under j i) :
    (f.step (.cancel i)).ended? j = f.ended? j := by
  cases hi : f.members[i]? with
  | none => simp only [step, through, hi]
  | some s =>
    rw [step_cancel hi]
    cases hj : f.members[j]? with
    | none => simp only [ended?, cancelAt, hj, Option.bind_none]
    | some m =>
      have hsame : (f.world.tokens.cancel s.context.token).isCancelled m.context.token =
          f.world.tokens.isCancelled m.context.token := by
        rw [Bool.eq_iff_iff, Tokens.isCancelled_cancel_iff, h.isSuffix_iff hj hi, or_iff_right hunder]
      rw [ended?_eq hj, ended?_eq (f := f.cancelAt i s) hj]
      unfold Context.ended?
      change (if (f.world.tokens.cancel s.context.token).isCancelled m.context.token then _ else _) = _
      rw [hsame]
      rfl

/-- A derived member is no later than what it is derived from, and on its token or below it. -/
theorem Sound.derived (h : f.Sound) (hd : f.Derived j i) :
    ∃ m s, f.members[j]? = some m ∧ f.members[i]? = some s ∧ m.context.NoLater s.context ∧
      s.context.token.path <:+ m.context.token.path := by
  induction hd with
  | @direct j i m hm hs =>
    obtain ⟨s, hi, hlater, hsuffix⟩ := h.bound m (List.mem_of_getElem? hm) i hs
    exact ⟨m, s, hm, hi, hlater, hsuffix⟩
  | @chain j k i m hm hs rest ih =>
    obtain ⟨n, hk, hlater, hsuffix⟩ := h.bound m (List.mem_of_getElem? hm) k hs
    obtain ⟨n', s, hk', hi, hlater', hsuffix'⟩ := ih
    cases hk.symm.trans hk'
    exact ⟨m, s, hm, hi, hlater.trans hlater', hsuffix'.trans hsuffix⟩

/-- **A derived member is over with what it is derived from.** -/
theorem Sound.ended_of_derived (h : f.Sound) (hd : f.Derived j i) (hi : f.ended? i ≠ none) :
    f.ended? j ≠ none := by
  obtain ⟨m, s, hm, hs, hlater, hsuffix⟩ := h.derived hd
  rw [ended?_eq hs] at hi
  rw [ended?_eq hm]
  exact hlater.ended hsuffix hi

/-- What is over stays over, ... -/
theorem Grows.ended (h : f.Grows f') (hi : f.ended? i ≠ none) : f'.ended? i ≠ none := by
  obtain ⟨m, hm⟩ := exists_of_ended? hi
  rw [ended?_eq hm, Context.ended?_ne_none_iff, Tokens.isCancelled_iff] at hi
  rw [ended?_eq (h.members i m hm), Context.ended?_ne_none_iff, Tokens.isCancelled_iff]
  rcases hi with ⟨a, ha, hsuffix⟩ | ⟨t, ht, hle⟩
  · exact Or.inl ⟨a, h.cancelled a ha, hsuffix⟩
  · exact Or.inr ⟨t, ht, Nat.le_trans hle h.now⟩

/-- ... and what is cancelled stays cancelled. -/
theorem Grows.ended?_eq_cancelled (h : f.Grows f') (hi : f.ended? i = some .cancelled) :
    f'.ended? i = some .cancelled := by
  obtain ⟨m, hm⟩ := exists_of_ended? (hi ▸ Option.some_ne_none _)
  rw [ended?_eq hm, Context.ended?_eq_cancelled_iff, Tokens.isCancelled_iff] at hi
  rw [ended?_eq (h.members i m hm), Context.ended?_eq_cancelled_iff, Tokens.isCancelled_iff]
  obtain ⟨a, ha, hsuffix⟩ := hi
  exact ⟨a, h.cancelled a ha, hsuffix⟩

/-- **A wait that is over tells what a look at the member tells then.** -/
theorem Resolves.ended {reason : ContextEnd} (h : Resolves i f reason f') : f'.ended? i = some reason := by
  induction h with
  | @ready f reason h =>
    obtain ⟨m, hm, hfired⟩ := Option.bind_eq_some_iff.mp h
    rw [ended?_eq hm]
    exact Context.ended?_of_fired? hfired
  | pending h calls rest ih => exact ih

/-! ## 8. The laws -/

/-- A timeout up to what is no instant is no other call than taking up the context as it is. -/
theorem step_withTimeout_of_limit_le {d : Duration}
    (h : Instant.limit ≤ f.world.now.sinceOrigin.nanos + d.nanos) :
    f.step (.withTimeout i d) = f.step (.clone i) := by
  have hnone : f.world.now.after? d = none := dif_neg (Nat.not_lt.mpr h)
  simp only [step, Context.withTimeout, hnone]

/-- **The laws of deriving and cancelling**, at one moment. -/
structure Lawful (f : Family) : Prop where
  /-- What is derived has the deadline of its source or an earlier one. -/
  noLater : ∀ j i, f.Derived j i → ∃ m s, f.members[j]? = some m ∧ f.members[i]? = some s ∧
    m.context.NoLater s.context
  /-- A timeout up to what is no instant changes nothing. -/
  noInstant : ∀ i d, Instant.limit ≤ f.world.now.sinceOrigin.nanos + d.nanos →
    f.step (.withTimeout i d) = f.step (.clone i)
  /-- Cancelled are the members on the token of one that was cancelled, or below it. -/
  cancelled_iff : ∀ j, f.ended? j = some .cancelled ↔ ∃ i ∈ f.cancelled, f.Under j i
  /-- Cancelling a member cancels those on its token or below it, ... -/
  cancel_iff : ∀ j, ∀ i < f.members.length, (f.step (.cancel i)).ended? j = some .cancelled ↔
    f.ended? j = some .cancelled ∨ f.Under j i
  /-- ... and changes nothing for the others. -/
  cancel_others : ∀ j i, ¬ f.Under j i → (f.step (.cancel i)).ended? j = f.ended? j
  /-- What is derived from a context that is over is over. -/
  over_of_derived : ∀ j i, f.Derived j i → f.ended? i ≠ none → f.ended? j ≠ none
  /-- What is over stays over, and what is cancelled stays cancelled, whatever is called next. -/
  stays_over : ∀ calls i, f.ended? i ≠ none → (f.run calls).ended? i ≠ none
  stays_cancelled : ∀ calls i, f.ended? i = some .cancelled →
    (f.run calls).ended? i = some .cancelled
  /-- A wait that is over tells what a look at the context tells at that instant. -/
  resolved : ∀ i reason f', Resolves i f reason f' → f'.ended? i = some reason
  /-- The same for a wait with nothing else going on. -/
  awaited : ∀ (i : Nat) (m : Member) (reason : ContextEnd), f.members[i]? = some m →
    (f.world.await m.context).1 = some reason →
      (f.world.await m.context).2.ended? m.context = some reason

theorem Sound.lawful (h : f.Sound) : f.Lawful where
  noLater j i hd := by
    obtain ⟨m, s, hm, hs, hlater, -⟩ := h.derived hd
    exact ⟨m, s, hm, hs, hlater⟩
  noInstant i d hd := step_withTimeout_of_limit_le hd
  cancelled_iff := h.ended?_eq_cancelled_iff
  cancel_iff j i hi := h.ended?_cancel_iff (List.getElem?_eq_getElem hi) j
  cancel_others j i := h.ended?_cancel_of_not_under
  over_of_derived j i := h.ended_of_derived
  stays_over calls i := (h.run calls).2.ended
  stays_cancelled calls i := (h.run calls).2.ended?_eq_cancelled
  resolved i reason f' := Resolves.ended
  awaited i m reason _ := World.ended?_of_awaitFor

/-- **Deriving and cancelling contexts.**  Make contexts by any calls, from each other or from tokens of
each other, cancel any of them and let time pass, in any order: the laws hold after every run. -/
theorem lawful_of_calls (calls : List ContextCall) : (({} : Family).run calls).Lawful :=
  (sound_start.run calls).1.lawful

/-- A deadline and a cancellation above meet: a wait for the child is over because of the cancellation,
and so is a context that is derived from the child only then. -/
theorem cancelled_at_deadline :
    let before : List ContextCall := [.background, .withTimeout 0 (.ofMillis 20), .child 1]
    let calls : List ContextCall := [.advance (.ofMillis 20), .cancel 0, .child 2]
    let f := ({} : Family).run before
    let f' := f.run calls
    Resolves 2 f .cancelled f' ∧ f'.ended? 2 = some .cancelled ∧ f'.Derived 3 1 ∧
      f'.ended? 3 ≠ none := by
  intro before calls f f'
  have hwait : Resolves 2 f .cancelled f' :=
    .pending (by decide +kernel) calls (.ready (by decide +kernel))
  have hderived : f'.Derived 3 1 := .chain rfl rfl (.direct rfl rfl)
  have hover : f'.ended? 1 ≠ none := by decide +kernel
  have hlaws : f'.Lawful := by
    have hrun : ({} : Family).run (before ++ calls) = f' := List.foldl_append
    exact hrun ▸ lawful_of_calls (before ++ calls)
  exact ⟨hwait, (lawful_of_calls before).resolved 2 .cancelled f' hwait, hderived,
    hlaws.over_of_derived 3 1 hderived hover⟩

end Family

end Resilience
