/-
# What a document gives for the fields of a record

A record is read from a table or from a sequence.  This file says when a document is one, and what it
gives for each field, without the reader; and that the reader of each kind of settings takes exactly
that, with the default for what is not given.

* `Document.IsRecord`: no known name occurs twice, and there are not too many items.
* `Document.given?`: what is given for the field of a name.
* `Document.fields?_eq_some_iff`: **the fields of a record are what is given for them.**
* `BreakerConfig.ofDocument?_eq_some_iff` and its siblings: **settings are read field by field.**
-/
import Mathlib.Data.List.Nodup
import Resilience.Config.Document

namespace Resilience

namespace Document

/-! ## 1. Records -/

/-- The document can be read as a record with fields of these names. -/
def IsRecord (names : List String) : Document → Prop
  | .table members => ∀ name ∈ names, (members.map Prod.fst).count name ≤ 1
  | .sequence items => items.length ≤ names.length
  | _ => False

/-- What the document gives for the field of that name: a member of a table goes by its name, an item of
a sequence by its place. -/
def given? (names : List String) (name : String) : Document → Option Document
  | .table members => members.lookup name
  | .sequence items => items[names.idxOf name]?
  | _ => none

variable {names : List String} {name : String} {members : List (String × Document)}
  {items : List Document} {values : List (Option Document)} {d : Document}

theorem membersNamed_cons (name : String) (m : String × Document) (members : List (String × Document)) :
    membersNamed name (m :: members) =
      if m.1 = name then m.2 :: membersNamed name members else membersNamed name members := by
  by_cases h : m.1 = name <;> simp [membersNamed, h]

theorem length_membersNamed (name : String) (members : List (String × Document)) :
    (membersNamed name members).length = (members.map Prod.fst).count name := by
  induction members with
  | nil => rfl
  | cons m members ih =>
    rw [membersNamed_cons, List.map_cons, List.count_cons]
    by_cases h : m.1 = name
    · rw [if_pos h, if_pos (beq_iff_eq.mpr h), List.length_cons, ih]
    · rw [if_neg h, if_neg (fun h' => h (beq_iff_eq.mp h')), ih, Nat.add_zero]

theorem head?_membersNamed (name : String) (members : List (String × Document)) :
    (membersNamed name members).head? = members.lookup name := by
  induction members with
  | nil => rfl
  | cons m members ih =>
    obtain ⟨key, value⟩ := m
    rw [membersNamed_cons]
    by_cases h : key = name
    · rw [if_pos h, h, List.lookup_cons_self, List.head?_cons]
    · rw [if_neg h, List.lookup_cons, beq_eq_false_iff_ne.mpr (Ne.symm h)]
      exact ih

/-- A field of a table has at most one member, and its value is that of the first. -/
theorem field?_eq_some_iff {value : Option Document} : field? members name = some value ↔
    (members.map Prod.fst).count name ≤ 1 ∧ value = members.lookup name := by
  rw [← length_membersNamed, ← head?_membersNamed, field?]
  cases hm : membersNamed name members with
  | nil => simp [eq_comm]
  | cons d rest =>
    cases rest with
    | nil => simp [eq_comm]
    | cons e rest => simp

theorem mapM_field?_eq_some_iff : names.mapM (field? members) = some values ↔
    (∀ name ∈ names, (members.map Prod.fst).count name ≤ 1) ∧
      values = names.map fun name => members.lookup name := by
  induction names generalizing values with
  | nil => simp [eq_comm]
  | cons name names ih =>
    rw [List.mapM_cons]
    simp only [Option.bind_eq_bind, Option.bind_eq_some_iff, field?_eq_some_iff, ih,
      List.forall_mem_cons, List.map_cons, Option.pure_def, Option.some.injEq]
    constructor
    · rintro ⟨_, ⟨hone, rfl⟩, _, ⟨hrest, rfl⟩, rfl⟩
      exact ⟨⟨hone, hrest⟩, rfl⟩
    · rintro ⟨⟨hone, hrest⟩, rfl⟩
      exact ⟨_, ⟨hone, rfl⟩, _, ⟨hrest, rfl⟩, rfl⟩

/-- The items of a sequence are given by their places. -/
theorem padded_eq_some_iff (hn : names.Nodup) : padded names.length items = some values ↔
    items.length ≤ names.length ∧ values = names.map fun name => items[names.idxOf name]? := by
  have heq : items.length ≤ names.length →
      items.map some ++ List.replicate (names.length - items.length) none =
        names.map fun name => items[names.idxOf name]? := by
    intro hle
    refine List.ext_getElem (by simp [hle]) fun i hi hi' => ?_
    rw [List.length_map] at hi'
    rw [List.getElem_map, hn.idxOf_getElem i hi', List.getElem_append]
    split
    · rename_i h
      rw [List.length_map] at h
      rw [List.getElem_map, List.getElem?_eq_getElem h]
    · rename_i h
      rw [List.length_map] at h
      rw [List.getElem_replicate, List.getElem?_eq_none (Nat.not_lt.mp h)]
  rw [padded]
  split
  · rename_i hle
    rw [Option.some.injEq, heq hle]
    exact ⟨fun h => ⟨hle, h.symm⟩, fun h => h.2.symm⟩
  · rename_i hlt
    simp [hlt]

/-- **The fields of a record are what is given for them.** -/
theorem fields?_eq_some_iff (hn : names.Nodup) : d.fields? names = some values ↔
    d.IsRecord names ∧ values = names.map fun name => d.given? names name := by
  cases d with
  | table members => exact mapM_field?_eq_some_iff
  | sequence items => exact padded_eq_some_iff hn
  | _ => simp [fields?, IsRecord]

/-- What is made of the fields of a record is made of what is given for them. -/
theorem bind_fields?_eq_some_iff {α : Type} {a : α} {make : List (Option Document) → Option α}
    (hn : names.Nodup) : (d.fields? names).bind make = some a ↔
      d.IsRecord names ∧ make (names.map fun name => d.given? names name) = some a := by
  rw [Option.bind_eq_some_iff]
  simp only [fields?_eq_some_iff hn]
  constructor
  · rintro ⟨_, ⟨hd, rfl⟩, h⟩
    exact ⟨hd, h⟩
  · rintro ⟨hd, h⟩
    exact ⟨_, ⟨hd, rfl⟩, h⟩

end Document

/-! ## 2. Settings -/

open Document

variable {d : Document}

/-- The settings of a breaker are read field by field. -/
theorem BreakerConfig.ofDocument?_eq_some_iff {c : BreakerConfig} :
    BreakerConfig.ofDocument? d = some c ↔
      d.IsRecord fieldNames ∧
        readField truth? true (d.given? fieldNames "enabled") = some c.enabled ∧
        readField natural32? 5 (d.given? fieldNames "failure_threshold") =
          some c.failureThreshold ∧
        readField Duration.ofDocument? (.ofMillis 60000) (d.given? fieldNames "reset_timeout") =
          some c.resetTimeout ∧
        readField natural32? 2 (d.given? fieldNames "half_open_success_needed") =
          some c.successesNeeded := by
  rw [ofDocument?, Option.bind_eq_bind, bind_fields?_eq_some_iff (by decide)]
  refine and_congr_right fun _ => ?_
  simp only [fieldNames, List.map_cons, List.map_nil, Option.bind_eq_bind,
    Option.bind_eq_some_iff, Option.pure_def, Option.some.injEq]
  constructor
  · rintro ⟨_, enabled, _, threshold, _, timeout, _, needed, rfl⟩
    exact ⟨enabled, threshold, timeout, needed⟩
  · rintro ⟨enabled, threshold, timeout, needed⟩
    exact ⟨_, enabled, _, threshold, _, timeout, _, needed, rfl⟩

/-- The settings of retries are read field by field. -/
theorem RetryConfig.ofDocument?_eq_some_iff {c : RetryConfig} :
    RetryConfig.ofDocument? d = some c ↔
      d.IsRecord fieldNames ∧
        readField truth? true (d.given? fieldNames "enabled") = some c.enabled ∧
        readField natural32? 3 (d.given? fieldNames "max_attempts") = some c.maxAttempts ∧
        readField Duration.ofDocument? (.ofMillis 100) (d.given? fieldNames "initial_interval") =
          some c.initialInterval ∧
        readField Duration.ofDocument? (.ofMillis 30000) (d.given? fieldNames "max_interval") =
          some c.maxInterval ∧
        readField double? 2.0 (d.given? fieldNames "multiplier") = some c.multiplier ∧
        readField double? 0.5 (d.given? fieldNames "random_factor") = some c.randomFactor := by
  rw [ofDocument?, Option.bind_eq_bind, bind_fields?_eq_some_iff (by decide)]
  refine and_congr_right fun _ => ?_
  simp only [fieldNames, List.map_cons, List.map_nil, Option.bind_eq_bind,
    Option.bind_eq_some_iff, Option.pure_def, Option.some.injEq]
  constructor
  · rintro ⟨_, enabled, _, attempts, _, initial, _, longest, _, multiplier, _, factor, rfl⟩
    exact ⟨enabled, attempts, initial, longest, multiplier, factor⟩
  · rintro ⟨enabled, attempts, initial, longest, multiplier, factor⟩
    exact ⟨_, enabled, _, attempts, _, initial, _, longest, _, multiplier, _, factor, rfl⟩

/-- The settings of the network transport are read field by field. -/
theorem TransportConfig.ofDocument?_eq_some_iff {c : TransportConfig} :
    TransportConfig.ofDocument? d = some c ↔
      d.IsRecord fieldNames ∧
        readField Duration.ofDocument? (.ofMillis 30000) (d.given? fieldNames "timeout") =
          some c.timeout ∧
        readField Duration.ofDocument? .zero (d.given? fieldNames "connect_timeout") =
          some c.connectTimeout ∧
        readField (optional? text?) none (d.given? fieldNames "user_agent") =
          some c.userAgent := by
  rw [ofDocument?, Option.bind_eq_bind, bind_fields?_eq_some_iff (by decide)]
  refine and_congr_right fun _ => ?_
  simp only [fieldNames, List.map_cons, List.map_nil, Option.bind_eq_bind,
    Option.bind_eq_some_iff, Option.pure_def, Option.some.injEq]
  constructor
  · rintro ⟨_, timeout, _, connect, _, agent, rfl⟩
    exact ⟨timeout, connect, agent⟩
  · rintro ⟨timeout, connect, agent⟩
    exact ⟨_, timeout, _, connect, _, agent, rfl⟩

/-- The settings of a client are read part by part. -/
theorem ClientConfig.ofDocument?_eq_some_iff {c : ClientConfig} :
    ClientConfig.ofDocument? d = some c ↔
      d.IsRecord fieldNames ∧
        readField BreakerConfig.ofDocument? {} (d.given? fieldNames "circuit_breaker") =
          some c.breaker ∧
        readField RetryConfig.ofDocument? {} (d.given? fieldNames "retry") = some c.retry ∧
        readField natural16? 500 (d.given? fieldNames "server_error_threshold") =
          some c.serverErrorThreshold ∧
        readField TransportConfig.ofDocument? {} (d.given? fieldNames "transport") =
          some c.transport := by
  rw [ofDocument?, Option.bind_eq_bind, bind_fields?_eq_some_iff (by decide)]
  refine and_congr_right fun _ => ?_
  simp only [fieldNames, List.map_cons, List.map_nil, Option.bind_eq_bind,
    Option.bind_eq_some_iff, Option.pure_def, Option.some.injEq]
  constructor
  · rintro ⟨_, breaker, _, retry, _, threshold, _, transport, rfl⟩
    exact ⟨breaker, retry, threshold, transport⟩
  · rintro ⟨breaker, retry, threshold, transport⟩
    exact ⟨_, breaker, _, retry, _, threshold, _, transport, rfl⟩

/-! ## 3. Parts that may be missing -/

variable {part? : Option Document}

/-- The settings of a breaker in a part that may be missing. -/
theorem BreakerConfig.readField_eq_some_iff {c : BreakerConfig} :
    readField ofDocument? {} part? = some c ↔
      (∀ p, part? = some p → p.IsRecord fieldNames) ∧
        readField truth? true (part?.bind (·.given? fieldNames "enabled")) = some c.enabled ∧
        readField natural32? 5 (part?.bind (·.given? fieldNames "failure_threshold")) =
          some c.failureThreshold ∧
        readField Duration.ofDocument? (.ofMillis 60000)
          (part?.bind (·.given? fieldNames "reset_timeout")) = some c.resetTimeout ∧
        readField natural32? 2 (part?.bind (·.given? fieldNames "half_open_success_needed")) =
          some c.successesNeeded := by
  cases part? with
  | none => cases c; simp [readField]
  | some p => simp [readField, ofDocument?_eq_some_iff]

/-- The settings of retries in a part that may be missing. -/
theorem RetryConfig.readField_eq_some_iff {c : RetryConfig} :
    readField ofDocument? {} part? = some c ↔
      (∀ p, part? = some p → p.IsRecord fieldNames) ∧
        readField truth? true (part?.bind (·.given? fieldNames "enabled")) = some c.enabled ∧
        readField natural32? 3 (part?.bind (·.given? fieldNames "max_attempts")) =
          some c.maxAttempts ∧
        readField Duration.ofDocument? (.ofMillis 100)
          (part?.bind (·.given? fieldNames "initial_interval")) = some c.initialInterval ∧
        readField Duration.ofDocument? (.ofMillis 30000)
          (part?.bind (·.given? fieldNames "max_interval")) = some c.maxInterval ∧
        readField double? 2.0 (part?.bind (·.given? fieldNames "multiplier")) =
          some c.multiplier ∧
        readField double? 0.5 (part?.bind (·.given? fieldNames "random_factor")) =
          some c.randomFactor := by
  cases part? with
  | none => cases c; simp [readField]
  | some p => simp [readField, ofDocument?_eq_some_iff]

/-- The settings of the network transport in a part that may be missing. -/
theorem TransportConfig.readField_eq_some_iff {c : TransportConfig} :
    readField ofDocument? {} part? = some c ↔
      (∀ p, part? = some p → p.IsRecord fieldNames) ∧
        readField Duration.ofDocument? (.ofMillis 30000)
          (part?.bind (·.given? fieldNames "timeout")) = some c.timeout ∧
        readField Duration.ofDocument? .zero (part?.bind (·.given? fieldNames "connect_timeout")) =
          some c.connectTimeout ∧
        readField (optional? text?) none (part?.bind (·.given? fieldNames "user_agent")) =
          some c.userAgent := by
  cases part? with
  | none => cases c; simp [readField]
  | some p => simp [readField, ofDocument?_eq_some_iff]

end Resilience
