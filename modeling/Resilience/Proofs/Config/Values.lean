/-
# What values mean

A value is a number, a span, a truth value, a double or a text.  This file says what stands for it in
variables and in documents, without the readers.  The texts of doubles have a file of their own.

* `Text.IsTrimmed`: what is left of a text without the blanks at its ends.
* `IsNumeral`: a number in digits, between blanks.
* `readNaturalValue_eq_ok_iff`: **the numerals of the numbers within the bound are what is read**; from it
  `natural32_eq_ok_iff` and its siblings, for each size of numbers, and `readMillisValue_eq_ok_iff`.
* `IsTruthValue`, `IsTextOrBlank`: truth values, and texts, which stay as they are unless they are blank.
* `Environment.get?_eq_some_iff`: the text of a variable is what its bytes encode.
* `Document.truth?_eq_some_iff` and its siblings: what stands for a value in documents.
-/
import Mathlib.Data.List.Basic
import Mathlib.Data.List.TakeWhile
import Resilience.Config.Document
import Resilience.Config.Environment

namespace Resilience

/-! ## 1. Digits -/

/-- The characters are one or more digits, and write the number. -/
def IsDigits (n : Nat) (digits : List Char) : Prop :=
  digits ≠ [] ∧ (∀ c ∈ digits, c.isDigit = true) ∧ Nat.ofDigitChars 10 digits 0 = n

variable {bound acc n : Nat} {c : Char} {s t : List Char} {raw : String}

theorem digitValue?_eq (h : c.isDigit = true) : digitValue? c = some (c.toNat - '0'.toNat) := by
  simp only [Char.isDigit, Bool.and_eq_true, decide_eq_true_eq] at h
  exact if_pos h

theorem digitValue?_eq_none (h : ¬ c.isDigit = true) : digitValue? c = none := by
  simp only [Char.isDigit, Bool.and_eq_true, decide_eq_true_eq] at h
  exact if_neg h

/-- Digits write the number that is read from them. -/
theorem digitsValue_eq (h : ∀ c ∈ s, c.isDigit = true) :
    digitsValue s = Nat.ofDigitChars 10 s 0 := by
  rw [digitsValue, Nat.ofDigitChars_eq_foldl]
  refine List.foldl_ext _ _ _ fun acc c hc => ?_
  rw [digitValue?_eq (h c hc), Option.getD_some, Nat.mul_comm]

/-- Digits only make a number larger. -/
theorem le_ofDigitChars (acc : Nat) (digits : List Char) : acc ≤ Nat.ofDigitChars 10 digits acc := by
  induction digits generalizing acc with
  | nil => exact (Nat.ofDigitChars_nil (b := 10)).ge
  | cons c rest ih =>
    rw [Nat.ofDigitChars_cons]
    refine Nat.le_trans ?_ (ih _)
    omega

/-- Digits are read exactly if the number stays within the bound.  The bound is looked at after each digit,
which makes no difference, since the number only grows. -/
theorem readDigits_eq_ok_iff (h : acc ≤ bound) : readDigits bound acc s = .ok n ↔
    (∀ c ∈ s, c.isDigit = true) ∧ Nat.ofDigitChars 10 s acc = n ∧ n ≤ bound := by
  induction s generalizing acc with
  | nil =>
    simp only [readDigits, Nat.ofDigitChars_nil, Except.ok.injEq, List.not_mem_nil, false_implies,
      implies_true, true_and]
    constructor
    · rintro rfl
      exact ⟨rfl, h⟩
    · exact fun h => h.1
  | cons c rest ih =>
    rw [readDigits, List.forall_mem_cons, Nat.ofDigitChars_cons]
    by_cases hc : c.isDigit = true
    · rw [digitValue?_eq hc]
      simp only [hc, true_and, Nat.mul_comm 10 acc]
      split
      · rename_i hle
        exact ih hle
      · rename_i hlt
        -- the number is out of the bound here, and further digits do not bring it back
        simp only [reduceCtorEq, false_iff]
        rintro ⟨-, rfl, hle⟩
        exact hlt (Nat.le_trans (le_ofDigitChars _ rest) hle)
    · rw [digitValue?_eq_none hc]
      simp [hc]

theorem readDigits_zero_eq_ok_iff (hs : s ≠ []) :
    readDigits bound 0 s = .ok n ↔ n ≤ bound ∧ IsDigits n s := by
  rw [readDigits_eq_ok_iff (Nat.zero_le bound)]
  constructor
  · rintro ⟨hdigits, hvalue, hle⟩
    exact ⟨hle, hs, hdigits, hvalue⟩
  · rintro ⟨hle, -, hdigits, hvalue⟩
    exact ⟨hdigits, hvalue, hle⟩

/-- A plus is no digit. -/
theorem not_isDigits_plus : ¬ IsDigits n ('+' :: s) := by
  rintro ⟨-, hdigits, -⟩
  exact absurd (hdigits '+' List.mem_cons_self) (by decide)

/-- A natural number is one or more digits, with or without a plus in front. -/
theorem readNatural_eq_ok_iff : readNatural bound s = .ok n ↔
    n ≤ bound ∧ ∃ digits, IsDigits n digits ∧ (s = digits ∨ s = '+' :: digits) := by
  unfold readNatural
  -- nothing, a plus alone, a plus before more, and anything else
  split
  · simp only [reduceCtorEq, false_iff]
    rintro ⟨-, digits, ⟨hne, -⟩, heq | heq⟩
    · exact hne heq.symm
    · cases heq
  · simp only [reduceCtorEq, false_iff]
    rintro ⟨-, digits, hdigits, rfl | heq⟩
    · exact not_isDigits_plus hdigits
    · exact hdigits.1 (List.tail_eq_of_cons_eq heq).symm
  · rename_i rest hrest
    rw [readDigits_zero_eq_ok_iff fun hnil => hrest hnil]
    refine and_congr_right fun _ => ⟨fun hdigits => ⟨rest, hdigits, .inr rfl⟩, ?_⟩
    rintro ⟨digits, hdigits, rfl | heq⟩
    · exact absurd hdigits not_isDigits_plus
    · rwa [List.tail_eq_of_cons_eq heq]
  · rename_i hnil _ hplus
    rw [readDigits_zero_eq_ok_iff hnil]
    refine and_congr_right fun _ => ⟨fun hdigits => ⟨s, hdigits, .inl rfl⟩, ?_⟩
    rintro ⟨digits, hdigits, rfl | rfl⟩
    · exact hdigits
    · exact absurd rfl (hplus digits)

/-! ## 2. Blanks -/

/-- The characters are what is left of a text without the blanks at its ends. -/
def Text.IsTrimmed (raw s : List Char) : Prop :=
  ∃ front back, raw = front ++ s ++ back ∧ (∀ c ∈ front ++ back, isBlank c = true) ∧
    (∀ c ∈ s.head?, isBlank c = false) ∧ ∀ c ∈ s.getLast?, isBlank c = false

/-- Nothing is left of a text exactly if it is blank. -/
theorem Text.trim_eq_nil_iff : Text.trim s = [] ↔ ∀ c ∈ s, Text.isBlank c = true := by
  rw [Text.trim, List.reverse_eq_nil_iff, List.dropWhile_eq_nil_iff]
  simp only [List.mem_reverse]
  constructor
  · intro h c hc
    rw [← List.takeWhile_append_dropWhile (p := Text.isBlank) (l := s), List.mem_append] at hc
    -- a character of the blank beginning, or one of the rest, which is read from its end
    rcases hc with hc | hc
    · exact List.mem_takeWhile_imp hc
    · exact h c hc
  · intro h c hc
    exact h c ((List.dropWhile_sublist _).subset hc)

/-- What is skipped are the blanks at the beginning, and the rest does not begin with one. -/
theorem Text.exists_dropWhile (s : List Char) : ∃ front, s = front ++ s.dropWhile isBlank ∧
    (∀ c ∈ front, isBlank c = true) ∧ ∀ c ∈ (s.dropWhile isBlank).head?, isBlank c = false := by
  refine ⟨s.takeWhile isBlank, List.takeWhile_append_dropWhile.symm,
    fun c hc => List.mem_takeWhile_imp hc, fun c hc => ?_⟩
  have hnot := List.head?_dropWhile_not isBlank s
  rw [Option.mem_def.mp hc] at hnot
  exact hnot

/-- Blanks are skipped up to the first character that is none. -/
theorem Text.dropWhile_append {front : List Char} (hfront : ∀ c ∈ front, isBlank c = true)
    (hs : ∀ c ∈ s.head?, isBlank c = false) : (front ++ s).dropWhile isBlank = s := by
  rw [List.dropWhile_append_of_pos hfront]
  cases s with
  | nil => rfl
  | cons c rest => rw [List.dropWhile_cons_of_neg (by simp [hs c rfl])]

/-- **Trimming leaves what stands between the blanks.** -/
theorem Text.trim_eq_iff : Text.trim s = t ↔ Text.IsTrimmed s t := by
  constructor
  · rintro rfl
    obtain ⟨front, hsplit, hfront, hhead⟩ := exists_dropWhile s
    obtain ⟨back, hsplit', hback, hlast⟩ := exists_dropWhile (s.dropWhile isBlank).reverse
    have hrest : s.dropWhile isBlank = trim s ++ back.reverse := by
      rw [trim, ← List.reverse_append, ← hsplit', List.reverse_reverse]
    refine ⟨front, back.reverse, ?_, ?_, ?_, ?_⟩
    · rw [List.append_assoc, ← hrest]
      exact hsplit
    · intro c hc
      rcases List.mem_append.mp hc with hc | hc
      · exact hfront c hc
      · exact hback c (List.mem_reverse.mp hc)
    · intro c hc
      refine hhead c ?_
      rw [hrest, List.head?_append, Option.mem_def.mp hc]
      rfl
    · intro c hc
      rw [trim, List.getLast?_reverse] at hc
      exact hlast c hc
  · rintro ⟨front, back, rfl, hblank, hhead, hlast⟩
    obtain ⟨hfront, hback⟩ := List.forall_mem_append.mp hblank
    cases t with
    | nil =>
      rw [trim_eq_nil_iff, List.append_nil]
      exact hblank
    | cons c rest =>
      have hbeginning : (front ++ (c :: rest ++ back)).dropWhile isBlank = c :: rest ++ back :=
        dropWhile_append hfront hhead
      have hend : (back.reverse ++ (c :: rest).reverse).dropWhile isBlank = (c :: rest).reverse := by
        refine dropWhile_append (fun c hc => hback c (List.mem_reverse.mp hc)) ?_
        rwa [List.head?_reverse]
      rw [trim, List.append_assoc, hbeginning, List.reverse_append, hend, List.reverse_reverse]

/-- A property of what is left of a text. -/
theorem Text.exists_isTrimmed_iff {p : List Char → Prop} :
    (∃ t, Text.IsTrimmed s t ∧ p t) ↔ p (Text.trim s) := by
  simp only [← trim_eq_iff, exists_eq_left']

/-! ## 3. Numbers -/

/-- The value is the number in digits, with or without a plus in front, between blanks. -/
def IsNumeral (raw : String) (n : Nat) : Prop :=
  ∃ s, Text.IsTrimmed raw.toList s ∧ ∃ digits, IsDigits n digits ∧ (s = digits ∨ s = '+' :: digits)

/-- **The numerals of the numbers within the bound are what is read.** -/
theorem readNaturalValue_eq_ok_iff : readNaturalValue bound raw = .ok n ↔
    IsNumeral raw n ∧ n ≤ bound := by
  rw [readNaturalValue, IsNumeral, Text.exists_isTrimmed_iff, and_comm, ← readNatural_eq_ok_iff]
  cases readNatural bound (Text.trim raw.toList) <;> simp [Except.mapError]

/-- The same for the numbers of a type, of which `bound` is the largest. -/
theorem map_readNaturalValue_eq_ok_iff {α : Type} {ofNat : Nat → α} {toNat : α → Nat} {a : α}
    (hle : ∀ a, toNat a ≤ bound) (hof : ∀ a, ofNat (toNat a) = a)
    (hto : ∀ n, n ≤ bound → toNat (ofNat n) = n) :
    (readNaturalValue bound raw).map ofNat = .ok a ↔ IsNumeral raw (toNat a) := by
  constructor
  · intro h
    cases hread : readNaturalValue bound raw with
    | error f =>
      rw [hread] at h
      cases h
    | ok n =>
      rw [hread] at h
      obtain rfl := Except.ok.inj h
      obtain ⟨hnumeral, hn⟩ := readNaturalValue_eq_ok_iff.mp hread
      rwa [hto n hn]
  · intro h
    rw [readNaturalValue_eq_ok_iff.mpr ⟨h, hle a⟩]
    exact congrArg Except.ok (hof a)

theorem natural32_eq_ok_iff {a : UInt32} :
    (readNaturalValue 4294967295 raw).map UInt32.ofNat = .ok a ↔ IsNumeral raw a.toNat :=
  map_readNaturalValue_eq_ok_iff (fun a => Nat.le_of_lt_succ a.toNat_lt)
    (fun _ => UInt32.ofNat_toNat) fun _ hn => UInt32.toNat_ofNat_of_lt' (Nat.lt_succ_of_le hn)

theorem natural16_eq_ok_iff {a : UInt16} :
    (readNaturalValue 65535 raw).map UInt16.ofNat = .ok a ↔ IsNumeral raw a.toNat :=
  map_readNaturalValue_eq_ok_iff (fun a => Nat.le_of_lt_succ a.toNat_lt)
    (fun _ => UInt16.ofNat_toNat) fun _ hn => UInt16.toNat_ofNat_of_lt' (Nat.lt_succ_of_le hn)

/-- **A span is given by its milliseconds.** -/
theorem readMillisValue_eq_ok_iff {span : Duration} : readMillisValue raw = .ok span ↔
    ∃ n : UInt64, IsNumeral raw n.toNat ∧ span.nanos = n.toNat * 1000000 := by
  have hmap : readMillisValue raw =
      ((readNaturalValue 18446744073709551615 raw).map UInt64.ofNat).map Duration.ofMillis := by
    rw [readMillisValue]
    cases readNaturalValue 18446744073709551615 raw <;> rfl
  have hnumber : ∀ n : UInt64,
      (readNaturalValue 18446744073709551615 raw).map UInt64.ofNat = .ok n ↔
        IsNumeral raw n.toNat := fun n =>
    map_readNaturalValue_eq_ok_iff (fun a => Nat.le_of_lt_succ a.toNat_lt)
      (fun _ => UInt64.ofNat_toNat) fun _ hn => UInt64.toNat_ofNat_of_lt' (Nat.lt_succ_of_le hn)
  simp only [hmap, ← hnumber, ← Duration.nanos_ofMillis, ← Duration.ext_iff]
  cases (readNaturalValue 18446744073709551615 raw).map UInt64.ofNat <;>
    simp [Except.map, eq_comm]

/-! ## 4. Truth values and texts -/

/-- The spellings of a truth value, in lower case. -/
def spellings : Bool → List String
  | true => ["1", "true", "yes", "on"]
  | false => ["0", "false", "no", "off"]

/-- The value is a spelling of the truth value, in any case and between blanks. -/
def IsTruthValue (raw : String) (b : Bool) : Prop :=
  ∃ s, Text.IsTrimmed raw.toList s ∧ String.ofList (s.map Char.toLower) ∈ spellings b

/-- **A truth value is one of its spellings.** -/
theorem readTruthValue_eq_ok_iff {b : Bool} : readTruthValue raw = .ok b ↔ IsTruthValue raw b := by
  rw [IsTruthValue, Text.exists_isTrimmed_iff (p := fun s => String.ofList (s.map Char.toLower) ∈ _)]
  unfold readTruthValue
  split <;> cases b <;> simp_all [spellings]

/-- The value is the text, as it stands; a blank one is none. -/
def IsTextOrBlank (raw : String) (agent : Option String) : Prop :=
  (∀ c ∈ raw.toList, Text.isBlank c = true) ∧ agent = none ∨
    (∃ c ∈ raw.toList, Text.isBlank c = false) ∧ agent = some raw

/-- **A text stays as it is**, unless it is blank. -/
theorem readTextValue_eq_iff {agent : Option String} :
    readTextValue raw = agent ↔ IsTextOrBlank raw agent := by
  have hsome : (∃ c ∈ raw.toList, Text.isBlank c = false) ↔ ¬ Text.trim raw.toList = [] := by
    rw [Text.trim_eq_nil_iff]
    simp
  rw [IsTextOrBlank, ← Text.trim_eq_nil_iff, hsome, readTextValue]
  simp only [List.isEmpty_iff]
  split
  · rename_i hblank
    simp only [hblank, true_and, not_true_eq_false, false_and, or_false]
    exact eq_comm
  · rename_i hnot
    simp only [hnot, false_and, not_false_eq_true, true_and, false_or]
    exact eq_comm

/-! ## 5. Bytes of variables -/

theorem fromUTF8?_eq_some_iff {bytes : ByteArray} :
    String.fromUTF8? bytes = some raw ↔ bytes = raw.toUTF8 := by
  rw [String.fromUTF8?, String.toUTF8_eq_toByteArray]
  split
  · rw [Option.some.injEq, ← String.toByteArray_inj]
    rfl
  · rename_i h
    simp only [reduceCtorEq, false_iff]
    rintro rfl
    exact h raw.isValidUTF8

/-- Bytes encode no text exactly if none is read from them. -/
theorem fromUTF8?_eq_none_iff {bytes : ByteArray} :
    String.fromUTF8? bytes = none ↔ ∀ raw : String, raw.toUTF8 ≠ bytes := by
  simp only [Option.eq_none_iff_forall_ne_some, ne_eq, fromUTF8?_eq_some_iff, eq_comm (a := bytes)]

/-- **The text of a variable is what its bytes encode**; bytes that encode none are as good as nothing. -/
theorem Environment.get?_eq_some_iff {env : Environment} {name : String} :
    env.get? name = some raw ↔ env.entries.lookup name = some raw.toUTF8 := by
  rw [get?, Option.bind_eq_some_iff]
  simp only [fromUTF8?_eq_some_iff, exists_eq_right]

/-! ## 6. Documents -/

namespace Document

variable {d : Document}

theorem truth?_eq_some_iff {b : Bool} : d.truth? = some b ↔ d = .truth b := by
  cases d <;> simp [truth?]

theorem natural?_eq_some_iff : d.natural? bound = some n ↔ d = .integer n ∧ n ≤ bound := by
  cases d with
  | integer z =>
    simp only [natural?, Option.ite_none_right_eq_some, Option.some.injEq, integer.injEq]
    omega
  | _ => simp [natural?]

/-- The same for the numbers of a type, of which `bound` is the largest. -/
theorem map_natural?_eq_some_iff {α : Type} {ofNat : Nat → α} {toNat : α → Nat} {a : α}
    (hle : ∀ a, toNat a ≤ bound) (hof : ∀ a, ofNat (toNat a) = a)
    (hto : ∀ n, n ≤ bound → toNat (ofNat n) = n) :
    (d.natural? bound).map ofNat = some a ↔ d = .integer (toNat a) := by
  simp only [Option.map_eq_some_iff, natural?_eq_some_iff]
  constructor
  · rintro ⟨n, ⟨rfl, hn⟩, rfl⟩
    rw [hto n hn]
  · rintro rfl
    exact ⟨toNat a, ⟨rfl, hle a⟩, hof a⟩

theorem natural32?_eq_some_iff {a : UInt32} : d.natural32? = some a ↔ d = .integer a.toNat :=
  map_natural?_eq_some_iff (fun a => Nat.le_of_lt_succ a.toNat_lt) (fun _ => UInt32.ofNat_toNat)
    fun _ hn => UInt32.toNat_ofNat_of_lt' (Nat.lt_succ_of_le hn)

theorem natural16?_eq_some_iff {a : UInt16} : d.natural16? = some a ↔ d = .integer a.toNat :=
  map_natural?_eq_some_iff (fun a => Nat.le_of_lt_succ a.toNat_lt) (fun _ => UInt16.ofNat_toNat)
    fun _ hn => UInt16.toNat_ofNat_of_lt' (Nat.lt_succ_of_le hn)

/-- **A span is given by its milliseconds.** -/
theorem ofDocument?_eq_some_iff {span : Duration} : Duration.ofDocument? d = some span ↔
    ∃ n : UInt64, d = .integer n.toNat ∧ span.nanos = n.toNat * 1000000 := by
  have hnumber : ∀ n : UInt64, (d.natural? 18446744073709551615).map UInt64.ofNat = some n ↔
      d = .integer n.toNat := fun n =>
    map_natural?_eq_some_iff (fun a => Nat.le_of_lt_succ a.toNat_lt) (fun _ => UInt64.ofNat_toNat)
      fun _ hn => UInt64.toNat_ofNat_of_lt' (Nat.lt_succ_of_le hn)
  have hmap : Duration.ofDocument? d =
      ((d.natural? 18446744073709551615).map UInt64.ofNat).map Duration.ofMillis := by
    rw [Option.map_map]
    rfl
  rw [hmap, Option.map_eq_some_iff]
  simp only [hnumber, ← Duration.nanos_ofMillis, ← Duration.ext_iff, eq_comm]

/-- A double, or a whole number of 64 bits, with or without a sign. -/
theorem double?_eq_some_iff {x : Float} : d.double? = some x ↔ d = .double x ∨
    (∃ n : UInt64, d = .integer n.toNat ∧ x = n.toFloat) ∨
      ∃ n : UInt64, 0 < n.toNat ∧ n.toNat ≤ 9223372036854775808 ∧ d = .integer (-n.toNat) ∧
        x = -n.toFloat := by
  cases d with
  | integer z =>
    simp only [double?, doubleOfInteger, Option.ite_none_right_eq_some, Option.some.injEq,
      reduceCtorEq, integer.injEq, false_or]
    constructor
    · rintro ⟨⟨hlow, hhigh⟩, rfl⟩
      split
      · rename_i hneg
        have hnat : (UInt64.ofNat z.natAbs).toNat = z.natAbs :=
          UInt64.toNat_ofNat_of_lt' (by rw [UInt64.size]; omega)
        exact .inr ⟨UInt64.ofNat z.natAbs, by omega, by omega, by omega, rfl⟩
      · rename_i hneg
        have hnat : (UInt64.ofNat z.toNat).toNat = z.toNat :=
          UInt64.toNat_ofNat_of_lt' (by rw [UInt64.size]; omega)
        exact .inl ⟨UInt64.ofNat z.toNat, by omega, rfl⟩
    · rintro (⟨n, rfl, rfl⟩ | ⟨n, hpos, hle, rfl, rfl⟩)
      · have hlt := n.toNat_lt
        refine ⟨by omega, ?_⟩
        rw [if_neg (by omega), Int.toNat_natCast, UInt64.ofNat_toNat]
      · refine ⟨by omega, ?_⟩
        rw [if_pos (by omega), Int.natAbs_neg, Int.natAbs_natCast, UInt64.ofNat_toNat]
  | _ => simp [double?]

/-- A text that may be absent. -/
theorem optional?_text?_eq_some_iff {agent : Option String} : optional? text? d = some agent ↔
    d = .null ∧ agent = none ∨ ∃ t, d = .text t ∧ agent = some t := by
  cases d <;> simp [optional?, text?, eq_comm]

end Document

end Resilience
