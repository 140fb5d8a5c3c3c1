/-
# What the doubles in variables mean

A double is written with or without a sign: as a number with a point and an exponent, both of which may be
left out, or by the name of a special value.  This file says which texts these are and which double each of
them stands for, and that the reader takes exactly them.

* `IsNearest`: the double of a decimal number.  `nearestDouble_eq_iff`: the reader's shortcuts for very
  large and very small numbers lead to it.
* `IsExponent`, `IsPositional`, `IsNumber`, `IsMagnitude`, `IsSigned`: the grammar, one relation for each
  part, with the equivalence for its reader after it.
* `readDoubleValue_eq_ok_iff`: **the texts of doubles, between blanks, are what is read.**
-/
import Mathlib.Algebra.Order.Field.Power
import Mathlib.Data.Rat.Cast.Order
import Resilience.Proofs.Config.Values

namespace Resilience

variable {m : Nat} {e : Int} {x : Float} {c : Char} {s : List Char}

/-! ## 1. The double of a decimal number -/

/-- The double is that of the number `m * 10 ^ e`: the nearest one.  Numbers that are far out of the range of
doubles are infinite or zero. -/
inductive IsNearest (m : Nat) (e : Int) : Float → Prop
  | huge (h : (10 : ℚ) ^ (400 : ℤ) ≤ m * 10 ^ e) : IsNearest m e (1.0 / 0.0)
  | tiny (h : (m : ℚ) * 10 ^ e < 10 ^ (-401 : ℤ)) : IsNearest m e 0.0
  | whole {n : Nat} (he : e = n) (hlow : (10 : ℚ) ^ (-401 : ℤ) ≤ m * 10 ^ e)
      (hhigh : (m : ℚ) * 10 ^ e < 10 ^ (400 : ℤ)) : IsNearest m e (Float.ofScientific m false n)
  | fraction {n : Nat} (he : e = -n) (hn : 0 < n) (hlow : (10 : ℚ) ^ (-401 : ℤ) ≤ m * 10 ^ e)
      (hhigh : (m : ℚ) * 10 ^ e < 10 ^ (400 : ℤ)) : IsNearest m e (Float.ofScientific m true n)

/-- The places of a positive number say which powers of ten it reaches. -/
theorem zpow_le_iff_lt_places (hm : m ≠ 0) (z : ℤ) :
    (10 : ℚ) ^ z ≤ m * 10 ^ e ↔ z < (Nat.toDigits 10 m).length + e := by
  have hten : (0 : ℚ) < 10 ^ e := zpow_pos (by norm_num) e
  obtain ⟨k, hk⟩ : ∃ k, (Nat.toDigits 10 m).length = k + 1 :=
    ⟨_, (Nat.succ_pred_eq_of_pos Nat.length_toDigits_pos).symm⟩
  have hhigh : m < 10 ^ (k + 1) := (Nat.length_toDigits_le_iff (by decide) (Nat.succ_pos k)).mp hk.le
  have hlow : 10 ^ k ≤ m := by
    cases k with
    | zero => exact Nat.pos_of_ne_zero hm
    | succ k =>
      refine Nat.le_of_not_lt fun hlt => ?_
      have := (Nat.length_toDigits_le_iff (b := 10) (by decide) (Nat.succ_pos k)).mpr hlt
      omega
  rw [hk]
  constructor
  · intro hle
    have hlt : (10 : ℚ) ^ z < 10 ^ ((k + 1 : ℕ) + e) := by
      calc
        (10 : ℚ) ^ z ≤ m * 10 ^ e := hle
        _ < 10 ^ (k + 1) * 10 ^ e := mul_lt_mul_of_pos_right (by exact_mod_cast hhigh) hten
        _ = 10 ^ ((k + 1 : ℕ) + e) := by rw [zpow_add₀ (by norm_num), zpow_natCast]
    exact (zpow_lt_zpow_iff_right₀ (by norm_num)).mp hlt
  · intro hlt
    have hle : z ≤ k + e := by omega
    calc
      (10 : ℚ) ^ z ≤ 10 ^ ((k : ℤ) + e) := zpow_le_zpow_right₀ (by norm_num) hle
      _ = 10 ^ k * 10 ^ e := by rw [zpow_add₀ (by norm_num), zpow_natCast]
      _ ≤ m * 10 ^ e := mul_le_mul_of_nonneg_right (by exact_mod_cast hlow) hten.le

/-- A number that reaches a power of ten is not zero. -/
theorem ne_zero_of_zpow_le {z : ℤ} (h : (10 : ℚ) ^ z ≤ m * 10 ^ e) : m ≠ 0 := by
  rintro rfl
  rw [Nat.cast_zero, zero_mul] at h
  exact absurd (zpow_pos (by norm_num) z) (not_lt.mpr h)

/-- **The reader's double of a decimal number is the nearest one.** -/
theorem isNearest_nearestDouble (m : Nat) (e : Int) : IsNearest m e (nearestDouble m e) := by
  rw [nearestDouble]
  split
  · rename_i hm
    refine .tiny ?_
    rw [hm, Nat.cast_zero, zero_mul]
    exact zpow_pos (by norm_num) _
  · rename_i hm
    dsimp only
    split
    · rename_i hsize
      exact .huge ((zpow_le_iff_lt_places hm 400).mpr hsize)
    · rename_i hsize
      have hhigh := not_le.mp (mt (zpow_le_iff_lt_places hm 400).mp hsize)
      split
      · rename_i hsmall
        refine .tiny (not_le.mp (mt (zpow_le_iff_lt_places hm (-401)).mp ?_))
        omega
      · rename_i hsmall
        have hlow := (zpow_le_iff_lt_places (e := e) hm (-401)).mpr (by omega)
        split
        · rename_i he
          exact .whole (Int.toNat_of_nonneg he).symm hlow hhigh
        · rename_i he
          exact .fraction (by omega) (by omega) hlow hhigh

/-- There is no other one. -/
theorem IsNearest.eq (h : IsNearest m e x) : nearestDouble m e = x := by
  rw [nearestDouble]
  cases h with
  | huge h =>
    have hm := ne_zero_of_zpow_le h
    rw [if_neg hm]
    exact if_pos ((zpow_le_iff_lt_places hm 400).mp h)
  | tiny h =>
    by_cases hm : m = 0
    · exact if_pos hm
    · have hsize := mt (zpow_le_iff_lt_places hm (-401)).mpr (not_le.mpr h)
      rw [if_neg hm]
      dsimp only
      rw [if_neg (by omega), if_pos (by omega)]
  | whole he hlow hhigh =>
    have hm := ne_zero_of_zpow_le hlow
    have hlow := (zpow_le_iff_lt_places hm (-401)).mp hlow
    have hhigh := mt (zpow_le_iff_lt_places hm 400).mpr (not_le.mpr hhigh)
    rw [if_neg hm]
    dsimp only
    rw [if_neg hhigh, if_neg (by omega), if_pos (by omega), he, Int.toNat_natCast]
  | fraction he hn hlow hhigh =>
    have hm := ne_zero_of_zpow_le hlow
    have hlow := (zpow_le_iff_lt_places hm (-401)).mp hlow
    have hhigh := mt (zpow_le_iff_lt_places hm 400).mpr (not_le.mpr hhigh)
    rw [if_neg hm]
    dsimp only
    rw [if_neg hhigh, if_neg (by omega), if_neg (by omega), he, neg_neg, Int.toNat_natCast]

theorem nearestDouble_eq_iff : nearestDouble m e = x ↔ IsNearest m e x :=
  ⟨fun h => h ▸ isNearest_nearestDouble m e, IsNearest.eq⟩

/-! ## 2. Exponents -/

/-- The characters write the exponent: nothing for zero, or else a mark, a sign or none, and digits. -/
inductive IsExponent : Int → List Char → Prop
  | nothing : IsExponent 0 []
  | plain {mark : Char} {digits : List Char} {n : Nat} (hmark : mark = 'e' ∨ mark = 'E')
      (h : IsDigits n digits) : IsExponent n (mark :: digits)
  | plus {mark : Char} {digits : List Char} {n : Nat} (hmark : mark = 'e' ∨ mark = 'E')
      (h : IsDigits n digits) : IsExponent n (mark :: '+' :: digits)
  | minus {mark : Char} {digits : List Char} {n : Nat} (hmark : mark = 'e' ∨ mark = 'E')
      (h : IsDigits n digits) : IsExponent (-n) (mark :: '-' :: digits)

/-- Digits, as the reader of exponents looks at them. -/
theorem isDigits_iff {n : Nat} {digits : List Char} :
    IsDigits n digits ↔ (digits ≠ [] ∧ digits.all Char.isDigit) ∧ digitsValue digits = n := by
  rw [IsDigits, List.all_eq_true, and_assoc]
  refine and_congr_right fun _ => and_congr_right fun h => ?_
  rw [digitsValue_eq h]

/-- A minus is no digit. -/
theorem not_isDigits_minus {n : Nat} : ¬ IsDigits n ('-' :: s) := by
  rintro ⟨-, hdigits, -⟩
  exact absurd (hdigits '-' List.mem_cons_self) (by decide)

theorem readExponent_eq_some_iff : readExponent s = some e ↔ IsExponent e s := by
  constructor
  · intro h
    unfold readExponent at h
    split at h
    · cases h
      exact .nothing
    · rename_i mark rest
      split at h
      · rename_i hmark
        split at h
        rename_i negative digits hsign
        split at h
        · rename_i hdigits
          have hnumber := isDigits_iff.mpr ⟨hdigits, rfl⟩
          obtain rfl := Option.some.inj h
          split at hsign
          · cases hsign
            exact .minus hmark hnumber
          · cases hsign
            exact .plus hmark hnumber
          · cases hsign
            exact .plain hmark hnumber
        · cases h
      · cases h
  · intro h
    unfold readExponent
    cases h with
    | nothing => rfl
    | plain hmark h =>
      simp only [if_pos hmark]
      -- the digits do not begin with a sign
      split
      · exact absurd h not_isDigits_minus
      · exact absurd h not_isDigits_plus
      · obtain ⟨hdigits, rfl⟩ := isDigits_iff.mp h
        exact if_pos hdigits
    | plus hmark h =>
      obtain ⟨hdigits, rfl⟩ := isDigits_iff.mp h
      simp only [if_pos hmark]
      exact if_pos hdigits
    | minus hmark h =>
      obtain ⟨hdigits, rfl⟩ := isDigits_iff.mp h
      simp only [if_pos hmark]
      exact if_pos hdigits

/-! ## 3. Numbers -/

/-- The characters are digits, or digits around a point, at whose sides there may be none. -/
inductive IsPositional (whole : List Char) : List Char → List Char → Prop
  | bare : IsPositional whole [] whole
  | pointed (fraction : List Char) : IsPositional whole fraction (whole ++ '.' :: fraction)

/-- The characters write a number without a sign: a digit at least, and then an exponent, which is less by
one for each digit behind the point. -/
inductive IsNumber (x : Float) : List Char → Prop
  | intro {whole fraction digits tail : List Char} {e : Int} (hwhole : ∀ c ∈ whole, c.isDigit = true)
      (hfraction : ∀ c ∈ fraction, c.isDigit = true) (hsome : ¬ (whole = [] ∧ fraction = []))
      (hdigits : IsPositional whole fraction digits) (htail : IsExponent e tail)
      (hx : IsNearest (Nat.ofDigitChars 10 (whole ++ fraction) 0) (e - fraction.length) x) :
      IsNumber x (digits ++ tail)

/-- Digits are read up to what is no digit. -/
theorem span_digits {front rest : List Char} (hfront : ∀ c ∈ front, c.isDigit = true)
    (hrest : ∀ c ∈ rest.head?, c.isDigit = false) :
    (front ++ rest).takeWhile Char.isDigit = front ∧ (front ++ rest).dropWhile Char.isDigit = rest := by
  rw [List.takeWhile_append_of_pos hfront, List.dropWhile_append_of_pos hfront]
  cases rest with
  | nil => simp
  | cons c rest => simp [hrest c rfl]

/-- An exponent does not go on with the digits before it, nor does it begin with a point. -/
theorem IsExponent.head (h : IsExponent e s) : ∀ c ∈ s.head?, c.isDigit = false ∧ c ≠ '.' := by
  have hmark : ∀ mark : Char, mark = 'e' ∨ mark = 'E' → mark.isDigit = false ∧ mark ≠ '.' := by
    rintro mark (rfl | rfl) <;> decide
  rintro c hc
  cases h with
  | nothing => cases hc
  | plain h | plus h | minus h =>
    cases hc
    exact hmark _ h

/-- What the reader makes of the digits before and after the point and of what follows them. -/
theorem number_eq_some_iff {whole fraction rest : List Char} (hwhole : ∀ c ∈ whole, c.isDigit = true)
    (hfraction : ∀ c ∈ fraction, c.isDigit = true) :
    (if whole = [] ∧ fraction = [] then none
      else do
        let exponent ← readExponent rest
        pure (nearestDouble (digitsValue (whole ++ fraction)) (exponent - fraction.length))) = some x ↔
      ¬ (whole = [] ∧ fraction = []) ∧ ∃ e, IsExponent e rest ∧
        IsNearest (Nat.ofDigitChars 10 (whole ++ fraction) 0) (e - fraction.length) x := by
  rw [digitsValue_eq (List.forall_mem_append.mpr ⟨hwhole, hfraction⟩)]
  simp only [← readExponent_eq_some_iff, ← nearestDouble_eq_iff]
  split
  · rename_i hnone
    simp [hnone]
  · rename_i hsome
    simp [hsome, Option.bind_eq_some_iff]

/-- **The reader of numbers takes exactly the numbers.** -/
theorem readUnsignedDouble_eq_some_iff : readUnsignedDouble s = some x ↔ IsNumber x s := by
  constructor
  · intro h
    have digits : ∀ t : List Char, ∀ c ∈ t.takeWhile Char.isDigit, c.isDigit = true :=
      fun t c hc => List.mem_takeWhile_imp hc
    rw [← List.takeWhile_append_dropWhile (p := Char.isDigit) (l := s)]
    unfold readUnsignedDouble at h
    simp only at h
    split at h
    · rename_i r hr
      obtain ⟨hsome, e, htail, hx⟩ := (number_eq_some_iff (digits s) (digits r)).mp h
      rw [hr, ← List.takeWhile_append_dropWhile (p := Char.isDigit) (l := r), ← List.cons_append,
        ← List.append_assoc]
      exact .intro (digits s) (digits r) hsome (.pointed _) htail hx
    · obtain ⟨hsome, e, htail, hx⟩ :=
        (number_eq_some_iff (digits s) (List.forall_mem_nil _)).mp h
      exact .intro (digits s) (List.forall_mem_nil _) hsome .bare htail hx
  · rintro @⟨whole, fraction, digits, tail, e, hwhole, hfraction, hsome, hdigits, htail, hx⟩
    have hvalue := (number_eq_some_iff hwhole hfraction).mpr ⟨hsome, e, htail, hx⟩
    unfold readUnsignedDouble
    cases hdigits with
    | bare =>
      obtain ⟨htake, hdrop⟩ := span_digits hwhole fun c hc => (htail.head c hc).1
      simp only [htake, hdrop]
      split
      · exact absurd rfl (htail.head '.' rfl).2
      · exact hvalue
    | pointed =>
      have hpoint : ∀ c ∈ ('.' :: (fraction ++ tail)).head?, c.isDigit = false := by
        rintro c ⟨⟩
        decide
      obtain ⟨htake, hdrop⟩ := span_digits hwhole hpoint
      obtain ⟨htake', hdrop'⟩ := span_digits hfraction fun c hc => (htail.head c hc).1
      rw [List.append_assoc, List.cons_append]
      simp only [htake, hdrop, htake', hdrop']
      exact hvalue

/-! ## 4. Special values and signs -/

/-- The names of the infinite double. -/
def infinityNames : List String := ["inf", "infinity"]

/-- The characters write a double without a sign: a special value by its name, in any case, or a number. -/
inductive IsMagnitude : Float → List Char → Prop
  | infinity {s : List Char} (h : String.ofList (s.map Char.toLower) ∈ infinityNames) :
      IsMagnitude (1.0 / 0.0) s
  | nan {s : List Char} (h : String.ofList (s.map Char.toLower) = "nan") : IsMagnitude (0.0 / 0.0) s
  | number {x : Float} {s : List Char} (h : IsNumber x s) : IsMagnitude x s

/-- The characters write a double, with or without a sign. -/
inductive IsSigned : Float → List Char → Prop
  | plain {x : Float} {s : List Char} (h : IsMagnitude x s) : IsSigned x s
  | plus {x : Float} {s : List Char} (h : IsMagnitude x s) : IsSigned x ('+' :: s)
  | minus {x : Float} {s : List Char} (h : IsMagnitude x s) : IsSigned (-x) ('-' :: s)

/-- A number begins with a digit or a point. -/
theorem IsNumber.exists_head (h : IsNumber x s) :
    ∃ c rest, s = c :: rest ∧ (c.isDigit = true ∨ c = '.') := by
  obtain @⟨whole, fraction, digits, tail, e, hwhole, hfraction, hsome, hdigits, htail, hx⟩ := h
  cases whole with
  | nil =>
    cases hdigits with
    | bare => exact absurd ⟨rfl, rfl⟩ hsome
    | pointed => exact ⟨'.', _, rfl, .inr rfl⟩
  | cons c whole =>
    have hc := hwhole c List.mem_cons_self
    cases hdigits with
    | bare => exact ⟨c, _, rfl, .inl hc⟩
    | pointed => exact ⟨c, _, rfl, .inl hc⟩

/-- Digits and points are neither letters nor signs. -/
theorem toLower_of_isDigit_or_point (h : c.isDigit = true ∨ c = '.') :
    c.toLower = c ∧ c ≠ 'i' ∧ c ≠ 'n' ∧ c ≠ '+' ∧ c ≠ '-' := by
  rcases h with h | rfl
  · simp only [Char.isDigit, Bool.and_eq_true, decide_eq_true_eq, ge_iff_le,
      UInt32.le_iff_toNat_le] at h
    have hlow : 48 ≤ c.val.toNat := h.1
    have hhigh : c.val.toNat ≤ 57 := h.2
    have hupper : ¬ (c.val ≥ 'A'.val ∧ c.val ≤ 'Z'.val) := by
      rintro ⟨hA, -⟩
      have : 65 ≤ c.val.toNat := UInt32.le_iff_toNat_le.mp hA
      omega
    refine ⟨dif_neg hupper, ?_, ?_, ?_, ?_⟩
    all_goals
      rintro rfl
      revert hlow hhigh
      decide
  · decide

/-- A text begins as its lower case does, if it begins with neither a sign nor a letter. -/
theorem head?_of_lower_eq {rest : List Char} {name : String} (hc : c.toLower = c)
    (h : String.ofList ((c :: rest).map Char.toLower) = name) : name.toList.head? = some c := by
  rw [← h, String.toList_ofList, List.map_cons, hc]
  rfl

/-- No number is a name. -/
theorem IsNumber.not_name (h : IsNumber x s) :
    String.ofList (s.map Char.toLower) ∉ infinityNames ∧
      String.ofList (s.map Char.toLower) ≠ "nan" := by
  obtain ⟨c, rest, rfl, hc⟩ := h.exists_head
  obtain ⟨hlower, hi, hn, -, -⟩ := toLower_of_isDigit_or_point hc
  constructor
  · intro hmem
    simp only [infinityNames, List.mem_cons, List.not_mem_nil, or_false] at hmem
    rcases hmem with heq | heq
    · exact hi (Option.some.inj (head?_of_lower_eq hlower heq)).symm
    · exact hi (Option.some.inj (head?_of_lower_eq hlower heq)).symm
  · intro heq
    exact hn (Option.some.inj (head?_of_lower_eq hlower heq)).symm

theorem readMagnitude_eq_some_iff : readMagnitude s = some x ↔ IsMagnitude x s := by
  have hnames : ∀ name : String, name = "inf" ∨ name = "infinity" ↔ name ∈ infinityNames := by
    simp [infinityNames]
  unfold readMagnitude
  simp only [hnames]
  constructor
  · intro h
    split at h
    · rename_i hinfinity
      cases h
      exact .infinity hinfinity
    · split at h
      · rename_i hnan
        cases h
        exact .nan hnan
      · exact .number (readUnsignedDouble_eq_some_iff.mp h)
  · intro h
    cases h with
    | infinity h => exact if_pos h
    | nan h =>
      have hother : "nan" ∉ infinityNames := by decide
      rw [h, if_neg hother, if_pos rfl]
    | number h =>
      rw [if_neg h.not_name.1, if_neg h.not_name.2]
      exact readUnsignedDouble_eq_some_iff.mpr h

/-- What has no sign yet does not begin with one. -/
theorem IsMagnitude.exists_head (h : IsMagnitude x s) :
    ∃ c rest, s = c :: rest ∧ c ≠ '+' ∧ c ≠ '-' := by
  have named : ∀ name : String, String.ofList (s.map Char.toLower) = name → name ≠ "" →
      name.toList.head? ≠ some '+' → name.toList.head? ≠ some '-' →
        ∃ c rest, s = c :: rest ∧ c ≠ '+' ∧ c ≠ '-' := by
    rintro name rfl hne hplus hminus
    cases s with
    | nil => exact absurd rfl hne
    | cons c rest =>
      refine ⟨c, rest, rfl, ?_, ?_⟩
      · rintro rfl
        exact hplus (head?_of_lower_eq (by decide) rfl)
      · rintro rfl
        exact hminus (head?_of_lower_eq (by decide) rfl)
  cases h with
  | infinity h =>
    simp only [infinityNames, List.mem_cons, List.not_mem_nil, or_false] at h
    rcases h with h | h
    · exact named _ h (by decide) (by decide) (by decide)
    · exact named _ h (by decide) (by decide) (by decide)
  | nan h => exact named _ h (by decide) (by decide) (by decide)
  | number h =>
    obtain ⟨c, rest, rfl, hc⟩ := h.exists_head
    obtain ⟨-, -, -, hplus, hminus⟩ := toLower_of_isDigit_or_point hc
    exact ⟨c, rest, rfl, hplus, hminus⟩

/-- **The reader of doubles takes exactly the doubles.** -/
theorem readDouble_eq_ok_iff : readDouble s = .ok x ↔ IsSigned x s := by
  constructor
  · intro h
    unfold readDouble at h
    simp only at h
    split at h
    · cases h
    · rename_i y hy hresult
      cases h
      split at hresult
      · obtain ⟨y, hread, rfl⟩ := Option.map_eq_some_iff.mp hresult
        exact .minus (readMagnitude_eq_some_iff.mp hread)
      · exact .plus (readMagnitude_eq_some_iff.mp hresult)
      · exact .plain (readMagnitude_eq_some_iff.mp hresult)
    · cases h
  · intro h
    cases h with
    | plain h =>
      obtain ⟨c, rest, rfl, hplus, hminus⟩ := h.exists_head
      simp [readDouble, hplus, hminus, readMagnitude_eq_some_iff.mpr h]
    | plus h => simp [readDouble, readMagnitude_eq_some_iff.mpr h]
    | minus h =>
      simp only [readDouble, readMagnitude_eq_some_iff.mpr h, Option.map_some]
      rfl

/-! ## 5. Values of variables -/

/-- The value is a double between blanks. -/
def IsDouble (raw : String) (x : Float) : Prop :=
  ∃ s, Text.IsTrimmed raw.toList s ∧ IsSigned x s

/-- **The texts of doubles are what is read.** -/
theorem readDoubleValue_eq_ok_iff {raw : String} : readDoubleValue raw = .ok x ↔ IsDouble raw x := by
  rw [IsDouble, Text.exists_isTrimmed_iff, ← readDouble_eq_ok_iff, readDoubleValue]
  cases readDouble (Text.trim raw.toList) <;> simp [Except.mapError]

end Resilience
