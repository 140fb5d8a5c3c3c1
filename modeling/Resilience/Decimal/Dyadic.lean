/-
# Finite doubles as dyadic fractions

A finite double is a whole number times a power of two.  Exact questions about doubles (which
decimal is nearest, how many nanoseconds a number of seconds is) are asked of that pair.

* `Dyadic`: `significand * 2 ^ exponent`.
* `Dyadic.ofFloat`: the magnitude of a finite double.
* `roundHalfEven`: a quotient rounded to the nearest whole number, a half to the even one.
-/

namespace Resilience

/-- The number `significand * 2 ^ exponent`. -/
structure Dyadic where
  significand : Nat
  exponent : Int
deriving DecidableEq

namespace Dyadic

/-- The leading one that is implied before the 52 bits of a fraction. -/
def implied : Nat := 0x10000000000000

/-- The magnitude of a double, from its bits: eleven bits of exponent, 52 bits of fraction, with
an implied leading one unless the exponent field is zero. -/
def ofBits (bits : UInt64) : Dyadic :=
  let field := bits.toNat / implied % 0x800
  let fraction := bits.toNat % implied
  if field = 0 then ⟨fraction, -1074⟩ else ⟨implied + fraction, (field : Int) - 1075⟩

/-- The magnitude of a finite double. -/
def ofFloat (x : Float) : Dyadic := ofBits x.toBits

/-- The numerator of the number as a fraction. -/
def numerator (d : Dyadic) : Nat := d.significand <<< d.exponent.toNat

/-- The denominator of the number as a fraction. -/
def denominator (d : Dyadic) : Nat := 1 <<< (-d.exponent).toNat

end Dyadic

/-- The whole number nearest to `num / den`; halfway between two, the even one. -/
def roundHalfEven (num den : Nat) : Nat :=
  let q := num / den
  let r := num % den
  if 2 * r < den then q
  else if den < 2 * r then q + 1
  else if q % 2 = 0 then q else q + 1

/-- **The rounded quotient is within half a unit of the exact one.** -/
theorem roundHalfEven_within_half (num : Nat) {den : Nat} (h : 0 < den) :
    2 * num ≤ 2 * (roundHalfEven num den * den) + den ∧
      2 * (roundHalfEven num den * den) ≤ 2 * num + den := by
  have hr : num % den < den := Nat.mod_lt _ h
  have hq : num / den * den + num % den = num := by
    rw [Nat.mul_comm]
    exact Nat.div_add_mod num den
  have hs : (num / den + 1) * den = num / den * den + den := Nat.succ_mul _ _
  unfold roundHalfEven
  simp only
  split
  · omega
  · split
    · omega
    · split
      · omega
      · omega

end Resilience
