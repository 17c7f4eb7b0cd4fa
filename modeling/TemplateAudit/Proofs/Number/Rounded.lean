import Mathlib.Algebra.Order.Floor.Semifield
import Mathlib.Data.Rat.Floor
import TemplateAudit.Proofs.Number.Decimals

/-! # What a decimal keeps of a binary number

A decimal has 28 fraction digits at most. A number that is written with as many keeps its written
value, and any other one the nearest value that 28 digits can give, so the decimals are ordered as
the written values are, although different ones may become the same. A number with more digits is
far below one.
-/

namespace TemplateAudit

namespace Decimal

theorem natAbs_scaledValue (d : Decimal) :
    d.scaledValue.natAbs = d.coefficient * 10 ^ (28 - d.scale) := by
  rw [scaledValue, maxScale, Nat.pow_eq]
  split
  · rw [Int.natAbs_neg, Int.natAbs_natCast]
  · rw [Int.natAbs_natCast]

theorem scaledValue_eq (d : Decimal) :
    d.scaledValue = if d.negative then -(d.scaledValue.natAbs : ℤ) else d.scaledValue.natAbs := by
  rw [natAbs_scaledValue, scaledValue, maxScale, Nat.pow_eq]

theorem natAbs_scaledValue_of_eq {negative : Bool} {coefficient scale : Nat} {value : ℚ}
    (hscale : scale ≤ 28) (h : (coefficient : ℚ) = value * 10 ^ scale) :
    ((⟨negative, coefficient, scale⟩ : Decimal).scaledValue.natAbs : ℚ) = value * 10 ^ 28 := by
  rw [natAbs_scaledValue, Nat.cast_mul, h]
  push_cast
  rw [mul_assoc, ← pow_add, Nat.add_sub_cancel' hscale]

end Decimal

namespace Number

variable {s : Scaled} {negative : Bool} {d : Decimal}

theorem roundHalfUp_eq_floor (num den : Nat) (hden : 0 < den) :
    roundHalfUp num den = ⌊(num : ℚ) / den + 1 / 2⌋₊ := by
  have h : (num : ℚ) / den + 1 / 2 = ((2 * num + den : Nat) : ℚ) / ((2 * den : Nat) : ℚ) := by
    have hne : (den : ℚ) ≠ 0 := by exact_mod_cast hden.ne'
    push_cast
    field_simp
  rw [roundHalfUp, h, Nat.floor_div_eq_div]

theorem digits_eq {scale : Nat} (h : s.exponent = -scale) :
    (s.digits : ℚ) = s.value * 10 ^ scale := by
  rw [Scaled.value, h, zpow_neg, zpow_natCast, mul_assoc, inv_mul_cancel₀ (by positivity), mul_one]

theorem positionalDecimal_keeps (negative : Bool) (s : Scaled) (h : -28 ≤ s.exponent) :
    ((positionalDecimal negative s).scaledValue.natAbs : ℚ) = s.value * 10 ^ 28 := by
  rw [positionalDecimal]
  split
  · next hwhole =>
    obtain ⟨e, he⟩ := Int.eq_ofNat_of_zero_le hwhole
    refine Decimal.natAbs_scaledValue_of_eq (by decide) ?_
    rw [Scaled.value, he, Int.toNat_natCast, Nat.pow_eq, zpow_natCast]
    push_cast
    ring
  · next hfraction =>
    have hnonneg : 0 ≤ -s.exponent := by omega
    obtain ⟨scale, hscale⟩ := Int.eq_ofNat_of_zero_le hnonneg
    refine Decimal.natAbs_scaledValue_of_eq (by omega) ?_
    rw [hscale, Int.toNat_natCast]
    exact digits_eq (by omega)

theorem scientificDecimal?_keeps (h : -28 ≤ s.exponent)
    (hd : scientificDecimal? negative s = some d) :
    (d.scaledValue.natAbs : ℚ) = s.value * 10 ^ 28 := by
  have hlength := digitsOf_length_pos s
  have hleading : leadingExponent s = s.exponent + (digitsOf s).length - 1 := rfl
  rw [scientificDecimal?, Decimal.maxScale] at hd
  dsimp only at hd
  split at hd
  · cases hd
  · split at hd
    · rw [if_neg (by omega)] at hd
      obtain rfl := Option.some.inj hd
      exact Decimal.natAbs_scaledValue_of_eq (by omega) (digits_eq (by omega))
    · split at hd
      · obtain rfl := Option.some.inj hd
        exact Decimal.natAbs_scaledValue_of_eq (by omega) (digits_eq (by omega))
      · next hsign hfraction =>
        split at hd
        · obtain rfl := Option.some.inj hd
          refine Decimal.natAbs_scaledValue_of_eq (Nat.zero_le 28) ?_
          rw [pow_zero, mul_one]
          exact (value_of_whole (not_lt.mp hsign) (not_le.mp hfraction).le).symm
        · cases hd

theorem scientificDecimal?_rounds (h : s.exponent < -28) (hdigits : (digitsOf s).length ≤ 23)
    (hd : scientificDecimal? negative s = some d) :
    d.scaledValue.natAbs = ⌊s.value * 10 ^ 28 + 1 / 2⌋₊ := by
  have hlength := digitsOf_length_pos s
  have hleading : leadingExponent s = s.exponent + (digitsOf s).length - 1 := rfl
  rw [scientificDecimal?, Decimal.maxScale] at hd
  dsimp only at hd
  split at hd
  · cases hd
  · rw [if_pos (by omega), if_pos (by omega)] at hd
    obtain rfl := Option.some.inj hd
    generalize hdropped : (digitsOf s).length - 1 + (leadingExponent s).natAbs - 28 = dropped
    have hpow : 0 < 10 ^ dropped := Nat.pow_pos (by decide)
    have hvalue : (s.digits : ℚ) = s.value * 10 ^ (28 + dropped) := digits_eq (by omega)
    have hquotient : (s.digits : ℚ) / (10 ^ dropped : Nat) = s.value * 10 ^ 28 := by
      rw [hvalue, div_eq_iff (by positivity), pow_add]
      push_cast
      ring
    rw [Decimal.natAbs_scaledValue, Nat.sub_self, pow_zero, Nat.mul_one, Nat.pow_eq,
      roundHalfUp_eq_floor _ _ hpow, hquotient]

/-! ### Binary numbers -/

variable {x : Binary64}

theorem length_digitsOf_shortest (hx : x.isZero = false) :
    (digitsOf (Binary64.shortest x.rank)).length ≤ 23 :=
  (Nat.length_toDigits_le_iff (by decide) (by decide)).mpr
    (Binary64.digits_shortest_lt (rank_pos hx) x.finite)

theorem floatDecimal?_eq (hx : x.isZero = false) : floatDecimal? x =
    if isPositional (leadingExponent (Binary64.shortest x.rank)) then
      some (positionalDecimal x.negative (Binary64.shortest x.rank))
    else scientificDecimal? x.negative (Binary64.shortest x.rank) := by
  rw [floatDecimal?, if_neg (by rw [hx]; exact Bool.false_ne_true)]

theorem floatDecimal?_keeps (hx : x.isZero = false)
    (h : -28 ≤ (Binary64.shortest x.rank).exponent) (hd : floatDecimal? x = some d) :
    (d.scaledValue.natAbs : ℚ) = (Binary64.shortest x.rank).value * 10 ^ 28 := by
  rw [floatDecimal?_eq hx] at hd
  split at hd
  · obtain rfl := Option.some.inj hd
    exact positionalDecimal_keeps _ _ h
  · exact scientificDecimal?_keeps h hd

/-- The decimal of a binary number is the nearest one to its written value. -/
theorem natAbs_scaledValue_floatDecimal? (hx : x.isZero = false) (hd : floatDecimal? x = some d) :
    d.scaledValue.natAbs = ⌊(Binary64.shortest x.rank).value * 10 ^ 28 + 1 / 2⌋₊ := by
  rcases le_or_gt (-28) (Binary64.shortest x.rank).exponent with hkept | hlost
  · rw [← floatDecimal?_keeps hx hkept hd, eq_comm, Nat.floor_eq_iff (by positivity)]
    constructor <;> linarith
  · have hlength := length_digitsOf_shortest hx
    rw [floatDecimal?_eq hx] at hd
    split at hd
    · next hpositional =>
      rw [isPositional, leadingExponent, Bool.and_eq_true, decide_eq_true_eq] at hpositional
      omega
    · exact scientificDecimal?_rounds hlost hlength hd

theorem value_lt_of_exponent_lt (hx : x.isZero = false)
    (h : (Binary64.shortest x.rank).exponent < -28) :
    (Binary64.shortest x.rank).value < 10 ^ (-6 : ℤ) := by
  have hdigits : ((Binary64.shortest x.rank).digits : ℚ) < 10 ^ (23 : ℤ) := by
    exact_mod_cast Binary64.digits_shortest_lt (rank_pos hx) x.finite
  calc (Binary64.shortest x.rank).value
      < 10 ^ (23 : ℤ) * 10 ^ (Binary64.shortest x.rank).exponent := by
        rw [Scaled.value]
        gcongr
    _ = 10 ^ (23 + (Binary64.shortest x.rank).exponent) := (zpow_add₀ (by norm_num) _ _).symm
    _ ≤ 10 ^ (-6 : ℤ) := zpow_le_zpow_right₀ (by norm_num) (by omega)

end Number

end TemplateAudit
