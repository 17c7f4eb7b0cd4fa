import TemplateAudit.Number.Basic
import TemplateAudit.Proofs.Number.Shortest

/-! # The decimals of binary numbers

A binary number has a decimal exactly if the value that it is written as is neither too small for
28 fraction digits nor too large for the coefficient. The decimal has the sign of the number and,
although it may be rounded, is never zero.
-/

namespace TemplateAudit

namespace Decimal

def InRange (value : ℚ) : Prop := 10 ^ (-28 : ℤ) ≤ value ∧ value ≤ maxCoefficient

theorem inRange_of_exponents {value : ℚ} {low high : ℤ} (hlow : 10 ^ low ≤ value)
    (hhigh : value < 10 ^ high) (hbounds : -28 ≤ low ∧ high ≤ 28) : InRange value := by
  have hsmall : (10 : ℚ) ^ (-28 : ℤ) ≤ 10 ^ low := zpow_le_zpow_right₀ (by norm_num) hbounds.1
  have hlarge : (10 : ℚ) ^ high ≤ 10 ^ (28 : ℤ) := zpow_le_zpow_right₀ (by norm_num) hbounds.2
  have hmax : (10 : ℚ) ^ (28 : ℤ) ≤ maxCoefficient := by norm_num [maxCoefficient]
  exact ⟨hsmall.trans hlow, hhigh.le.trans (hlarge.trans hmax)⟩

theorem not_inRange_of_lt {value : ℚ} {high : ℤ} (hvalue : value < 10 ^ high)
    (hhigh : high ≤ -28) : ¬ InRange value := by
  have hle : (10 : ℚ) ^ high ≤ 10 ^ (-28 : ℤ) := zpow_le_zpow_right₀ (by norm_num) hhigh
  exact fun h => (hvalue.trans_le hle).not_ge h.1

theorem not_inRange_of_ge {value : ℚ} {low : ℤ} (hvalue : 10 ^ low ≤ value)
    (hlow : 29 ≤ low) : ¬ InRange value := by
  have hle : (10 : ℚ) ^ (29 : ℤ) ≤ 10 ^ low := zpow_le_zpow_right₀ (by norm_num) hlow
  have hmax : (maxCoefficient : ℚ) < 10 ^ (29 : ℤ) := by norm_num [maxCoefficient]
  exact fun h => (hmax.trans_le (hle.trans hvalue)).not_ge h.2

theorem sign_scaledValue {d : Decimal} (hpos : 0 < d.coefficient) :
    d.scaledValue.sign = if d.negative then -1 else 1 := by
  have h : 0 < d.coefficient * Nat.pow 10 (maxScale - d.scale) :=
    Nat.mul_pos hpos (Nat.pow_pos (by decide))
  rw [scaledValue]
  split
  · exact Int.sign_eq_neg_one_of_neg (neg_neg_of_pos (by exact_mod_cast h))
  · exact Int.sign_eq_one_of_pos (by exact_mod_cast h)

end Decimal

namespace Number

variable {s : Scaled} {negative : Bool} {d : Decimal}

theorem digitsOf_length_pos (s : Scaled) : 0 < (digitsOf s).length := Nat.length_toDigits_pos

theorem digits_lt (s : Scaled) : s.digits < 10 ^ (digitsOf s).length :=
  (Nat.length_toDigits_le_iff (by decide) (digitsOf_length_pos s)).mp le_rfl

theorem pow_le_digits (h : 0 < s.digits) : 10 ^ ((digitsOf s).length - 1) ≤ s.digits := by
  rcases Nat.eq_zero_or_pos ((digitsOf s).length - 1) with hlength | hlength
  · rw [hlength]
    exact h
  · by_contra hlt
    have hle := (Nat.length_toDigits_le_iff (by decide) hlength).mpr (not_le.mp hlt)
    have := digitsOf_length_pos s
    rw [← digitsOf] at hle
    omega

theorem value_bounds (h : 0 < s.digits) :
    (10 : ℚ) ^ leadingExponent s ≤ s.value ∧ s.value < 10 ^ (leadingExponent s + 1) := by
  have hlow : (10 : ℚ) ^ (((digitsOf s).length - 1 : Nat) : ℤ) ≤ s.digits := by
    exact_mod_cast pow_le_digits h
  have hhigh : (s.digits : ℚ) < 10 ^ ((digitsOf s).length : ℤ) := by
    exact_mod_cast digits_lt s
  have hlength := digitsOf_length_pos s
  have hleading : leadingExponent s = ((digitsOf s).length - 1 : Nat) + s.exponent := by
    rw [leadingExponent]
    omega
  have hnext : leadingExponent s + 1 = (digitsOf s).length + s.exponent := by
    rw [leadingExponent]
    omega
  rw [hnext, hleading, zpow_add₀ (by norm_num), zpow_add₀ (by norm_num), Scaled.value]
  constructor <;> gcongr

theorem roundHalfUp_pos {num den : Nat} (hden : 0 < den) (h : den ≤ num) :
    0 < roundHalfUp num den :=
  Nat.div_pos (by omega) (by omega)

theorem value_of_whole (hsign : 0 ≤ leadingExponent s)
    (hfraction : (digitsOf s).length - 1 ≤ (leadingExponent s).natAbs) :
    s.value = (s.digits * Nat.pow 10
      ((leadingExponent s).natAbs - ((digitsOf s).length - 1)) : Nat) := by
  have hlength := digitsOf_length_pos s
  have hexponent : s.exponent =
      ((leadingExponent s).natAbs - ((digitsOf s).length - 1) : Nat) := by
    rw [leadingExponent] at hsign hfraction ⊢
    omega
  rw [Scaled.value, hexponent, Nat.pow_eq, zpow_natCast]
  push_cast
  rfl

/-- A text in scientific notation has a decimal exactly if its value is in range. -/
theorem isSome_scientificDecimal?_iff (negative : Bool) (h : 0 < s.digits)
    (hdigits : s.digits < 10 ^ 23) :
    (scientificDecimal? negative s).isSome = true ↔ Decimal.InRange s.value := by
  obtain ⟨hlow, hhigh⟩ := value_bounds h
  have hlength : (digitsOf s).length ≤ 23 :=
    (Nat.length_toDigits_le_iff (by decide) (by decide)).mpr hdigits
  have hpos := digitsOf_length_pos s
  rw [scientificDecimal?]
  dsimp only
  split
  · next hsize =>
    rw [Decimal.maxScale] at hsize
    refine iff_of_false (by simp) ?_
    rcases le_or_gt (leadingExponent s) 0 with hsign | hsign
    · exact Decimal.not_inRange_of_lt hhigh (by omega)
    · exact Decimal.not_inRange_of_ge hlow (by omega)
  · next hsize =>
    rw [Decimal.maxScale] at hsize
    split
    · have hrange := Decimal.inRange_of_exponents hlow hhigh ⟨by omega, by omega⟩
      split <;> exact iff_of_true rfl hrange
    · split
      · exact iff_of_true rfl (Decimal.inRange_of_exponents hlow hhigh ⟨by omega, by omega⟩)
      · next hsign hfraction =>
        have hvalue := value_of_whole (s := s) (not_lt.mp hsign) (not_le.mp hfraction).le
        have hsmall : (10 : ℚ) ^ (-28 : ℤ) ≤ s.value :=
          (zpow_le_zpow_right₀ (by norm_num) (by omega)).trans hlow
        split
        · next hmax =>
          refine iff_of_true rfl ⟨hsmall, ?_⟩
          rw [hvalue]
          exact_mod_cast hmax
        · next hmax =>
          refine iff_of_false (by simp) fun hrange => hmax ?_
          have hle := hrange.2
          rw [hvalue] at hle
          exact_mod_cast hle

theorem of_scientificDecimal?_eq_some (h : 0 < s.digits)
    (hd : scientificDecimal? negative s = some d) :
    d.negative = negative ∧ 0 < d.coefficient := by
  have hpow := pow_le_digits h
  rw [scientificDecimal?] at hd
  dsimp only at hd
  split at hd
  · exact nomatch hd
  · next hsize =>
    rw [Decimal.maxScale] at hsize
    split at hd
    · split at hd
      · obtain rfl := Option.some.inj hd
        -- No more digits are dropped than follow the first one.
        have hdropped : 10 ^ ((digitsOf s).length - 1 + (leadingExponent s).natAbs - 28) ≤
            10 ^ ((digitsOf s).length - 1) := Nat.pow_le_pow_right (by decide) (by omega)
        exact ⟨rfl, roundHalfUp_pos (Nat.pow_pos (by decide)) (hdropped.trans hpow)⟩
      · obtain rfl := Option.some.inj hd
        exact ⟨rfl, h⟩
    · split at hd
      · obtain rfl := Option.some.inj hd
        exact ⟨rfl, h⟩
      · split at hd
        · obtain rfl := Option.some.inj hd
          exact ⟨rfl, Nat.mul_pos h (Nat.pow_pos (by decide))⟩
        · exact nomatch hd

theorem inRange_of_isPositional (h : 0 < s.digits)
    (hp : isPositional (leadingExponent s) = true) : Decimal.InRange s.value := by
  obtain ⟨hlow, hhigh⟩ := value_bounds h
  rw [isPositional, Bool.and_eq_true, decide_eq_true_eq, decide_eq_true_eq] at hp
  exact Decimal.inRange_of_exponents hlow hhigh ⟨by omega, by omega⟩

theorem of_positionalDecimal (h : 0 < s.digits) :
    (positionalDecimal negative s).negative = negative ∧
      0 < (positionalDecimal negative s).coefficient := by
  rw [positionalDecimal]
  split
  · exact ⟨rfl, Nat.mul_pos h (Nat.pow_pos (by decide))⟩
  · exact ⟨rfl, h⟩

/-! ### Binary numbers -/

variable {x : Binary64}

theorem rank_pos (hx : x.isZero = false) : 0 < x.rank := by
  rw [Binary64.isZero, decide_eq_false_iff_not] at hx
  exact Nat.pos_of_ne_zero hx

theorem floatDecimal?_of_isZero (hx : x.isZero = true) : floatDecimal? x = some ⟨false, 0, 1⟩ := by
  rw [floatDecimal?, if_pos hx]

theorem isSome_floatDecimal?_iff (hx : x.isZero = false) :
    (floatDecimal? x).isSome = true ↔ Decimal.InRange (Binary64.shortest x.rank).value := by
  have hrank := rank_pos hx
  have hpos := Binary64.digits_shortest_pos hrank x.finite
  rw [floatDecimal?, if_neg (by rw [hx]; exact Bool.false_ne_true)]
  dsimp only
  split
  · next hp => exact iff_of_true rfl (inRange_of_isPositional hpos hp)
  · exact isSome_scientificDecimal?_iff _ hpos (Binary64.digits_shortest_lt hrank x.finite)

theorem of_floatDecimal?_eq_some (hx : x.isZero = false) (hd : floatDecimal? x = some d) :
    d.negative = x.negative ∧ 0 < d.coefficient := by
  have hpos := Binary64.digits_shortest_pos (rank_pos hx) x.finite
  rw [floatDecimal?, if_neg (by rw [hx]; exact Bool.false_ne_true)] at hd
  dsimp only at hd
  split at hd
  · exact Option.some.inj hd ▸ of_positionalDecimal hpos
  · exact of_scientificDecimal?_eq_some hpos hd

end Number

end TemplateAudit
