import Mathlib.Data.Rat.Cast.Order
import Mathlib.Tactic.Ring
import TemplateAudit.Number.Binary64

/-! # Magnitudes by rank

The magnitudes of binary numbers grow with their ranks, by a spacing that doubles from one power of
two to the next. A spacing is never more than the magnitude, and never less than a fixed part of it.
-/

namespace TemplateAudit.Binary64

/-- The distance from the magnitude of a rank to the next one. -/
def spacing (rank : Nat) : Nat := 2 ^ (rank / perBinade - 1)

variable {rank : Nat}

theorem spacing_pos (rank : Nat) : 0 < spacing rank := Nat.two_pow_pos _

theorem unitsPerOne_eq_two_pow : ∃ exponent, exponent = 1074 ∧ unitsPerOne = 2 ^ exponent := by
  refine ⟨179 * 6, by decide, ?_⟩
  rw [unitsPerOne, Nat.pow_eq, Nat.pow_eq, pow_mul]

theorem unitsPerOne_eq : (unitsPerOne : ℚ) = 2 ^ (1074 : ℤ) := by
  obtain ⟨exponent, hexponent, h⟩ := unitsPerOne_eq_two_pow
  have hcast : (exponent : ℤ) = 1074 := by exact_mod_cast hexponent
  rw [← hcast, zpow_natCast, h]
  push_cast
  rfl

theorem unitsPerOne_pos : 0 < unitsPerOne := by decide

theorem cast_unitsPerOne_pos : (0 : ℚ) < unitsPerOne := Nat.cast_pos.mpr unitsPerOne_pos

theorem two_mul_unitsPerOne_pos : (0 : ℚ) < 2 * unitsPerOne :=
  mul_pos two_pos cast_unitsPerOne_pos

theorem units_of_lt (h : rank < perBinade) : units rank = rank := if_pos h

theorem units_add {offset : Nat} (binade : Nat) (h : offset < perBinade) :
    units ((binade + 1) * perBinade + offset) = (perBinade + offset) * 2 ^ binade := by
  have hpos : 0 < perBinade := by decide
  have hge : ¬ (binade + 1) * perBinade + offset < perBinade := by
    rw [Nat.add_mul, Nat.one_mul]
    omega
  have hdiv : ((binade + 1) * perBinade + offset) / perBinade = binade + 1 := by
    rw [Nat.add_comm, Nat.add_mul_div_right _ _ hpos, Nat.div_eq_of_lt h, Nat.zero_add]
  have hmod : ((binade + 1) * perBinade + offset) % perBinade = offset := by
    rw [Nat.add_comm, Nat.add_mul_mod_self_right, Nat.mod_eq_of_lt h]
  rw [units, if_neg hge, hdiv, hmod, Nat.add_sub_cancel]
  rfl

theorem spacing_of_lt (h : rank < perBinade) : spacing rank = 1 := by
  rw [spacing, Nat.div_eq_of_lt h]
  rfl

theorem spacing_add {offset : Nat} (binade : Nat) (h : offset < perBinade) :
    spacing ((binade + 1) * perBinade + offset) = 2 ^ binade := by
  have hpos : 0 < perBinade := by decide
  rw [spacing, Nat.add_comm, Nat.add_mul_div_right _ _ hpos, Nat.div_eq_of_lt h, Nat.zero_add,
    Nat.add_sub_cancel]

/-- A rank is below the first power of two, or at an offset from a later one. -/
theorem rank_cases (rank : Nat) : rank < perBinade ∨
    ∃ binade offset, offset < perBinade ∧ rank = (binade + 1) * perBinade + offset := by
  have hpos : 0 < perBinade := by decide
  rcases Nat.lt_or_ge rank perBinade with h | h
  · exact .inl h
  · refine .inr ⟨rank / perBinade - 1, rank % perBinade, Nat.mod_lt _ hpos, ?_⟩
    have hdiv : 1 ≤ rank / perBinade := (Nat.one_le_div_iff hpos).mpr h
    rw [Nat.sub_add_cancel hdiv, Nat.mul_comm, Nat.div_add_mod]

theorem units_succ (rank : Nat) : units (rank + 1) = units rank + spacing rank := by
  rcases rank_cases rank with h | ⟨binade, offset, h, rfl⟩
  · rw [units_of_lt h, spacing_of_lt h]
    rcases Nat.lt_or_ge (rank + 1) perBinade with hnext | hnext
    · exact units_of_lt hnext
    · obtain rfl : rank = perBinade - 1 := by omega
      rfl
  · rw [units_add binade h, spacing_add binade h, Nat.add_assoc]
    rcases Nat.lt_or_ge (offset + 1) perBinade with hnext | hnext
    · rw [units_add binade hnext]
      ring
    · -- The next magnitude is the first one of the next power of two.
      have hend : (binade + 1) * perBinade + (offset + 1) = (binade + 1 + 1) * perBinade + 0 := by
        rw [Nat.add_mul (binade + 1) 1]
        omega
      obtain rfl : offset = perBinade - 1 := by omega
      rw [hend, units_add (binade + 1) (by decide), perBinade]
      ring

theorem strictMono_units : StrictMono units := by
  refine strictMono_nat_of_lt_succ fun rank => ?_
  have := spacing_pos rank
  rw [units_succ]
  omega

theorem units_zero : units 0 = 0 := rfl

theorem units_pos (h : 0 < rank) : 0 < units rank := by
  rw [← units_zero]
  exact strictMono_units h

theorem units_lt_spacing (rank : Nat) : units rank < 2 ^ 53 * spacing rank := by
  rcases rank_cases rank with h | ⟨binade, offset, h, rfl⟩
  · rw [units_of_lt h, spacing_of_lt h]
    rw [perBinade] at h
    omega
  · rw [units_add binade h, spacing_add binade h]
    refine Nat.mul_lt_mul_of_pos_right ?_ (Nat.two_pow_pos _)
    rw [perBinade] at h ⊢
    omega

theorem spacing_le_units (h : 0 < rank) : spacing rank ≤ units rank := by
  rcases rank_cases rank with hlt | ⟨binade, offset, hlt, rfl⟩
  · rw [units_of_lt hlt, spacing_of_lt hlt]
    exact h
  · rw [units_add binade hlt, spacing_add binade hlt]
    refine Nat.le_mul_of_pos_left _ ?_
    rw [perBinade]
    omega

theorem units_succ_le (h : 0 < rank) : units (rank + 1) ≤ 2 * units rank := by
  have := spacing_le_units h
  rw [units_succ]
  omega

theorem units_binade (binade : Nat) :
    units ((binade + 1) * perBinade) = 2 ^ (binade + 52) := by
  have h : 0 < perBinade := by decide
  have hadd := units_add binade h
  rw [Nat.add_zero, Nat.add_zero] at hadd
  rw [hadd, Nat.pow_add, Nat.mul_comm]
  rfl

theorem log2_units_lt {binade : Nat} (hpos : 0 < rank) (h : rank < (binade + 1) * perBinade) :
    (units rank).log2 < binade + 52 := by
  rw [Nat.log2_lt (units_pos hpos).ne', ← units_binade]
  exact strictMono_units h

/-! ### Rounding natural numbers -/

variable {n : Nat}

theorem roundHalfEven_bounds (num den : Nat) :
    num / den ≤ roundHalfEven num den ∧ roundHalfEven num den ≤ num / den + 1 := by
  rw [roundHalfEven]
  split
  · omega
  · split <;> omega

theorem rankNear_bounds (hn : 52 ≤ n.log2) :
    (n.log2 - 52 + 1) * perBinade ≤ rankNear n 1 ∧
      rankNear n 1 ≤ (n.log2 - 52 + 1 + 1) * perBinade := by
  have hne : n ≠ 0 := by
    rintro rfl
    rw [Nat.log2_zero] at hn
    omega
  have hbinade : perBinade = 2 ^ 52 := rfl
  have hlow : 2 ^ (n.log2 - 52) * perBinade ≤ n := by
    rw [hbinade, ← Nat.pow_add, Nat.sub_add_cancel hn]
    exact Nat.log2_self_le hne
  have hhigh : n < 2 ^ (n.log2 - 52) * (2 * perBinade) := by
    have hpow : 2 ^ (n.log2 - 52) * (2 * perBinade) = 2 ^ (n.log2 + 1) := by
      rw [hbinade, ← Nat.pow_succ', ← Nat.pow_add]
      congr 1
      omega
    exact hpow ▸ Nat.lt_log2_self
  have hquotient : perBinade ≤ n / 2 ^ (n.log2 - 52) ∧
      n / 2 ^ (n.log2 - 52) < 2 * perBinade :=
    ⟨(Nat.le_div_iff_mul_le (Nat.two_pow_pos _)).mpr (by rwa [Nat.mul_comm]),
      Nat.div_lt_of_lt_mul hhigh⟩
  have hround := roundHalfEven_bounds n (2 ^ (n.log2 - 52))
  have hrank : rankNear n 1 =
      (n.log2 - 52) * perBinade + roundHalfEven n (2 ^ (n.log2 - 52)) := by
    rw [rankNear, Nat.div_one, Nat.one_mul]
    rfl
  rw [hrank]
  simp only [Nat.add_mul, Nat.one_mul]
  omega

theorem log2_le_log2_unitsPerOne_mul (hn : 0 < n) :
    ∃ exponent, exponent = 1074 ∧ unitsPerOne = 2 ^ exponent ∧
      exponent ≤ (unitsPerOne * n).log2 := by
  obtain ⟨exponent, hexponent, h⟩ := unitsPerOne_eq_two_pow
  refine ⟨exponent, hexponent, h, ?_⟩
  rw [Nat.le_log2 (Nat.mul_pos unitsPerOne_pos hn).ne', ← h]
  exact Nat.le_mul_of_pos_right _ hn

/-- Rounding keeps a positive number within a factor of two, and never takes it below one. -/
theorem units_rankOfNat_bounds (hn : 0 < n) :
    unitsPerOne ≤ units (rankOfNat n) ∧ units (rankOfNat n) ≤ 2 * (unitsPerOne * n) := by
  obtain ⟨exponent, hexponent, h, hlog⟩ := log2_le_log2_unitsPerOne_mul hn
  obtain ⟨hlow, hhigh⟩ := rankNear_bounds (n := unitsPerOne * n) (by omega)
  have hlow := strictMono_units.monotone hlow
  have hhigh := strictMono_units.monotone hhigh
  have hself : 2 ^ (unitsPerOne * n).log2 ≤ unitsPerOne * n :=
    Nat.log2_self_le (Nat.mul_pos unitsPerOne_pos hn).ne'
  rw [units_binade] at hlow hhigh
  rw [rankOfNat]
  constructor
  · calc unitsPerOne = 2 ^ exponent := h
      _ ≤ 2 ^ ((unitsPerOne * n).log2 - 52 + 52) := Nat.pow_le_pow_right (by decide) (by omega)
      _ ≤ units (rankNear (unitsPerOne * n) 1) := hlow
  · calc units (rankNear (unitsPerOne * n) 1)
        ≤ 2 ^ ((unitsPerOne * n).log2 - 52 + 1 + 52) := hhigh
      _ = 2 ^ ((unitsPerOne * n).log2 + 1) := by
        congr 1
        omega
      _ = 2 * 2 ^ (unitsPerOne * n).log2 := Nat.pow_succ'
      _ ≤ 2 * (unitsPerOne * n) := Nat.mul_le_mul_left 2 hself

theorem rankOfNat_lt (hn : n ≤ 2 ^ 64) : rankOfNat n < rankCount := by
  rcases Nat.eq_zero_or_pos n with rfl | hpos
  · decide
  · obtain ⟨exponent, hexponent, h, hlog⟩ := log2_le_log2_unitsPerOne_mul hpos
    have hupper : (unitsPerOne * n).log2 < exponent + 65 := by
      rw [Nat.log2_lt (Nat.mul_pos unitsPerOne_pos hpos).ne', h, Nat.pow_add]
      exact Nat.mul_lt_mul_of_pos_left (by omega) (Nat.two_pow_pos _)
    have hrank := (rankNear_bounds (n := unitsPerOne * n) (by omega)).2
    have hbinades : ((unitsPerOne * n).log2 - 52 + 1 + 1) * perBinade < rankCount :=
      Nat.mul_lt_mul_of_pos_right (by omega) (by decide)
    rw [rankOfNat]
    exact hrank.trans_lt hbinades

end TemplateAudit.Binary64
