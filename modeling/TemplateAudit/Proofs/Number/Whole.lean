import TemplateAudit.Proofs.Number.Shortest

/-! # Whole numbers are written as they are

Every whole number up to 2^53 is a magnitude, so below 2^53 the midpoints around one keep all other
whole numbers out. The grid of the whole numbers is tried before any finer one and has the number
itself, and a decimal of a coarser grid is a whole number, too. The decimal of another magnitude
lies on the same side of the number as the magnitude does.
-/

namespace TemplateAudit.Binary64

variable {rank other n m : Nat}

/-! ### Whole numbers are magnitudes -/

theorem units_of_le (h : rank ≤ 2 * perBinade) : units rank = rank := by
  have hpos : 0 < perBinade := by decide
  rcases Nat.lt_or_ge rank perBinade with hlt | hge
  · exact units_of_lt hlt
  · obtain ⟨offset, rfl⟩ := Nat.exists_eq_add_of_le hge
    rcases Nat.lt_or_ge offset perBinade with hlt | hge
    · have hadd := units_add 0 hlt
      rwa [Nat.zero_add, Nat.one_mul, pow_zero, Nat.mul_one] at hadd
    · obtain rfl : offset = perBinade := by omega
      have hbinade := units_binade 1
      rwa [Nat.add_mul, Nat.one_mul] at hbinade

theorem exists_units_double (rank : Nat) : ∃ double, units double = 2 * units rank := by
  rcases rank_cases rank with h | ⟨binade, offset, h, rfl⟩
  · exact ⟨2 * rank, by rw [units_of_le (by omega), units_of_lt h]⟩
  · refine ⟨(binade + 1 + 1) * perBinade + offset, ?_⟩
    rw [units_add _ h, units_add _ h, pow_succ]
    ring

theorem exists_units_mul_two_pow (hm : m ≤ 2 ^ 53) (exponent : Nat) :
    ∃ rank, units rank = m * 2 ^ exponent := by
  induction exponent with
  | zero =>
    refine ⟨m, ?_⟩
    rw [units_of_le hm, pow_zero, Nat.mul_one]
  | succ exponent ih =>
    obtain ⟨rank, hrank⟩ := ih
    obtain ⟨double, hdouble⟩ := exists_units_double rank
    refine ⟨double, ?_⟩
    rw [hdouble, hrank, pow_succ]
    ring

theorem exists_units_eq (hn : n ≤ 2 ^ 53) :
    ∃ rank, rank < rankCount ∧ units rank = n * unitsPerOne := by
  obtain ⟨exponent, hexponent, h⟩ := unitsPerOne_eq_two_pow
  obtain ⟨binade, hbinade, hcount⟩ :
      ∃ binade, binade = 2046 ∧ rankCount = (binade + 1) * perBinade := ⟨2046, rfl, rfl⟩
  obtain ⟨rank, hrank⟩ := exists_units_mul_two_pow hn exponent
  refine ⟨rank, ?_, by rw [hrank, h]⟩
  rw [← strictMono_units.lt_iff_lt, hrank, hcount, units_binade]
  calc n * 2 ^ exponent ≤ 2 ^ 53 * 2 ^ exponent := Nat.mul_le_mul_right _ hn
    _ = 2 ^ (53 + exponent) := (pow_add ..).symm
    _ < 2 ^ (binade + 52) := Nat.pow_lt_pow_right (by decide) (by omega)

/-! ### Decimals next to magnitudes -/

section Sides

variable (hrank : 0 < rank) (hfinite : rank < rankCount)

include hrank hfinite

theorem value_shortest_lt_magnitude (hlt : rank < other) :
    (shortest rank).value < units other / unitsPerOne := by
  have hself : (units rank : ℚ) < units (rank + 1) := by
    exact_mod_cast strictMono_units rank.lt_succ_self
  have hnext : (units (rank + 1) : ℚ) ≤ units other := by
    exact_mod_cast strictMono_units.monotone hlt
  refine (shortest_bounds hrank hfinite).2.trans_lt ?_
  rw [midpoint, ← div_div]
  exact div_lt_div_of_pos_right (by linarith) cast_unitsPerOne_pos

theorem magnitude_lt_value_shortest (hlt : other < rank) :
    units other / unitsPerOne < (shortest rank).value := by
  have hself : (units (rank - 1) : ℚ) < units rank := by
    exact_mod_cast strictMono_units (Nat.sub_lt hrank one_pos)
  have hprev : (units other : ℚ) ≤ units (rank - 1) := by
    exact_mod_cast strictMono_units.monotone (Nat.le_sub_one_of_lt hlt)
  refine lt_of_lt_of_le ?_ (shortest_bounds hrank hfinite).1
  rw [midpoint, Nat.sub_add_cancel hrank, ← div_div]
  exact div_lt_div_of_pos_right (by linarith) cast_unitsPerOne_pos

end Sides

/-! ### The decimals of whole numbers -/

theorem cast_units_div (h : units rank = n * unitsPerOne) :
    (units rank : ℚ) / unitsPerOne = n := by
  rw [h, Nat.cast_mul, mul_div_cancel_right₀ _ cast_unitsPerOne_pos.ne']

section Whole

variable (hn : 0 < n) (hlt : n < 2 ^ 53) (hfinite : rank < rankCount)
  (h : units rank = n * unitsPerOne)

include hn h

theorem rank_pos_of_whole : 0 < rank := by
  rw [← strictMono_units.lt_iff_lt, units_zero, h]
  exact Nat.mul_pos hn unitsPerOne_pos

theorem isSome_onGrid?_of_whole :
    (onGrid? rank (gridStep 0).1 (gridStep 0).2).isSome = true := by
  have hrank := rank_pos_of_whole hn h
  have hprev := strictMono_units (Nat.sub_lt hrank one_pos)
  have hnext := strictMono_units (Nat.lt_add_one rank)
  have hstep : gridStep 0 = (2 * unitsPerOne, 1) := rfl
  have hpoint : 2 * units rank / (2 * unitsPerOne) = n := by
    rw [h, Nat.mul_div_mul_left _ _ two_pos, Nat.mul_div_cancel _ unitsPerOne_pos]
  refine isSome_onGrid? (.inl ?_)
  rw [hstep, Nat.mul_one, hpoint, readsBack]
  have hself : n * (2 * unitsPerOne) = 2 * units rank := by
    rw [h]
    ring
  rw [hself]
  split <;> simp only [Bool.and_eq_true, decide_eq_true_eq] <;> omega

include hlt

theorem coarseExponent_of_whole :
    0 ≤ coarseExponent rank ∧ coarseExponent rank < 25 := by
  obtain ⟨exponent, hexponent, hunit, hlow⟩ := log2_le_log2_unitsPerOne_mul hn
  have hhigh : (unitsPerOne * n).log2 < exponent + 53 := by
    rw [Nat.log2_lt (Nat.mul_pos unitsPerOne_pos hn).ne', hunit, Nat.pow_add]
    exact Nat.mul_lt_mul_of_pos_left hlt (Nat.two_pow_pos _)
  rw [coarseExponent, h, Nat.mul_comm]
  omega

theorem exponent_shortest_nonneg : 0 ≤ (shortest rank).exponent := by
  obtain ⟨hlow, hhigh⟩ := coarseExponent_of_whole hn hlt h
  obtain ⟨i, hi⟩ := Int.eq_ofNat_of_zero_le hlow
  have hzero : coarseExponent rank - i = 0 := by omega
  have hsome := isSome_onGrid?_of_whole hn h
  rw [← hzero] at hsome ⊢
  exact (readsBackAs_search (by omega) hsome).2

include hfinite

theorem value_shortest_of_whole : (shortest rank).value = n := by
  have hrank := rank_pos_of_whole hn h
  obtain ⟨prev, -, hprev⟩ := exists_units_eq (n := n - 1) (by omega)
  obtain ⟨next, -, hnext⟩ := exists_units_eq (n := n + 1) hlt
  have hprevlt : prev < rank := by
    rw [← strictMono_units.lt_iff_lt, hprev, h]
    exact Nat.mul_lt_mul_of_pos_right (Nat.sub_lt hn one_pos) unitsPerOne_pos
  have hnextlt : rank < next := by
    rw [← strictMono_units.lt_iff_lt, hnext, h]
    exact Nat.mul_lt_mul_of_pos_right n.lt_succ_self unitsPerOne_pos
  have hlow := magnitude_lt_value_shortest hrank hfinite hprevlt
  have hhigh := value_shortest_lt_magnitude hrank hfinite hnextlt
  rw [cast_units_div hprev] at hlow
  rw [cast_units_div hnext] at hhigh
  obtain ⟨e, he⟩ := Int.eq_ofNat_of_zero_le (exponent_shortest_nonneg hn hlt h)
  rw [Scaled.value, he, zpow_natCast] at hlow hhigh ⊢
  have hlow : n - 1 < (shortest rank).digits * 10 ^ e := by exact_mod_cast hlow
  have hhigh : (shortest rank).digits * 10 ^ e < n + 1 := by exact_mod_cast hhigh
  have heq : (shortest rank).digits * 10 ^ e = n := by omega
  exact_mod_cast heq

end Whole

/-- A whole number lies on the same side of a magnitude and of its decimal, if one of the two is
below 2^53. -/
theorem compare_value_shortest (hn : 0 < n) (hrank : 0 < rank) (hfinite : rank < rankCount)
    (h : n < 2 ^ 53 ∨ units rank < 2 ^ 53 * unitsPerOne) :
    compare (n : ℚ) (shortest rank).value = compare (n * unitsPerOne) (units rank) := by
  rcases Nat.lt_or_ge n (2 ^ 53) with hlt | hge
  · obtain ⟨whole, hwholeFinite, hwhole⟩ := exists_units_eq hlt.le
    rw [← hwhole, ← cast_units_div hwhole]
    rcases lt_trichotomy whole rank with hside | rfl | hside
    · rw [compare_lt_iff_lt.mpr (magnitude_lt_value_shortest hrank hfinite hside),
        compare_lt_iff_lt.mpr (strictMono_units hside)]
    · rw [value_shortest_of_whole hn hlt hfinite hwhole, cast_units_div hwhole,
        compare_eq_iff_eq.mpr rfl, compare_eq_iff_eq.mpr rfl]
    · rw [compare_gt_iff_gt.mpr (value_shortest_lt_magnitude hrank hfinite hside),
        compare_gt_iff_gt.mpr (strictMono_units hside)]
  · have hsmall := h.resolve_left (Nat.not_lt.mpr hge)
    obtain ⟨whole, -, hwhole⟩ := exists_units_eq (n := 2 ^ 53) le_rfl
    have hside : rank < whole := by rwa [← strictMono_units.lt_iff_lt, hwhole]
    have hvalue := value_shortest_lt_magnitude hrank hfinite hside
    rw [cast_units_div hwhole] at hvalue
    have hge' : ((2 ^ 53 : Nat) : ℚ) ≤ n := by exact_mod_cast hge
    rw [compare_gt_iff_gt.mpr (hvalue.trans_le hge'),
      compare_gt_iff_gt.mpr (hsmall.trans_le (Nat.mul_le_mul_right _ hge))]

end TemplateAudit.Binary64
