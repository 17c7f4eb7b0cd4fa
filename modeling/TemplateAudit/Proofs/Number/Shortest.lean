import Mathlib.Algebra.Order.Field.Power
import Mathlib.Tactic.Linarith
import Mathlib.Tactic.LinearCombination
import TemplateAudit.Number.Shortest
import TemplateAudit.Proofs.Number.Ranks

/-! # The shortest decimal lies next to its number

The search for the shortest decimal of a magnitude ends within its bound, which leads to grids
finer than the spacing of the magnitudes. The decimal that is found lies between the midpoints to
the two neighbours, and two neighbours never share one, so decimals are ordered as the numbers they
are written for.
-/

namespace TemplateAudit

def Scaled.value (s : Scaled) : ℚ := s.digits * 10 ^ s.exponent

/-- Powers of ten against powers of two, through `10 ^ 3 ≤ 2 ^ 10` and `2 ^ 33 ≤ 10 ^ 10`. -/
theorem ten_zpow_le_two_zpow {k n : ℤ} (hup : 10 * k ≤ 3 * n) (hdown : 33 * k ≤ 10 * n) :
    (10 : ℚ) ^ k ≤ 2 ^ n := by
  rcases le_total 0 k with hk | hk
  · have hcube : ((10 : ℚ) ^ k) ^ 3 ≤ (2 ^ n) ^ 3 := by
      calc ((10 : ℚ) ^ k) ^ 3 = (10 ^ 3) ^ k := by rw [← zpow_natCast, zpow_comm, zpow_natCast]
        _ ≤ (2 ^ 10) ^ k := zpow_le_zpow_left₀ hk (by norm_num) (by norm_num)
        _ = 2 ^ (10 * k) := by rw [← zpow_natCast, ← zpow_mul, Nat.cast_ofNat]
        _ ≤ 2 ^ (n * 3) := zpow_le_zpow_right₀ (by norm_num) (by omega)
        _ = (2 ^ n) ^ 3 := by rw [zpow_mul]; norm_cast
    exact le_of_pow_le_pow_left₀ (by norm_num) (by positivity) hcube
  · have hinv : ((10 : ℚ) ^ 10) ^ k ≤ (2 ^ 33) ^ k := by
      have hpos : ((2 : ℚ) ^ 33) ^ (-k) ≤ (10 ^ 10) ^ (-k) :=
        zpow_le_zpow_left₀ (by omega) (by norm_num) (by norm_num)
      rw [zpow_neg, zpow_neg] at hpos
      exact (inv_le_inv₀ (by positivity) (by positivity)).mp hpos
    have htenth : ((10 : ℚ) ^ k) ^ 10 ≤ (2 ^ n) ^ 10 := by
      calc ((10 : ℚ) ^ k) ^ 10 = (10 ^ 10) ^ k := by rw [← zpow_natCast, zpow_comm, zpow_natCast]
        _ ≤ (2 ^ 33) ^ k := hinv
        _ = 2 ^ (33 * k) := by rw [← zpow_natCast, ← zpow_mul, Nat.cast_ofNat]
        _ ≤ 2 ^ (n * 10) := zpow_le_zpow_right₀ (by norm_num) (by omega)
        _ = (2 ^ n) ^ 10 := by rw [zpow_mul]; norm_cast
    exact le_of_pow_le_pow_left₀ (by norm_num) (by positivity) htenth

theorem two_zpow_le_ten_zpow {k n : ℤ} (hup : 10 * n ≤ 33 * k) (hdown : 3 * n ≤ 10 * k) :
    (2 : ℚ) ^ n ≤ 10 ^ k := by
  have h := ten_zpow_le_two_zpow (k := -k) (n := -n) (by omega) (by omega)
  rw [zpow_neg, zpow_neg] at h
  exact (inv_le_inv₀ (by positivity) (by positivity)).mp h

namespace Binary64

variable {rank other m num den digits : Nat} {e : ℤ}

def midpoint (rank : Nat) : ℚ := (units rank + units (rank + 1)) / (2 * unitsPerOne)

theorem midpoint_le_midpoint (h : rank ≤ other) : midpoint rank ≤ midpoint other := by
  have hlow : (units rank : ℚ) ≤ units other := by
    exact_mod_cast strictMono_units.monotone h
  have hhigh : (units (rank + 1) : ℚ) ≤ units (other + 1) := by
    exact_mod_cast strictMono_units.monotone (Nat.succ_le_succ h)
  rw [midpoint, midpoint, div_le_div_iff_of_pos_right two_mul_unitsPerOne_pos]
  exact add_le_add hlow hhigh

theorem gridStep_den_pos (e : ℤ) : 0 < (gridStep e).2 := Nat.pow_pos (by decide)

theorem gridStep_num_pos (e : ℤ) : 0 < (gridStep e).1 :=
  Nat.mul_pos (Nat.mul_pos two_pos unitsPerOne_pos) (Nat.pow_pos (by decide))

theorem gridStep_eq (e : ℤ) :
    ((gridStep e).1 : ℚ) = 10 ^ e * (2 * unitsPerOne) * (gridStep e).2 := by
  rcases le_total 0 e with he | he
  · obtain ⟨n, rfl⟩ := Int.eq_ofNat_of_zero_le he
    simp only [gridStep, Int.toNat_neg_natCast, Int.toNat_natCast, Nat.pow_eq, zpow_natCast]
    generalize unitsPerOne = unit
    push_cast
    ring
  · obtain ⟨n, hn⟩ := Int.eq_ofNat_of_zero_le (Int.neg_nonneg_of_nonpos he)
    obtain rfl : e = -n := by omega
    have hcancel : (10 : ℚ) ^ (-(n : ℤ)) * 10 ^ n = 1 := by
      rw [zpow_neg, zpow_natCast]
      exact inv_mul_cancel₀ (by positivity)
    simp only [gridStep, Int.toNat_neg_natCast, Int.neg_neg, Int.toNat_natCast, Nat.pow_eq]
    generalize unitsPerOne = unit
    push_cast
    linear_combination -(2 * (unit : ℚ)) * hcancel

/-- What reads back lies between two midpoints, which it can be only for an even rank. -/
theorem readsBack_iff (hrank : 0 < rank) :
    readsBack rank m (gridStep e).1 (gridStep e).2 = true ↔
      if rank % 2 = 0 then midpoint (rank - 1) ≤ m * 10 ^ e ∧ m * 10 ^ e ≤ midpoint rank
      else midpoint (rank - 1) < m * 10 ^ e ∧ m * 10 ^ e < midpoint rank := by
  have hden : (0 : ℚ) < (gridStep e).2 := by exact_mod_cast gridStep_den_pos e
  have hstep : (m : ℚ) * (gridStep e).1 = m * 10 ^ e * (2 * unitsPerOne) * (gridStep e).2 := by
    rw [gridStep_eq]
    ring
  rw [midpoint, midpoint, Nat.sub_add_cancel hrank, readsBack]
  split
  · rw [div_le_iff₀ two_mul_unitsPerOne_pos, le_div_iff₀ two_mul_unitsPerOne_pos, Bool.and_eq_true,
      decide_eq_true_eq, decide_eq_true_eq]
    refine and_congr ?_ ?_ <;>
      rw [← mul_le_mul_iff_of_pos_right hden, ← hstep] <;> exact_mod_cast Iff.rfl
  · rw [div_lt_iff₀ two_mul_unitsPerOne_pos, lt_div_iff₀ two_mul_unitsPerOne_pos, Bool.and_eq_true,
      decide_eq_true_eq, decide_eq_true_eq]
    refine and_congr ?_ ?_ <;>
      rw [← mul_lt_mul_iff_of_pos_right hden, ← hstep] <;> exact_mod_cast Iff.rfl

theorem bounds_of_readsBack (hrank : 0 < rank)
    (h : readsBack rank m (gridStep e).1 (gridStep e).2 = true) :
    midpoint (rank - 1) ≤ m * 10 ^ e ∧ m * 10 ^ e ≤ midpoint rank := by
  rw [readsBack_iff hrank] at h
  split at h
  · exact h
  · exact ⟨h.1.le, h.2.le⟩

theorem onGrid?_eq (rank num den : Nat) : ∃ first second,
    (first = 2 * units rank * den / num + 1 ∧ second = 2 * units rank * den / num ∨
      first = 2 * units rank * den / num ∧ second = 2 * units rank * den / num + 1) ∧
      onGrid? rank num den =
        if readsBack rank first num den then some first
        else if readsBack rank second num den then some second
        else none := by
  rw [onGrid?]
  dsimp only
  split
  · exact ⟨_, _, .inl ⟨rfl, rfl⟩, rfl⟩
  · exact ⟨_, _, .inr ⟨rfl, rfl⟩, rfl⟩

theorem readsBack_of_onGrid? (h : onGrid? rank num den = some digits) :
    readsBack rank digits num den = true := by
  obtain ⟨first, second, -, heq⟩ := onGrid?_eq rank num den
  rw [heq] at h
  split at h
  · next hfirst => exact Option.some.inj h ▸ hfirst
  · split at h
    · next hsecond => exact Option.some.inj h ▸ hsecond
    · exact nomatch h

theorem readsBack_above (hnum : 0 < num) (hfine : num < spacing rank * den) :
    readsBack rank (2 * units rank * den / num + 1) num den = true := by
  have hprev : units (rank - 1) ≤ units rank := strictMono_units.monotone (Nat.sub_le rank 1)
  have hlow : (units (rank - 1) + units rank) * den ≤ 2 * units rank * den :=
    Nat.mul_le_mul_right den (by omega)
  have hhigh : (units rank + units (rank + 1)) * den =
      2 * units rank * den + spacing rank * den := by
    rw [units_succ]
    ring
  have hdiv := Nat.div_add_mod (2 * units rank * den) num
  have hmod := Nat.mod_lt (2 * units rank * den) hnum
  have hpoint : (2 * units rank * den / num + 1) * num =
      num * (2 * units rank * den / num) + num := by ring
  rw [readsBack, hhigh, hpoint]
  split <;> simp only [Bool.and_eq_true, decide_eq_true_eq] <;> omega

theorem isSome_onGrid? (h : readsBack rank (2 * units rank * den / num) num den = true ∨
    readsBack rank (2 * units rank * den / num + 1) num den = true) :
    (onGrid? rank num den).isSome = true := by
  obtain ⟨first, second, hpoints, heq⟩ := onGrid?_eq rank num den
  have hor : readsBack rank first num den = true ∨ readsBack rank second num den = true := by
    rcases hpoints with ⟨rfl, rfl⟩ | ⟨rfl, rfl⟩
    · exact h.symm
    · exact h
  rw [heq]
  split
  · rfl
  · next hfirst =>
    rw [if_pos (hor.resolve_left hfirst)]
    rfl

def FineAt (rank : Nat) (e : ℤ) : Prop := (gridStep e).1 < spacing rank * (gridStep e).2

def ReadsBackAs (rank : Nat) (s : Scaled) : Prop :=
  readsBack rank s.digits (gridStep s.exponent).1 (gridStep s.exponent).2 = true

theorem search_succ (rank fuel : Nat) (e : ℤ) : search rank (fuel + 1) e =
    (onGrid? rank (gridStep e).1 (gridStep e).2).elim (search rank fuel (e - 1)) (⟨·, e⟩) := by
  cases h : gridStep e with
  | mk num den =>
    simp only [search, h]
    cases onGrid? rank num den <;> rfl

theorem FineAt.isSome (h : FineAt rank e) :
    (onGrid? rank (gridStep e).1 (gridStep e).2).isSome = true :=
  isSome_onGrid? (.inr (readsBack_above (gridStep_num_pos e) h))

/-- A search that reaches a grid with a decimal that reads back finds one there or before. -/
theorem readsBackAs_search {fuel i : Nat} (hi : i < fuel)
    (hsome : (onGrid? rank (gridStep (e - i)).1 (gridStep (e - i)).2).isSome = true) :
    ReadsBackAs rank (search rank fuel e) ∧ e - i ≤ (search rank fuel e).exponent := by
  induction fuel generalizing e i with
  | zero => exact absurd hi (Nat.not_lt_zero i)
  | succ fuel ih =>
    rw [search_succ]
    cases hgrid : onGrid? rank (gridStep e).1 (gridStep e).2 with
    | some digits => exact ⟨readsBack_of_onGrid? hgrid, Int.sub_le_self e (Int.natCast_nonneg i)⟩
    | none =>
      cases i with
      | zero =>
        rw [Nat.cast_zero, Int.sub_zero, hgrid] at hsome
        exact nomatch hsome
      | succ i =>
        have hnext : e - (i + 1 : Nat) = e - 1 - i := by
          push_cast
          ring
        rw [hnext] at hsome ⊢
        exact ih (Nat.lt_of_succ_lt_succ hi) hsome

/-! ### The bound of the search -/

theorem two_zpow_log2_le (hrank : 0 < rank) :
    (2 : ℚ) ^ ((units rank).log2 : ℤ) ≤ units rank := by
  rw [zpow_natCast]
  exact_mod_cast Nat.log2_self_le (units_pos hrank).ne'

theorem units_lt_two_zpow_log2 (rank : Nat) :
    (units rank : ℚ) < 2 ^ (((units rank).log2 : ℤ) + 1) := by
  have h : units rank < 2 ^ ((units rank).log2 + 1) := Nat.lt_log2_self
  exact_mod_cast h

theorem coarseExponent_bounds (hrank : 0 < rank) (hfinite : rank < rankCount) :
    (10 : ℚ) ^ (coarseExponent rank - 20) ≤ 2 ^ (((units rank).log2 : ℤ) - 1128) ∧
      (2 : ℚ) ^ (((units rank).log2 : ℤ) - 1072) ≤ 10 ^ (coarseExponent rank + 3) := by
  have hlog : (units rank).log2 < 2046 + 52 := log2_units_lt hrank hfinite
  rw [coarseExponent]
  exact ⟨ten_zpow_le_two_zpow (by omega) (by omega), two_zpow_le_ten_zpow (by omega) (by omega)⟩

theorem fineAt_reached (hrank : 0 < rank) (hfinite : rank < rankCount) :
    FineAt rank (coarseExponent rank - (20 : Nat)) := by
  obtain ⟨hgrid, -⟩ := coarseExponent_bounds hrank hfinite
  have hspacing : (2 : ℚ) ^ ((units rank).log2 : ℤ) < 2 ^ (53 : ℤ) * spacing rank := by
    have h : (units rank : ℚ) < 2 ^ 53 * spacing rank := by exact_mod_cast units_lt_spacing rank
    exact (two_zpow_log2_le hrank).trans_lt (by exact_mod_cast h)
  have hstep : (10 : ℚ) ^ (coarseExponent rank - 20) * (2 * unitsPerOne) < spacing rank := by
    rw [unitsPerOne_eq, ← zpow_one_add₀ two_ne_zero]
    calc (10 : ℚ) ^ (coarseExponent rank - 20) * 2 ^ (1 + 1074 : ℤ)
        ≤ 2 ^ (((units rank).log2 : ℤ) - 1128) * 2 ^ (1 + 1074 : ℤ) := by gcongr
      _ = 2 ^ ((units rank).log2 : ℤ) * 2 ^ (-53 : ℤ) := by
        rw [← zpow_add₀ two_ne_zero, ← zpow_add₀ two_ne_zero]
        congr 1
        ring
      _ < 2 ^ (53 : ℤ) * spacing rank * 2 ^ (-53 : ℤ) := by gcongr
      _ = spacing rank := by
        rw [mul_right_comm, ← zpow_add₀ two_ne_zero]
        norm_num
  have hden : (0 : ℚ) < (gridStep (coarseExponent rank - 20)).2 := by
    exact_mod_cast gridStep_den_pos _
  have hcast : ((gridStep (coarseExponent rank - 20)).1 : ℚ) <
      spacing rank * (gridStep (coarseExponent rank - 20)).2 := by
    rw [gridStep_eq]
    exact mul_lt_mul_of_pos_right hstep hden
  exact_mod_cast hcast

theorem midpoint_lt_two_zpow (hrank : 0 < rank) :
    midpoint rank < 2 ^ (((units rank).log2 : ℤ) - 1072) := by
  have hnext : (units (rank + 1) : ℚ) ≤ 2 * units rank := by exact_mod_cast units_succ_le hrank
  have hunits := units_lt_two_zpow_log2 rank
  have hpos : (0 : ℚ) < 2 ^ (((units rank).log2 : ℤ) + 1) := by positivity
  have hpow : (2 : ℚ) ^ (((units rank).log2 : ℤ) - 1072) * (2 * 2 ^ (1074 : ℤ)) =
      4 * 2 ^ (((units rank).log2 : ℤ) + 1) := by
    have hfour : (4 : ℚ) = 2 ^ (2 : ℤ) := by norm_num
    rw [hfour, ← zpow_one_add₀ two_ne_zero, ← zpow_add₀ two_ne_zero, ← zpow_add₀ two_ne_zero]
    congr 1
    ring
  rw [midpoint, div_lt_iff₀ two_mul_unitsPerOne_pos, unitsPerOne_eq, hpow]
  linarith

variable (hrank : 0 < rank) (hfinite : rank < rankCount)

include hrank hfinite

theorem readsBackAs_shortest : ReadsBackAs rank (shortest rank) ∧
    coarseExponent rank - 20 ≤ (shortest rank).exponent :=
  readsBackAs_search (by decide) (fineAt_reached hrank hfinite).isSome

/-- The decimal that a magnitude is written as lies between the midpoints to its neighbours. -/
theorem shortest_bounds : midpoint (rank - 1) ≤ (shortest rank).value ∧
    (shortest rank).value ≤ midpoint rank :=
  bounds_of_readsBack hrank (readsBackAs_shortest hrank hfinite).1

theorem value_shortest_pos : 0 < (shortest rank).value := by
  have hunits : (0 : ℚ) < units rank := by exact_mod_cast units_pos hrank
  refine lt_of_lt_of_le ?_ (shortest_bounds hrank hfinite).1
  rw [midpoint, Nat.sub_add_cancel hrank]
  exact div_pos (by positivity) two_mul_unitsPerOne_pos

theorem digits_shortest_pos : 0 < (shortest rank).digits := by
  have h := value_shortest_pos hrank hfinite
  rw [Scaled.value] at h
  exact_mod_cast pos_of_mul_pos_left h (by positivity)

theorem digits_shortest_lt : (shortest rank).digits < 10 ^ 23 := by
  obtain ⟨-, hexponent⟩ := readsBackAs_shortest hrank hfinite
  obtain ⟨-, hcoarse⟩ := coarseExponent_bounds hrank hfinite
  have hvalue : (shortest rank).value < 10 ^ (23 : ℤ) * 10 ^ (shortest rank).exponent := by
    calc (shortest rank).value ≤ midpoint rank := (shortest_bounds hrank hfinite).2
      _ < 2 ^ (((units rank).log2 : ℤ) - 1072) := midpoint_lt_two_zpow hrank
      _ ≤ 10 ^ (coarseExponent rank + 3) := hcoarse
      _ ≤ 10 ^ (23 + (shortest rank).exponent) :=
        zpow_le_zpow_right₀ (by norm_num) (by omega)
      _ = 10 ^ (23 : ℤ) * 10 ^ (shortest rank).exponent := zpow_add₀ (by norm_num) _ _
  rw [Scaled.value] at hvalue
  have hdigits := lt_of_mul_lt_mul_right hvalue (by positivity)
  exact_mod_cast hdigits

omit hrank in
theorem value_shortest_le (hother : 0 < other) (hle : other ≤ rank) :
    (shortest other).value ≤ (shortest rank).value := by
  rcases Nat.eq_or_lt_of_le hle with rfl | hlt
  · exact le_rfl
  · calc (shortest other).value
        ≤ midpoint other := (shortest_bounds hother (hle.trans_lt hfinite)).2
      _ ≤ midpoint (rank - 1) := midpoint_le_midpoint (by omega)
      _ ≤ (shortest rank).value := (shortest_bounds (by omega) hfinite).1

omit hfinite in
/-- Of two neighbours only the even one reads back from the midpoint between them. -/
theorem value_shortest_lt_succ (hfinite : rank + 1 < rankCount) :
    (shortest rank).value < (shortest (rank + 1)).value := by
  have hreads := (readsBackAs_shortest hrank (Nat.lt_of_succ_lt hfinite)).1
  have hreads' := (readsBackAs_shortest rank.succ_pos hfinite).1
  rw [ReadsBackAs, readsBack_iff hrank] at hreads
  rw [ReadsBackAs, readsBack_iff rank.succ_pos, Nat.succ_eq_add_one, Nat.add_sub_cancel] at hreads'
  rw [Scaled.value, Scaled.value]
  rcases Nat.mod_two_eq_zero_or_one rank with heven | hodd
  · rw [if_pos heven] at hreads
    rw [if_neg (by omega)] at hreads'
    exact hreads.2.trans_lt hreads'.1
  · rw [if_neg (by omega)] at hreads
    rw [if_pos (by omega)] at hreads'
    exact hreads.2.trans_le hreads'.1

omit hrank in
theorem value_shortest_lt (hother : 0 < other) (hlt : other < rank) :
    (shortest other).value < (shortest rank).value :=
  (value_shortest_lt_succ hother (Nat.lt_of_le_of_lt hlt hfinite)).trans_le
    (value_shortest_le hfinite other.succ_pos hlt)

end Binary64

end TemplateAudit
