import TemplateAudit.Operator
import TemplateAudit.Proofs.Number.Decimals

/-! # The order of numbers

Numbers are compared by two orders, as decimals and as binary numbers. The numbers without a
decimal lie between zero and all others of their sign, or beyond all others, and their binary
order says so too. So the two orders are parts of one, in which numbers are compared first by
whether they are beyond the decimals, then by their decimals and last as binary numbers.
-/

namespace TemplateAudit

theorem compare_map {α β : Type} [LinearOrder α] [LinearOrder β] {f : α → β} (hf : StrictMono f)
    (a b : α) : compare (f a) (f b) = compare a b := by
  rw [← cmp_eq_compare, ← cmp_eq_compare, hf.cmp_map_eq]

namespace Binary64

variable {rank : Nat}

theorem units_lt_of_value_lt (hrank : 0 < rank) (hfinite : rank < rankCount)
    (h : (shortest rank).value < 10 ^ (-28 : ℤ)) : units rank < unitsPerOne := by
  have htiny : (10 : ℚ) ^ (-28 : ℤ) ≤ 1 / 2 := by norm_num
  have hmid := (shortest_bounds hrank hfinite).1.trans_lt (h.trans_le htiny)
  rw [midpoint, Nat.sub_add_cancel hrank, div_lt_iff₀ two_mul_unitsPerOne_pos] at hmid
  have hprev : (0 : ℚ) ≤ units (rank - 1) := Nat.cast_nonneg _
  have hlt : (units rank : ℚ) < unitsPerOne := by linarith
  exact_mod_cast hlt

theorem lt_units_of_lt_value (hrank : 0 < rank) (hfinite : rank < rankCount)
    (h : (Decimal.maxCoefficient : ℚ) < (shortest rank).value) :
    unitsPerOne * 2 ^ 65 < units rank := by
  have hmax : (2 : ℚ) ^ 66 ≤ Decimal.maxCoefficient := by norm_num [Decimal.maxCoefficient]
  have hmid := hmax.trans_lt (h.trans_le (shortest_bounds hrank hfinite).2)
  rw [midpoint, lt_div_iff₀ two_mul_unitsPerOne_pos] at hmid
  have hnext : (units (rank + 1) : ℚ) ≤ 2 * units rank := by exact_mod_cast units_succ_le hrank
  have hunit : (0 : ℚ) < 2 * unitsPerOne := two_mul_unitsPerOne_pos
  have hlt : (unitsPerOne : ℚ) * 2 ^ 65 < units rank := by linarith
  exact_mod_cast hlt

theorem rank_lt_of_value_lt {other : Nat} (hother : 0 < other) (hfinite : rank < rankCount)
    (h : (shortest rank).value < (shortest other).value) : rank < other := by
  by_contra hle
  exact (value_shortest_le hfinite hother (not_lt.mp hle)).not_gt h

variable {x : Binary64}

theorem natAbs_toUnits (x : Binary64) : x.toUnits.natAbs = units x.rank := by
  rw [toUnits]
  split <;> omega

theorem toUnits_of_isZero (hx : x.isZero = true) : x.toUnits = 0 := by
  rw [isZero, decide_eq_true_eq] at hx
  rw [toUnits, hx, units_zero]
  split <;> rfl

theorem isZero_of_toUnits_ne_zero (hne : x.toUnits ≠ 0) : x.isZero = false := by
  rw [← Bool.not_eq_true]
  exact fun hx => hne (toUnits_of_isZero hx)

theorem sign_toUnits (hx : 0 < x.rank) : x.toUnits.sign = if x.negative then -1 else 1 := by
  have h : (0 : ℤ) < units x.rank := by exact_mod_cast units_pos hx
  rw [toUnits]
  split
  · exact Int.sign_eq_neg_one_of_neg (neg_neg_of_pos h)
  · exact Int.sign_eq_one_of_pos h

end Binary64

namespace Number

open Binary64 (unitsPerOne unitsPerOne_pos units units_zero units_pos strictMono_units shortest)

variable {a b : Number} {d : Decimal} {x : Binary64} {n : ℤ}
  {h : -9223372036854775808 ≤ n ∧ n < 18446744073709551616}

/-! ### Decimal and binary numbers of one number -/

theorem natAbs_binaryUnits_integer (h : -9223372036854775808 ≤ n ∧ n < 18446744073709551616) :
    (integer n h).binaryUnits.natAbs = units (Binary64.rankOfNat n.natAbs) := by
  rw [binaryUnits]
  split <;> omega

theorem binaryUnits_integer_zero (h : -9223372036854775808 ≤ (0 : ℤ) ∧
    (0 : ℤ) < 18446744073709551616) : (integer 0 h).binaryUnits = 0 := by
  have hzero : units (Binary64.rankOfNat 0) = 0 := by decide
  rw [← Int.natAbs_eq_zero, natAbs_binaryUnits_integer, Int.natAbs_zero, hzero]

theorem ne_zero_of_binaryUnits_ne_zero (hne : (integer n h).binaryUnits ≠ 0) : n ≠ 0 := by
  rintro rfl
  exact hne (binaryUnits_integer_zero h)

theorem binaryUnits_integer_bounds (hn : n ≠ 0) :
    unitsPerOne ≤ (integer n h).binaryUnits.natAbs ∧
      (integer n h).binaryUnits.natAbs ≤ unitsPerOne * 2 ^ 65 := by
  obtain ⟨hlow, hhigh⟩ := Binary64.units_rankOfNat_bounds (Int.natAbs_pos.mpr hn)
  have hsize : unitsPerOne * n.natAbs ≤ unitsPerOne * 2 ^ 64 :=
    Nat.mul_le_mul_left unitsPerOne (by omega)
  rw [natAbs_binaryUnits_integer]
  omega

theorem sign_binaryUnits_integer : (integer n h).binaryUnits.sign = n.sign := by
  rcases eq_or_ne n 0 with rfl | hn
  · rw [binaryUnits_integer_zero]
  · have hpos : 0 < (integer n h).binaryUnits.natAbs :=
      unitsPerOne_pos.trans_le (binaryUnits_integer_bounds hn).1
    rw [natAbs_binaryUnits_integer] at hpos
    rw [binaryUnits]
    split
    · next hneg => rw [Int.sign_eq_neg_one_of_neg hneg, Int.sign_eq_neg_one_of_neg (by omega)]
    · next hnonneg => rw [Int.sign_eq_one_of_pos (by omega), Int.sign_eq_one_of_pos (by omega)]

theorem scaledValue_ofInt (n : ℤ) : (Decimal.ofInt n).scaledValue = n * 10 ^ 28 := by
  rw [Decimal.ofInt, Decimal.scaledValue]
  dsimp only
  rw [Decimal.maxScale, Nat.sub_zero, Nat.pow_eq]
  simp only [decide_eq_true_eq]
  push_cast
  split
  · next hn => rw [abs_of_neg hn, neg_mul, neg_neg]
  · next hn => rw [abs_of_nonneg (not_lt.mp hn)]

theorem sign_scaledValue (hd : a.decimal? = some d) :
    d.scaledValue.sign = a.binaryUnits.sign := by
  cases a with
  | integer n h =>
    obtain rfl : Decimal.ofInt n = d := Option.some.inj hd
    have hten : Int.sign (10 ^ 28) = 1 := by decide
    rw [scaledValue_ofInt, Int.sign_mul, hten, Int.mul_one, sign_binaryUnits_integer]
  | float x =>
    rw [decimal?] at hd
    rw [binaryUnits]
    cases hx : x.isZero with
    | true =>
      rw [floatDecimal?_of_isZero hx] at hd
      obtain rfl := Option.some.inj hd
      rw [Binary64.toUnits_of_isZero hx]
      rfl
    | false =>
      obtain ⟨hsign, hpos⟩ := of_floatDecimal?_eq_some hx hd
      rw [Decimal.sign_scaledValue hpos, hsign, Binary64.sign_toUnits (rank_pos hx)]

/-- A number without a decimal is a binary number that is written too small or too large for one. -/
theorem exists_of_decimal?_eq_none (hb : b.decimal? = none) : ∃ x, b = float x ∧ 0 < x.rank ∧
    ((shortest x.rank).value < 10 ^ (-28 : ℤ) ∨
      (Decimal.maxCoefficient : ℚ) < (shortest x.rank).value) := by
  cases b with
  | integer n h => exact nomatch hb
  | float x =>
    rw [decimal?] at hb
    have hx : x.isZero = false := by
      rw [← Bool.not_eq_true]
      intro hzero
      rw [floatDecimal?_of_isZero hzero] at hb
      exact nomatch hb
    have hrange : ¬ Decimal.InRange (shortest x.rank).value := by
      rw [← isSome_floatDecimal?_iff hx, hb]
      exact Bool.false_ne_true
    refine ⟨x, rfl, rank_pos hx, ?_⟩
    rwa [Decimal.InRange, not_and_or, not_le, not_le] at hrange

theorem inRange_of_floatDecimal? (hx : x.isZero = false) (hd : floatDecimal? x = some d) :
    Decimal.InRange (shortest x.rank).value :=
  (isSome_floatDecimal?_iff hx).mp (hd ▸ rfl)

theorem units_lt_natAbs (ha : a.decimal? = some d) (hrank : 0 < x.rank)
    (hsmall : (shortest x.rank).value < 10 ^ (-28 : ℤ)) (hne : a.binaryUnits ≠ 0) :
    units x.rank < a.binaryUnits.natAbs := by
  cases a with
  | integer n h =>
    have hn : n ≠ 0 := ne_zero_of_binaryUnits_ne_zero hne
    exact (Binary64.units_lt_of_value_lt hrank x.finite hsmall).trans_le
      (binaryUnits_integer_bounds hn).1
  | float y =>
    have hy : y.isZero = false := Binary64.isZero_of_toUnits_ne_zero hne
    rw [binaryUnits, Binary64.natAbs_toUnits]
    exact strictMono_units (Binary64.rank_lt_of_value_lt (rank_pos hy) x.finite
      (hsmall.trans_le (inRange_of_floatDecimal? hy ha).1))

theorem natAbs_lt_units (ha : a.decimal? = some d) (hrank : 0 < x.rank)
    (hlarge : (Decimal.maxCoefficient : ℚ) < (shortest x.rank).value) :
    a.binaryUnits.natAbs < units x.rank := by
  rcases eq_or_ne a.binaryUnits 0 with hzero | hne
  · rw [hzero]
    exact units_pos hrank
  · cases a with
    | integer n h =>
      have hn : n ≠ 0 := ne_zero_of_binaryUnits_ne_zero hne
      exact (binaryUnits_integer_bounds hn).2.trans_lt
        (Binary64.lt_units_of_lt_value hrank x.finite hlarge)
    | float y =>
      have hy : y.isZero = false := Binary64.isZero_of_toUnits_ne_zero hne
      rw [binaryUnits, Binary64.natAbs_toUnits]
      exact strictMono_units (Binary64.rank_lt_of_value_lt hrank y.finite
        ((inRange_of_floatDecimal? hy ha).2.trans_lt hlarge))

/-- Without a decimal, a number lies between zero and all numbers that have one, or beyond them. -/
theorem natAbs_lt_or_lt (ha : a.decimal? = some d) (hb : b.decimal? = none) :
    (b.binaryUnits.natAbs < unitsPerOne ∧
        (a.binaryUnits ≠ 0 → b.binaryUnits.natAbs < a.binaryUnits.natAbs)) ∨
      (unitsPerOne ≤ b.binaryUnits.natAbs ∧ a.binaryUnits.natAbs < b.binaryUnits.natAbs) := by
  obtain ⟨x, rfl, hrank, hsmall | hlarge⟩ := exists_of_decimal?_eq_none hb
  · rw [binaryUnits, Binary64.natAbs_toUnits]
    exact .inl ⟨Binary64.units_lt_of_value_lt hrank x.finite hsmall,
      units_lt_natAbs ha hrank hsmall⟩
  · have hone := Binary64.lt_units_of_lt_value hrank x.finite hlarge
    rw [binaryUnits, Binary64.natAbs_toUnits]
    exact .inr ⟨by omega, natAbs_lt_units ha hrank hlarge⟩

/-! ### One order -/

def beyond (a : Number) : ℤ :=
  if a.decimal?.isSome then 0
  else if unitsPerOne ≤ a.binaryUnits then 1
  else if a.binaryUnits ≤ -unitsPerOne then -1
  else 0

def decimalUnits (a : Number) : ℤ := (a.decimal?.map Decimal.scaledValue).getD 0

def bareUnits (a : Number) : ℤ := if a.decimal?.isSome then 0 else a.binaryUnits

/-- Numbers compared by whether they are beyond the decimals, then by their decimals, and last as
binary numbers. -/
def compareByKeys : Number → Number → Ordering :=
  compareLex (compareOn beyond) (compareLex (compareOn decimalUnits) (compareOn bareUnits))

instance : Std.TransCmp compareByKeys :=
  inferInstanceAs (Std.TransCmp (compareLex (compareOn beyond)
    (compareLex (compareOn decimalUnits) (compareOn bareUnits))))

theorem compareByKeys_eq (a b : Number) : compareByKeys a b =
    (Ord.compare a.beyond b.beyond).then ((Ord.compare a.decimalUnits b.decimalUnits).then
      (Ord.compare a.bareUnits b.bareUnits)) := rfl

theorem keys_of_some (ha : a.decimal? = some d) :
    a.beyond = 0 ∧ a.decimalUnits = d.scaledValue ∧ a.bareUnits = 0 := by
  rw [beyond, decimalUnits, bareUnits, ha]
  exact ⟨rfl, rfl, rfl⟩

theorem keys_of_none (hb : b.decimal? = none) :
    b.beyond = (if unitsPerOne ≤ b.binaryUnits then 1 else
        if b.binaryUnits ≤ -unitsPerOne then -1 else 0) ∧
      b.decimalUnits = 0 ∧ b.bareUnits = b.binaryUnits := by
  rw [beyond, decimalUnits, bareUnits, hb]
  exact ⟨rfl, rfl, rfl⟩

theorem compare_of_some {e : Decimal} (ha : a.decimal? = some d) (hb : b.decimal? = some e) :
    a.compare b = Ord.compare d.scaledValue e.scaledValue := by
  rw [compare, ha, hb]
  rfl

theorem compare_of_none (h : a.decimal? = none ∨ b.decimal? = none) :
    a.compare b = Ord.compare a.binaryUnits b.binaryUnits := by
  rw [compare]
  rcases h with h | h
  · rw [h]
  · rw [h]
    cases a.decimal? <;> rfl

theorem compare_swap (a b : Number) : a.compare b = (b.compare a).swap := by
  rw [compare, compare]
  cases a.decimal? <;> cases b.decimal?
  all_goals exact Std.OrientedOrd.eq_swap

theorem compare_eq_of_some_of_none (ha : a.decimal? = some d) (hb : b.decimal? = none) :
    a.compare b = compareByKeys a b := by
  have hsign := sign_scaledValue ha
  have hone := unitsPerOne_pos
  obtain ⟨habeyond, hadecimal, habare⟩ := keys_of_some ha
  obtain ⟨hbbeyond, hbdecimal, hbbare⟩ := keys_of_none hb
  rw [compare_of_none (.inr hb), compareByKeys_eq, habeyond, hadecimal, habare, hbdecimal, hbbare]
  rcases natAbs_lt_or_lt ha hb with ⟨hsmall, hnext⟩ | ⟨hlarge, hlt⟩
  · -- The number without a decimal is next to zero, so the other one's sign decides.
    rw [if_neg (by omega), if_neg (by omega)] at hbbeyond
    rw [hbbeyond, compare_eq_iff_eq.mpr rfl, Ordering.eq_then]
    rcases lt_trichotomy d.scaledValue 0 with hd | hd | hd
    · have ha : a.binaryUnits < 0 := by
        rwa [← Int.sign_eq_neg_one_iff_neg, ← hsign, Int.sign_eq_neg_one_iff_neg]
      rw [compare_lt_iff_lt.mpr hd, Ordering.lt_then, compare_lt_iff_lt]
      omega
    · have ha : a.binaryUnits = 0 := by
        rwa [← Int.sign_eq_zero_iff_zero, ← hsign, Int.sign_eq_zero_iff_zero]
      rw [hd, ha, compare_eq_iff_eq.mpr rfl, Ordering.eq_then]
    · have ha : 0 < a.binaryUnits := by
        rwa [← Int.sign_eq_one_iff_pos, ← hsign, Int.sign_eq_one_iff_pos]
      rw [compare_gt_iff_gt.mpr hd, Ordering.gt_then, compare_gt_iff_gt]
      omega
  · rcases le_or_gt (0 : ℤ) b.binaryUnits with hpos | hneg
    · rw [if_pos (by omega)] at hbbeyond
      rw [hbbeyond, compare_lt_iff_lt.mpr (by omega), compare_lt_iff_lt.mpr zero_lt_one,
        Ordering.lt_then]
    · rw [if_neg (by omega), if_pos (by omega)] at hbbeyond
      rw [hbbeyond, compare_gt_iff_gt.mpr (by omega), compare_gt_iff_gt.mpr neg_one_lt_zero,
        Ordering.gt_then]

theorem compare_eq_of_none (ha : a.decimal? = none) (hb : b.decimal? = none) :
    a.compare b = compareByKeys a b := by
  have hone := unitsPerOne_pos
  obtain ⟨habeyond, hadecimal, habare⟩ := keys_of_none ha
  obtain ⟨hbbeyond, hbdecimal, hbbare⟩ := keys_of_none hb
  rw [compare_of_none (.inl ha), compareByKeys_eq, hadecimal, habare, hbdecimal, hbbare,
    compare_eq_iff_eq.mpr rfl, Ordering.eq_then]
  rcases lt_trichotomy a.beyond b.beyond with h | h | h
  · rw [compare_lt_iff_lt.mpr h, Ordering.lt_then, compare_lt_iff_lt]
    grind
  · rw [compare_eq_iff_eq.mpr h, Ordering.eq_then]
  · rw [compare_gt_iff_gt.mpr h, Ordering.gt_then, compare_gt_iff_gt]
    grind

theorem compare_eq_compareByKeys (a b : Number) : a.compare b = compareByKeys a b := by
  cases ha : a.decimal? with
  | some d =>
    cases hb : b.decimal? with
    | some e =>
      obtain ⟨habeyond, hadecimal, habare⟩ := keys_of_some ha
      obtain ⟨hbbeyond, hbdecimal, hbbare⟩ := keys_of_some hb
      rw [compare_of_some ha hb, compareByKeys_eq, habeyond, hbbeyond, habare, hbbare, hadecimal,
        hbdecimal, compare_eq_iff_eq.mpr rfl, Ordering.eq_then, Ordering.then_eq]
    | none => exact compare_eq_of_some_of_none ha hb
  | none =>
    cases hb : b.decimal? with
    | some e =>
      rw [compare_swap, compare_eq_of_some_of_none hb ha]
      exact Std.OrientedCmp.eq_swap.symm
    | none => exact compare_eq_of_none ha hb

instance : Std.TransCmp Number.compare :=
  have h : Number.compare = compareByKeys := funext₂ compare_eq_compareByKeys
  h ▸ inferInstance

/-! ### The order of rules -/

theorem toBinary?_eq (a : Number) : ∃ x, a.toBinary? = some x ∧ x.toUnits = a.binaryUnits := by
  cases a with
  | integer n h =>
    have hfinite : Binary64.rankOfNat n.natAbs < Binary64.rankCount :=
      Binary64.rankOfNat_lt (by omega)
    refine ⟨⟨decide (n < 0), _, hfinite⟩, ?_, ?_⟩
    · rw [toBinary?, Binary64.ofRank?, dif_pos hfinite]
    · rw [Binary64.toUnits, binaryUnits]
      simp only [decide_eq_true_eq]
  | float x => exact ⟨x, rfl, rfl⟩

theorem compare?_eq (a b : Number) : a.compare? b = some (a.compare b) := by
  obtain ⟨x, hx, hxunits⟩ := toBinary?_eq a
  obtain ⟨y, hy, hyunits⟩ := toBinary?_eq b
  rw [compare?, compare, hx, hy]
  cases a.decimal? <;> cases b.decimal? <;> simp [hxunits, hyunits]

theorem compare_integer {m : ℤ} (hm : -9223372036854775808 ≤ m ∧ m < 18446744073709551616) :
    (integer m hm).compare (integer n h) = Ord.compare m n := by
  have hmono : StrictMono fun k : ℤ => k * 10 ^ 28 := strictMono_mul_right_of_pos (by norm_num)
  rw [compare_of_some rfl rfl, scaledValue_ofInt, scaledValue_ofInt]
  exact compare_map hmono m n

theorem holds_compare (comparison : Comparison) (value operand : Number) :
    (Operator.compare comparison operand).holds (some (.number value)) =
      comparison.holds (value.compare operand) := by
  rw [Operator.holds, compare?_eq, Option.any_some]

theorem agrees_number (a b : Number) :
    (Json.number a).agrees (.number b) = (a.compare b == .eq) := by
  rw [Json.agrees, compare?_eq]
  cases a.compare b <;> rfl

theorem holds_equals (value operand : Number) :
    (Operator.equals (.number operand)).holds (some (.number value)) =
      (value.compare operand == .eq) := by
  rw [Operator.holds, Option.any_some, agrees_number]

/-- Rules compare numbers by a total preorder, which on integers is their order, so of the
operators that compare exactly those hold that fit the one outcome. -/
theorem compare?_isTotalPreorder :
    (∀ a b : Number, ∃ o, a.compare? b = some o ∧ b.compare? a = some o.swap) ∧
    (∀ a b c : Number, (a.compare? b).any (·.isLE) = true → (b.compare? c).any (·.isLE) = true →
      (a.compare? c).any (·.isLE) = true) ∧
    (∀ m n hm hn, (integer m hm).compare? (integer n hn) = some (Ord.compare m n)) ∧
    ∀ value operand : Number,
      [Operator.compare .less operand, .equals (.number operand),
        .compare .greater operand].countP (·.holds (some (.number value))) = 1 ∧
      (Operator.compare .lessOrEquals operand).holds (some (.number value)) =
        !(Operator.compare .greater operand).holds (some (.number value)) ∧
      (Operator.compare .greaterOrEquals operand).holds (some (.number value)) =
        !(Operator.compare .less operand).holds (some (.number value)) := by
  refine ⟨fun a b => ?_, fun a b c hab hbc => ?_, fun m n hm hn => ?_, fun value operand => ?_⟩
  · exact ⟨a.compare b, compare?_eq a b, by rw [compare?_eq, compare_swap]⟩
  · rw [compare?_eq, Option.any_some] at hab hbc ⊢
    exact Std.TransCmp.isLE_trans hab hbc
  · rw [compare?_eq, compare_integer]
  · simp only [holds_compare, holds_equals, List.countP_cons, List.countP_nil]
    cases value.compare operand <;> decide

/-- The least positive number, one, and the greatest number, of which only one has a decimal. -/
theorem compare?_isTotalPreorder_extremes :
    let least : Number := float ⟨false, 1, by decide⟩
    let one : Number := integer 1 (by decide)
    let greatest : Number := float ⟨false, Binary64.rankCount - 1, by decide⟩
    least.decimal? = none ∧ one.decimal? = some ⟨false, 1, 0⟩ ∧ greatest.decimal? = none ∧
      (least.compare? one).any (·.isLE) = true ∧ (one.compare? greatest).any (·.isLE) = true ∧
      (least.compare? greatest).any (·.isLE) = true := by
  have hleast : ((float ⟨false, 1, by decide⟩).compare? (integer 1 (by decide))).any (·.isLE) =
      true := by decide +kernel
  have hgreatest : ((integer 1 (by decide)).compare?
      (float ⟨false, Binary64.rankCount - 1, by decide⟩)).any (·.isLE) = true := by decide +kernel
  exact ⟨by decide +kernel, rfl, by decide +kernel, hleast, hgreatest,
    compare?_isTotalPreorder.2.1 _ _ _ hleast hgreatest⟩

end Number

end TemplateAudit
