import TemplateAudit.Proofs.Number.Order
import TemplateAudit.Proofs.Number.Rounded
import TemplateAudit.Proofs.Number.Whole

/-! # Comparing by exact values

The value of a number is a fraction, exactly the binary one for a binary number. Numbers are
compared by the decimals that they are written as, which lie near their values. Between binary
numbers this never reverses the order, and the order is exact unless one of them is written with
more fraction digits than a decimal has. Between an integer and a binary number it is exact as long
as one of them is below 2^53.
-/

namespace TemplateAudit

theorem compare_eq_of_sign {a b c d : ℤ} (ha : a.sign = c.sign) (hb : b.sign = d.sign)
    (h : a ≠ 0 → b ≠ 0 → compare a.natAbs b.natAbs = compare c.natAbs d.natAbs) :
    compare a b = compare c d := by
  have hneg : (a < 0 ↔ c < 0) ∧ (b < 0 ↔ d < 0) := by
    simp only [← Int.sign_eq_neg_one_iff_neg, ha, hb, and_self]
  have hpos : (0 < a ↔ 0 < c) ∧ (0 < b ↔ 0 < d) := by
    simp only [← Int.sign_eq_one_iff_pos, ha, hb, and_self]
  have hlt : a ≠ 0 → b ≠ 0 → (a.natAbs < b.natAbs ↔ c.natAbs < d.natAbs) := by
    intro ha hb
    rw [← compare_lt_iff_lt, h ha hb, compare_lt_iff_lt]
  have hgt : a ≠ 0 → b ≠ 0 → (b.natAbs < a.natAbs ↔ d.natAbs < c.natAbs) := by
    intro ha hb
    rw [← compare_gt_iff_gt, h ha hb, compare_gt_iff_gt]
  rcases lt_trichotomy a b with hab | hab | hab
  · rw [compare_lt_iff_lt.mpr hab, compare_lt_iff_lt.mpr (by omega)]
  · rw [compare_eq_iff_eq.mpr hab, compare_eq_iff_eq.mpr (by omega)]
  · rw [compare_gt_iff_gt.mpr hab, compare_gt_iff_gt.mpr (by omega)]

namespace Binary64

variable {x y : Binary64} {f : Nat → ℚ}

def value (x : Binary64) : ℚ := x.toUnits / unitsPerOne

def signed (x : Binary64) (magnitude : Nat → ℚ) : ℚ :=
  if x.negative then -magnitude x.rank else magnitude x.rank

/-- The magnitude that a rank is written as. -/
def written (rank : Nat) : ℚ := if rank = 0 then 0 else (shortest rank).value

theorem signed_le_signed (hzero : f 0 = 0) (hf : MonotoneOn f (Set.Iio rankCount))
    (h : x.toUnits ≤ y.toUnits) : x.signed f ≤ y.signed f := by
  have hle : ∀ {a b : Nat}, b < rankCount → units a ≤ units b → f a ≤ f b := by
    intro a b hb hab
    have hab := strictMono_units.le_iff_le.mp hab
    exact hf (hab.trans_lt hb) hb hab
  have hnonneg : ∀ z : Binary64, 0 ≤ f z.rank := fun z => hzero ▸ hle z.finite (Nat.zero_le _)
  have hxnonneg := hnonneg x
  have hynonneg := hnonneg y
  unfold toUnits at h
  unfold signed
  cases hx : x.negative <;> cases hy : y.negative <;>
    simp only [hx, hy, if_true, if_false, Bool.false_eq_true] at h ⊢
  · exact hle y.finite (by omega)
  · have hxzero : f x.rank ≤ f 0 := hle (by decide) (by rw [units_zero]; omega)
    have hyzero : f y.rank ≤ f 0 := hle (by decide) (by rw [units_zero]; omega)
    linarith
  · linarith
  · exact neg_le_neg (hle x.finite (by omega))

theorem signed_lt_signed (hzero : f 0 = 0) (hf : StrictMonoOn f (Set.Iio rankCount))
    (h : x.toUnits < y.toUnits) : x.signed f < y.signed f := by
  have hlt : ∀ {a b : Nat}, b < rankCount → units a < units b → f a < f b := by
    intro a b hb hab
    have hab := strictMono_units.lt_iff_lt.mp hab
    exact hf (hab.trans hb) hb hab
  have hpos : ∀ {z : Binary64}, 0 < units z.rank → 0 < f z.rank := fun {z} hz =>
    hzero ▸ hlt z.finite hz
  have hnonneg : ∀ z : Binary64, 0 ≤ f z.rank := fun z =>
    hzero ▸ hf.monotoneOn (Set.mem_Iio.mpr (by decide)) z.finite (Nat.zero_le _)
  have hxnonneg := hnonneg x
  have hynonneg := hnonneg y
  unfold toUnits at h
  unfold signed
  cases hx : x.negative <;> cases hy : y.negative <;>
    simp only [hx, hy, if_true, if_false, Bool.false_eq_true] at h ⊢
  · exact hlt y.finite (by omega)
  · omega
  · have hsome : 0 < units x.rank ∨ 0 < units y.rank := by omega
    rcases hsome with hx | hy
    · linarith [hpos hx]
    · linarith [hpos hy]
  · exact neg_lt_neg (hlt x.finite (by omega))

theorem written_zero : written 0 = 0 := if_pos rfl

theorem written_of_pos {rank : Nat} (h : 0 < rank) : written rank = (shortest rank).value :=
  if_neg h.ne'

theorem strictMonoOn_written : StrictMonoOn written (Set.Iio rankCount) := by
  intro rank hrank other hother hlt
  have hpos : 0 < other := (Nat.zero_le rank).trans_lt hlt
  rw [written_of_pos hpos]
  rcases Nat.eq_zero_or_pos rank with rfl | hrankPos
  · rw [written_zero]
    exact value_shortest_pos hpos hother
  · rw [written_of_pos hrankPos]
    exact value_shortest_lt hother hrankPos hlt

theorem compare_signed (hzero : f 0 = 0) (hf : StrictMonoOn f (Set.Iio rankCount)) :
    compare (x.signed f) (y.signed f) = compare x.toUnits y.toUnits := by
  rcases lt_trichotomy x.toUnits y.toUnits with h | h | h
  · rw [compare_lt_iff_lt.mpr h, compare_lt_iff_lt.mpr (signed_lt_signed hzero hf h)]
  · have heq : x.signed f = y.signed f :=
      le_antisymm (signed_le_signed hzero hf.monotoneOn h.le)
        (signed_le_signed hzero hf.monotoneOn h.ge)
    rw [compare_eq_iff_eq.mpr h, compare_eq_iff_eq.mpr heq]
  · rw [compare_gt_iff_gt.mpr h, compare_gt_iff_gt.mpr (signed_lt_signed hzero hf h)]

theorem compare_div_unitsPerOne (m n : ℤ) :
    compare ((m : ℚ) / unitsPerOne) (n / unitsPerOne) = compare m n := by
  have hmono : StrictMono fun k : ℤ => (k : ℚ) / unitsPerOne := fun _ _ h =>
    div_lt_div_of_pos_right (by exact_mod_cast h) cast_unitsPerOne_pos
  exact compare_map hmono m n

theorem compare_value (x y : Binary64) :
    compare x.value y.value = compare x.toUnits y.toUnits :=
  compare_div_unitsPerOne x.toUnits y.toUnits

theorem abs_value (x : Binary64) : |x.value| = units x.rank / unitsPerOne := by
  rw [value, abs_div, abs_of_pos cast_unitsPerOne_pos, ← natAbs_toUnits, Nat.cast_natAbs,
    Int.cast_abs]

/-- A number with a decimal that lacks some of the fraction digits it is written with. -/
def isRounded (x : Binary64) : Bool :=
  !x.isZero && (Number.floatDecimal? x).isSome && decide ((shortest x.rank).exponent < -28)

end Binary64

namespace Number

open Binary64 (unitsPerOne unitsPerOne_pos units rankCount shortest written)

variable {a b : Number} {x y : Binary64} {d : Decimal} {n : ℤ}
  {h : -9223372036854775808 ≤ n ∧ n < 18446744073709551616}

def value : Number → ℚ
  | .integer n _ => n
  | .float x => x.value

/-! ### Binary numbers -/

def nearestUnits (rank : Nat) : ℚ := (⌊written rank * 10 ^ 28 + 1 / 2⌋₊ : Nat)

theorem nearestUnits_zero : nearestUnits 0 = 0 := by
  rw [nearestUnits, Binary64.written_zero, Nat.floor_eq_zero.mpr (by norm_num), Nat.cast_zero]

theorem monotoneOn_nearestUnits : MonotoneOn nearestUnits (Set.Iio rankCount) := by
  intro rank hrank other hother hle
  have hwritten := Binary64.strictMonoOn_written.monotoneOn hrank hother hle
  unfold nearestUnits
  gcongr

theorem scaledValue_of_isZero (hx : x.isZero = true) (hd : floatDecimal? x = some d) {f : Nat → ℚ}
    (hzero : f 0 = 0) : (d.scaledValue : ℚ) = x.signed f := by
  rw [floatDecimal?_of_isZero hx] at hd
  obtain rfl := Option.some.inj hd
  rw [Binary64.isZero, decide_eq_true_eq] at hx
  rw [Binary64.signed, hx, hzero, neg_zero, ite_self]
  rfl

theorem scaledValue_eq_signed (hx : x.isZero = false) (hd : floatDecimal? x = some d)
    {f : Nat → ℚ} (h : (d.scaledValue.natAbs : ℚ) = f x.rank) :
    (d.scaledValue : ℚ) = x.signed f := by
  rw [Decimal.scaledValue_eq, (of_floatDecimal?_eq_some hx hd).1, Binary64.signed, ← h]
  split
  · exact Int.cast_neg _
  · rfl

theorem scaledValue_floatDecimal? (hd : floatDecimal? x = some d) :
    (d.scaledValue : ℚ) = x.signed nearestUnits := by
  cases hx : x.isZero with
  | true => exact scaledValue_of_isZero hx hd nearestUnits_zero
  | false =>
    refine scaledValue_eq_signed hx hd ?_
    rw [natAbs_scaledValue_floatDecimal? hx hd, nearestUnits,
      Binary64.written_of_pos (rank_pos hx)]

theorem scaledValue_of_not_isRounded (hr : x.isRounded = false) (hd : floatDecimal? x = some d) :
    (d.scaledValue : ℚ) = x.signed fun rank => written rank * 10 ^ 28 := by
  cases hx : x.isZero with
  | true => exact scaledValue_of_isZero hx hd (by rw [Binary64.written_zero, zero_mul])
  | false =>
    have hkept : -28 ≤ (shortest x.rank).exponent := by
      rw [Binary64.isRounded, hx, hd] at hr
      simpa using hr
    refine scaledValue_eq_signed hx hd ?_
    rw [floatDecimal?_keeps hx hkept hd, Binary64.written_of_pos (rank_pos hx)]

theorem compare_floats (hx : x.isRounded = false) (hy : y.isRounded = false) :
    (float x).compare (float y) = Ord.compare x.value y.value := by
  rw [Binary64.compare_value]
  cases hdx : (float x).decimal? with
  | none => exact compare_of_none (.inl hdx)
  | some d =>
    cases hdy : (float y).decimal? with
    | none => exact compare_of_none (.inr hdy)
    | some e =>
      have hzero : written 0 * 10 ^ 28 = 0 := by rw [Binary64.written_zero, zero_mul]
      have hmono : StrictMonoOn (fun rank => written rank * 10 ^ 28) (Set.Iio rankCount) :=
        fun rank hrank other hother hlt =>
          mul_lt_mul_of_pos_right (Binary64.strictMonoOn_written hrank hother hlt) (by norm_num)
      rw [compare_of_some hdx hdy, ← Binary64.compare_signed hzero hmono,
        ← scaledValue_of_not_isRounded hx hdx, ← scaledValue_of_not_isRounded hy hdy]
      exact (compare_map Int.cast_strictMono _ _).symm

/-- Rounded or not, binary numbers are never compared the wrong way round. -/
theorem isLE_compare_floats (hle : x.value ≤ y.value) :
    ((float x).compare (float y)).isLE = true := by
  have hunits : x.toUnits ≤ y.toUnits := by
    rwa [← compare_le_iff_le, Binary64.compare_value, compare_le_iff_le] at hle
  rw [← Ordering.ne_gt_iff_isLE]
  cases hdx : (float x).decimal? with
  | none =>
    rw [compare_of_none (.inl hdx)]
    exact compare_le_iff_le.mpr hunits
  | some d =>
    cases hdy : (float y).decimal? with
    | none =>
      rw [compare_of_none (.inr hdy)]
      exact compare_le_iff_le.mpr hunits
    | some e =>
      have hscaled := Binary64.signed_le_signed nearestUnits_zero monotoneOn_nearestUnits hunits
      rw [← scaledValue_floatDecimal? hdx, ← scaledValue_floatDecimal? hdy] at hscaled
      rw [compare_of_some hdx hdy]
      exact compare_le_iff_le.mpr (by exact_mod_cast hscaled)

/-! ### Integers and binary numbers -/

theorem compare_integer_value (n : ℤ) (x : Binary64) :
    Ord.compare (n : ℚ) x.value = Ord.compare (n * unitsPerOne) x.toUnits := by
  have hn : (n : ℚ) = ((n * unitsPerOne : ℤ) : ℚ) / unitsPerOne := by
    rw [Int.cast_mul, Int.cast_natCast, mul_div_cancel_right₀ _ Binary64.cast_unitsPerOne_pos.ne']
  rw [hn]
  exact Binary64.compare_div_unitsPerOne _ x.toUnits

theorem compare_natAbs_scaledValue {m : Nat} (hm : 0 < m) (hx : x.isZero = false)
    (hd : floatDecimal? x = some d)
    (hbound : m < 2 ^ 53 ∨ units x.rank < 2 ^ 53 * unitsPerOne) :
    Ord.compare (m * 10 ^ 28) d.scaledValue.natAbs =
      Ord.compare (m * unitsPerOne) (units x.rank) := by
  rw [← Binary64.compare_value_shortest hm (rank_pos hx) x.finite hbound, eq_comm]
  rcases le_or_gt (-28) (shortest x.rank).exponent with hkept | hlost
  · have hmono : StrictMono fun v : ℚ => v * 10 ^ 28 := strictMono_mul_right_of_pos (by norm_num)
    have hvalue := compare_map hmono m (shortest x.rank).value
    rw [← floatDecimal?_keeps hx hkept hd] at hvalue
    have hcast := compare_map (Nat.strictMono_cast (α := ℚ)) (m * 10 ^ 28) d.scaledValue.natAbs
    rw [← hvalue, ← hcast, Nat.cast_mul, Nat.cast_pow, Nat.cast_ofNat]
  · have hone : (1 : ℚ) ≤ m := by exact_mod_cast hm
    have hvalue := value_lt_of_exponent_lt hx hlost
    norm_num at hvalue
    have hscaled : d.scaledValue.natAbs < m * 10 ^ 28 := by
      rw [natAbs_scaledValue_floatDecimal? hx hd, Nat.floor_lt' (by omega)]
      push_cast
      linarith
    rw [compare_gt_iff_gt.mpr hscaled, compare_gt_iff_gt.mpr (by linarith)]

theorem compare_natAbs_binaryUnits (hx : (float x).decimal? = none) (hn : n ≠ 0) :
    Ord.compare (integer n h).binaryUnits.natAbs (units x.rank) =
      Ord.compare (n.natAbs * unitsPerOne) (units x.rank) := by
  obtain ⟨hlow, hhigh⟩ := binaryUnits_integer_bounds (h := h) hn
  have hpos : 1 ≤ n.natAbs := Int.natAbs_pos.mpr hn
  have hone := Nat.mul_le_mul_right unitsPerOne hpos
  have hsize : n.natAbs * unitsPerOne ≤ 2 ^ 65 * unitsPerOne :=
    Nat.mul_le_mul_right unitsPerOne (by omega)
  obtain ⟨y, hy, hrank, hsmall | hlarge⟩ := exists_of_decimal?_eq_none hx
  · obtain rfl := Number.float.inj hy
    have hsmall := Binary64.units_lt_of_value_lt hrank x.finite hsmall
    rw [compare_gt_iff_gt.mpr (by omega), compare_gt_iff_gt.mpr (by omega)]
  · obtain rfl := Number.float.inj hy
    have hlarge := Binary64.lt_units_of_lt_value hrank x.finite hlarge
    rw [compare_lt_iff_lt.mpr (by omega), compare_lt_iff_lt.mpr (by omega)]

theorem compare_integer_float (hbound : |(n : ℚ)| < 2 ^ 53 ∨ |x.value| < 2 ^ 53) :
    (integer n h).compare (float x) = Ord.compare (n : ℚ) x.value := by
  have hunit : (0 : ℤ) < unitsPerOne := by exact_mod_cast unitsPerOne_pos
  have hsign : (n * unitsPerOne : ℤ).sign = n.sign := by
    rw [Int.sign_mul, Int.sign_eq_one_of_pos hunit, mul_one]
  have hnatAbs : (n * unitsPerOne : ℤ).natAbs = n.natAbs * unitsPerOne := Int.natAbs_mul ..
  rw [compare_integer_value]
  cases hd : (float x).decimal? with
  | none =>
    have hbinary : (float x).binaryUnits = x.toUnits := rfl
    rw [compare_of_none (.inr hd), hbinary]
    refine compare_eq_of_sign (sign_binaryUnits_integer.trans hsign.symm) rfl fun hn _ => ?_
    rw [hnatAbs, Binary64.natAbs_toUnits]
    exact compare_natAbs_binaryUnits hd (ne_zero_of_binaryUnits_ne_zero hn)
  | some d =>
    have hten : (10 ^ 28 : ℤ).sign = 1 := by decide
    have hscaled : d.scaledValue.sign = x.toUnits.sign := sign_scaledValue hd
    rw [compare_of_some rfl hd, scaledValue_ofInt]
    refine compare_eq_of_sign ?_ hscaled fun hn hne => ?_
    · rw [hsign, Int.sign_mul, hten, mul_one]
    · have hx : x.isZero = false := by
        refine Binary64.isZero_of_toUnits_ne_zero fun hzero => hne ?_
        rwa [hzero, Int.sign_zero, Int.sign_eq_zero_iff_zero] at hscaled
      rw [hnatAbs, Binary64.natAbs_toUnits, Int.natAbs_mul]
      refine compare_natAbs_scaledValue ?_ hx hd (hbound.imp ?_ ?_)
      · exact Int.natAbs_pos.mpr (left_ne_zero_of_mul hn)
      · intro hsmall
        rw [← Int.cast_abs, ← Nat.cast_natAbs] at hsmall
        exact_mod_cast hsmall
      · intro hsmall
        rw [Binary64.abs_value, div_lt_iff₀ (by exact_mod_cast unitsPerOne_pos)] at hsmall
        exact_mod_cast hsmall

/-- Two integers, two binary numbers that are not rounded, or one number of each kind with at least
one of them below 2^53. -/
def ComparesExactly : Number → Number → Prop
  | .integer _ _, .integer _ _ => True
  | .float x, .float y => x.isRounded = false ∧ y.isRounded = false
  | a, b => |a.value| < 2 ^ 53 ∨ |b.value| < 2 ^ 53

/-- Rules compare numbers by their exact values, except that rounding may blur the difference of
binary numbers and that large integers are compared with what binary numbers are written as. -/
theorem compare?_eq_compare_value (a b : Number) :
    (a.ComparesExactly b → a.compare? b = some (Ord.compare a.value b.value)) ∧
    (∀ x y, a = float x → b = float y → x.value ≤ y.value →
      (a.compare? b).any (·.isLE) = true) := by
  constructor
  · intro hexact
    rw [compare?_eq]
    congr 1
    cases a with
    | integer m hm =>
      cases b with
      | integer n hn =>
        rw [compare_integer, value, value]
        exact (compare_map Int.cast_strictMono m n).symm
      | float y => exact compare_integer_float hexact
    | float x =>
      cases b with
      | integer n hn =>
        rw [compare_swap, compare_integer_float hexact.symm]
        exact Std.OrientedOrd.eq_swap.symm
      | float y => exact compare_floats hexact.1 hexact.2
  · rintro x y rfl rfl hle
    rw [compare?_eq, Option.any_some]
    exact isLE_compare_floats hle

/-- A tenth and two tenths, and one as an integer and as a binary number. -/
theorem compare?_eq_compare_value_tenths :
    let tenth : Binary64 := ⟨false, 0x3FB999999999999A, by decide⟩
    let fifth : Binary64 := ⟨false, 0x3FC999999999999A, by decide⟩
    let one : Binary64 := ⟨false, 0x3FF0000000000000, by decide⟩
    tenth.isRounded = false ∧ fifth.isRounded = false ∧
      (float tenth).compare? (float fifth) = some (Ord.compare tenth.value fifth.value) ∧
      ((float tenth).compare? (float fifth)).any (·.isLE) = true ∧
      (ofNat 1).compare? (float one) = some (Ord.compare 1 one.value) := by
  intro tenth fifth one
  have htenth : tenth.isRounded = false := by decide +kernel
  have hfifth : fifth.isRounded = false := by decide +kernel
  have hle : tenth.value ≤ fifth.value := by
    have hunits : tenth.toUnits ≤ fifth.toUnits := by decide +kernel
    exact div_le_div_of_nonneg_right (by exact_mod_cast hunits) (Nat.cast_nonneg _)
  have hone : |(ofNat 1).value| < 2 ^ 53 := by
    have hvalue : (ofNat 1).value = (1 : ℤ) := rfl
    rw [hvalue]
    norm_num
  obtain ⟨hexact, horder⟩ := compare?_eq_compare_value (float tenth) (float fifth)
  have hmixed := (compare?_eq_compare_value (ofNat 1) (float one)).1 (.inl hone)
  exact ⟨htenth, hfifth, hexact ⟨htenth, hfifth⟩, horder _ _ rfl rfl hle, hmixed⟩

/-- The binary number is the integer, but it is written as 9223372036854776000. -/
theorem not_compare?_eq_compare_value :
    ¬ ∀ a b : Number, a.compare? b = some (Ord.compare a.value b.value) := by
  intro h
  let whole : Number := .integer 9223372036854775808 (by decide)
  let binary : Binary64 := ⟨false, (1085 + 1) * Binary64.perBinade, by decide⟩
  have hvalue : binary.value = 9223372036854775808 := by
    have hunits : binary.toUnits = 9223372036854775808 * unitsPerOne := by decide +kernel
    rw [Binary64.value, hunits, Int.cast_mul, Int.cast_natCast,
      mul_div_cancel_right₀ _ Binary64.cast_unitsPerOne_pos.ne']
    norm_num
  have hcompare : whole.compare? (float binary) = some .lt := by decide +kernel
  have hequal : Ord.compare whole.value binary.value = .eq := by
    rw [hvalue, compare_eq_iff_eq]
    rfl
  have heq := h whole (float binary)
  rw [hcompare] at heq
  exact absurd (heq.trans (congrArg some hequal)) (by decide)

end Number

end TemplateAudit
