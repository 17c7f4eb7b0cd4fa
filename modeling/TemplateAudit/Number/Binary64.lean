/-! # Binary floating point

A finite binary64 number is a sign and the rank of its magnitude among all finite magnitudes,
counted from zero. Ranks are ordered as the magnitudes are, and a magnitude is a whole number of
units of 2^-1074, so every operation is exact arithmetic followed by one rounding to nearest,
ties to the even rank.
-/

namespace TemplateAudit

namespace Binary64

/-- The number of ranks from a power of two up to the next, 2^52. -/
def perBinade : Nat := 4503599627370496

/-- The number of finite magnitudes. -/
def rankCount : Nat := 2047 * perBinade

/-- One over the unit in which magnitudes are whole numbers, 2^1074. -/
def unitsPerOne : Nat := Nat.pow (Nat.pow 2 179) 6

/-- The magnitude of a rank, in units. -/
def units (rank : Nat) : Nat :=
  if rank < perBinade then rank
  else (perBinade + rank % perBinade) * Nat.pow 2 (rank / perBinade - 1)

/-- The quotient rounded to nearest, a half to the even neighbour. -/
def roundHalfEven (num den : Nat) : Nat :=
  let q := num / den
  let r := num % den
  if 2 * r < den then q
  else if den < 2 * r then q + 1
  else q + q % 2

/-- The rank nearest to a number of units given as a fraction. -/
def rankNear (num den : Nat) : Nat :=
  let shift := Nat.log2 (num / den) - 52
  shift * perBinade + roundHalfEven num (den * Nat.pow 2 shift)

end Binary64

structure Binary64 where
  negative : Bool
  rank : Nat
  finite : rank < Binary64.rankCount
  deriving DecidableEq, Repr

namespace Binary64

def ofRank? (negative : Bool) (rank : Nat) : Option Binary64 :=
  if h : rank < rankCount then some ⟨negative, rank, h⟩ else none

def zero (negative : Bool) : Binary64 := ⟨negative, 0, by decide⟩

def isZero (x : Binary64) : Bool := x.rank = 0

def negate (x : Binary64) : Binary64 := { x with negative := !x.negative }

/-- The signed value, in units; both zeros have the value zero. -/
def toUnits (x : Binary64) : Int :=
  if x.negative then -(units x.rank : Int) else units x.rank

/-- The rank of the number nearest to a natural number. -/
def rankOfNat (n : Nat) : Nat := rankNear (unitsPerOne * n) 1

/-- The number nearest to a natural number, if that is finite. -/
def ofNat? (n : Nat) : Option Binary64 := ofRank? false (rankOfNat n)

/-- The product with a positive power of ten, if it is finite; the power is rounded first. -/
def timesPowerOfTen? (x : Binary64) (e : Nat) : Option Binary64 :=
  ofRank? x.negative (rankNear (units x.rank * units (rankOfNat (Nat.pow 10 e))) unitsPerOne)

/-- The quotient by a positive power of ten, which is rounded first. -/
def overPowerOfTen? (x : Binary64) (e : Nat) : Option Binary64 :=
  ofRank? x.negative (rankNear (unitsPerOne * units x.rank) (units (rankOfNat (Nat.pow 10 e))))

end Binary64

end TemplateAudit
