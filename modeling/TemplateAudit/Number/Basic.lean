import TemplateAudit.Number.Shortest
import TemplateAudit.Number.Decimal

/-! # Numbers of a document

A number is an integer from -2^63 to 2^64 - 1 or a finite binary64 number. Numbers are compared
as decimals where both have one, so that a value counts as it is written, and as binary numbers
otherwise.
-/

namespace TemplateAudit

inductive Number where
  | integer (value : Int) (inRange : -9223372036854775808 ≤ value ∧ value < 18446744073709551616)
  | float (value : Binary64)
  deriving DecidableEq, Repr

namespace Number

def ofInt? (n : Int) : Option Number :=
  if h : -9223372036854775808 ≤ n ∧ n < 18446744073709551616 then some (.integer n h) else none

/-- A natural number, or the largest integer in range if that is less. -/
def ofNat (n : Nat) : Number := .integer (min n 18446744073709551615) (by omega)

/-- The decimal exponents of leading digits that are written in positional notation. -/
def isPositional (leading : Int) : Bool := -5 ≤ leading && leading ≤ 15

def digitsOf (s : Scaled) : List Char := Nat.toDigits 10 s.digits

/-- The exponent of the first digit. -/
def leadingExponent (s : Scaled) : Int := s.exponent + (digitsOf s).length - 1

/-- A point always, and a digit on both of its sides. -/
def positional (s : Scaled) : List Char :=
  let digits := digitsOf s
  if 0 ≤ s.exponent then
    digits ++ List.replicate s.exponent.toNat '0' ++ ['.', '0']
  else
    let fraction := (-s.exponent).toNat
    let padded := List.replicate (fraction + 1 - digits.length) '0' ++ digits
    padded.take (padded.length - fraction) ++ '.' :: padded.drop (padded.length - fraction)

/-- One digit before the point, no point without further digits, and a signed exponent. -/
def scientific (s : Scaled) : List Char :=
  let leading := leadingExponent s
  let mantissa := match digitsOf s with
    | first :: second :: rest => first :: '.' :: second :: rest
    | digits => digits
  mantissa ++ 'e' :: (if leading < 0 then '-' else '+') :: Nat.toDigits 10 leading.natAbs

def floatText (x : Binary64) : List Char :=
  let sign := if x.negative then ['-'] else []
  if x.isZero then sign ++ ['0', '.', '0']
  else
    let s := Binary64.shortest x.rank
    sign ++ if isPositional (leadingExponent s) then positional s else scientific s

/-- A number as documents write it. -/
def display : Number → String
  | .integer n _ => toString n
  | .float x => String.ofList (floatText x)

/-- The quotient rounded to nearest, a half away from zero. -/
def roundHalfUp (num den : Nat) : Nat := (2 * num + den) / (2 * den)

/-- The decimal of a text in scientific notation; at most 28 fraction digits are kept. -/
def scientificDecimal? (negative : Bool) (s : Scaled) : Option Decimal :=
  let leading := leadingExponent s
  let fraction := (digitsOf s).length - 1
  let size := leading.natAbs
  if Decimal.maxScale < size then none
  else if leading < 0 then
    if Decimal.maxScale < fraction + size then
      let dropped := fraction + size - Decimal.maxScale
      some ⟨negative, roundHalfUp s.digits (Nat.pow 10 dropped), Decimal.maxScale⟩
    else
      some ⟨negative, s.digits, fraction + size⟩
  else if size ≤ fraction then
    some ⟨negative, s.digits, fraction - size⟩
  else
    let coefficient := s.digits * Nat.pow 10 (size - fraction)
    if coefficient ≤ Decimal.maxCoefficient then some ⟨negative, coefficient, 0⟩ else none

/-- The decimal of a text in positional notation, with as many fraction digits. -/
def positionalDecimal (negative : Bool) (s : Scaled) : Decimal :=
  if 0 ≤ s.exponent then ⟨negative, s.digits * Nat.pow 10 (s.exponent.toNat + 1), 1⟩
  else ⟨negative, s.digits, (-s.exponent).toNat⟩

def floatDecimal? (x : Binary64) : Option Decimal :=
  if x.isZero then some ⟨false, 0, 1⟩
  else
    let s := Binary64.shortest x.rank
    if isPositional (leadingExponent s) then some (positionalDecimal x.negative s)
    else scientificDecimal? x.negative s

/-- The decimal that the written number stands for, if it is within the range of decimals. -/
def decimal? : Number → Option Decimal
  | .integer n _ => some (.ofInt n)
  | .float x => floatDecimal? x

/-- The value of the nearest binary number, in units. -/
def binaryUnits : Number → Int
  | .integer n _ =>
    let magnitude : Int := Binary64.units (Binary64.rankOfNat n.natAbs)
    if n < 0 then -magnitude else magnitude
  | .float x => x.toUnits

/-- Compares as decimals if both numbers have one, and as binary numbers otherwise. -/
def compare (a b : Number) : Ordering :=
  match a.decimal?, b.decimal? with
  | some x, some y => x.compare y
  | _, _ => Ord.compare a.binaryUnits b.binaryUnits

/-- The nearest binary number, if it is finite. -/
def toBinary? : Number → Option Binary64
  | .integer n _ => Binary64.ofRank? (n < 0) (Binary64.rankOfNat n.natAbs)
  | .float x => some x

/-- Compares as rules do: two numbers that are not both decimals have no order unless both have a
finite binary number. -/
def compare? (a b : Number) : Option Ordering :=
  match a.decimal?, b.decimal? with
  | some x, some y => some (x.compare y)
  | _, _ => a.toBinary?.bind fun x => b.toBinary?.map fun y => Ord.compare x.toUnits y.toUnits

end Number

end TemplateAudit
