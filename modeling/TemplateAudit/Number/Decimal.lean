/-! # Decimals

A decimal is a coefficient below 2^96 and a number of fraction digits, at most 28, which printing
keeps. Decimals are compared by value.
-/

namespace TemplateAudit

structure Decimal where
  negative : Bool
  coefficient : Nat
  scale : Nat
  deriving DecidableEq, Repr

namespace Decimal

def maxScale : Nat := 28

/-- The largest coefficient, one less than 2^96. -/
def maxCoefficient : Nat := 79228162514264337593543950335

def ofInt (n : Int) : Decimal := ⟨decide (n < 0), n.natAbs, 0⟩

/-- The value in units of 10^-28. -/
def scaledValue (d : Decimal) : Int :=
  let magnitude := d.coefficient * Nat.pow 10 (maxScale - d.scale)
  if d.negative then -(magnitude : Int) else magnitude

def compare (a b : Decimal) : Ordering := Ord.compare a.scaledValue b.scaledValue

/-- The digits of a natural number, padded with zeros on the left. -/
def padLeft (width n : Nat) : List Char :=
  let digits := Nat.toDigits 10 n
  List.replicate (width - digits.length) '0' ++ digits

/-- Positional notation with exactly `scale` fraction digits. -/
def display (d : Decimal) : String :=
  let digits := padLeft (d.scale + 1) d.coefficient
  let whole := digits.take (digits.length - d.scale)
  let fraction := digits.drop (digits.length - d.scale)
  let sign := if d.negative then ['-'] else []
  String.ofList (sign ++ whole ++ if d.scale = 0 then [] else '.' :: fraction)

end Decimal

end TemplateAudit
