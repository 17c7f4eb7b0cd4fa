import TemplateAudit.Json.Basic
import TemplateAudit.Json.Reading

/-! # Reading numbers

A numeral without fraction and exponent is an integer if it is in range. Any other is a binary
number: its digits are taken while they fit 64 bits, and the power of ten that remains is applied
by one multiplication or by divisions, each of them rounded.
-/

namespace TemplateAudit.Json

def digitValue (c : Char) : Nat := c.toNat - '0'.toNat

/-- The significand after as many digits as fit below 2^64, and the digits that do not. -/
def absorb (significand : Nat) : List Char → Nat × List Char
  | [] => (significand, [])
  | c :: rest =>
    let next := 10 * significand + digitValue c
    if next < 18446744073709551616 then absorb next rest else (significand, c :: rest)

/-- Divides by a power of ten above the largest one in steps. -/
def divideDown (x : Binary64) : Nat → Nat → Option Binary64
  | 0, _ => some (.zero x.negative)
  | fuel + 1, e =>
    if e ≤ 308 then x.overPowerOfTen? e
    else if x.isZero then some x
    else match x.overPowerOfTen? 308 with
      | some y => divideDown y fuel (e - 308)
      | none => none

/-- The binary number of a significand and a power of ten, if it is finite. -/
def scale? (significand : Nat) (exponent : Int) : Option Binary64 :=
  match Binary64.ofNat? significand with
  | none => none
  | some x =>
    if 0 ≤ exponent then
      if exponent ≤ 308 then x.timesPowerOfTen? exponent.toNat
      else if x.isZero then some x
      else none
    else divideDown x 4 exponent.natAbs

def signed (negative : Bool) (x : Binary64) : Number :=
  .float (if negative then x.negate else x)

/-- The value of a numeral with a fraction or an exponent, or out of range for integers. -/
def floatValue (negative : Bool) (whole fraction : List Char) (exponent : Int)
    (rest : List Char) : Reading Number :=
  let (head, droppedDigits) := absorb 0 whole
  let (significand, unread) := absorb head fraction
  let read := fraction.length - unread.length
  (scale? significand (exponent + droppedDigits.length - read)).elim
    (.error ⟨.numberOutOfRange, rest, 0⟩) fun x => .ok (signed negative x, rest)

/-- The value of a numeral without fraction and exponent. -/
def wholeValue (negative : Bool) (whole rest : List Char) : Reading Number :=
  let value : Int := (absorb 0 whole).1
  let signedValue := if negative then -value else value
  if (absorb 0 whole).2 = [] ∧ ¬(negative ∧ value = 0) then
    match Number.ofInt? signedValue with
    | some n => .ok (n, rest)
    | none => floatValue negative whole [] 0 rest
  else floatValue negative whole [] 0 rest

def isZeroSignificand (whole fraction : List Char) : Bool :=
  (absorb (absorb 0 whole).1 fraction).1 = 0

/-- The digits of an exponent, and the rest as soon as their value leaves 31 bits. -/
def exponentDigits (value : Nat) : List Char → Nat × List Char × Bool
  | [] => (value, [], false)
  | c :: rest =>
    if c.isDigit then
      let next := 10 * value + digitValue c
      if next < 2147483648 then exponentDigits next rest else (value, rest, true)
    else (value, c :: rest, false)

/-- Reads on after the letter of the exponent. -/
def readExponent (negative : Bool) (whole fraction : List Char) (chars : List Char) :
    Reading Number :=
  let (downward, digits) := match chars with
    | '+' :: rest => (false, rest)
    | '-' :: rest => (true, rest)
    | _ => (false, chars)
  match digits with
  | [] => failAt .eofInValue []
  | c :: rest =>
    if c.isDigit then
      let (value, after, tooLarge) := exponentDigits (digitValue c) rest
      if tooLarge then
        if downward || isZeroSignificand whole fraction then
          .ok (signed negative (.zero false), after.dropWhile Char.isDigit)
        else .error ⟨.numberOutOfRange, after, 0⟩
      else floatValue negative whole fraction (if downward then -(value : Int) else value) after
    else failAt .invalidNumber digits

/-- Reads on after the digits before the point. -/
def readFraction (negative : Bool) (whole : List Char) : List Char → Reading Number
  | '.' :: chars =>
    let fraction := chars.takeWhile Char.isDigit
    let rest := chars.drop fraction.length
    if fraction = [] then
      failAt (if rest = [] then .eofInValue else .invalidNumber) rest
    else match rest with
      | c :: after =>
        if c = 'e' ∨ c = 'E' then readExponent negative whole fraction after
        else floatValue negative whole fraction 0 rest
      | [] => floatValue negative whole fraction 0 []
  | c :: rest =>
    if c = 'e' ∨ c = 'E' then readExponent negative whole [] rest
    else wholeValue negative whole (c :: rest)
  | [] => wholeValue negative whole []

/-- Reads a number after its sign. -/
def readNumber (negative : Bool) : List Char → Reading Number
  | [] => failAt .eofInValue []
  | '0' :: rest =>
    match rest with
    | c :: _ =>
      if c.isDigit then failAt .invalidNumber rest else readFraction negative ['0'] rest
    | [] => readFraction negative ['0'] []
  | c :: rest =>
    if c.isDigit then
      readFraction negative (c :: rest.takeWhile Char.isDigit) (rest.dropWhile Char.isDigit)
    else failAt .invalidNumber (c :: rest)

end TemplateAudit.Json
