import TemplateAudit.Text.Digits

/-! # Run-length tables

A property of code points is written as the lengths of runs. A set is a list of numbers that
alternate between code points outside and inside of it. A labelling is a list of lengths, each
with the label of its run. Lengths are hexadecimal.
-/

namespace TemplateAudit.Unicode

/-- The digits of a length have no capital letters, which begin the labels. -/
def lengthDigit? (c : Char) : Option Nat := if c.isUpper then none else Text.hexValue? c

/-- The numbers of a text, each ended by a blank. -/
def numbersFrom (value : Nat) : List Char → List Nat
  | [] => []
  | c :: rest =>
    match lengthDigit? c with
    | some d => numbersFrom (16 * value + d) rest
    | none => value :: numbersFrom 0 rest

/-- The set written in some lines. -/
def runs (lines : List String) : List Nat :=
  numbersFrom 0 (lines.flatMap fun line => line.toList ++ [' '])

/-- Whether a code point lies in the set of alternating runs. -/
def inRuns (n : Nat) : List Nat → Bool
  | outside :: inside :: rest =>
    if n < outside then false
    else if n < outside + inside then true
    else inRuns (n - outside - inside) rest
  | _ => false

/-- The ranges of a set of alternating runs that begin at a code point. -/
def rangesFrom (start : Nat) : List Nat → List (Nat × Nat)
  | outside :: inside :: rest =>
    let next := start + outside + inside
    (start + outside, next - 1) :: rangesFrom next rest
  | _ => []

/-- The runs of a text in which every length is followed by a label of `width` characters. -/
def labelledFrom (width : Nat) : Nat → Nat → List Char → List (Nat × List Char)
  | 0, _, _ => []
  | _ + 1, _, [] => []
  | rounds + 1, value, c :: rest =>
    match lengthDigit? c with
    | some d => labelledFrom width rounds (16 * value + d) rest
    | none => (value, c :: rest.take (width - 1)) ::
        labelledFrom width rounds 0 (rest.drop (width - 1))

def labelled (width : Nat) (lines : List String) : List (Nat × List Char) :=
  let chars := lines.flatMap String.toList
  labelledFrom width chars.length 0 chars

/-- The label of a code point; the code points after the last run have none. -/
def labelAt (n : Nat) : List (Nat × List Char) → List Char
  | [] => []
  | (length, label) :: rest => if n < length then label else labelAt (n - length) rest

/-- The ranges of the runs from a code point on whose labels are selected. -/
def labelledRangesFrom (selects : List Char → Bool) (start : Nat) :
    List (Nat × List Char) → List (Nat × Nat)
  | [] => []
  | (length, label) :: rest =>
    let later := labelledRangesFrom selects (start + length) rest
    if selects label then (start, start + length - 1) :: later else later

/-- Names are compared without case, blanks, underscores and hyphens, and without a leading
`is`. -/
def plainName (name : List Char) : List Char :=
  let kept := (name.filter fun c => c ≠ ' ' ∧ c ≠ '_' ∧ c ≠ '-' ∧ c.toNat < 128).map Char.toLower
  kept

def symbolicName (name : String) : String :=
  let chars := name.toList
  let lowered := chars.map Char.toLower
  if ['i', 's'].isPrefixOf lowered then
    let rest := plainName (chars.drop 2)
    String.ofList (if rest = ['c'] then ['i', 's', 'c'] else rest)
  else String.ofList (plainName chars)

end TemplateAudit.Unicode
