import TemplateAudit.Number.Binary64

/-! # The shortest decimal of a binary number

A decimal reads back as a binary number when it lies between the midpoints to the two
neighbours, the midpoints included for an even rank. The shortest decimal is a point of the
coarsest decimal grid that has a point there, the nearer one if two neighbours on that grid do.
-/

namespace TemplateAudit

/-- The number `digits * 10 ^ exponent`. -/
structure Scaled where
  digits : Nat
  exponent : Int
  deriving DecidableEq, Repr

namespace Binary64

/-- Whether `m` steps of `num / den` half units read back as the magnitude of this rank. -/
def readsBack (rank m num den : Nat) : Bool :=
  let low := (units (rank - 1) + units rank) * den
  let high := (units rank + units (rank + 1)) * den
  let point := m * num
  if rank % 2 = 0 then low ≤ point && point ≤ high else low < point && point < high

/-- The neighbour of the magnitude on one grid that reads back, the nearer one first and an even
one before an odd one at the same distance. -/
def onGrid? (rank num den : Nat) : Option Nat :=
  let value := 2 * units rank * den
  let below := value / num
  let rest := value % num
  let above := below + 1
  let aboveFirst := num < 2 * rest || (num == 2 * rest && below % 2 == 1)
  let (first, second) := if aboveFirst then (above, below) else (below, above)
  if readsBack rank first num den then some first
  else if readsBack rank second num den then some second
  else none

/-- A step of the grid `10 ^ e` in half units, as a fraction. -/
def gridStep (e : Int) : Nat × Nat :=
  (2 * unitsPerOne * Nat.pow 10 e.toNat, Nat.pow 10 (-e).toNat)

/-- Walks to finer grids until one has a point that reads back. -/
def search (rank : Nat) : Nat → Int → Scaled
  | 0, e => ⟨0, e⟩
  | fuel + 1, e =>
    let (num, den) := gridStep e
    match onGrid? rank num den with
    | some digits => ⟨digits, e⟩
    | none => search rank fuel (e - 1)

/-- An exponent whose grid is coarser than the magnitude. -/
def coarseExponent (rank : Nat) : Int :=
  ((Nat.log2 (units rank) : Int) - 1073) * 30103 / 100000 + 1

/-- The shortest decimal of a magnitude that is not zero. -/
def shortest (rank : Nat) : Scaled := search rank 25 (coarseExponent rank)

end Binary64

end TemplateAudit
