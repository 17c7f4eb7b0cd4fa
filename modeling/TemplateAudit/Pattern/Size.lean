import TemplateAudit.Pattern.Basic

/-! # The size of automata

Two automata run a pattern: one reads a text forwards, the other backwards. They work on the bytes
of UTF-8, so the ranges of a set are split until each is a sequence of byte ranges. The forward
automaton shares the states from which the same sequences lead on, the backward one shares what
sequences begin with. A pattern is refused if one of its automata takes too much memory.
-/

namespace TemplateAudit

inductive Direction where
  | forward
  | backward
  deriving DecidableEq, Repr

/-- The bytes of a state without what hangs off it. -/
def stateSize : Nat := 32

/-- The bytes of a transition to another state under a range of bytes. -/
def transitionSize : Nat := 8

/-- The bytes of an alternative of a state that has several. -/
def branchSize : Nat := 4

namespace CharSet

/-- The bytes of a code point in UTF-8. -/
def utf8 (n : Nat) : List Nat :=
  if n < 0x80 then [n]
  else if n < 0x800 then [0xC0 + n / 0x40, 0x80 + n % 0x40]
  else if n < 0x10000 then [0xE0 + n / 0x1000, 0x80 + n / 0x40 % 0x40, 0x80 + n % 0x40]
  else
    [0xF0 + n / 0x40000, 0x80 + n / 0x1000 % 0x40, 0x80 + n / 0x40 % 0x40, 0x80 + n % 0x40]

/-- Splits a range in front of a code point that lies in it. -/
def cutBefore (point : Nat) (r : Nat × Nat) : List (Nat × Nat) :=
  if r.1 < point ∧ point ≤ r.2 then [(r.1, point - 1), (point, r.2)] else [r]

/-- Splits a range of several blocks, so that no block but the first and the last is cut. -/
def cutAtBlocks (size : Nat) (r : Nat × Nat) : List (Nat × Nat) :=
  if r.1 / size = r.2 / size then [r]
  else
    (cutBefore ((r.1 + size - 1) / size * size) r).flatMap (cutBefore ((r.2 + 1) / size * size))

/-- The parts of a range whose code points have bytes that vary independently. -/
def uniformParts (r : Nat × Nat) : List (Nat × Nat) :=
  let scalars := ((cutBefore 0xD800 r).flatMap (cutBefore 0xE000)).filter fun part =>
    part.2 < 0xD800 || 0xE000 ≤ part.1
  let sized := ((scalars.flatMap (cutBefore 0x80)).flatMap (cutBefore 0x800)).flatMap
    (cutBefore 0x10000)
  sized.flatMap fun part =>
    if part.2 < 0x80 then [part]
    else ((cutAtBlocks 0x40 part).flatMap (cutAtBlocks 0x1000)).flatMap (cutAtBlocks 0x40000)

/-- The sequences of byte ranges of a set, in order. -/
def byteSequences (s : CharSet) : List (List (Nat × Nat)) :=
  (s.ranges.flatMap uniformParts).map fun part => (utf8 part.1).zip (utf8 part.2)

/-- The first byte ranges of some sequences, each with the sequences that may follow it. -/
def groupsOf : List (List (Nat × Nat)) → List ((Nat × Nat) × List (List (Nat × Nat)))
  | [] => []
  | [] :: rest => groupsOf rest
  | (r :: later) :: rest =>
    match groupsOf rest with
    | [] => [(r, [later])]
    | (s, laters) :: others =>
      if s = r then (r, later :: laters) :: others else (r, [later]) :: (s, laters) :: others

/-- What is left to read in the states under some sequences, so many bytes deep. -/
def statesUnder : Nat → List (List (Nat × Nat)) → List (List (List (Nat × Nat)))
  | 0, _ => []
  | depth + 1, sequences =>
    let groups := groupsOf sequences
    if groups = [] then [] else sequences :: groups.flatMap fun g => statesUnder depth g.2

/-- How many beginnings some sequences have, so many bytes long at most. -/
def beginnings : Nat → List (List (Nat × Nat)) → Nat
  | 0, _ => 0
  | length + 1, sequences =>
    (groupsOf sequences).foldl (fun count g => count + 1 + beginnings length g.2) 0

/-- The memory of the part of an automaton that reads one character of a set. -/
def size (d : Direction) (s : CharSet) : Nat :=
  let sequences := s.byteSequences
  match s.ranges with
  | [] => stateSize
  | [(first, last)] =>
    if first = last then stateSize * (utf8 first).length else several sequences
  | _ => several sequences
where
  several (sequences : List (List (Nat × Nat))) : Nat :=
    if s.ranges.all fun r => r.2 < 0x80 then
      2 * stateSize + transitionSize * s.ranges.length
    else match d with
      | .forward =>
        (statesUnder 4 sequences).eraseDups.foldl
          (fun total state => total + stateSize + transitionSize * (groupsOf state).length)
          stateSize
      | .backward =>
        2 * stateSize + branchSize * sequences.length + stateSize * beginnings 4 sequences

end CharSet

namespace Pattern

/-- Whether every match of a pattern has some character. -/
def neverEmpty : Pattern → Bool
  | .empty | .assertion _ => false
  | .set _ => true
  | .seq a b => a.neverEmpty || b.neverEmpty
  | .alt a b => a.neverEmpty && b.neverEmpty
  | .repeated body least _ => 0 < least && body.neverEmpty
  | .capture body => body.neverEmpty

/-- What a pattern of some size adds to an alternation; an inner alternation is merged with it. -/
def asBranch (p : Pattern) (size : Nat) : Nat :=
  match p with
  | .alt _ _ => size - 2 * stateSize
  | _ => size + branchSize

/-- The memory of a state with two alternatives. -/
def forkSize : Nat := stateSize + 2 * branchSize

def size (d : Direction) : Pattern → Nat
  | .empty | .assertion _ => stateSize
  | .set s => s.size d
  | .seq a b => a.size d + b.size d
  | .alt a b => 2 * stateSize + a.asBranch (a.size d) + b.asBranch (b.size d)
  | .capture body => body.size d + if d = .forward then 2 * stateSize else 0
  | .repeated body 0 none =>
    if body.neverEmpty then body.size d + forkSize else body.size d + 2 * forkSize + stateSize
  | .repeated body least none => least * body.size d + forkSize
  | .repeated body 0 (some 1) => body.size d + forkSize + stateSize
  | .repeated body least (some most) =>
    let first := if least = 0 then stateSize else least * body.size d
    if least = most then first
    else first + stateSize + (most - least) * (body.size d + forkSize)

/-- The memory of an automaton: any bytes, then the pattern as the whole match, then the end. -/
def automatonSize (d : Direction) (p : Pattern) : Nat :=
  let anyBytes := forkSize + 2 * stateSize + transitionSize
  anyBytes + p.capture.size d + stateSize

/-- The most memory that an automaton may take. -/
def maxSize : Nat := 10 * 1048576

def fits (p : Pattern) : Bool :=
  p.automatonSize .forward ≤ maxSize && p.automatonSize .backward ≤ maxSize

end Pattern

end TemplateAudit
