import TemplateAudit.Pattern.CharSet

/-! # Patterns

A pattern relates the places of a text where a match can start and those where it can end.
Matching computes for a set of places all those that the pattern leads to; a text matches if some
place leads anywhere, for patterns are not anchored.
-/

namespace TemplateAudit

/-- A condition on a place, given by the characters around it. -/
inductive Assertion where
  | textStart
  | textEnd
  | lineStart
  | lineEnd
  | anyLineStart
  | anyLineEnd
  | wordBoundary (unicode : Bool)
  | notWordBoundary (unicode : Bool)
  | wordStart (unicode : Bool)
  | wordEnd (unicode : Bool)
  | noWordBefore (unicode : Bool)
  | noWordAfter (unicode : Bool)
  deriving DecidableEq, Repr

namespace Assertion

def isWord (unicode : Bool) : Option Char → Bool
  | none => false
  | some c =>
    if unicode then CharSet.word.contains c.toNat
    else c.isAlphanum || c = '_'

/-- Whether an assertion holds between two characters; a missing one is an end of the text. -/
def holds (before after : Option Char) : Assertion → Bool
  | .textStart => before.isNone
  | .textEnd => after.isNone
  | .lineStart => before.isNone || before = some '\n'
  | .lineEnd => after.isNone || after = some '\n'
  | .anyLineStart =>
    before.isNone || before = some '\n' || (before = some '\r' && after ≠ some '\n')
  | .anyLineEnd =>
    after.isNone || after = some '\r' || (after = some '\n' && before ≠ some '\r')
  | .wordBoundary u => isWord u before != isWord u after
  | .notWordBoundary u => isWord u before == isWord u after
  | .wordStart u => !isWord u before && isWord u after
  | .wordEnd u => isWord u before && !isWord u after
  | .noWordBefore u => !isWord u before
  | .noWordAfter u => !isWord u after

end Assertion

inductive Pattern where
  | empty
  | set (s : CharSet)
  | assertion (a : Assertion)
  | seq (first second : Pattern)
  | alt (first second : Pattern)
  | repeated (body : Pattern) (least : Nat) (most : Option Nat)
  | capture (body : Pattern)

namespace Pattern

/-- The union of two increasing lists of places. -/
def merge : List Nat → List Nat → List Nat
  | [], places => places
  | a :: as, places => insertInto a (merge as places)
where
  insertInto (a : Nat) : List Nat → List Nat
    | [] => [a]
    | b :: bs => if a < b then a :: b :: bs else if a = b then b :: bs else b :: insertInto a bs

/-- Applies a step a number of times; places that stay the same stay so. -/
def iterate (step : List Nat → List Nat) : Nat → List Nat → List Nat
  | 0, places => places
  | times + 1, places =>
    let next := step places
    if next = places then places else iterate step times next

/-- Adds what a step leads to, a number of times. -/
def grow (step : List Nat → List Nat) : Nat → List Nat → List Nat
  | 0, places => places
  | times + 1, places =>
    let next := merge (step places) places
    if next = places then places else grow step times next

def characterBefore (text : Array Char) (place : Nat) : Option Char :=
  if place = 0 then none else text[place - 1]?

/-- The places where a match that starts at one of the given places can end. -/
def reach (text : Array Char) : Pattern → List Nat → List Nat
  | .empty, places => places
  | .set s, places =>
    (places.filter fun place => match text[place]? with
      | some c => s.contains c.toNat
      | none => false).map (· + 1)
  | .assertion a, places =>
    places.filter fun place => a.holds (characterBefore text place) text[place]?
  | .seq first second, places => second.reach text (first.reach text places)
  | .alt first second, places => merge (first.reach text places) (second.reach text places)
  | .repeated body least most, places =>
    let start := iterate (body.reach text) least places
    grow (body.reach text) ((most.getD (least + text.size + 1)) - least) start
  | .capture body, places => body.reach text places

/-- Whether some part of a text matches. -/
def occursIn (p : Pattern) (text : String) : Bool :=
  let chars := text.toList.toArray
  p.reach chars (List.range (chars.size + 1)) ≠ []

/-- Whether a pattern can match nothing but the empty text. -/
def matchesOnlyEmpty : Pattern → Bool
  | .empty | .assertion _ => true
  | .set _ => false
  | .seq a b | .alt a b => a.matchesOnlyEmpty && b.matchesOnlyEmpty
  | .repeated body _ most => most = some 0 || body.matchesOnlyEmpty
  | .capture body => body.matchesOnlyEmpty

/-! ### Building patterns

Patterns are simplified where they are put together, and the size of an automaton is that of the
simplified pattern.
-/

/-- The patterns one after the other, without those that are empty. -/
def sequence : List Pattern → Pattern
  | [] => .empty
  | .empty :: rest => sequence rest
  | p :: rest =>
    match sequence rest with
    | .empty => p
    | q => .seq p q

/-- The set of a pattern that matches single characters. -/
def charSet? : Pattern → Option CharSet
  | .set s => some s
  | _ => none

/-- The patterns as alternatives; those that match single characters only become one set. -/
def alternatives (branches : List Pattern) : Pattern :=
  match branches.mapM charSet? with
  | some [] => .empty
  | some (s :: sets) => .set (sets.foldl CharSet.union s)
  | none => nested branches
where
  nested : List Pattern → Pattern
    | [] => .empty
    | [p] => p
    | p :: rest => .alt p (nested rest)

/-- A repetition; what matches nothing but the empty text is repeated once at most. -/
def repetition (body : Pattern) (least : Nat) (most : Option Nat) : Pattern :=
  let (low, high) :=
    if body.matchesOnlyEmpty then (min least 1, some (min (most.getD 1) 1)) else (least, most)
  if high = some 0 then .empty
  else if low = 1 ∧ high = some 1 then body
  else .repeated body low high

end Pattern

end TemplateAudit
