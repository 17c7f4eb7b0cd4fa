import TemplateAudit.Pattern.Bracket
import TemplateAudit.Pattern.Size

/-! # Reading patterns

A pattern is read from left to right with a stack of the groups that are open. Flags hold from
where they are set to the end of their group. A text is no pattern if it is malformed, nested too
deep, or stands for an automaton that would take too much memory.
-/

namespace TemplateAudit.Pattern

/-- A part of a sequence and its depth; flags are parts that match the empty text. -/
structure Part where
  pattern : Pattern
  depth : Nat
  isFlags : Bool

/-- A group that is open: the parts of its last branch, the latest first, its earlier branches,
whether it captures, and the flags outside of it. -/
structure Group where
  parts : List Part
  branches : List Part
  isCapture : Bool
  outside : Flags

def deepest (parts : List Part) : Nat := (parts.map Part.depth).foldl max 0

/-- Several parts nest one level deeper than a single one. -/
def nesting : List Part → Nat
  | [] => 0
  | [part] => part.depth
  | parts => deepest parts + 1

namespace Group

def branch (g : Group) : Part :=
  let parts := g.parts.reverse
  ⟨sequence (parts.map Part.pattern), nesting parts, false⟩

def whole (g : Group) : Part :=
  let branches := (g.branch :: g.branches).reverse
  ⟨alternatives (branches.map Part.pattern), nesting branches, false⟩

/-- The group as a part of the one around it. -/
def closed (g : Group) : Part :=
  let inner := g.whole
  ⟨if g.isCapture then .capture inner.pattern else inner.pattern, inner.depth + 1, false⟩

def push (g : Group) (part : Part) : Group := { g with parts := part :: g.parts }

/-- The last part, which an operator applies to, and the group without it. -/
def pop? (g : Group) : Option (Part × Group) :=
  match g.parts with
  | part :: rest => if part.isFlags then none else some (part, { g with parts := rest })
  | [] => none

end Group

def setFlag? (flags : Flags) (c : Char) (value : Bool) : Option Flags :=
  if c = 'i' then some { flags with ignoreCase := value }
  else if c = 'm' then some { flags with multiLine := value }
  else if c = 's' then some { flags with dotAll := value }
  else if c = 'U' then some { flags with swapGreed := value }
  else if c = 'u' then some { flags with unicode := value }
  else if c = 'R' then some { flags with anyLineEnd := value }
  else if c = 'x' then some { flags with ignoreSpace := value }
  else none

/-- Flags up to a colon or a closing parenthesis. No flag may be given twice, and there is one
minus sign at most, which is not the last. -/
def readFlags (seen : List Char) (flags : Flags) (value : Bool) :
    List Char → Option (Flags × List Char × List Char)
  | [] => none
  | c :: rest =>
    if c = ':' ∨ c = ')' then
      if seen.head? = some '-' then none else some (flags, seen, c :: rest)
    else if seen.contains c then none
    else if c = '-' then readFlags (c :: seen) flags false rest
    else match setFlag? flags c value with
      | some changed => readFlags (c :: seen) changed value rest
      | none => none

def isNameStart (c : Char) : Bool := c = '_' || Unicode.hasProperty "alphabetic" c.toNat

def isNameChar (c : Char) : Bool :=
  isNameStart c || c = '.' || c = '[' || c = ']' ||
    ["Nd", "Nl", "No"].contains (Unicode.category c.toNat)

/-- The name of a group and what follows its closing angle bracket. -/
def readGroupName (chars : List Char) : Option (List Char × List Char) :=
  let name := chars.takeWhile (· ≠ '>')
  match name, chars.drop name.length with
  | c :: more, '>' :: rest =>
    if isNameStart c ∧ more.all isNameChar then some (c :: more, rest) else none
  | _, _ => none

/-- What an opening parenthesis starts. -/
inductive GroupStart where
  | plain
  | named (name : List Char)
  | flagged (flags : Flags)
  | flagsOnly (flags : Flags)

/-- Reads on after an opening parenthesis; nothing looks around the place of a match. -/
def readGroupStart (flags : Flags) (chars : List Char) : Option (GroupStart × List Char) :=
  let named (rest : List Char) : Option (GroupStart × List Char) := do
    let (name, after) ← readGroupName rest
    return (.named name, after)
  match skip flags chars with
  | '?' :: 'P' :: '<' :: rest => named rest
  | '?' :: '<' :: '=' :: _ => none
  | '?' :: '<' :: '!' :: _ => none
  | '?' :: '<' :: rest => named rest
  | '?' :: rest => do
    let (changed, seen, after) ← readFlags [] flags true rest
    match after with
    | ':' :: inside => return (.flagged changed, inside)
    | ')' :: outside => if seen = [] then none else return (.flagsOnly changed, outside)
    | _ => none
  | start => some (.plain, start)

/-- A decimal number below 2^32 between blanks; none if there are no digits. -/
def readCount (flags : Flags) (chars : List Char) : Option (Option Nat × List Char) :=
  let start := chars.dropWhile Text.isBlank
  let (digits, rest) := digitsFrom (start.length + 1) start
  let value := digits.foldl (fun n c => 10 * n + (c.toNat - 48)) 0
  let after := skip flags (rest.dropWhile Text.isBlank)
  if digits = [] then some (none, after)
  else if value < 4294967296 then some (some value, after)
  else none
where
  digitsFrom : Nat → List Char → List Char × List Char
    | 0, chars => ([], chars)
    | _ + 1, [] => ([], [])
    | rounds + 1, c :: rest =>
      if c.isDigit then
        let (digits, after) := digitsFrom rounds (skip flags rest)
        (c :: digits, after)
      else ([], c :: rest)

/-- The bounds of a repetition after its opening brace. -/
def readBounds (flags : Flags) (chars : List Char) :
    Option ((Nat × Option Nat) × List Char) := do
  let (least, rest) ← readCount flags (skip flags chars)
  let low ← least
  let (bounds, after) ← match rest with
    | ',' :: more =>
      match skip flags more with
      | [] => none
      | '\x7d' :: last => some ((low, none), '\x7d' :: last)
      | start => do
        let (most, tail) ← readCount flags start
        some ((low, some (← most)), tail)
    | _ => some ((low, some low), rest)
  match after with
  | '\x7d' :: last =>
    if bounds.2.all fun most => low ≤ most then return (bounds, last) else none
  | _ => none

/-- Drops the question mark after an operator: it prefers shorter matches, but allows the same. -/
def dropLazy : List Char → List Char
  | '?' :: rest => rest
  | chars => chars

/-- The set of a dot; without Unicode it could stop inside of a character. -/
def dotSet? (flags : Flags) : Option CharSet :=
  if !flags.unicode then none
  else if flags.dotAll then some (.range 0 0x10FFFF)
  else if flags.anyLineEnd then some (.compl (.ofRanges [(10, 10), (13, 13)]))
  else some (.compl (.range 10 10))

def lineStart (flags : Flags) : Assertion :=
  if !flags.multiLine then .textStart
  else if flags.anyLineEnd then .anyLineStart
  else .lineStart

def lineEnd (flags : Flags) : Assertion :=
  if !flags.multiLine then .textEnd
  else if flags.anyLineEnd then .anyLineEnd
  else .lineEnd

/-- A dot, an anchor, an escape or a character by itself. -/
def readPrimitive (flags : Flags) : List Char → Option (Pattern × List Char)
  | [] => none
  | c :: rest =>
    if c = '.' then do return (.set (← dotSet? flags), rest)
    else if c = '^' then some (.assertion (lineStart flags), rest)
    else if c = '$' then some (.assertion (lineEnd flags), rest)
    else if c = '\\' then do
      let (atom, after) ← readEscape flags rest
      match atom with
      | .literal d isByte => return (.set (← literalSet? flags d isByte), after)
      | .set s => return (.set s, after)
      | .assertion a => return (.assertion a, after)
    else do return (.set (← literalSet? flags c false), rest)

def repeatPart (part : Part) (least : Nat) (most : Option Nat) : Part :=
  ⟨repetition part.pattern least most, part.depth + 1, false⟩

/-- Reads the rest of a pattern in its groups; every round reads at least one character. -/
def readParts : Nat → Flags → List (List Char) → Group → List Group → List Char → Option Part
  | 0, _, _, _, _, _ => none
  | rounds + 1, flags, names, g, outer, chars =>
    let go := readParts rounds
    match skip flags chars with
    | [] => if outer = [] then some g.whole else none
    | c :: rest =>
      if c = '(' then do
        let (start, after) ← readGroupStart flags rest
        match start with
        | .plain => go flags names ⟨[], [], true, flags⟩ (g :: outer) after
        | .named name =>
          if names.contains name then none
          else go flags (name :: names) ⟨[], [], true, flags⟩ (g :: outer) after
        | .flagged changed => go changed names ⟨[], [], false, flags⟩ (g :: outer) after
        | .flagsOnly changed => go changed names (g.push ⟨.empty, 0, true⟩) outer after
      else if c = ')' then
        match outer with
        | [] => none
        | parent :: others =>
          go g.outside names (parent.push g.closed) others rest
      else if c = '|' then
        go flags names { g with parts := [], branches := g.branch :: g.branches } outer rest
      else if c = '[' then do
        let ((s, depth), after) ← readBracket flags rest
        go flags names (g.push ⟨.set s, depth, false⟩) outer after
      else if c = '?' ∨ c = '*' ∨ c = '+' then do
        let (part, others) ← g.pop?
        let least := if c = '+' then 1 else 0
        let most := if c = '?' then some 1 else none
        go flags names (others.push (repeatPart part least most)) outer (dropLazy rest)
      else if c = '\x7b' then do
        let (part, others) ← g.pop?
        let ((least, most), after) ← readBounds flags rest
        go flags names (others.push (repeatPart part least most)) outer
          (dropLazy (skip flags after))
      else do
        let (p, after) ← readPrimitive flags (c :: rest)
        go flags names (g.push ⟨p, 0, false⟩) outer after

/-- The deepest nesting that a pattern may have. -/
def maxDepth : Nat := 250

/-- The pattern that a text stands for. -/
def parse? (text : String) : Option Pattern :=
  let chars := text.toList
  match readParts (chars.length + 1) .initial [] ⟨[], [], false, .initial⟩ [] chars with
  | some part =>
    if part.depth ≤ maxDepth ∧ part.pattern.fits then some part.pattern else none
  | none => none

end TemplateAudit.Pattern
