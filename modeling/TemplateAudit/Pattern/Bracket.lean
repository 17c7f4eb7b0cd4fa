import TemplateAudit.Pattern.Escape

/-! # Bracketed sets

A set in brackets lists characters, ranges, named classes and further sets in brackets, and may
combine such lists by intersection and difference. It is read with a stack of the brackets that
are open.
-/

namespace TemplateAudit.Pattern

inductive SetOperation where
  | intersection
  | difference
  | symmetricDifference
  deriving DecidableEq, Repr

/-- A set, the number of items it was made of, and how deep they are nested. -/
structure SetList where
  set : CharSet
  count : Nat
  depth : Nat

namespace SetList

def empty : SetList := ⟨.none, 0, 0⟩

def add (items : SetList) (s : CharSet) (depth : Nat) : SetList :=
  ⟨if items.count = 0 then s else .union items.set s, items.count + 1, max items.depth depth⟩

/-- The depth of a list as one operand. -/
def nesting (items : SetList) : Nat := if items.count ≤ 1 then items.depth else items.depth + 1

end SetList

/-- A bracket that is open: its list so far, and an operation waiting for its second operand. -/
structure OpenSet where
  negated : Bool
  items : SetList
  pending : Option (SetOperation × CharSet × Nat)

/-- Closes a set under case where the flags say so. -/
def closeCase (flags : Flags) (s : CharSet) : CharSet :=
  if !flags.ignoreCase then s
  else if flags.unicode then .anyCase s
  else .anyAsciiCase s

namespace OpenSet

/-- The list as an operand, with the operation before it carried out. -/
def operand (flags : Flags) (o : OpenSet) : CharSet × Nat :=
  match o.pending with
  | none => (o.items.set, o.items.nesting)
  | some (op, left, depth) =>
    let l := closeCase flags left
    let r := closeCase flags o.items.set
    let s := match op with
      | .intersection => CharSet.inter l r
      | .difference => l.diff r
      | .symmetricDifference => l.symmDiff r
    (s, max depth o.items.nesting + 1)

def startOperation (flags : Flags) (o : OpenSet) (op : SetOperation) : OpenSet :=
  let (s, depth) := o.operand flags
  ⟨o.negated, .empty, some (op, s, depth)⟩

/-- The set of a bracket that ends, and its depth; without Unicode it cannot be negated. -/
def close? (flags : Flags) (o : OpenSet) : Option (CharSet × Nat) :=
  let (s, depth) := o.operand flags
  let closed := closeCase flags s
  if !o.negated then some (closed, depth + 1)
  else if flags.unicode then some (.compl closed, depth + 1)
  else none

end OpenSet

def asciiClasses : List (String × List (Nat × Nat)) := [
  ("alnum", [(48, 57), (65, 90), (97, 122)]),
  ("alpha", [(65, 90), (97, 122)]),
  ("ascii", [(0, 127)]),
  ("blank", [(9, 9), (32, 32)]),
  ("cntrl", [(0, 31), (127, 127)]),
  ("digit", [(48, 57)]),
  ("graph", [(33, 126)]),
  ("lower", [(97, 122)]),
  ("print", [(32, 126)]),
  ("punct", [(33, 47), (58, 64), (91, 96), (123, 126)]),
  ("space", [(9, 13), (32, 32)]),
  ("upper", [(65, 90)]),
  ("word", [(48, 57), (65, 90), (95, 95), (97, 122)]),
  ("xdigit", [(48, 57), (65, 70), (97, 102)])]

/-- A named class after its opening bracket, with whether it is negated; anything else is left to
be a bracket. -/
def asciiClass? : List Char → Option (CharSet × Bool × List Char)
  | ':' :: rest =>
    let (negated, start) := match rest with
      | '^' :: more => (true, more)
      | _ => (false, rest)
    let name := start.takeWhile (· ≠ ':')
    match start.drop name.length with
    | ':' :: ']' :: after =>
      (asciiClasses.find? fun entry => entry.1.toList = name).map fun entry =>
        (.ofRanges entry.2, negated, after)
    | _ => none
  | _ => none

/-- The hyphens after an opening bracket, each a character of the set. -/
def leadingHyphens (flags : Flags) : Nat → SetList → List Char → Option (SetList × List Char)
  | 0, _, _ => none
  | _ + 1, _, [] => none
  | rounds + 1, items, c :: rest =>
    if c = '-' then leadingHyphens flags rounds (items.add (.single '-') 0) (skip flags rest)
    else some (items, c :: rest)

/-- Reads on after an opening bracket up to the items; a closing bracket that comes first is a
character of the set. -/
def openBracket (flags : Flags) (chars : List Char) : Option (OpenSet × List Char) := do
  let start := skip flags chars
  let (negated, afterSign) := match start with
    | '^' :: rest => (true, skip flags rest)
    | _ => (false, start)
  let (items, rest) ← leadingHyphens flags (afterSign.length + 1) .empty afterSign
  match rest with
  | ']' :: more =>
    if items.count = 0 then
      let after := skip flags more
      if after = [] then none
      else return (⟨negated, items.add (.single ']') 0, none⟩, after)
    else return (⟨negated, items, none⟩, rest)
  | _ => return (⟨negated, items, none⟩, rest)

/-- One item of a set: a character or an escape. -/
def readSetAtom (flags : Flags) : List Char → Option (Atom × List Char)
  | [] => none
  | '\\' :: rest => readEscape flags rest
  | c :: rest => some (.literal c false, rest)

/-- A character as an end of a range. -/
def boundOf? (flags : Flags) : Atom → Option Nat
  | .literal c _ => if flags.unicode ∨ c.toNat < 128 then some c.toNat else none
  | _ => none

def atomSet? (flags : Flags) : Atom → Option CharSet
  | .set s => some s
  | .assertion _ => none
  | literal => (boundOf? flags literal).map fun n => .range n n

/-- The character after a hyphen, blanks and the mark of a comment left out where the flags say
so. -/
def afterHyphen (flags : Flags) (chars : List Char) : Option Char :=
  if !flags.ignoreSpace then chars.head?
  else
    let start := chars.dropWhile Text.isBlank
    let rest := match start with
      | '#' :: more => more.dropWhile Text.isBlank
      | _ => start
    match rest with
    | c :: _ => some c
    | [] => chars.head?

/-- A character, a range or an escape. -/
def readSetRange (flags : Flags) (chars : List Char) : Option (CharSet × List Char) := do
  let (first, afterFirst) ← readSetAtom flags chars
  match skip flags afterFirst with
  | [] => none
  | '-' :: rest =>
    if afterHyphen flags rest = some ']' ∨ afterHyphen flags rest = some '-' then
      return (← atomSet? flags first, '-' :: rest)
    else
      let (second, after) ← readSetAtom flags (skip flags rest)
      let lo ← boundOf? flags first
      let hi ← boundOf? flags second
      if lo ≤ hi then return (.range lo hi, after) else none
  | rest => return (← atomSet? flags first, rest)

/-- Reads the items of the innermost bracket and of those around it. -/
def readBrackets (flags : Flags) :
    Nat → OpenSet → List OpenSet → List Char → Option ((CharSet × Nat) × List Char)
  | 0, _, _, _ => none
  | rounds + 1, o, outer, chars =>
    match skip flags chars with
    | [] => none
    | '[' :: rest =>
      match asciiClass? rest with
      | some (s, negated, after) =>
        if negated ∧ !flags.unicode then none
        else
          let closed := closeCase flags s
          let item := if negated then CharSet.compl closed else closed
          readBrackets flags rounds { o with items := o.items.add item 0 } outer after
      | none => do
        let (inner, after) ← openBracket flags rest
        readBrackets flags rounds inner (o :: outer) after
    | ']' :: rest => do
      let (s, depth) ← o.close? flags
      match outer with
      | [] => return ((s, depth), rest)
      | parent :: others =>
        readBrackets flags rounds { parent with items := parent.items.add s depth } others rest
    | '&' :: '&' :: rest =>
      readBrackets flags rounds (o.startOperation flags .intersection) outer rest
    | '-' :: '-' :: rest =>
      readBrackets flags rounds (o.startOperation flags .difference) outer rest
    | '~' :: '~' :: rest =>
      readBrackets flags rounds (o.startOperation flags .symmetricDifference) outer rest
    | start => do
      let (s, after) ← readSetRange flags start
      readBrackets flags rounds { o with items := o.items.add s 0 } outer after

/-- A set and its depth, after the opening bracket. -/
def readBracket (flags : Flags) (chars : List Char) : Option ((CharSet × Nat) × List Char) := do
  let (o, rest) ← openBracket flags chars
  readBrackets flags (chars.length + 1) o [] rest

end TemplateAudit.Pattern
