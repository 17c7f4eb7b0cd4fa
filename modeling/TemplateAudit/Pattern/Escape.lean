import TemplateAudit.Pattern.Basic

/-! # Escapes in patterns

What a backslash introduces: a character by itself or by its code point, a set of characters, or
an assertion. How an escape is read depends on the flags in force.
-/

namespace TemplateAudit.Pattern

/-- The flags in force at a place of a pattern. -/
structure Flags where
  ignoreCase : Bool
  multiLine : Bool
  dotAll : Bool
  swapGreed : Bool
  unicode : Bool
  anyLineEnd : Bool
  ignoreSpace : Bool
  deriving DecidableEq, Repr

def Flags.initial : Flags := ⟨false, false, false, false, true, false, false⟩

/-- A part of a pattern without operators. -/
inductive Atom where
  | literal (c : Char) (isByte : Bool)
  | set (s : CharSet)
  | assertion (a : Assertion)

/-- Drops a comment up to the end of its line. -/
def dropComment : List Char → List Char
  | [] => []
  | c :: rest => if c = '\n' then rest else dropComment rest

/-- Drops blanks and comments where the flags say so; every round drops at least one character. -/
def skipWithin : Nat → List Char → List Char
  | 0, chars => chars
  | _ + 1, [] => []
  | rounds + 1, c :: rest =>
    if Text.isBlank c then skipWithin rounds rest
    else if c = '#' then skipWithin rounds (dropComment rest)
    else c :: rest

def skip (flags : Flags) (chars : List Char) : List Char :=
  if flags.ignoreSpace then skipWithin (chars.length + 1) chars else chars

/-- Exactly so many hexadecimal digits. -/
def hexDigits (flags : Flags) : Nat → Nat → List Char → Option (Nat × List Char)
  | 0, value, chars => some (value, chars)
  | count + 1, value, chars =>
    match chars with
    | [] => none
    | c :: rest => do
      let d ← Text.hexValue? c
      hexDigits flags count (16 * value + d) (skip flags rest)

/-- The characters up to a closing brace, blanks left out where the flags say so. -/
def untilBrace (flags : Flags) : Nat → List Char → Option (List Char × List Char)
  | 0, _ => none
  | _ + 1, [] => none
  | rounds + 1, c :: rest =>
    if c = '\x7d' then some ([], rest)
    else do
      let (chars, after) ← untilBrace flags rounds (skip flags rest)
      return (c :: chars, after)

/-- A code point after its letter: so many digits, or any number of them in braces. -/
def readHex (flags : Flags) (count : Nat) (chars : List Char) :
    Option (Char × Bool × List Char) :=
  match skip flags chars with
  | '\x7b' :: rest => do
    let (digits, after) ← untilBrace flags (rest.length + 1) (skip flags rest)
    if digits = [] then none
    let value ← digits.foldl
      (fun value c => do return 16 * (← value) + (← Text.hexValue? c)) (some 0)
    return (← Text.charOf? value, false, skip flags after)
  | start => do
    let (value, after) ← hexDigits flags count 0 start
    return (← Text.charOf? value, count = 2, after)

/-- The set of a property given by one name. -/
def namedSet? (name : String) : Option CharSet :=
  let known := if ["cf", "sc", "lc"].contains name then none else Unicode.property? name
  match known with
  | some p => some (.property p)
  | none =>
    if name = "any" then some (.range 0 0x10FFFF)
    else if name = "assigned" then some (.compl (.category ["Cn"]))
    else if name = "ascii" then some (.range 0 127)
    else match Unicode.categories? name with
      | some names => some (.category names)
      | none => (Unicode.script? name).map .script

/-- The set of a property given by a name and a value. -/
def valuedSet? (name value : String) : Option CharSet :=
  if ["gc", "generalcategory"].contains name then
    if value = "any" then some (.range 0 0x10FFFF)
    else if value = "assigned" then some (.compl (.category ["Cn"]))
    else if value = "ascii" then some (.range 0 127)
    else (Unicode.categories? value).map .category
  else if ["sc", "script"].contains name then (Unicode.script? value).map .script
  else if ["scx", "scriptextensions"].contains name then (Unicode.script? value).map .usedBy
  else none

/-- Splits at the first occurrence of a separator. -/
def splitAt? (separator : List Char) : List Char → Option (List Char × List Char)
  | [] => none
  | c :: rest =>
    if separator.isPrefixOf (c :: rest) then some ([], (c :: rest).drop separator.length)
    else (splitAt? separator rest).map fun (before, after) => (c :: before, after)

/-- The set that the text between the braces of a property stands for, and whether it is
negated there. -/
def propertySet? (chars : List Char) : Option (CharSet × Bool) :=
  let valued (parts : List Char × List Char) :=
    valuedSet? (Unicode.symbolicName (String.ofList parts.1))
      (Unicode.symbolicName (String.ofList parts.2))
  match splitAt? ['!', '='] chars with
  | some parts => (valued parts).map (·, true)
  | none =>
    match splitAt? [':'] chars with
    | some parts => (valued parts).map (·, false)
    | none =>
      match splitAt? ['='] chars with
      | some parts => (valued parts).map (·, false)
      | none => (namedSet? (Unicode.symbolicName (String.ofList chars))).map (·, false)

/-- A property after its letter. -/
def readProperty (flags : Flags) (negated : Bool) (chars : List Char) :
    Option (CharSet × List Char) :=
  if !flags.unicode then none
  else do
    let (name, after) ← match skip flags chars with
      | '\x7b' :: rest => untilBrace flags (rest.length + 1) (skip flags rest)
      | [] => none
      | '\\' :: _ => none
      | c :: rest => some ([c], skip flags rest)
    let (s, flipped) ← propertySet? name
    let closed := if flags.ignoreCase then CharSet.anyCase s else s
    return (if negated != flipped then .compl closed else closed, after)

def asciiDigit : CharSet := .range 48 57

def asciiBlank : CharSet := .ofRanges [(9, 13), (32, 32)]

def asciiWord : CharSet := .ofRanges [(48, 57), (65, 90), (95, 95), (97, 122)]

/-- The sets of digits, blanks and word characters; their complements need Unicode. -/
def classSet? (flags : Flags) (c : Char) : Option CharSet :=
  let u := flags.unicode
  let digit := if u then CharSet.category ["Nd"] else asciiDigit
  let blanks := if u then CharSet.blank else asciiBlank
  let letters := if u then CharSet.word else asciiWord
  if c = 'd' then some digit
  else if c = 's' then some blanks
  else if c = 'w' then some letters
  else if !u then none
  else if c = 'D' then some (.compl digit)
  else if c = 'S' then some (.compl blanks)
  else if c = 'W' then some (.compl letters)
  else none

def isBoundaryLetter (c : Char) : Bool := c.isAlpha || c = '-'

/-- The letters of a kind of word boundary, blanks left out where the flags say so. -/
def boundaryName (flags : Flags) : Nat → List Char → List Char × List Char
  | 0, chars => ([], chars)
  | _ + 1, [] => ([], [])
  | rounds + 1, c :: rest =>
    if isBoundaryLetter c then
      let (name, after) := boundaryName flags rounds (skip flags rest)
      (c :: name, after)
    else ([], c :: rest)

/-- A word boundary after its letter; a brace that starts no kind of boundary is left to be a
repetition. -/
def readBoundary (flags : Flags) (chars : List Char) : Option (Assertion × List Char) :=
  let u := flags.unicode
  match chars with
  | '\x7b' :: rest =>
    match skip flags rest with
    | [] => none
    | c :: more =>
      if isBoundaryLetter c then
        let (name, after) := boundaryName flags (more.length + 1) (c :: more)
        match after with
        | '\x7d' :: last =>
          if name = "start".toList then some (.wordStart u, last)
          else if name = "end".toList then some (.wordEnd u, last)
          else if name = "start-half".toList then some (.noWordBefore u, last)
          else if name = "end-half".toList then some (.noWordAfter u, last)
          else none
        | _ => none
      else some (.wordBoundary u, chars)
  | _ => some (.wordBoundary u, chars)

/-- An escape after its backslash. -/
def readEscape (flags : Flags) : List Char → Option (Atom × List Char)
  | [] => none
  | c :: rest =>
    let literal (code : Nat) : Option (Atom × List Char) :=
      some (.literal (Char.ofNat code) false, rest)
    let hex (count : Nat) : Option (Atom × List Char) := do
      let (d, isByte, after) ← readHex flags count rest
      return (.literal d isByte, after)
    if c = 'x' then hex 2
    else if c = 'u' then hex 4
    else if c = 'U' then hex 8
    else if c = 'p' ∨ c = 'P' then do
      let (s, after) ← readProperty flags (c = 'P') rest
      return (.set s, after)
    else if ['d', 's', 'w', 'D', 'S', 'W'].contains c then do
      return (.set (← classSet? flags c), rest)
    else if c = 'a' then literal 7
    else if c = 'f' then literal 12
    else if c = 't' then literal 9
    else if c = 'n' then literal 10
    else if c = 'r' then literal 13
    else if c = 'v' then literal 11
    else if c = 'A' then some (.assertion .textStart, rest)
    else if c = 'z' then some (.assertion .textEnd, rest)
    else if c = 'B' then some (.assertion (.notWordBoundary flags.unicode), rest)
    else if c = '<' then some (.assertion (.wordStart flags.unicode), rest)
    else if c = '>' then some (.assertion (.wordEnd flags.unicode), rest)
    else if c = 'b' then do
      let (a, after) ← readBoundary flags rest
      return (.assertion a, after)
    else if c.isAlphanum ∨ 128 ≤ c.toNat then none
    else some (.literal c false, rest)

/-- The set of a literal character outside of brackets. -/
def literalSet? (flags : Flags) (c : Char) (isByte : Bool) : Option CharSet :=
  let s := CharSet.single c
  if flags.unicode then some (if flags.ignoreCase then .anyCase s else s)
  else if isByte ∧ 128 ≤ c.toNat then none
  else some (if flags.ignoreCase then .anyAsciiCase s else s)

end TemplateAudit.Pattern
