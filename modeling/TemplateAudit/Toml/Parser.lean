import TemplateAudit.Toml.Basic
import TemplateAudit.Toml.Text

/-! # Reading settings notation

A text is read line by line. Headers open tables, and a key and a value add to the table of the
last header. Values of other kinds than texts, lists and tables are refused, and so are lists of
tables.
-/

namespace TemplateAudit.Toml

def isBareChar (c : Char) : Bool := c.isAlphanum || c = '-' || c = '_'

/-- Skips a comment if there is one. -/
def skipComment : List Char → List Char
  | '#' :: rest => rest.dropWhile isPlain
  | chars => chars

/-- The characters after the rest of a line, which is blank but for a comment. -/
def endLine? (chars : List Char) : Option (List Char) :=
  match skipComment (skipSpaces chars) with
  | [] => some []
  | rest => newline? rest

/-- Skips spaces, comments and line ends between the items of a list. -/
def skipGaps : Nat → List Char → List Char
  | 0, chars => chars
  | rounds + 1, chars =>
    match newline? (skipComment (skipSpaces chars)) with
    | some rest => skipGaps rounds rest
    | none => skipSpaces chars

/-- One part of a key. -/
def scanKeyPart : List Char → Option (Scanned String)
  | '"' :: rest => scanLine '"' rest
  | '\'' :: rest => scanLine '\'' rest
  | chars =>
    let name := chars.takeWhile isBareChar
    if name = [] then none else some (String.ofList name, chars.drop name.length)

/-- The parts of a key, with dots between them and spaces around them. -/
def scanKeyWithin : Nat → List Char → Option (Scanned (List String))
  | 0, _ => none
  | rounds + 1, chars => do
    let (part, rest) ← scanKeyPart (skipSpaces chars)
    match skipSpaces rest with
    | '.' :: more =>
      let (parts, after) ← scanKeyWithin rounds more
      return (part :: parts, after)
    | after => return ([part], after)

def scanKey (chars : List Char) : Option (Scanned (List String)) := scanKeyWithin chars.length chars

/-- Reads a key and its equals sign. -/
def scanAssigned (chars : List Char) : Option (Scanned (List String)) := do
  let (key, rest) ← scanKey chars
  match rest with
  | '=' :: after => return (key, skipSpaces after)
  | _ => none

mutual

/-- Reads a value; every round reads at least one character. -/
def scanValueWithin : Nat → List Char → Option (Scanned Value)
  | 0, _ => none
  | rounds + 1, chars =>
    match chars with
    | '"' :: rest => (scanText '"' rest).map fun (s, after) => (.text s, after)
    | '\'' :: rest => (scanText '\'' rest).map fun (s, after) => (.text s, after)
    | '[' :: rest =>
      (scanItemsWithin rounds rest).map fun (items, after) => (.list items, after)
    | '\x7b' :: rest =>
      match skipSpaces rest with
      | '\x7d' :: after => some (.table .inline [], after)
      | more => (scanMembersWithin rounds [] more).map fun (m, after) => (.table .inline m, after)
    | _ => none

/-- Reads items up to the end of their list; a comma may follow the last one. -/
def scanItemsWithin : Nat → List Char → Option (Scanned (List Value))
  | 0, _ => none
  | rounds + 1, chars =>
    match skipGaps chars.length chars with
    | ']' :: rest => some ([], rest)
    | more => do
      let (item, after) ← scanValueWithin rounds more
      match skipGaps after.length after with
      | ',' :: rest =>
        let (items, last) ← scanItemsWithin rounds rest
        return (item :: items, last)
      | ']' :: rest => return ([item], rest)
      | _ => none

/-- Reads on to the end of a table between braces. -/
def scanMembersWithin : Nat → Members → List Char → Option (Scanned Members)
  | 0, _, _ => none
  | rounds + 1, members, chars => do
    let (key, rest) ← scanAssigned chars
    let (value, after) ← scanValueWithin rounds rest
    let more ← members.define value key
    match skipSpaces after with
    | ',' :: next => scanMembersWithin rounds more next
    | '\x7d' :: next => return (more, next)
    | _ => none

end

def scanValue (chars : List Char) : Option (Scanned Value) :=
  scanValueWithin (chars.length + 1) chars

/-- Reads a header after its opening bracket, to the end of its line. -/
def scanHeader (chars : List Char) : Option (Scanned (List String)) := do
  let (key, rest) ← scanKey chars
  match rest with
  | ']' :: after => return (key, ← endLine? after)
  | _ => none

/-- Reads a key with its value, to the end of their line. -/
def scanEntry (chars : List Char) : Option (Scanned (List String × Value)) := do
  let (key, rest) ← scanAssigned chars
  let (value, after) ← scanValue rest
  return ((key, value), ← endLine? after)

/-- Reads lines into the table of a header; every round reads at least one line. -/
def readLines : Nat → List String → Members → List Char → Option Members
  | 0, _, _, _ => none
  | rounds + 1, header, members, chars =>
    match skipSpaces chars with
    | [] => some members
    | '[' :: rest => do
      let (key, after) ← scanHeader rest
      readLines rounds key (← members.openTable key) after
    | c :: rest =>
      match endLine? (c :: rest) with
      | some after => readLines rounds header members after
      | none => do
        let ((key, value), after) ← scanEntry (c :: rest)
        readLines rounds header (← members.defineIn value key header) after

/-- The mark that may stand before a text. -/
def byteOrderMark : Char := Char.ofNat 0xFEFF

/-- The members that a text defines. -/
def parse (text : String) : Option Members :=
  let chars := match text.toList with
    | c :: rest => if c = byteOrderMark then rest else c :: rest
    | [] => []
  readLines (chars.length + 1) [] [] chars

end TemplateAudit.Toml
