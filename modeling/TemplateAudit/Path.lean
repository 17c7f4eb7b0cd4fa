import TemplateAudit.Text.Blank

/-! # Relative paths

A rule addresses a value by a path: property names joined by dots, bracketed indexes, and the
wildcard. The reader takes one character at a time and keeps what the characters since the last
separator form, so a fault is known at the first character that no path can continue with.
-/

namespace TemplateAudit

/-- One step of a path: a member by name, an element by index, or every child. -/
inductive Segment where
  | property (name : String)
  | index (position : Nat)
  | wildcard
  deriving DecidableEq, Repr

/-- A path as written, without surrounding blanks, and the steps it stands for. -/
structure Path where
  raw : String
  segments : List Segment
  deriving DecidableEq, Repr

/-- Why a text is no path; offsets count UTF-8 bytes. -/
inductive PathError where
  | empty
  | emptySegment (path : String) (offset : Nat)
  | unclosedBracket (path : String)
  | unexpectedBracket (path : String) (offset : Nat)
  | invalidIndex (path : String) (index : String)
  | missingSeparator (path : String) (offset : Nat)
  deriving DecidableEq, Repr

namespace PathError

def message : PathError → String
  | empty => "path is empty"
  | emptySegment path offset => s!"empty segment at offset {offset} in path '{path}'"
  | unclosedBracket path => s!"unclosed '[' in path '{path}'"
  | unexpectedBracket path offset => s!"unexpected ']' at offset {offset} in path '{path}'"
  | invalidIndex path index => s!"invalid index '{index}' in path '{path}'"
  | missingSeparator path offset =>
    s!"missing '.' after ']' at offset {offset} in path '{path}'"

end PathError

namespace Path

/-- What the characters since the last separator form. -/
inductive Pending where
  | start
  | name (chars : List Char)
  | bracket (chars : List Char)
  | closed
  deriving DecidableEq, Repr

def namedSegment (chars : List Char) : Segment :=
  if chars = ['*'] then .wildcard else .property (String.ofList chars)

/-- The segment of a name that ends here; a closed bracket gave its segment already. -/
def Pending.finish : Pending → List Segment
  | .name chars => [namedSegment chars]
  | _ => []

def digitsValue (chars : List Char) : Nat :=
  chars.foldl (fun n c => 10 * n + (c.toNat - '0'.toNat)) 0

/-- The number of an index: ASCII digits after at most one plus sign, below 2^64. -/
def indexValue? (chars : List Char) : Option Nat :=
  let digits := match chars with
    | '+' :: rest => rest
    | _ => chars
  if digits ≠ [] ∧ digits.all Char.isDigit ∧ digitsValue digits < 18446744073709551616 then
    some (digitsValue digits)
  else
    none

/-- The segment between two brackets. -/
def bracketSegment (raw : String) (chars : List Char) : Except PathError Segment :=
  let body := Text.trim chars
  if body = ['*'] then
    .ok .wildcard
  else match indexValue? body with
    | some n => .ok (.index n)
    | none => .error (.invalidIndex raw (String.ofList body))

/-- Reads on from the given offset with what is pending there. -/
def read (raw : String) (offset : Nat) : Pending → List Char → Except PathError (List Segment)
  | .bracket _, [] => .error (.unclosedBracket raw)
  | pending, [] => .ok pending.finish
  | .bracket chars, c :: rest =>
    if c = ']' then do
      let segment ← bracketSegment raw chars
      let segments ← read raw (offset + c.utf8Size) .closed rest
      return segment :: segments
    else
      read raw (offset + c.utf8Size) (.bracket (chars ++ [c])) rest
  | pending, c :: rest =>
    if c = '.' then
      if pending = .start then
        .error (.emptySegment raw offset)
      else if rest = [] then
        .error (.emptySegment raw (offset + 1))
      else do
        let segments ← read raw (offset + 1) .start rest
        return pending.finish ++ segments
    else if c = '[' then do
      let segments ← read raw (offset + 1) (.bracket []) rest
      return pending.finish ++ segments
    else if c = ']' then
      .error (.unexpectedBracket raw offset)
    else match pending with
      | .closed => .error (.missingSeparator raw offset)
      | .name chars => read raw (offset + c.utf8Size) (.name (chars ++ [c])) rest
      | _ => read raw (offset + c.utf8Size) (.name [c]) rest

def parseChars (chars : List Char) : Except PathError Path :=
  let trimmed := Text.trim chars
  let raw := String.ofList trimmed
  if trimmed = [] then
    .error .empty
  else do
    let segments ← read raw 0 .start trimmed
    return { raw, segments }

/-- The path that a text stands for. -/
def parse (text : String) : Except PathError Path := parseChars text.toList

end Path

end TemplateAudit
