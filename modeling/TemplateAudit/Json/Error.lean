/-! # Faults of a document text

What can be wrong with a text, and where: a fault is found at the characters not read yet, and
its place is the line and the column, in bytes, of the last byte that was looked at.
-/

namespace TemplateAudit.Json

inductive Fault where
  | eofInValue
  | eofInList
  | eofInObject
  | eofInString
  | expectedValue
  | keyNotString
  | expectedColon
  | expectedListEnd
  | expectedObjectEnd
  | trailingComma
  | trailingCharacters
  | nestedTooDeep
  | invalidNumber
  | numberOutOfRange
  | expectedIdent
  | invalidEscape
  | loneSurrogate
  | unfinishedSurrogate
  | controlCharacter
  deriving DecidableEq, Repr

def Fault.message : Fault → String
  | eofInValue => "EOF while parsing a value"
  | eofInList => "EOF while parsing a list"
  | eofInObject => "EOF while parsing an object"
  | eofInString => "EOF while parsing a string"
  | expectedValue => "expected value"
  | keyNotString => "key must be a string"
  | expectedColon => "expected \x60:\x60"
  | expectedListEnd => "expected \x60,\x60 or \x60]\x60"
  | expectedObjectEnd => "expected \x60,\x60 or \x60\x7d\x60"
  | trailingComma => "trailing comma"
  | trailingCharacters => "trailing characters"
  | nestedTooDeep => "recursion limit exceeded"
  | invalidNumber => "invalid number"
  | numberOutOfRange => "number out of range"
  | expectedIdent => "expected ident"
  | invalidEscape => "invalid escape"
  | loneSurrogate => "lone leading surrogate in hex escape"
  | unfinishedSurrogate => "unexpected end of hex escape"
  | controlCharacter => "control character (\\u0000-\\u001F) found while parsing a string"

/-- A fault, the characters not read, and how many of their bytes were looked at. -/
structure Failure where
  fault : Fault
  rest : List Char
  ahead : Nat
  deriving DecidableEq, Repr

/-- A line, counted from one, and the bytes of it before a place. -/
structure Position where
  line : Nat
  column : Nat
  deriving DecidableEq, Repr

/-- The place after some bytes of a text, or its end. -/
def Position.advance (p : Position) : Nat → List Char → Position
  | _, [] => p
  | bytes, c :: rest =>
    if bytes = 0 then p
    else if c = '\n' then Position.advance ⟨p.line + 1, 0⟩ (bytes - 1) rest
    else Position.advance ⟨p.line, p.column + min c.utf8Size bytes⟩ (bytes - c.utf8Size) rest

def byteCount (chars : List Char) : Nat := chars.foldl (fun n c => n + c.utf8Size) 0

/-- The first fault of a text and its place. -/
structure Error where
  fault : Fault
  position : Position
  deriving DecidableEq, Repr

namespace Error

def ofFailure (text : List Char) (f : Failure) : Error :=
  let bytes := byteCount text - byteCount f.rest + f.ahead
  ⟨f.fault, Position.advance ⟨1, 0⟩ bytes text⟩

def message (e : Error) : String :=
  s!"{e.fault.message} at line {e.position.line} column {e.position.column}"

end Error

end TemplateAudit.Json
