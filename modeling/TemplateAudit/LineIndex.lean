import TemplateAudit.Location
import TemplateAudit.Json.Parser
import TemplateAudit.Text.Blank

/-! # Source lines

One pass over the text of a document notes the line of every member name and every array element
under its location. The pass keeps a stack of the arrays and objects that are open; it takes the
text to be a document and finds some lines in any other text, too.
-/

namespace TemplateAudit

/-- Noted lines, the latest first. -/
structure LineIndex where
  entries : List (Location × Nat)
  deriving Repr

namespace LineIndex

def empty : LineIndex := ⟨[]⟩

def insert (index : LineIndex) (l : Location) (line : Nat) : LineIndex :=
  ⟨(l, line) :: index.entries⟩

def find? (index : LineIndex) (l : Location) : Option Nat :=
  (index.entries.find? fun entry => entry.1 = l).map (·.2)

/-- The line of a location or of its nearest ancestor that has one, and zero without any. -/
def lineOf (index : LineIndex) (l : Location) : Nat :=
  ((l :: l.ancestors).findSome? index.find?).getD 0

/-- The number of locations with a line. -/
def size (index : LineIndex) : Nat := (index.entries.map (·.1)).eraseDups.length

def isEmpty (index : LineIndex) : Bool := index.entries.isEmpty

@[simp] theorem find?_empty (l : Location) : empty.find? l = none := rfl

@[simp] theorem find?_insert_self (index : LineIndex) (l : Location) (line : Nat) :
    (index.insert l line).find? l = some line := by
  simp [insert, find?]

theorem find?_insert_of_ne (index : LineIndex) {l k : Location} (h : l ≠ k) (line : Nat) :
    (index.insert l line).find? k = index.find? k := by
  simp [insert, find?, h]

/-- The character in place of an escape that names none. -/
def replacement : Char := '\uFFFD'

/-- The value of hexadecimal digits after at most one plus sign. -/
def hexValue? (chars : List Char) : Option Nat :=
  let digits := match chars with
    | '+' :: rest => rest
    | _ => chars
  if digits = [] then none
  else digits.foldl (fun value c => do return 16 * (← value) + (← Text.hexValue? c)) (some 0)

def charOf (n : Nat) : Char := (Text.charOf? n).getD replacement

/-- Reads on after a high surrogate. -/
def scanLowSurrogate (high : Nat) : List Char → Char × List Char
  | '\\' :: 'u' :: rest =>
    match hexValue? (rest.take 4) with
    | some low =>
      (if Json.isLowSurrogate low then Json.pairedChar high low else replacement, rest.drop 4)
    | none => (replacement, rest.drop 4)
  | '\\' :: rest => (replacement, rest.tail)
  | chars => (replacement, chars)

/-- Reads the character of an escape after its `u`; up to four characters are its digits. -/
def scanUnicode (chars : List Char) : Char × List Char :=
  match hexValue? (chars.take 4) with
  | some n =>
    if Json.isHighSurrogate n then scanLowSurrogate n (chars.drop 4)
    else (charOf n, chars.drop 4)
  | none => (replacement, chars.drop 4)

/-- Reads an escape after its backslash. -/
def scanEscape (c : Char) (rest : List Char) : Char × List Char :=
  if c = 'u' then scanUnicode rest
  else if c = 'n' then ('\n', rest)
  else if c = 't' then ('\t', rest)
  else if c = 'r' then ('\r', rest)
  else if c = 'b' then (Char.ofNat 8, rest)
  else if c = 'f' then (Char.ofNat 12, rest)
  else (c, rest)

/-- Reads a string after its opening quote; every round reads at least one character. -/
def scanStringWithin : Nat → List Char → List Char × List Char
  | 0, chars => ([], chars)
  | _ + 1, [] => ([], [])
  | rounds + 1, c :: rest =>
    if c = '"' then ([], rest)
    else if c = '\\' then
      match rest with
      | [] => ([], [])
      | d :: after =>
        let (decoded, next) := scanEscape d after
        let (chars, last) := scanStringWithin rounds next
        (decoded :: chars, last)
    else
      let (chars, last) := scanStringWithin rounds rest
      (c :: chars, last)

/-- The string after an opening quote and the characters after its closing quote. -/
def scanString (chars : List Char) : List Char × List Char :=
  scanStringWithin (chars.length + 1) chars

/-- An array or an object that is open. -/
inductive Frame where
  | object (location : Location) (key : Option String) (expectKey : Bool)
  | array (location : Location) (next : Nat)
  deriving DecidableEq, Repr

/-- What the pass knows between two tokens: the open frames, the innermost first, the line, and
the lines noted. -/
structure Scanner where
  frames : List Frame
  line : Nat
  index : LineIndex

namespace Scanner

def start : Scanner := ⟨[], 1, .empty⟩

/-- Notes the start of a value where it is the root or an array element, and gives its
location. -/
def enterValue (s : Scanner) : Location × Scanner :=
  match s.frames with
  | [] =>
    let index := if (s.index.find? .root).isSome then s.index else s.index.insert .root s.line
    (.root, { s with index })
  | .object l (some key) _ :: _ => (l.key key, s)
  | .object l none _ :: _ => (l, s)
  | .array l next :: rest =>
    let element := l.index next
    (element, ⟨.array l (next + 1) :: rest, s.line, s.index.insert element s.line⟩)

def openObject (s : Scanner) : Scanner :=
  let (l, s) := s.enterValue
  { s with frames := .object l none true :: s.frames }

def openArray (s : Scanner) : Scanner :=
  let (l, s) := s.enterValue
  { s with frames := .array l 0 :: s.frames }

def close (s : Scanner) : Scanner := { s with frames := s.frames.tail }

/-- A comma: the next string of an object is a name again. -/
def comma (s : Scanner) : Scanner :=
  match s.frames with
  | .object l _ _ :: rest => { s with frames := .object l none true :: rest }
  | _ => s

def colon (s : Scanner) : Scanner :=
  match s.frames with
  | .object l key _ :: rest => { s with frames := .object l key false :: rest }
  | _ => s

/-- A string is the name of a member where one is expected, and a value elsewhere. -/
def string (s : Scanner) (text : String) : Scanner :=
  match s.frames with
  | .object l _ true :: rest =>
    ⟨.object l (some text) true :: rest, s.line, s.index.insert (l.key text) s.line⟩
  | _ => s.enterValue.2

def newline (s : Scanner) : Scanner := { s with line := s.line + 1 }

/-- The characters that end a number or a literal name. -/
def endsScalar (c : Char) : Bool := c = ',' || c = '\x7d' || c = ']' || Text.isBlank c

/-- Scans some characters; every round reads at least one. -/
def scanWithin : Nat → Scanner → List Char → Scanner
  | 0, s, _ => s
  | _ + 1, s, [] => s
  | rounds + 1, s, c :: rest =>
    if c = '\n' then scanWithin rounds s.newline rest
    else if c = ',' then scanWithin rounds s.comma rest
    else if c = ':' then scanWithin rounds s.colon rest
    else if c = '\x7d' ∨ c = ']' then scanWithin rounds s.close rest
    else if c = '\x7b' then scanWithin rounds s.openObject rest
    else if c = '[' then scanWithin rounds s.openArray rest
    else if c = '"' then
      let (text, after) := scanString rest
      scanWithin rounds (s.string (String.ofList text)) after
    else if Text.isBlank c then scanWithin rounds s rest
    else scanWithin rounds s.enterValue.2 (rest.dropWhile fun d => !endsScalar d)

def scan (s : Scanner) (chars : List Char) : Scanner := scanWithin chars.length s chars

end Scanner

def ofChars (chars : List Char) : LineIndex := (Scanner.start.scan chars).index

/-- The lines of a text. -/
def build (text : String) : LineIndex := ofChars text.toList

end LineIndex

end TemplateAudit
