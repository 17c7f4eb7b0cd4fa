import TemplateAudit.Json.Numeral
import TemplateAudit.Text.Digits

/-! # Reading documents

A document is read from left to right without looking back. Arrays and objects may be nested
127 deep, so reading recurses on the levels that are left, and within one array or object on the
characters that are left.
-/

namespace TemplateAudit.Json

/-- The four characters that may stand between two tokens. -/
def isSpace (c : Char) : Bool := c = ' ' || c = '\n' || c = '\t' || c = '\r'

def skipSpace (chars : List Char) : List Char := chars.dropWhile isSpace

/-- Four hexadecimal digits; the next four bytes are taken at once. -/
def readHex (chars : List Char) : Reading Nat :=
  if byteCount (chars.take 4) < 4 then .error ⟨.eofInString, [], 0⟩
  else match (chars.take 4).map Text.hexValue? with
    | [some a, some b, some c, some d] => .ok (4096 * a + 256 * b + 16 * c + d, chars.drop 4)
    | _ => .error ⟨.invalidEscape, chars, 4⟩

def isHighSurrogate (n : Nat) : Bool := 0xD800 ≤ n && n ≤ 0xDBFF

def isLowSurrogate (n : Nat) : Bool := 0xDC00 ≤ n && n ≤ 0xDFFF

/-- The character of a surrogate pair. -/
def pairedChar (high low : Nat) : Char :=
  Char.ofNat (0x10000 + (high - 0xD800) * 0x400 + (low - 0xDC00))

/-- Reads on after a high surrogate. -/
def readLowSurrogate (high : Nat) : List Char → Reading Char
  | [] => .error ⟨.eofInString, [], 0⟩
  | ['\\'] => .error ⟨.eofInString, [], 0⟩
  | '\\' :: 'u' :: rest =>
    (readHex rest).andThen fun low after =>
      if isLowSurrogate low then .ok (pairedChar high low, after)
      else .error ⟨.loneSurrogate, after, 0⟩
  | '\\' :: rest => failAt .unfinishedSurrogate rest
  | chars => failAt .unfinishedSurrogate chars

/-- Reads the character of an escape after its `u`. -/
def readUnicode (chars : List Char) : Reading Char :=
  (readHex chars).andThen fun n rest =>
    if isLowSurrogate n then .error ⟨.loneSurrogate, rest, 0⟩
    else if isHighSurrogate n then readLowSurrogate n rest
    else .ok (Char.ofNat n, rest)

/-- Reads an escape after its backslash. -/
def readEscape : List Char → Reading Char
  | [] => .error ⟨.eofInString, [], 0⟩
  | 'u' :: rest => readUnicode rest
  | c :: rest =>
    if c = '"' ∨ c = '\\' ∨ c = '/' then .ok (c, rest)
    else if c = 'b' then .ok (Char.ofNat 8, rest)
    else if c = 'f' then .ok (Char.ofNat 12, rest)
    else if c = 'n' then .ok ('\n', rest)
    else if c = 'r' then .ok ('\r', rest)
    else if c = 't' then .ok ('\t', rest)
    else failAt .invalidEscape (c :: rest)

/-- Reads a string after its opening quote; every round reads at least one character. -/
def readStringWithin : Nat → List Char → Reading (List Char)
  | 0, _ => .error ⟨.eofInString, [], 0⟩
  | _ + 1, [] => .error ⟨.eofInString, [], 0⟩
  | rounds + 1, c :: rest =>
    if c = '"' then .ok ([], rest)
    else if c = '\\' then
      (readEscape rest).andThen fun d after => (readStringWithin rounds after).mapValue (d :: ·)
    else if c.toNat < 32 then failAt .controlCharacter (c :: rest)
    else (readStringWithin rounds rest).mapValue (c :: ·)

def readString (chars : List Char) : Reading (List Char) :=
  readStringWithin (chars.length + 1) chars

/-- Reads the letters of a name after its first one. -/
def readIdent (value : Json) : List Char → List Char → Reading Json
  | [], chars => .ok (value, chars)
  | _ :: _, [] => failAt .eofInValue []
  | letter :: letters, c :: rest =>
    if c = letter then readIdent value letters rest else failAt .expectedIdent (c :: rest)

/-- Reads a value, given how an array and an object go on after their opening bracket. -/
def readValueWith (array object : List Char → Reading Json) (chars : List Char) : Reading Json :=
  match skipSpace chars with
  | [] => failAt .eofInValue []
  | c :: rest =>
    if c = 'n' then readIdent .null ['u', 'l', 'l'] rest
    else if c = 't' then readIdent (.bool true) ['r', 'u', 'e'] rest
    else if c = 'f' then readIdent (.bool false) ['a', 'l', 's', 'e'] rest
    else if c = '-' then (readNumber true rest).mapValue .number
    else if c.isDigit then (readNumber false (c :: rest)).mapValue .number
    else if c = '"' then (readString rest).mapValue fun s => .string (String.ofList s)
    else if c = '[' then array rest
    else if c = '\x7b' then object rest
    else failAt .expectedValue (c :: rest)

/-- Whether an array goes on, and the characters of its next item or after its end. -/
def nextItem (first : Bool) (chars : List Char) : Reading Bool :=
  match skipSpace chars with
  | [] => failAt .eofInList []
  | c :: rest =>
    if c = ']' then .ok (false, rest)
    else if first then .ok (true, c :: rest)
    else if c = ',' then
      match skipSpace rest with
      | [] => failAt .eofInValue []
      | d :: after =>
        if d = ']' then failAt .trailingComma (d :: after) else .ok (true, d :: after)
    else failAt .expectedListEnd (c :: rest)

/-- Reads the items of an array up to its end; `first` says that none was read yet. -/
def readItems (item : List Char → Reading Json) :
    Nat → Bool → List Char → Reading (List Json)
  | 0, _, _ => failAt .eofInList []
  | rounds + 1, first, chars =>
    (nextItem first chars).andThen fun more start =>
      if more then
        (item start).andThen fun value after =>
          (readItems item rounds false after).mapValue (value :: ·)
      else .ok ([], start)

/-- Whether an object goes on, and the characters after the quote of its next member's name or
after its end. -/
def nextMember (first : Bool) (chars : List Char) : Reading Bool :=
  match skipSpace chars with
  | [] => failAt .eofInObject []
  | c :: rest =>
    if c = '\x7d' then .ok (false, rest)
    else if first then
      if c = '"' then .ok (true, rest) else failAt .keyNotString (c :: rest)
    else if c = ',' then
      match skipSpace rest with
      | [] => failAt .eofInValue []
      | d :: after =>
        if d = '"' then .ok (true, after)
        else failAt (if d = '\x7d' then .trailingComma else .keyNotString) (d :: after)
    else failAt .expectedObjectEnd (c :: rest)

/-- Reads on after the name of a member up to its value. -/
def readColon (chars : List Char) : Reading Unit :=
  match skipSpace chars with
  | [] => failAt .eofInObject []
  | c :: rest => if c = ':' then .ok ((), rest) else failAt .expectedColon (c :: rest)

/-- Reads the members of an object up to its end, in the order in which they are written. -/
def readMembers (item : List Char → Reading Json) :
    Nat → Bool → List Char → Reading (List (String × Json))
  | 0, _, _ => failAt .eofInObject []
  | rounds + 1, first, chars =>
    (nextMember first chars).andThen fun more start =>
      if more then
        (readString start).andThen fun name afterName =>
          (readColon afterName).andThen fun _ afterColon =>
            (item afterColon).andThen fun value after =>
              (readMembers item rounds false after).mapValue ((String.ofList name, value) :: ·)
      else .ok ([], start)

def readArray (item : List Char → Reading Json) (chars : List Char) : Reading Json :=
  (readItems item (chars.length + 1) true chars).mapValue .array

def readObject (item : List Char → Reading Json) (chars : List Char) : Reading Json :=
  (readMembers item (chars.length + 1) true chars).mapValue ofMembers

def tooDeep (chars : List Char) : Reading Json := .error ⟨.nestedTooDeep, chars, 0⟩

/-- Reads a value in which arrays and objects are nested at most so deep. -/
def readValue : Nat → List Char → Reading Json
  | 0, chars => readValueWith tooDeep tooDeep chars
  | levels + 1, chars =>
    readValueWith (readArray (readValue levels)) (readObject (readValue levels)) chars

/-- The number of levels of arrays and objects that a document may have. -/
def maxLevels : Nat := 127

def parseChars (text : List Char) : Except Error Json :=
  match readValue maxLevels text with
  | .error f => .error (.ofFailure text f)
  | .ok (value, rest) =>
    match skipSpace rest with
    | [] => .ok value
    | c :: after => .error (.ofFailure text ⟨.trailingCharacters, c :: after, 1⟩)

/-- The document that a text holds, or its first fault. -/
def parse (text : String) : Except Error Json := parseChars text.toList

end TemplateAudit.Json
