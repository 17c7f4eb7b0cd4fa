import TemplateAudit.Text.Digits

/-! # Texts of the settings notation

A text stands between quotation marks, with escapes, or between apostrophes, without. Three marks
in place of one allow a text of several lines, whose line ends all become line feeds.
-/

namespace TemplateAudit.Toml

/-- What was read, and the characters left. -/
abbrev Scanned (α : Type) := α × List Char

def isSpace (c : Char) : Bool := c = ' ' || c = '\t'

def skipSpaces (chars : List Char) : List Char := chars.dropWhile isSpace

/-- A character that may stand in texts and comments: no control character but the tab. -/
def isPlain (c : Char) : Bool := c = '\t' || (32 ≤ c.toNat && c.toNat ≠ 127)

/-- The characters after a line end. -/
def newline? : List Char → Option (List Char)
  | '\n' :: rest => some rest
  | '\r' :: '\n' :: rest => some rest
  | _ => none

def skipNewline (chars : List Char) : List Char := (newline? chars).getD chars

/-- The character with a code of exactly so many hexadecimal digits. -/
def scanCode (digits : Nat) (chars : List Char) : Option (Scanned Char) :=
  match (chars.take digits).mapM Text.hexValue? with
  | some values =>
    if values.length = digits then
      (Text.charOf? (values.foldl (fun n v => 16 * n + v) 0)).map fun c => (c, chars.drop digits)
    else none
  | none => none

/-- Reads an escape after its backslash. -/
def scanEscape : List Char → Option (Scanned Char)
  | [] => none
  | c :: rest =>
    if c = '"' ∨ c = '\\' then some (c, rest)
    else if c = 'b' then some (Char.ofNat 8, rest)
    else if c = 't' then some ('\t', rest)
    else if c = 'n' then some ('\n', rest)
    else if c = 'f' then some (Char.ofNat 12, rest)
    else if c = 'r' then some ('\r', rest)
    else if c = 'u' then scanCode 4 rest
    else if c = 'U' then scanCode 8 rest
    else none

def consChar (c : Char) (s : Option (Scanned (List Char))) : Option (Scanned (List Char)) :=
  s.map fun (chars, rest) => (c :: chars, rest)

/-- Reads a text of one line after its opening mark; every round reads at least one character. -/
def scanLineWithin (mark : Char) : Nat → List Char → Option (Scanned (List Char))
  | 0, _ => none
  | _ + 1, [] => none
  | rounds + 1, c :: rest =>
    if c = mark then some ([], rest)
    else if c = '\\' ∧ mark = '"' then do
      let (d, after) ← scanEscape rest
      consChar d (scanLineWithin mark rounds after)
    else if isPlain c then consChar c (scanLineWithin mark rounds rest)
    else none

/-- A text of one line after its opening mark. -/
def scanLine (mark : Char) (chars : List Char) : Option (Scanned String) :=
  (scanLineWithin mark (chars.length + 1) chars).map fun (text, rest) =>
    (String.ofList text, rest)

/-- Skips spaces and line ends. -/
def skipLines : Nat → List Char → List Char
  | 0, chars => chars
  | rounds + 1, chars =>
    match newline? (skipSpaces chars) with
    | some rest => skipLines rounds rest
    | none => skipSpaces chars

/-- Reads a text of several lines after its opening marks. Three marks end it, up to two more
before them belong to it, and a backslash at the end of a line joins it to the next text. -/
def scanLinesWithin (mark : Char) : Nat → List Char → Option (Scanned (List Char))
  | 0, _ => none
  | _ + 1, [] => none
  | rounds + 1, c :: rest =>
    if c = mark then
      let marks := (c :: rest).takeWhile (· = mark)
      let extra := min marks.length 5 - 3
      if 3 ≤ marks.length then some (List.replicate extra mark, (c :: rest).drop (extra + 3))
      else consChar c (scanLinesWithin mark rounds rest)
    else if c = '\\' ∧ mark = '"' then
      match newline? (skipSpaces rest) with
      | some after => scanLinesWithin mark rounds (skipLines after.length after)
      | none => do
        let (d, after) ← scanEscape rest
        consChar d (scanLinesWithin mark rounds after)
    else match newline? (c :: rest) with
      | some after => consChar '\n' (scanLinesWithin mark rounds after)
      | none => if isPlain c then consChar c (scanLinesWithin mark rounds rest) else none

/-- A text of several lines after its opening marks; a line end right after them is left out. -/
def scanLines (mark : Char) (chars : List Char) : Option (Scanned String) :=
  (scanLinesWithin mark (chars.length + 1) (skipNewline chars)).map fun (text, rest) =>
    (String.ofList text, rest)

/-- A text after its first mark, of one line or of several. -/
def scanText (mark : Char) (chars : List Char) : Option (Scanned String) :=
  if chars.take 2 = [mark, mark] then scanLines mark (chars.drop 2) else scanLine mark chars

end TemplateAudit.Toml
