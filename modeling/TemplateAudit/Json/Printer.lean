import TemplateAudit.Json.Basic

/-! # Printing documents

The compact form has no blanks. The indented form puts every item on a line of its own, two
spaces further in than what holds it, and leaves empty arrays and objects closed up.
-/

namespace TemplateAudit.Json

def hexDigit (n : Nat) : Char := Char.ofNat (if n < 10 then 48 + n else 87 + n)

/-- Quotes, backslashes and the characters below the blank are escaped, and nothing else. -/
def escapeChar (c : Char) : List Char :=
  if c = '"' then ['\\', '"']
  else if c = '\\' then ['\\', '\\']
  else if c = '\n' then ['\\', 'n']
  else if c = '\r' then ['\\', 'r']
  else if c = '\t' then ['\\', 't']
  else if c.toNat = 8 then ['\\', 'b']
  else if c.toNat = 12 then ['\\', 'f']
  else if c.toNat < 32 then
    ['\\', 'u', '0', '0', hexDigit (c.toNat / 16), hexDigit (c.toNat % 16)]
  else [c]

def printString (s : String) : String :=
  String.ofList ('"' :: s.toList.flatMap escapeChar ++ ['"'])

mutual

/-- The compact form. -/
def print : Json → String
  | .null => "null"
  | .bool true => "true"
  | .bool false => "false"
  | .number n => n.display
  | .string s => printString s
  | .array [] => "[]"
  | .array (item :: rest) => "[" ++ print item ++ printItems rest ++ "]"
  | .object [] => "\x7b\x7d"
  | .object ((name, value) :: rest) =>
    "\x7b" ++ printString name ++ ":" ++ print value ++ printMembers rest ++ "\x7d"

def printItems : List Json → String
  | [] => ""
  | item :: rest => "," ++ print item ++ printItems rest

def printMembers : List (String × Json) → String
  | [] => ""
  | (name, value) :: rest =>
    "," ++ printString name ++ ":" ++ print value ++ printMembers rest

end

def indentation (depth : Nat) : String := String.ofList ('\n' :: List.replicate (2 * depth) ' ')

mutual

/-- The indented form, at a depth of nesting. -/
def printIndented (depth : Nat) : Json → String
  | .array [] => "[]"
  | .array (item :: rest) =>
    "[" ++ indentation (depth + 1) ++ printIndented (depth + 1) item
      ++ printIndentedItems (depth + 1) rest ++ indentation depth ++ "]"
  | .object [] => "\x7b\x7d"
  | .object ((name, value) :: rest) =>
    "\x7b" ++ indentation (depth + 1) ++ printString name ++ ": "
      ++ printIndented (depth + 1) value
      ++ printIndentedMembers (depth + 1) rest ++ indentation depth ++ "\x7d"
  | value => print value

def printIndentedItems (depth : Nat) : List Json → String
  | [] => ""
  | item :: rest =>
    "," ++ indentation depth ++ printIndented depth item ++ printIndentedItems depth rest

def printIndentedMembers (depth : Nat) : List (String × Json) → String
  | [] => ""
  | (name, value) :: rest =>
    "," ++ indentation depth ++ printString name ++ ": " ++ printIndented depth value
      ++ printIndentedMembers depth rest

end

end TemplateAudit.Json
