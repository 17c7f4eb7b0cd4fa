import TemplateAudit.Unicode.Property

/-! # Quoted text

Messages show a text between quotation marks with escapes, so that every character of it can be
seen: quotation marks, backslashes, the common control characters, and the code point of
everything that has no shape of its own.
-/

namespace TemplateAudit.Text

/-- The categories of characters without a shape. -/
def shapelessCategories : List String := ["Cc", "Cf", "Cs", "Co", "Cn", "Zl", "Zp", "Zs"]

/-- A character with a shape that does not merge with the character before it. -/
def isVisible (c : Char) : Bool :=
  c = ' ' || (32 < c.toNat && c.toNat < 127) ||
    (!shapelessCategories.contains (Unicode.category c.toNat) &&
      !Unicode.hasProperty "graphemeextend" c.toNat)

def quoteChar (c : Char) : List Char :=
  if c = '"' then ['\\', '"']
  else if c = '\\' then ['\\', '\\']
  else if c = '\n' then ['\\', 'n']
  else if c = '\r' then ['\\', 'r']
  else if c = '\t' then ['\\', 't']
  else if c.toNat = 0 then ['\\', '0']
  else if isVisible c then [c]
  else ['\\', 'u', '\x7b'] ++ Nat.toDigits 16 c.toNat ++ ['\x7d']

/-- A text between quotation marks. -/
def quoted (s : String) : String :=
  String.ofList ('"' :: s.toList.flatMap quoteChar ++ ['"'])

/-- A list of quoted texts between square brackets. -/
def quotedList (texts : List String) : String :=
  "[" ++ ", ".intercalate (texts.map quoted) ++ "]"

end TemplateAudit.Text
