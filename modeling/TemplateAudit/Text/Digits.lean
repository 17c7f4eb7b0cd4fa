/-! # Hexadecimal digits

Escapes in documents, patterns and configurations name a character by the hexadecimal digits of its
code point. A surrogate is no code point of a character.
-/

namespace TemplateAudit.Text

def hexValue? (c : Char) : Option Nat :=
  let n := c.toNat
  if 48 ≤ n ∧ n ≤ 57 then some (n - 48)
  else if 97 ≤ n ∧ n ≤ 102 then some (n - 87)
  else if 65 ≤ n ∧ n ≤ 70 then some (n - 55)
  else none

def charOf? (n : Nat) : Option Char := if n.isValidChar then some (Char.ofNat n) else none

end TemplateAudit.Text
