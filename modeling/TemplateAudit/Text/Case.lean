import TemplateAudit.Unicode.CaseMap

/-! # Letter case

Names of members, resource types and rules agree up to ASCII case: up to the case of the letters
A to Z. Text values agree up to their lower case, which takes all of Unicode into account and, for
the capital sigma, the letters around it.
-/

namespace TemplateAudit.Text

def asciiLower (c : Char) : Char := c.toLower

/-- Equality up to the case of ASCII letters. -/
def sameIgnoringCase (a b : String) : Bool :=
  a.toList.map asciiLower = b.toList.map asciiLower

/-- A text without the case of its ASCII letters. -/
def folded (s : String) : List Char := s.toList.map asciiLower

section

variable {a b c : String}

theorem sameIgnoringCase_iff : sameIgnoringCase a b = true ↔ folded a = folded b :=
  decide_eq_true_iff

theorem sameIgnoringCase_self (a : String) : sameIgnoringCase a a = true :=
  sameIgnoringCase_iff.mpr rfl

theorem sameIgnoringCase_symm (h : sameIgnoringCase a b = true) : sameIgnoringCase b a = true :=
  sameIgnoringCase_iff.mpr (sameIgnoringCase_iff.mp h).symm

theorem sameIgnoringCase_trans (hab : sameIgnoringCase a b = true)
    (hbc : sameIgnoringCase b c = true) : sameIgnoringCase a c = true :=
  sameIgnoringCase_iff.mpr ((sameIgnoringCase_iff.mp hab).trans (sameIgnoringCase_iff.mp hbc))

theorem sameIgnoringCase_congr_right (h : sameIgnoringCase b c = true) :
    sameIgnoringCase a b = sameIgnoringCase a c := by
  rw [Bool.eq_iff_iff]
  exact ⟨(sameIgnoringCase_trans · h), (sameIgnoringCase_trans · (sameIgnoringCase_symm h))⟩

end

def isCased (c : Char) : Bool := Unicode.inRuns c.toNat Unicode.casedRuns

def isCaseIgnorable (c : Char) : Bool := Unicode.inRuns c.toNat Unicode.caseIgnorableRuns

/-- Whether a letter with case comes next, apart from characters that case ignores. -/
def meetsCased (chars : List Char) : Bool :=
  match chars.dropWhile isCaseIgnorable with
  | c :: _ => isCased c
  | [] => false

def capitalSigma : Char := Char.ofNat 0x3A3

def smallSigma : Char := Char.ofNat 0x3C3

def finalSigma : Char := Char.ofNat 0x3C2

/-- The lower case of a character by itself; a capital I with a dot keeps the dot. -/
def lowerChar (c : Char) : List Char :=
  if c.toNat = 0x130 then ['i', Char.ofNat 0x307]
  else [Char.ofNat (Unicode.lower c.toNat)]

/-- The lower case of a text after the given characters, the nearest first. A capital sigma that
ends a word has a form of its own. -/
def lowerAfter (before : List Char) : List Char → List Char
  | [] => []
  | c :: rest =>
    if c = capitalSigma then
      (if meetsCased before && !meetsCased rest then finalSigma else smallSigma) ::
        lowerAfter (c :: before) rest
    else lowerChar c ++ lowerAfter (c :: before) rest

def lowerChars (chars : List Char) : List Char := lowerAfter [] chars

/-- The lower case of a text. -/
def lowercase (s : String) : String := String.ofList (lowerChars s.toList)

/-- Whether some part of a text is the given one. -/
def occursIn (part : List Char) : List Char → Bool
  | [] => part.isEmpty
  | c :: rest => part.isPrefixOf (c :: rest) || occursIn part rest

theorem occursIn_iff {part text : List Char} : occursIn part text = true ↔ part <:+: text := by
  induction text with
  | nil => simp [occursIn]
  | cons c rest ih =>
    rw [occursIn, Bool.or_eq_true, List.isPrefixOf_iff_prefix, ih, List.infix_cons_iff]

end TemplateAudit.Text
