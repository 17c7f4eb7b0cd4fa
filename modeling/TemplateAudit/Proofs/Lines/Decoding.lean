import TemplateAudit.LineIndex
import TemplateAudit.Proofs.Document.Spelling

/-! # Decoding by the scanner

The scanner goes on with the replacement character where an escape names no character, and it
subtracts from code units without a look at them. The strict scanner finds no string where either
goes wrong. It finds every string that is spelled in words, and so the scanner finds the string
that reading finds and goes on behind the same quote.
-/

namespace TemplateAudit

namespace LineIndex

open Json (Spells hexDigits highSurrogate lowSurrogate isHighSurrogate isLowSurrogate
  isHighSurrogate_iff isLowSurrogate_iff)
open Text (asciiLower charOf?)

variable {chars rest digits word tail s : List Char} {words : List (List Char)}
  {c letter : Char} {n high : Nat}

/-! ### The strict scanner -/

def subtract? (m n : Nat) : Option Nat := if n ≤ m then some (m - n) else none

def strictLowSurrogate? (high : Nat) : List Char → Option (Char × List Char)
  | '\\' :: 'u' :: rest => do
    let low ← hexValue? (rest.take 4)
    if isLowSurrogate low then
      let upper ← subtract? high 0xD800
      let lower ← subtract? low 0xDC00
      let c ← charOf? (0x10000 + upper * 0x400 + lower)
      return (c, rest.drop 4)
    else none
  | _ => none

def strictUnicode? (chars : List Char) : Option (Char × List Char) := do
  let n ← hexValue? (chars.take 4)
  if isHighSurrogate n then strictLowSurrogate? n (chars.drop 4)
  else
    let c ← charOf? n
    return (c, chars.drop 4)

def strictEscape? (letter : Char) (rest : List Char) : Option (Char × List Char) :=
  if letter = 'u' then strictUnicode? rest else some (scanEscape letter rest)

def strictStringWithin? : Nat → List Char → Option (List Char × List Char)
  | 0, _ => none
  | _ + 1, [] => none
  | rounds + 1, c :: rest =>
    if c = '"' then some ([], rest)
    else if c = '\\' then
      match rest with
      | [] => none
      | letter :: after => do
        let (decoded, next) ← strictEscape? letter after
        let (s, last) ← strictStringWithin? rounds next
        return (decoded :: s, last)
    else do
      let (s, last) ← strictStringWithin? rounds rest
      return (c :: s, last)

/-- The string after an opening quote and the characters after its closing quote, if every escape
names a character and nothing is subtracted from less. -/
def strictString? (chars : List Char) : Option (List Char × List Char) :=
  strictStringWithin? (chars.length + 1) chars

theorem subtract?_eq_some_iff {m k : Nat} : subtract? m n = some k ↔ k + n = m := by
  unfold subtract?
  constructor
  · intro h
    split at h
    · obtain rfl := Option.some.inj h
      omega
    · exact nomatch h
  · rintro rfl
    rw [if_pos (Nat.le_add_left n k), Nat.add_sub_cancel]

theorem charOf?_eq_some_iff : charOf? n = some c ↔ n = c.toNat := by
  unfold charOf?
  constructor
  · intro h
    split at h
    · next hvalid =>
      obtain rfl := Option.some.inj h
      exact (Json.toNat_ofNat hvalid).symm
    · exact nomatch h
  · rintro rfl
    rw [if_pos (Json.isValidChar_toNat c), Char.ofNat_toNat]

/-! ### What the strict scanner finds, the scanner finds -/

theorem scanLowSurrogate_of_strict {r : Char × List Char}
    (h : strictLowSurrogate? high chars = some r) : scanLowSurrogate high chars = r := by
  unfold strictLowSurrogate? at h
  split at h
  · next rest =>
    obtain ⟨low, hlow, h⟩ := Option.bind_eq_some_iff.mp h
    split at h
    · next hsurrogate =>
      obtain ⟨upper, hupper, h⟩ := Option.bind_eq_some_iff.mp h
      obtain ⟨lower, hlower, h⟩ := Option.bind_eq_some_iff.mp h
      obtain ⟨c, hc, h⟩ := Option.bind_eq_some_iff.mp h
      obtain rfl := Option.some.inj h
      have hpaired : Json.pairedChar high low = c := by
        rw [subtract?_eq_some_iff] at hupper hlower
        rw [charOf?_eq_some_iff] at hc
        rw [Json.pairedChar, ← hupper, ← hlower, Nat.add_sub_cancel, Nat.add_sub_cancel, hc,
          Char.ofNat_toNat]
      simp only [scanLowSurrogate, hlow, if_pos hsurrogate, hpaired]
    · cases h
  · cases h

theorem scanUnicode_of_strict {r : Char × List Char} (h : strictUnicode? chars = some r) :
    scanUnicode chars = r := by
  obtain ⟨n, hn, h⟩ := Option.bind_eq_some_iff.mp h
  rw [scanUnicode, hn]
  split at h
  · next hhigh => exact (if_pos hhigh).trans (scanLowSurrogate_of_strict h)
  · next hhigh =>
    obtain ⟨c, hc, h⟩ := Option.bind_eq_some_iff.mp h
    obtain rfl := Option.some.inj h
    refine (if_neg hhigh).trans ?_
    rw [charOf, hc, Option.getD_some]

theorem scanEscape_of_strict {r : Char × List Char} (h : strictEscape? letter rest = some r) :
    scanEscape letter rest = r := by
  unfold strictEscape? at h
  split at h
  · next hu =>
    rw [scanEscape, if_pos hu]
    exact scanUnicode_of_strict h
  · exact Option.some.inj h

theorem scanStringWithin_of_strict {rounds : Nat} {r : List Char × List Char}
    (h : strictStringWithin? rounds chars = some r) : scanStringWithin rounds chars = r := by
  induction rounds generalizing chars r with
  | zero => exact nomatch h
  | succ rounds ih =>
    cases chars with
    | nil => exact nomatch h
    | cons c chars =>
      rw [strictStringWithin?.eq_def] at h
      rw [scanStringWithin.eq_def]
      dsimp only at h ⊢
      split at h
      · next hquote => rw [if_pos hquote, Option.some.inj h]
      · next hquote =>
        rw [if_neg hquote]
        split at h
        · next hback =>
          rw [if_pos hback]
          cases chars with
          | nil => exact nomatch h
          | cons letter after =>
            obtain ⟨⟨decoded, next⟩, hescape, h⟩ := Option.bind_eq_some_iff.mp h
            obtain ⟨⟨s, last⟩, hs, h⟩ := Option.bind_eq_some_iff.mp h
            obtain rfl := Option.some.inj h
            simp only [scanEscape_of_strict hescape, ih hs]
        · next hback =>
          obtain ⟨⟨s, last⟩, hs, h⟩ := Option.bind_eq_some_iff.mp h
          obtain rfl := Option.some.inj h
          simp only [if_neg hback, ih hs]

theorem scanString_of_strict {r : List Char × List Char} (h : strictString? chars = some r) :
    scanString chars = r :=
  scanStringWithin_of_strict h

/-! ### Spelled strings -/

theorem hexValue?_of_hexDigits (hn : n < 65536) (h : digits.map asciiLower = hexDigits n) :
    hexValue? digits = some n := by
  rw [← Json.map_hexValue?_eq_iff] at h
  simp only [Json.hexValues, List.map_cons, List.map_nil] at h
  obtain ⟨w, ws, rfl, hw, h⟩ := List.map_eq_cons_iff.mp h
  obtain ⟨x, xs, rfl, hx, h⟩ := List.map_eq_cons_iff.mp h
  obtain ⟨y, ys, rfl, hy, h⟩ := List.map_eq_cons_iff.mp h
  obtain ⟨z, zs, rfl, hz, h⟩ := List.map_eq_cons_iff.mp h
  obtain rfl := List.map_eq_nil_iff.mp h
  have hplus : w ≠ '+' := by
    rintro rfl
    cases hw
  simp [hexValue?, hplus, hw, hx, hy, hz]
  omega

theorem strictLowSurrogate?_surrogates (hc : 0x10000 ≤ c.toNat)
    (h : digits.map asciiLower = hexDigits (lowSurrogate c)) (rest : List Char) :
    strictLowSurrogate? (highSurrogate c) ('\\' :: 'u' :: (digits ++ rest)) = some (c, rest) := by
  have hlow := Json.isLowSurrogate_lowSurrogate c
  have hlt : lowSurrogate c < 65536 := by
    rw [isLowSurrogate_iff] at hlow
    omega
  have hupper : subtract? (highSurrogate c) 0xD800 = some ((c.toNat - 0x10000) / 0x400) := by
    rw [subtract?_eq_some_iff, highSurrogate, Nat.add_comm]
  have hlower : subtract? (lowSurrogate c) 0xDC00 = some ((c.toNat - 0x10000) % 0x400) := by
    rw [subtract?_eq_some_iff, lowSurrogate, Nat.add_comm]
  have hchar : charOf? (0x10000 + (c.toNat - 0x10000) / 0x400 * 0x400 +
      (c.toNat - 0x10000) % 0x400) = some c := by
    rw [charOf?_eq_some_iff]
    omega
  have hlength := Json.length_of_hexDigits h
  rw [strictLowSurrogate?, List.take_left' hlength, List.drop_left' hlength]
  refine Option.bind_eq_some_iff.mpr ⟨_, hexValue?_of_hexDigits hlt h, ?_⟩
  rw [if_pos hlow]
  refine Option.bind_eq_some_iff.mpr ⟨_, hupper, ?_⟩
  refine Option.bind_eq_some_iff.mpr ⟨_, hlower, ?_⟩
  exact Option.bind_eq_some_iff.mpr ⟨_, hchar, rfl⟩

theorem strictUnicode?_of_spells (h : Spells ('\\' :: 'u' :: tail) c) (rest : List Char) :
    strictUnicode? (tail ++ rest) = some (c, rest) := by
  cases h with
  | simple h => simp [Json.simpleEscapes] at h
  | unit hsmall hdigits =>
    have hc := Json.isValidChar_toNat c
    unfold Nat.isValidChar at hc
    have hlength := Json.length_of_hexDigits hdigits
    rw [strictUnicode?, List.take_left' hlength, List.drop_left' hlength]
    refine Option.bind_eq_some_iff.mpr ⟨_, hexValue?_of_hexDigits hsmall hdigits, ?_⟩
    rw [if_neg]
    · exact Option.bind_eq_some_iff.mpr ⟨c, charOf?_eq_some_iff.mpr rfl, rfl⟩
    · rw [isHighSurrogate_iff]
      omega
  | @pair high low _ hlarge hhighDigits hlowDigits =>
    have hhigh := Json.isHighSurrogate_highSurrogate c
    have hlt : highSurrogate c < 65536 := by
      rw [isHighSurrogate_iff] at hhigh
      omega
    have hlength := Json.length_of_hexDigits hhighDigits
    rw [List.append_assoc, strictUnicode?, List.take_left' hlength, List.drop_left' hlength]
    refine Option.bind_eq_some_iff.mpr ⟨_, hexValue?_of_hexDigits hlt hhighDigits, ?_⟩
    rw [if_pos hhigh]
    exact strictLowSurrogate?_surrogates hlarge hlowDigits rest

theorem scanEscape_of_simple (h : (letter, c) ∈ Json.simpleEscapes) :
    scanEscape letter rest = (c, rest) := by
  have hscan : ∀ e ∈ Json.simpleEscapes, scanEscape e.1 rest = (e.2, rest) := by
    simp [Json.simpleEscapes, scanEscape]
  exact hscan _ h

/-- Of an escape that spells a character the strict scanner takes exactly the word. -/
theorem strictEscape?_of_spells (h : Spells ('\\' :: letter :: tail) c) (rest : List Char) :
    strictEscape? letter (tail ++ rest) = some (c, rest) := by
  unfold strictEscape?
  by_cases hu : letter = 'u'
  · subst hu
    rw [if_pos rfl]
    exact strictUnicode?_of_spells h rest
  · rw [if_neg hu]
    cases h with
    | simple h => exact congrArg some (scanEscape_of_simple h)
    | unit => exact absurd rfl hu
    | pair => exact absurd rfl hu

theorem strictStringWithin?_append {rounds : Nat} (h : Spells word c)
    (hchars : strictStringWithin? rounds chars = some (s, rest)) :
    strictStringWithin? (rounds + 1) (word ++ chars) = some (c :: s, rest) := by
  rcases h.plain_or_escape with ⟨rfl, hquote, hback, -⟩ | ⟨letter, tail, rfl⟩
  · rw [List.singleton_append, strictStringWithin?.eq_def]
    dsimp only
    rw [if_neg hquote, if_neg hback]
    exact Option.bind_eq_some_iff.mpr ⟨_, hchars, rfl⟩
  · rw [List.cons_append, List.cons_append, strictStringWithin?, if_neg (by decide), if_pos rfl]
    refine Option.bind_eq_some_iff.mpr ⟨_, strictEscape?_of_spells h chars, ?_⟩
    exact Option.bind_eq_some_iff.mpr ⟨_, hchars, rfl⟩

theorem strictStringWithin?_of_words {rounds : Nat} (h : List.Forall₂ Spells words s)
    (hrounds : words.flatten.length < rounds) (rest : List Char) :
    strictStringWithin? rounds (words.flatten ++ '"' :: rest) = some (s, rest) := by
  induction h generalizing rounds with
  | nil =>
    obtain ⟨rounds, rfl⟩ := Nat.exists_eq_succ_of_ne_zero (Nat.ne_zero_of_lt hrounds)
    rw [List.flatten_nil, List.nil_append, strictStringWithin?.eq_def]
    exact if_pos rfl
  | @cons word c words s hword hwords ih =>
    obtain ⟨rounds, rfl⟩ := Nat.exists_eq_succ_of_ne_zero (Nat.ne_zero_of_lt hrounds)
    have hpos := hword.length_pos
    rw [List.flatten_cons, List.length_append] at hrounds
    rw [List.flatten_cons, List.append_assoc]
    exact strictStringWithin?_append hword (ih (by omega))

theorem strictString?_of_words (h : List.Forall₂ Spells words s) (rest : List Char) :
    strictString? (words.flatten ++ '"' :: rest) = some (s, rest) := by
  apply strictStringWithin?_of_words h
  rw [List.length_append]
  omega

theorem eq_of_spells_replacement (h : Spells ('\\' :: letter :: tail) replacement) :
    letter = 'u' ∧ tail.map asciiLower = ['f', 'f', 'f', 'd'] := by
  cases h with
  | simple h => exact absurd h (by simp [Json.simpleEscapes, replacement])
  | unit _ hdigits => exact ⟨rfl, hdigits⟩
  | pair hlarge _ _ => exact absurd hlarge (by decide)

/-- Whatever follows the closing quote of a string that can be read, the scanner finds the same
string and goes on behind the same quote. It subtracts nothing from less on the way and puts the
replacement character in no other place than for the escape of its own number. -/
theorem scanString_of_parse {body text : String}
    (h : Json.parse ("\"" ++ body ++ "\"") = .ok (.string text)) (further : List Char) :
    scanString (body.toList ++ '"' :: further) = (text.toList, further) ∧
    Json.readString (body.toList ++ '"' :: further) = .ok (text.toList, further) ∧
    strictString? (body.toList ++ '"' :: further) = some (text.toList, further) ∧
    ∃ words, body.toList = words.flatten ∧ List.Forall₂ Spells words text.toList ∧
      ∀ letter tail, '\\' :: letter :: tail ∈ words → ∀ rest, ∃ c,
        Spells ('\\' :: letter :: tail) c ∧ scanEscape letter (tail ++ rest) = (c, rest) ∧
          (c = replacement → letter = 'u' ∧ tail.map asciiLower = ['f', 'f', 'f', 'd']) := by
  obtain ⟨words, hwords, hbody⟩ := Json.readString_eq_ok_iff.mp (Json.parse_quoted_iff.mp h)
  have hflatten : body.toList = words.flatten := List.append_inj_left' hbody rfl
  have hstrict := strictString?_of_words hwords further
  rw [← hflatten] at hstrict
  refine ⟨scanString_of_strict hstrict, ?_, hstrict, words, hflatten, hwords, ?_⟩
  · rw [hflatten]
    exact Json.readString_eq_ok_iff.mpr ⟨words, hwords, rfl⟩
  · intro letter tail hmem rest
    obtain ⟨c, hspells⟩ := Json.exists_spells_of_mem hwords hmem
    refine ⟨c, hspells, scanEscape_of_strict (strictEscape?_of_spells hspells rest), ?_⟩
    rintro rfl
    exact eq_of_spells_replacement hspells

/-- Escapes of each kind, hexadecimal digits in both cases, and the replacement character. -/
theorem scanString_of_parse_escapes :
    let body := "\\\"\\/é\\u00E9\\ud83d\\uDE00\\n\\uFFFD"
    let text := "\"/éé😀\n\uFFFD"
    Json.parse ("\"" ++ body ++ "\"") = .ok (.string text) ∧
      scanString (body.toList ++ '"' :: ": 1".toList) = (text.toList, ": 1".toList) ∧
      strictString? (body.toList ++ '"' :: ": 1".toList) = some (text.toList, ": 1".toList) := by
  intro body text
  have hparse : Json.parse ("\"" ++ body ++ "\"") = .ok (.string text) := by
    dsimp only [body, text]
    rfl
  obtain ⟨hscan, -, hstrict, -⟩ := scanString_of_parse hparse ": 1".toList
  exact ⟨hparse, hscan, hstrict⟩

end LineIndex

end TemplateAudit
