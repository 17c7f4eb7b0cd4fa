import Mathlib.Data.List.Forall2
import TemplateAudit.Proofs.Document.Reading
import TemplateAudit.Proofs.Text.AsciiCase

/-! # The spelling of strings

Between the quotes of a string each character is spelled by a word: by itself, by a simple escape,
or by the hexadecimal digits of its UTF-16 code units, of which a character above U+FFFF has two.
The strings that can be read are exactly those that are spelled so.
-/

namespace TemplateAudit

namespace Json

open Text (asciiLower hexValue?)

variable {chars rest digits : List Char} {c : Char} {n : Nat}

/-! ### Hexadecimal digits -/

def hexValues (n : Nat) : List Nat := [n / 4096 % 16, n / 256 % 16, n / 16 % 16, n % 16]

/-- The digits of a number below 2^16, in lower case. -/
def hexDigits (n : Nat) : List Char := (hexValues n).map Nat.digitChar

theorem lt_of_mem_hexValues {v : Nat} (h : v ∈ hexValues n) : v < 16 := by
  simp only [hexValues, List.mem_cons, List.not_mem_nil, or_false] at h
  omega

theorem hexValue?_lt (h : hexValue? c = some n) : n < 16 := by
  unfold hexValue? at h
  dsimp only at h
  split at h
  · obtain rfl := Option.some.inj h
    omega
  · split at h
    · obtain rfl := Option.some.inj h
      omega
    · split at h
      · obtain rfl := Option.some.inj h
        omega
      · exact nomatch h

theorem hexValue?_eq_none (hc : ¬ c.toNat < 128) : hexValue? c = none := by
  unfold hexValue?
  dsimp only
  rw [if_neg (by omega), if_neg (by omega), if_neg (by omega)]

theorem hexValue?_eq_some_iff (hn : n < 16) :
    hexValue? c = some n ↔ asciiLower c = Nat.digitChar n := by
  by_cases hc : c.toNat < 128
  · have hdigits : ∀ m < 128, ∀ n < 16, hexValue? (Char.ofNat m) = some n ↔
        asciiLower (Char.ofNat m) = Nat.digitChar n := by decide +kernel
    have hdigit := hdigits c.toNat hc n hn
    rwa [Char.ofNat_toNat] at hdigit
  · have hdigits : ∀ n < 16, (Nat.digitChar n).toNat < 128 := by decide
    rw [hexValue?_eq_none hc, Text.asciiLower_of_not_ascii hc]
    constructor
    · intro h
      exact nomatch h
    · rintro rfl
      exact absurd (hdigits n hn) hc

theorem map_hexValue?_iff {values : List Nat} (h : ∀ v ∈ values, v < 16) :
    digits.map hexValue? = values.map some ↔
      digits.map asciiLower = values.map Nat.digitChar := by
  induction values generalizing digits with
  | nil => simp
  | cons v values ih =>
    obtain ⟨hv, hvalues⟩ := List.forall_mem_cons.mp h
    cases digits with
    | nil => simp
    | cons d digits => simp [hexValue?_eq_some_iff hv, ih hvalues]

theorem map_hexValue?_eq_iff :
    digits.map hexValue? = (hexValues n).map some ↔ digits.map asciiLower = hexDigits n := by
  apply map_hexValue?_iff
  intro v hv
  exact lt_of_mem_hexValues hv

theorem length_of_hexDigits (h : digits.map asciiLower = hexDigits n) : digits.length = 4 := by
  simpa [hexDigits, hexValues] using congrArg List.length h

theorem length_le_byteCount (chars : List Char) : chars.length ≤ byteCount chars := by
  have hfold : ∀ n, n + chars.length ≤ chars.foldl (fun n c => n + c.utf8Size) n := by
    induction chars with
    | nil => simp
    | cons c chars ih =>
      intro n
      have hc := c.utf8Size_pos
      have hrest := ih (n + c.utf8Size)
      rw [List.foldl_cons, List.length_cons]
      omega
  simpa [byteCount] using hfold 0

theorem readHex_eq_ok_iff : readHex chars = .ok (n, rest) ↔
    n < 65536 ∧ ∃ digits, digits.map asciiLower = hexDigits n ∧ chars = digits ++ rest := by
  unfold readHex
  constructor
  · intro h
    split at h
    · exact nomatch h
    · split at h
      · next a b c d hvalues =>
        obtain ⟨rfl, rfl⟩ := Prod.mk.inj (Except.ok.inj h)
        have hlt : ∀ v ∈ [a, b, c, d], v < 16 := by
          intro v hv
          have hmem : some v ∈ (chars.take 4).map hexValue? := by
            rw [hvalues]
            simpa using hv
          obtain ⟨x, -, hx⟩ := List.mem_map.mp hmem
          exact hexValue?_lt hx
        simp only [List.forall_mem_cons] at hlt
        obtain ⟨ha, hb, hc, hd, -⟩ := hlt
        refine ⟨by omega, chars.take 4, ?_, (List.take_append_drop 4 chars).symm⟩
        rw [← map_hexValue?_eq_iff, hvalues]
        simp only [hexValues, List.map_cons, List.map_nil, List.cons.injEq, Option.some.injEq,
          and_true]
        omega
      · exact nomatch h
  · rintro ⟨hn, digits, hdigits, rfl⟩
    have hlength := length_of_hexDigits hdigits
    have hbytes := length_le_byteCount digits
    rw [List.take_left' hlength, List.drop_left' hlength, if_neg (by omega),
      map_hexValue?_eq_iff.mpr hdigits]
    simp only [hexValues, List.map_cons, List.map_nil]
    congr 2
    omega

/-! ### Surrogates -/

theorem isHighSurrogate_iff : isHighSurrogate n = true ↔ 0xD800 ≤ n ∧ n ≤ 0xDBFF := by
  simp [isHighSurrogate]

theorem isLowSurrogate_iff : isLowSurrogate n = true ↔ 0xDC00 ≤ n ∧ n ≤ 0xDFFF := by
  simp [isLowSurrogate]

def highSurrogate (c : Char) : Nat := 0xD800 + (c.toNat - 0x10000) / 0x400

def lowSurrogate (c : Char) : Nat := 0xDC00 + (c.toNat - 0x10000) % 0x400

theorem isValidChar_toNat (c : Char) : c.toNat.isValidChar := c.valid

theorem toNat_ofNat (hn : n.isValidChar) : (Char.ofNat n).toNat = n := by
  rw [Char.ofNat, dif_pos hn]
  rfl

theorem isHighSurrogate_highSurrogate (c : Char) : isHighSurrogate (highSurrogate c) = true := by
  have hc := isValidChar_toNat c
  unfold Nat.isValidChar at hc
  rw [isHighSurrogate_iff, highSurrogate]
  omega

theorem isLowSurrogate_lowSurrogate (c : Char) : isLowSurrogate (lowSurrogate c) = true := by
  rw [isLowSurrogate_iff, lowSurrogate]
  omega

theorem pairedChar_surrogates (hc : 0x10000 ≤ c.toNat) :
    pairedChar (highSurrogate c) (lowSurrogate c) = c := by
  have hvalue : 0x10000 + (highSurrogate c - 0xD800) * 0x400 + (lowSurrogate c - 0xDC00) =
      c.toNat := by
    unfold highSurrogate lowSurrogate
    omega
  unfold pairedChar
  rw [hvalue, Char.ofNat_toNat]

theorem toNat_pairedChar {high low : Nat} (hhigh : isHighSurrogate high = true)
    (hlow : isLowSurrogate low = true) :
    (pairedChar high low).toNat = 0x10000 + (high - 0xD800) * 0x400 + (low - 0xDC00) := by
  rw [isHighSurrogate_iff] at hhigh
  rw [isLowSurrogate_iff] at hlow
  have hvalid : (0x10000 + (high - 0xD800) * 0x400 + (low - 0xDC00)).isValidChar := by
    unfold Nat.isValidChar
    omega
  rw [pairedChar, toNat_ofNat hvalid]

theorem surrogates_pairedChar {high low : Nat} (hhigh : isHighSurrogate high = true)
    (hlow : isLowSurrogate low = true) :
    0x10000 ≤ (pairedChar high low).toNat ∧ highSurrogate (pairedChar high low) = high ∧
      lowSurrogate (pairedChar high low) = low := by
  unfold highSurrogate lowSurrogate
  rw [toNat_pairedChar hhigh hlow]
  rw [isHighSurrogate_iff] at hhigh
  rw [isLowSurrogate_iff] at hlow
  omega

/-! ### Words -/

def simpleEscapes : List (Char × Char) :=
  [('"', '"'), ('\\', '\\'), ('/', '/'), ('b', Char.ofNat 8), ('f', Char.ofNat 12), ('n', '\n'),
    ('r', '\r'), ('t', '\t')]

/-- A word spells a character of a string. -/
inductive Spells : List Char → Char → Prop where
  | plain {c : Char} : c ≠ '"' → c ≠ '\\' → 32 ≤ c.toNat → Spells [c] c
  | simple {letter c : Char} : (letter, c) ∈ simpleEscapes → Spells ['\\', letter] c
  | unit {digits : List Char} {c : Char} : c.toNat < 0x10000 →
    digits.map asciiLower = hexDigits c.toNat → Spells ('\\' :: 'u' :: digits) c
  | pair {high low : List Char} {c : Char} : 0x10000 ≤ c.toNat →
    high.map asciiLower = hexDigits (highSurrogate c) →
    low.map asciiLower = hexDigits (lowSurrogate c) →
    Spells ('\\' :: 'u' :: (high ++ '\\' :: 'u' :: low)) c

theorem readLowSurrogate_eq_ok_iff {high : Nat} (hhigh : isHighSurrogate high = true) :
    readLowSurrogate high chars = .ok (c, rest) ↔
      0x10000 ≤ c.toNat ∧ highSurrogate c = high ∧ ∃ digits,
        digits.map asciiLower = hexDigits (lowSurrogate c) ∧
          chars = '\\' :: 'u' :: (digits ++ rest) := by
  constructor
  · intro h
    rw [readLowSurrogate.eq_def] at h
    split at h
    · exact nomatch h
    · exact nomatch h
    · next tail =>
      obtain ⟨low, after, hhex, hpaired⟩ := Reading.andThen_eq_ok_iff.mp h
      obtain ⟨-, digits, hdigits, rfl⟩ := readHex_eq_ok_iff.mp hhex
      split at hpaired
      · next hlow =>
        obtain ⟨rfl, rfl⟩ := Prod.mk.inj (Except.ok.inj hpaired)
        obtain ⟨hlarge, hfirst, hsecond⟩ := surrogates_pairedChar hhigh hlow
        exact ⟨hlarge, hfirst, digits, hsecond.symm ▸ hdigits, rfl⟩
      · exact nomatch hpaired
    · exact nomatch h
    · exact nomatch h
  · rintro ⟨hlarge, rfl, digits, hdigits, rfl⟩
    have hlow := isLowSurrogate_lowSurrogate c
    have hlt : lowSurrogate c < 65536 := by
      rw [isLowSurrogate_iff] at hlow
      omega
    have hhex : readHex (digits ++ rest) = .ok (lowSurrogate c, rest) :=
      readHex_eq_ok_iff.mpr ⟨hlt, digits, hdigits, rfl⟩
    rw [readLowSurrogate, hhex, Reading.andThen_ok, if_pos hlow, pairedChar_surrogates hlarge]

theorem readUnicode_eq_ok_iff : readUnicode chars = .ok (c, rest) ↔
    ∃ tail, Spells ('\\' :: 'u' :: tail) c ∧ chars = tail ++ rest := by
  unfold readUnicode
  constructor
  · intro h
    obtain ⟨n, after, hhex, hchar⟩ := Reading.andThen_eq_ok_iff.mp h
    obtain ⟨hn, digits, hdigits, rfl⟩ := readHex_eq_ok_iff.mp hhex
    split at hchar
    · exact nomatch hchar
    · next hlow =>
      split at hchar
      · next hhigh =>
        obtain ⟨hlarge, rfl, low, hlow, rfl⟩ := (readLowSurrogate_eq_ok_iff hhigh).mp hchar
        exact ⟨digits ++ '\\' :: 'u' :: low, .pair hlarge hdigits hlow, by simp⟩
      · next hhigh =>
        obtain ⟨rfl, rfl⟩ := Prod.mk.inj (Except.ok.inj hchar)
        rw [isLowSurrogate_iff] at hlow
        rw [isHighSurrogate_iff] at hhigh
        have hvalid : n.isValidChar := by
          unfold Nat.isValidChar
          omega
        have hvalue := toNat_ofNat hvalid
        exact ⟨digits, .unit (by omega) (by rwa [hvalue]), rfl⟩
  · rintro ⟨tail, hspells, rfl⟩
    cases hspells with
    | simple h => simp [simpleEscapes] at h
    | unit hsmall hdigits =>
      have hhex : readHex (tail ++ rest) = .ok (c.toNat, rest) :=
        readHex_eq_ok_iff.mpr ⟨hsmall, tail, hdigits, rfl⟩
      have hc := isValidChar_toNat c
      unfold Nat.isValidChar at hc
      rw [hhex, Reading.andThen_ok, if_neg, if_neg, Char.ofNat_toNat]
      · rw [isHighSurrogate_iff]
        omega
      · rw [isLowSurrogate_iff]
        omega
    | @pair high low _ hlarge hhigh hlow =>
      have hfirst := isHighSurrogate_highSurrogate c
      have hbounds := isHighSurrogate_iff.mp hfirst
      have hhex : readHex (high ++ ('\\' :: 'u' :: low ++ rest)) =
          .ok (highSurrogate c, '\\' :: 'u' :: low ++ rest) :=
        readHex_eq_ok_iff.mpr ⟨by omega, high, hhigh, rfl⟩
      rw [List.append_assoc, hhex, Reading.andThen_ok, if_neg, if_pos hfirst]
      · exact (readLowSurrogate_eq_ok_iff hfirst).mpr ⟨hlarge, rfl, low, hlow, rfl⟩
      · rw [isLowSurrogate_iff]
        omega

theorem readEscape_of_simple {letter : Char} (h : (letter, c) ∈ simpleEscapes) :
    readEscape (letter :: rest) = .ok (c, rest) := by
  have hread : ∀ e ∈ simpleEscapes, readEscape (e.1 :: rest) = .ok (e.2, rest) := by
    simp [simpleEscapes, readEscape]
  exact hread _ h

theorem simple_of_readEscape {letter : Char} (hu : letter ≠ 'u')
    (h : readEscape (letter :: chars) = .ok (c, rest)) :
    (letter, c) ∈ simpleEscapes ∧ chars = rest := by
  rw [readEscape] at h
  · unfold failAt at h
    unfold simpleEscapes
    grind
  · exact hu

/-- Of an escape exactly one word is read. -/
theorem readEscape_eq_ok_iff : readEscape chars = .ok (c, rest) ↔
    ∃ tail, Spells ('\\' :: tail) c ∧ chars = tail ++ rest := by
  constructor
  · intro h
    cases chars with
    | nil => exact nomatch h
    | cons letter after =>
      by_cases hu : letter = 'u'
      · subst hu
        obtain ⟨tail, hspells, rfl⟩ := readUnicode_eq_ok_iff.mp h
        exact ⟨'u' :: tail, hspells, rfl⟩
      · obtain ⟨hsimple, rfl⟩ := simple_of_readEscape hu h
        exact ⟨[letter], .simple hsimple, rfl⟩
  · rintro ⟨tail, hspells, rfl⟩
    cases hspells with
    | plain _ hback _ => exact absurd rfl hback
    | simple h => exact readEscape_of_simple h
    | unit hsmall hdigits => exact readUnicode_eq_ok_iff.mpr ⟨_, .unit hsmall hdigits, rfl⟩
    | pair hlarge hhigh hlow => exact readUnicode_eq_ok_iff.mpr ⟨_, .pair hlarge hhigh hlow, rfl⟩

theorem Spells.plain_or_escape {word : List Char} (h : Spells word c) :
    (word = [c] ∧ c ≠ '"' ∧ c ≠ '\\' ∧ 32 ≤ c.toNat) ∨
      ∃ letter tail, word = '\\' :: letter :: tail := by
  cases h with
  | plain hquote hback hspace => exact .inl ⟨rfl, hquote, hback, hspace⟩
  | simple => exact .inr ⟨_, _, rfl⟩
  | unit => exact .inr ⟨_, _, rfl⟩
  | pair => exact .inr ⟨_, _, rfl⟩

theorem readStringWithin_append {word : List Char} (h : Spells word c) (rounds : Nat)
    (chars : List Char) : readStringWithin (rounds + 1) (word ++ chars) =
      (readStringWithin rounds chars).mapValue (c :: ·) := by
  rcases h.plain_or_escape with ⟨rfl, hquote, hback, hspace⟩ | ⟨letter, tail, rfl⟩
  · rw [List.singleton_append, readStringWithin, if_neg hquote, if_neg hback,
      if_neg (Nat.not_lt.mpr hspace)]
  · have hread : readEscape (letter :: tail ++ chars) = .ok (c, chars) :=
      readEscape_eq_ok_iff.mpr ⟨letter :: tail, h, rfl⟩
    rw [List.cons_append, readStringWithin, if_neg (by decide), if_pos rfl, hread,
      Reading.andThen_ok]

theorem Spells.length_pos {word : List Char} (h : Spells word c) : 0 < word.length := by
  cases h <;> simp

/-! ### Strings -/

variable {words : List (List Char)} {s : List Char}

theorem exists_spells_of_mem {word : List Char} (h : List.Forall₂ Spells words s)
    (hword : word ∈ words) : ∃ c, Spells word c := by
  induction h with
  | nil => exact absurd hword List.not_mem_nil
  | @cons head c words s hhead hwords ih =>
    rcases List.mem_cons.mp hword with rfl | hword
    · exact ⟨c, hhead⟩
    · exact ih hword

theorem exists_words_of_readStringWithin {rounds : Nat}
    (h : readStringWithin rounds chars = .ok (s, rest)) :
    ∃ words, List.Forall₂ Spells words s ∧ chars = words.flatten ++ '"' :: rest := by
  induction rounds generalizing chars s with
  | zero => exact nomatch h
  | succ rounds ih =>
    cases chars with
    | nil => exact nomatch h
    | cons c chars =>
      rw [readStringWithin] at h
      split at h
      · next hquote =>
        obtain ⟨rfl, rfl⟩ := Prod.mk.inj (Except.ok.inj h)
        exact ⟨[], .nil, by rw [hquote]; rfl⟩
      · next hquote =>
        split at h
        · next hback =>
          obtain ⟨d, after, hescape, h⟩ := Reading.andThen_eq_ok_iff.mp h
          obtain ⟨s, hs, rfl⟩ := Reading.mapValue_eq_ok_iff.mp h
          obtain ⟨tail, hspells, rfl⟩ := readEscape_eq_ok_iff.mp hescape
          obtain ⟨words, hwords, rfl⟩ := ih hs
          exact ⟨('\\' :: tail) :: words, .cons hspells hwords, by simp [hback]⟩
        · next hback =>
          split at h
          · exact nomatch h
          · next hspace =>
            obtain ⟨s, hs, rfl⟩ := Reading.mapValue_eq_ok_iff.mp h
            obtain ⟨words, hwords, rfl⟩ := ih hs
            exact ⟨[c] :: words, .cons (.plain hquote hback (Nat.not_lt.mp hspace)) hwords, rfl⟩

theorem readStringWithin_of_words {rounds : Nat} (h : List.Forall₂ Spells words s)
    (hrounds : words.flatten.length < rounds) (rest : List Char) :
    readStringWithin rounds (words.flatten ++ '"' :: rest) = .ok (s, rest) := by
  induction h generalizing rounds with
  | nil =>
    obtain ⟨rounds, rfl⟩ := Nat.exists_eq_succ_of_ne_zero (Nat.ne_of_gt hrounds)
    rw [List.flatten_nil, List.nil_append, readStringWithin, if_pos rfl]
  | @cons word c words s hword hwords ih =>
    obtain ⟨rounds, rfl⟩ := Nat.exists_eq_succ_of_ne_zero (Nat.ne_zero_of_lt hrounds)
    have hpos := hword.length_pos
    rw [List.flatten_cons, List.length_append] at hrounds
    rw [List.flatten_cons, List.append_assoc, readStringWithin_append hword, ih (by omega),
      Reading.mapValue_ok]

/-- The strings that are read are those spelled in words up to a quote. -/
theorem readString_eq_ok_iff : readString chars = .ok (s, rest) ↔
    ∃ words, List.Forall₂ Spells words s ∧ chars = words.flatten ++ '"' :: rest := by
  constructor
  · exact exists_words_of_readStringWithin
  · rintro ⟨words, hwords, rfl⟩
    apply readStringWithin_of_words hwords
    rw [List.length_append]
    omega

theorem eq_nil_of_readString {body : List Char}
    (h : readString (body ++ ['"']) = .ok (s, rest)) (hblank : skipSpace rest = []) :
    rest = [] := by
  obtain ⟨words, -, hchars⟩ := readString_eq_ok_iff.mp h
  rcases List.eq_nil_or_concat rest with hrest | ⟨front, last, rfl⟩
  · exact hrest
  · have hlast : last = '"' := by
      rw [List.concat_eq_append, ← List.cons_append, ← List.append_assoc] at hchars
      exact (List.cons.inj (List.append_inj_right' hchars rfl)).1.symm
    have hspace := List.dropWhile_eq_nil_iff.mp hblank last (by simp)
    rw [hlast] at hspace
    exact absurd hspace (by decide)

/-- A text in quotes is a document exactly if it is one string up to the last quote. -/
theorem parse_quoted_iff {body text : String} :
    parse ("\"" ++ body ++ "\"") = .ok (.string text) ↔
      readString (body.toList ++ ['"']) = .ok (text.toList, []) := by
  have htoList : ("\"" ++ body ++ "\"").toList = '"' :: (body.toList ++ ['"']) := by simp
  have hvalue : readValue maxLevels ('"' :: (body.toList ++ ['"'])) =
      (readString (body.toList ++ ['"'])).mapValue fun s => .string (String.ofList s) := rfl
  rw [parse, parseChars, htoList, hvalue]
  constructor
  · intro h
    split at h
    · cases h
    · next value rest hread =>
      split at h
      · next hblank =>
        obtain ⟨s, hs, rfl⟩ := Reading.mapValue_eq_ok_iff.mp hread
        obtain rfl := string.inj (Except.ok.inj h)
        rw [hs, String.toList_ofList, eq_nil_of_readString hs hblank]
      · cases h
  · intro h
    rw [h, Reading.mapValue_ok, String.ofList_toList]
    rfl

end Json

end TemplateAudit
