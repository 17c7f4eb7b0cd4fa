import TemplateAudit.Proofs.Lines.Decoding

/-! # Tokens

The scanner decodes strings by itself, and of a number or a literal name it only looks for the end.
Where reading a token succeeds, it takes the same characters and finds the same string, and no
newline is among them: a string is spelled in words without newlines, and a number or a literal name
is one plain word.
-/

namespace TemplateAudit

def Passes (p : Char → Bool) (chars rest : List Char) : Prop :=
  ∃ word, chars = word ++ rest ∧ ∀ c ∈ word, p c = true

namespace Passes

variable {p q : Char → Bool} {chars rest last : List Char}

theorem refl (p : Char → Bool) (chars : List Char) : Passes p chars chars :=
  ⟨[], rfl, List.forall_mem_nil _⟩

theorem cons {c : Char} (hc : p c = true) (h : Passes p chars rest) :
    Passes p (c :: chars) rest := by
  obtain ⟨word, rfl, hw⟩ := h
  exact ⟨c :: word, rfl, List.forall_mem_cons.mpr ⟨hc, hw⟩⟩

theorem trans (h : Passes p chars rest) (h' : Passes p rest last) : Passes p chars last := by
  obtain ⟨word, rfl, hw⟩ := h
  obtain ⟨word', rfl, hw'⟩ := h'
  exact ⟨word ++ word', (List.append_assoc _ _ _).symm,
    List.forall_mem_append.mpr ⟨hw, hw'⟩⟩

theorem mono (hpq : ∀ c, p c = true → q c = true) (h : Passes p chars rest) :
    Passes q chars rest := by
  obtain ⟨word, rfl, hw⟩ := h
  exact ⟨word, rfl, fun c hc => hpq c (hw c hc)⟩

theorem suffix (h : Passes p chars rest) : rest <:+ chars := by
  obtain ⟨word, rfl, -⟩ := h
  exact List.suffix_append word rest

theorem dropWhile (p : Char → Bool) (chars : List Char) : Passes p chars (chars.dropWhile p) :=
  ⟨chars.takeWhile p, List.takeWhile_append_dropWhile.symm, fun _ hc =>
    (List.all_eq_true.mp List.all_takeWhile) _ hc⟩

end Passes

def staysOnLine (c : Char) : Bool := c ≠ '\n'

def isPlain (c : Char) : Bool :=
  c ≠ ':' && c ≠ '\x7b' && c ≠ '[' && c ≠ '"' && !LineIndex.Scanner.endsScalar c

theorem staysOnLine_of_isPlain {c : Char} (h : isPlain c = true) : staysOnLine c = true := by
  rw [staysOnLine, decide_eq_true_iff]
  rintro rfl
  exact absurd h (by decide)

/-- The characters begin with a word, and the rest comes after it. -/
def WordAt (chars rest : List Char) : Prop :=
  ∃ c tail, chars = c :: tail ∧ isPlain c = true ∧ Passes isPlain tail rest

theorem WordAt.passes {chars rest : List Char} (h : WordAt chars rest) :
    Passes isPlain chars rest := by
  obtain ⟨c, tail, rfl, hc, ht⟩ := h
  exact .cons hc ht

theorem isPlain_of_isDigit {c : Char} (h : c.isDigit = true) : isPlain c = true := by
  have hc : 48 ≤ c.toNat ∧ c.toNat ≤ 57 := by
    simp only [Char.isDigit, ge_iff_le, Bool.and_eq_true, decide_eq_true_eq,
      UInt32.le_iff_toNat_le] at h
    exact h
  have hdigits : ∀ n : Fin 10, isPlain (Char.ofNat (48 + n.val)) = true := by decide
  have hn := hdigits ⟨c.toNat - 48, by omega⟩
  rwa [show 48 + (c.toNat - 48) = c.toNat by omega, Char.ofNat_toNat] at hn

namespace Json

variable {chars rest : List Char}

theorem staysOnLine_of_hexDigits {digits : List Char} {n : Nat}
    (h : digits.map Text.asciiLower = hexDigits n) : ∀ d ∈ digits, staysOnLine d = true := by
  intro d hd
  rw [staysOnLine, decide_eq_true_iff]
  rintro rfl
  have hmem : Text.asciiLower '\n' ∈ hexDigits n := h ▸ List.mem_map_of_mem hd
  obtain ⟨v, hv, hdigit⟩ := List.mem_map.mp hmem
  have hne : ∀ v < 16, Nat.digitChar v ≠ Text.asciiLower '\n' := by decide
  exact hne v (lt_of_mem_hexValues hv) hdigit

theorem staysOnLine_of_spells {word : List Char} {c : Char} (h : Spells word c) :
    ∀ d ∈ word, staysOnLine d = true := by
  cases h with
  | plain _ _ hspace =>
    rw [List.forall_mem_singleton, staysOnLine, decide_eq_true_iff]
    rintro rfl
    exact absurd hspace (by decide)
  | simple h =>
    have hletters : ∀ escape ∈ simpleEscapes, staysOnLine escape.1 = true := by decide
    exact List.forall_mem_cons.mpr ⟨rfl, List.forall_mem_singleton.mpr (hletters _ h)⟩
  | unit _ h =>
    have hdigits := staysOnLine_of_hexDigits h
    exact List.forall_mem_cons.mpr ⟨rfl, List.forall_mem_cons.mpr ⟨rfl, hdigits⟩⟩
  | pair _ hhigh hlow =>
    refine List.forall_mem_cons.mpr ⟨rfl, List.forall_mem_cons.mpr ⟨rfl, ?_⟩⟩
    refine List.forall_mem_append.mpr ⟨staysOnLine_of_hexDigits hhigh, ?_⟩
    have hdigits := staysOnLine_of_hexDigits hlow
    exact List.forall_mem_cons.mpr ⟨rfl, List.forall_mem_cons.mpr ⟨rfl, hdigits⟩⟩

/-- A string that can be read is scanned to the same string, on one line. -/
theorem scanString_of_ok {s : List Char} (h : readString chars = .ok (s, rest)) :
    LineIndex.scanString chars = (s, rest) ∧ Passes staysOnLine chars rest := by
  obtain ⟨words, hwords, rfl⟩ := readString_eq_ok_iff.mp h
  refine ⟨LineIndex.scanString_of_strict (LineIndex.strictString?_of_words hwords rest), ?_⟩
  refine ⟨words.flatten ++ ['"'], (List.append_cons _ _ _), ?_⟩
  refine List.forall_mem_append.mpr ⟨fun d hd => ?_, List.forall_mem_singleton.mpr rfl⟩
  obtain ⟨word, hword, hd⟩ := List.mem_flatten.mp hd
  obtain ⟨c, hspells⟩ := exists_spells_of_mem hwords hword
  exact staysOnLine_of_spells hspells d hd

section Numbers

variable {negative : Bool} {whole fraction last : List Char} {n : Number}

theorem rest_of_elim {α : Type} {x : Option α} {f : α → Number} {e : Failure}
    (h : (x.elim (.error e) fun a => .ok (f a, rest) : Reading Number) = .ok (n, last)) :
    last = rest := by
  cases x with
  | none => exact nomatch h
  | some a => exact (Prod.mk.inj (Except.ok.inj h)).2.symm

theorem rest_of_floatValue {exponent : Int}
    (h : floatValue negative whole fraction exponent rest = .ok (n, last)) : last = rest :=
  rest_of_elim h

theorem rest_of_wholeValue (h : wholeValue negative whole rest = .ok (n, last)) :
    last = rest := by
  rw [wholeValue] at h
  generalize Number.ofInt? _ = integer at h
  split at h
  · cases integer with
    | none => exact rest_of_floatValue h
    | some m => exact (Prod.mk.inj (Except.ok.inj h)).2.symm
  · exact rest_of_floatValue h

theorem passes_digits (chars : List Char) : Passes isPlain chars (chars.dropWhile Char.isDigit) :=
  (Passes.dropWhile _ _).mono fun _ => isPlain_of_isDigit

theorem passes_exponentDigits (value : Nat) (chars : List Char) :
    Passes isPlain chars (exponentDigits value chars).2.1 := by
  induction chars generalizing value with
  | nil => exact .refl _ _
  | cons c tail ih =>
    rw [exponentDigits]
    split
    · next hc =>
      dsimp only
      split
      · exact .cons (isPlain_of_isDigit hc) (ih _)
      · exact .cons (isPlain_of_isDigit hc) (.refl _ _)
    · exact .refl _ _

theorem passes_readExponent
    (h : readExponent negative whole fraction chars = .ok (n, last)) :
    Passes isPlain chars last := by
  rw [readExponent.eq_def] at h
  dsimp only at h
  split at h
  · exact nomatch h
  · next c digits hsign =>
    have hpass : Passes isPlain chars (c :: digits) := by
      split at hsign <;> obtain rfl := hsign
      · exact .cons rfl (.refl _ _)
      · exact .cons rfl (.refl _ _)
      · exact .refl _ _
    split at h
    · next hc =>
      refine hpass.trans (.cons (isPlain_of_isDigit hc) ?_)
      refine (passes_exponentDigits (digitValue c) digits).trans ?_
      split at h
      · repeat' split at h
        all_goals
          first
          | cases h; done
          | obtain ⟨-, rfl⟩ := Prod.mk.inj (Except.ok.inj h)
            exact passes_digits _
      · obtain rfl := rest_of_floatValue h
        exact .refl _ _
    · exact nomatch h

theorem passes_readFraction (h : readFraction negative whole chars = .ok (n, last)) :
    Passes isPlain chars last := by
  rw [readFraction.eq_def] at h
  split at h
  · next tail =>
    have hpass := passes_digits tail
    have hdrop : tail.drop (tail.takeWhile Char.isDigit).length =
        tail.dropWhile Char.isDigit :=
      (congrArg (List.drop _) List.takeWhile_append_dropWhile.symm).trans List.drop_left
    dsimp only at h
    rw [hdrop] at h
    refine .cons rfl (hpass.trans ?_)
    split at h
    · exact nomatch h
    · split at h
      · next c after hafter =>
        rw [hafter]
        split at h
        · next hc =>
          refine .cons ?_ (passes_readExponent h)
          rcases hc with rfl | rfl <;> rfl
        · obtain rfl := rest_of_floatValue h
          exact hafter ▸ .refl _ _
      · next hafter =>
        rw [hafter]
        obtain rfl := rest_of_floatValue h
        exact .refl _ _
  · next c tail _ =>
    split at h
    · next hc =>
      refine .cons ?_ (passes_readExponent h)
      rcases hc with rfl | rfl <;> rfl
    · obtain rfl := rest_of_wholeValue h
      exact .refl _ _
  · obtain rfl := rest_of_wholeValue h
    exact .refl _ _

theorem wordAt_of_readNumber (h : readNumber negative chars = .ok (n, last)) :
    WordAt chars last := by
  rw [readNumber.eq_def] at h
  split at h
  · exact nomatch h
  · next tail =>
    refine ⟨'0', tail, rfl, rfl, ?_⟩
    split at h
    · split at h
      · exact nomatch h
      · exact passes_readFraction h
    · exact passes_readFraction h
  · next c tail _ =>
    split at h
    · next hc =>
      have hpass := (passes_digits tail).trans (passes_readFraction h)
      exact ⟨c, tail, rfl, isPlain_of_isDigit hc, hpass⟩
    · exact nomatch h

end Numbers

theorem wordAt_or_string {v : Json} (h : v.ScalarAt chars rest) :
    WordAt chars rest ∨ ∃ s tail, chars = '"' :: tail ∧ readString tail = .ok (s, rest) := by
  cases h with
  | null => exact .inl ⟨'n', _, rfl, rfl, .cons rfl (.cons rfl (.cons rfl (.refl _ _)))⟩
  | true => exact .inl ⟨'t', _, rfl, rfl, .cons rfl (.cons rfl (.cons rfl (.refl _ _)))⟩
  | false =>
    exact .inl ⟨'f', _, rfl, rfl, .cons rfl (.cons rfl (.cons rfl (.cons rfl (.refl _ _))))⟩
  | negative hn => exact .inl ⟨'-', _, rfl, rfl, (wordAt_of_readNumber hn).passes⟩
  | number hd hn => exact .inl (wordAt_of_readNumber hn)
  | string hs => exact .inr ⟨_, _, rfl, hs⟩

end Json

end TemplateAudit
