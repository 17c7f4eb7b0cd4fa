import TemplateAudit.Text.Case

/-! # ASCII case and lower case

Two texts that agree up to ASCII case have the same lower case: an ASCII letter and its lower case
count the same in every word, so a capital sigma next to them has the same form. The converse holds
among texts of ASCII characters, whose lower case is taken letter by letter.
-/

namespace TemplateAudit

namespace Text

variable {a b : String} {c : Char} {chars : List Char}

def IsAscii (s : String) : Prop := ∀ c ∈ s.toList, c.toNat < 128

instance (s : String) : Decidable (IsAscii s) :=
  inferInstanceAs (Decidable (∀ c ∈ s.toList, _))

@[elab_as_elim]
theorem of_ascii {p : Char → Prop} (h : ∀ n < 128, p (Char.ofNat n)) (c : Char)
    (hc : c.toNat < 128) : p c := by
  have hn := h c.toNat hc
  rwa [Char.ofNat_toNat] at hn

theorem asciiLower_of_not_ascii (hc : ¬ c.toNat < 128) : asciiLower c = c := by
  unfold asciiLower Char.toLower
  apply dif_neg
  rintro ⟨-, hle⟩
  exact hc (Nat.lt_of_le_of_lt (UInt32.le_iff_toNat_le.mp hle) (by decide))

/-! ### Letters and their lower case -/

theorem asciiLower_asciiLower (c : Char) : asciiLower (asciiLower c) = asciiLower c := by
  by_cases hc : c.toNat < 128
  · exact of_ascii (by decide) c hc
  · rw [asciiLower_of_not_ascii hc, asciiLower_of_not_ascii hc]

theorem isCased_asciiLower (c : Char) : isCased (asciiLower c) = isCased c := by
  by_cases hc : c.toNat < 128
  · exact of_ascii (by decide +kernel) c hc
  · rw [asciiLower_of_not_ascii hc]

theorem isCaseIgnorable_asciiLower (c : Char) :
    isCaseIgnorable (asciiLower c) = isCaseIgnorable c := by
  by_cases hc : c.toNat < 128
  · exact of_ascii (by decide +kernel) c hc
  · rw [asciiLower_of_not_ascii hc]

theorem lowerChar_of_ascii (hc : c.toNat < 128) : lowerChar c = [asciiLower c] :=
  of_ascii (by decide +kernel) c hc

theorem lowerChar_asciiLower (c : Char) : lowerChar (asciiLower c) = lowerChar c := by
  by_cases hc : c.toNat < 128
  · have hlower : (asciiLower c).toNat < 128 := of_ascii (by decide) c hc
    rw [lowerChar_of_ascii hlower, lowerChar_of_ascii hc, asciiLower_asciiLower]
  · rw [asciiLower_of_not_ascii hc]

theorem asciiLower_eq_capitalSigma_iff : asciiLower c = capitalSigma ↔ c = capitalSigma := by
  by_cases hc : c.toNat < 128
  · exact of_ascii (by decide) c hc
  · rw [asciiLower_of_not_ascii hc]

theorem meetsCased_map_asciiLower (chars : List Char) :
    meetsCased (chars.map asciiLower) = meetsCased chars := by
  induction chars with
  | nil => rfl
  | cons c chars ih =>
    unfold meetsCased at ih ⊢
    simp only [List.map_cons, List.dropWhile_cons, isCaseIgnorable_asciiLower]
    by_cases hc : isCaseIgnorable c = true
    · simpa only [if_pos hc] using ih
    · simp only [if_neg hc, isCased_asciiLower]

theorem lowerAfter_map_asciiLower (before chars : List Char) :
    lowerAfter (before.map asciiLower) (chars.map asciiLower) = lowerAfter before chars := by
  induction chars generalizing before with
  | nil => rfl
  | cons c chars ih =>
    have hnext := ih (c :: before)
    rw [List.map_cons] at hnext
    simp only [List.map_cons, lowerAfter, asciiLower_eq_capitalSigma_iff, lowerChar_asciiLower,
      meetsCased_map_asciiLower, hnext]

theorem lowerChars_folded (s : String) : lowerChars (folded s) = lowerChars s.toList :=
  lowerAfter_map_asciiLower [] s.toList

/-- ASCII case is among the differences that lower case takes away. -/
theorem lowercase_eq_of_sameIgnoringCase (h : sameIgnoringCase a b = true) :
    lowercase a = lowercase b := by
  rw [lowercase, lowercase, ← lowerChars_folded a, ← lowerChars_folded b,
    sameIgnoringCase_iff.mp h]

/-! ### ASCII texts -/

theorem lowerAfter_of_ascii (h : ∀ c ∈ chars, c.toNat < 128) (before : List Char) :
    lowerAfter before chars = chars.map asciiLower := by
  induction chars generalizing before with
  | nil => rfl
  | cons c chars ih =>
    obtain ⟨hc, hchars⟩ := List.forall_mem_cons.mp h
    have hsigma : c ≠ capitalSigma := of_ascii (by decide) c hc
    rw [lowerAfter, if_neg hsigma, lowerChar_of_ascii hc, ih hchars, List.map_cons,
      List.singleton_append]

theorem sameIgnoringCase_of_lowercase_eq (ha : IsAscii a) (hb : IsAscii b)
    (h : lowercase a = lowercase b) : sameIgnoringCase a b = true := by
  have hchars := String.ofList_injective h
  rw [lowerChars, lowerChars, lowerAfter_of_ascii ha, lowerAfter_of_ascii hb] at hchars
  exact sameIgnoringCase_iff.mpr hchars

end Text

end TemplateAudit
