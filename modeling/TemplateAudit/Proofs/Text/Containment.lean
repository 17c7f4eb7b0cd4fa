import Mathlib.Data.List.Infix
import TemplateAudit.Operator

/-! # Containment in lower case

Containment puts the whole of both texts into lower case before it looks for one in the other. The
lower case of a capital sigma depends on the letters around it, and on nothing else does the lower
case of a character depend on its place. So a text contains each of its parts whose capital sigmas
have the same form there as in the part alone. This holds in every text exactly if no capital sigma
of the part is loose, that is, if what stands around the part cannot change its form.
-/

namespace TemplateAudit

namespace Text

variable {before after before' after' chars part x y : List Char} {c : Char}

/-! ### The lower case of a part -/

/-- Whether a capital sigma between two texts ends a word; what is before it is nearest first. -/
def endsWord (before after : List Char) : Bool := meetsCased before && !meetsCased after

def sigmaForm (before after : List Char) : Char :=
  if endsWord before after then finalSigma else smallSigma

theorem sigmaForm_inj :
    sigmaForm before after = sigmaForm before' after' ↔
      endsWord before after = endsWord before' after' := by
  have hne : finalSigma ≠ smallSigma := by decide
  unfold sigmaForm
  cases endsWord before after <;> cases endsWord before' after' <;> simp [hne, hne.symm]

def lowerBetween (before after : List Char) : List Char → List Char
  | [] => []
  | c :: rest =>
    if c = capitalSigma then
      sigmaForm before (rest ++ after) :: lowerBetween (c :: before) after rest
    else lowerChar c ++ lowerBetween (c :: before) after rest

theorem lowerAfter_append (before part rest : List Char) :
    lowerAfter before (part ++ rest) =
      lowerBetween before rest part ++ lowerAfter (part.reverse ++ before) rest := by
  induction part generalizing before with
  | nil => rfl
  | cons c part ih =>
    have hbefore : (c :: part).reverse ++ before = part.reverse ++ c :: before := by simp
    rw [List.cons_append, lowerAfter, lowerBetween, ih, hbefore]
    split
    · rfl
    · rw [List.append_assoc]

theorem lowerAfter_eq_lowerBetween (before chars : List Char) :
    lowerAfter before chars = lowerBetween before [] chars := by
  have happend := lowerAfter_append before chars []
  rwa [List.append_nil, lowerAfter, List.append_nil] at happend

theorem lowerBetween_append (before after part rest : List Char) :
    lowerBetween before after (part ++ rest) =
      lowerBetween before (rest ++ after) part ++
        lowerBetween (part.reverse ++ before) after rest := by
  induction part generalizing before with
  | nil => rfl
  | cons c part ih =>
    have hbefore : (c :: part).reverse ++ before = part.reverse ++ c :: before := by simp
    rw [List.cons_append, lowerBetween, lowerBetween, ih, hbefore, List.append_assoc]
    split
    · rfl
    · rw [List.append_assoc]

theorem lowerBetween_sigma (before after x y : List Char) :
    lowerBetween before after (x ++ capitalSigma :: y) =
      lowerBetween before (capitalSigma :: y ++ after) x ++
        sigmaForm (x.reverse ++ before) (y ++ after) ::
          lowerBetween (capitalSigma :: (x.reverse ++ before)) after y := by
  rw [lowerBetween_append, lowerBetween, if_pos rfl]

theorem length_lowerBetween (before after before' after' chars : List Char) :
    (lowerBetween before after chars).length = (lowerBetween before' after' chars).length := by
  induction chars generalizing before before' with
  | nil => rfl
  | cons c rest ih =>
    rw [lowerBetween, lowerBetween]
    split
    · rw [List.length_cons, List.length_cons, ih]
    · rw [List.length_append, List.length_append, ih]

/-- Every capital sigma of a part has the same form in both surroundings. -/
def SameForms (before after before' after' part : List Char) : Prop :=
  ∀ x y, part = x ++ capitalSigma :: y →
    endsWord (x.reverse ++ before) (y ++ after) = endsWord (x.reverse ++ before') (y ++ after')

theorem lowerBetween_eq_of_sameForms (h : SameForms before after before' after' part) :
    lowerBetween before after part = lowerBetween before' after' part := by
  induction part generalizing before before' with
  | nil => rfl
  | cons c part ih =>
    have hrest : SameForms (c :: before) after (c :: before') after' part := by
      rintro x y rfl
      simpa using h (c :: x) y rfl
    rw [lowerBetween, lowerBetween, ih hrest]
    split
    · next hc =>
      have hform : endsWord before (part ++ after) = endsWord before' (part ++ after') := by
        simpa using h [] part (by rw [hc, List.nil_append])
      rw [sigmaForm_inj.mpr hform]
    · rfl

theorem sameForms_of_lowerBetween_eq
    (h : lowerBetween before after part = lowerBetween before' after' part) :
    SameForms before after before' after' part := by
  rintro x y rfl
  rw [lowerBetween_sigma, lowerBetween_sigma] at h
  have hform := List.append_inj_right h (length_lowerBetween _ _ _ _ x)
  exact sigmaForm_inj.mp (List.cons.inj hform).1

theorem lowerChars_append (a n b : List Char) :
    lowerChars (a ++ n ++ b) = lowerBetween [] (n ++ b) a ++ lowerBetween a.reverse b n ++
      lowerAfter (n.reverse ++ a.reverse) b := by
  rw [lowerChars, List.append_assoc, lowerAfter_append, lowerAfter_append, List.append_nil,
    List.append_assoc]

/-- A part that has the same forms alone occurs in lower case. -/
theorem infix_lowerChars {a n b : List Char} (h : SameForms [] [] a.reverse b n) :
    lowerChars n <:+: lowerChars (a ++ n ++ b) := by
  rw [lowerChars_append, lowerChars, lowerAfter_eq_lowerBetween, lowerBetween_eq_of_sameForms h]
  exact List.infix_append _ _ _

/-! ### Loose sigmas -/

def IsBare (chars : List Char) : Prop := ∀ c ∈ chars, isCaseIgnorable c = true

/-- A capital sigma is loose if only characters that case ignores follow a word that it ends, or
if only such characters are before it and no letter with case comes next. -/
inductive IsLoose (before after : List Char) : Prop where
  | last : meetsCased before = true → IsBare after → IsLoose before after
  | first : IsBare before → meetsCased after = false → IsLoose before after

theorem meetsCased_append_of_bare (h : IsBare chars) (rest : List Char) :
    meetsCased (chars ++ rest) = meetsCased rest := by
  unfold meetsCased
  rw [List.dropWhile_append_of_pos h]

theorem meetsCased_of_bare (h : IsBare chars) : meetsCased chars = false := by
  have happend := meetsCased_append_of_bare h []
  rwa [List.append_nil] at happend

theorem meetsCased_append_of_not_bare (h : ¬ IsBare chars) (rest : List Char) :
    meetsCased (chars ++ rest) = meetsCased chars := by
  induction chars with
  | nil => exact absurd (List.forall_mem_nil _) h
  | cons c chars ih =>
    by_cases hc : isCaseIgnorable c = true
    · have hchars : ¬ IsBare chars := fun hbare => h (List.forall_mem_cons.mpr ⟨hc, hbare⟩)
      have hih := ih hchars
      unfold meetsCased at hih ⊢
      rwa [List.cons_append, List.dropWhile_cons_of_pos hc, List.dropWhile_cons_of_pos hc]
    · unfold meetsCased
      rw [List.cons_append, List.dropWhile_cons_of_neg hc, List.dropWhile_cons_of_neg hc]

theorem endsWord_append_of_not_loose (h : ¬ IsLoose x y) (before after : List Char) :
    endsWord x y = endsWord (x ++ before) (y ++ after) := by
  unfold endsWord
  by_cases hx : IsBare x
  · have hcased : meetsCased y = true := by
      by_contra hy
      exact h (.first hx (Bool.eq_false_iff.mpr hy))
    have hy : ¬ IsBare y := by
      intro hbare
      rw [meetsCased_of_bare hbare] at hcased
      exact Bool.false_ne_true hcased
    simp [meetsCased_append_of_not_bare hy, hcased]
  · rw [meetsCased_append_of_not_bare hx]
    by_cases hy : IsBare y
    · have hcased : meetsCased x = false := by
        by_contra hx
        exact h (.last (Bool.not_eq_false _ ▸ hx) hy)
      simp [hcased]
    · rw [meetsCased_append_of_not_bare hy]

/-- Where no capital sigma is loose, no surroundings change their forms. -/
theorem sameForms_of_not_loose {n : List Char}
    (h : ∀ x y, n = x ++ capitalSigma :: y → ¬ IsLoose x.reverse y) (before after : List Char) :
    SameForms [] [] before after n := by
  intro x y hn
  rw [List.append_nil, List.append_nil]
  exact endsWord_append_of_not_loose (h x y hn) before after

/-! ### What a loose sigma loses -/

theorem lower_eq_ninetySeven {n : Nat} (h : Unicode.lower n = 97) : n = 65 ∨ n = 97 := by
  have hshifts : ∀ s ∈ Unicode.lowerShifts, s.covers (97 - s.distance).toNat = true →
      (97 - s.distance).toNat = 65 := by decide +kernel
  unfold Unicode.lower Unicode.shift at h
  split at h
  · next s hs =>
    have hcovers := List.find?_some hs
    have hn : (97 - s.distance).toNat = n := by
      rw [Unicode.Shift.apply] at h
      omega
    exact .inl (hn ▸ hshifts s (List.mem_of_find?_eq_some hs) (hn.symm ▸ hcovers))
  · exact .inr h

theorem letter_not_mem_lowerChar (hc : isCaseIgnorable c = true) : 'a' ∉ lowerChar c := by
  intro hmem
  unfold lowerChar at hmem
  split at hmem
  · exact absurd hmem (by decide)
  · have hlower : Unicode.lower c.toNat = 97 := by
      have hvalue : 97 = (Char.ofNat (Unicode.lower c.toNat)).toNat :=
        congrArg Char.toNat (List.mem_singleton.mp hmem)
      by_cases hvalid : (Unicode.lower c.toNat).isValidChar
      · rw [Char.ofNat, dif_pos hvalid] at hvalue
        exact hvalue.symm
      · rw [Char.ofNat, dif_neg hvalid] at hvalue
        exact absurd hvalue (by decide)
    unfold isCaseIgnorable at hc
    rcases lower_eq_ninetySeven hlower with hn | hn
    · rw [hn] at hc
      exact absurd hc (by decide +kernel)
    · rw [hn] at hc
      exact absurd hc (by decide +kernel)

theorem letter_ne_sigmaForm (before after : List Char) : 'a' ≠ sigmaForm before after := by
  unfold sigmaForm
  split <;> decide

theorem letter_not_mem_lowerBetween (h : IsBare part) (before after : List Char) :
    'a' ∉ lowerBetween before after part := by
  induction part generalizing before with
  | nil => exact List.not_mem_nil
  | cons c rest ih =>
    obtain ⟨hc, hrest⟩ := List.forall_mem_cons.mp h
    rw [lowerBetween]
    split
    · exact List.not_mem_cons_of_ne_of_not_mem (letter_ne_sigmaForm _ _) (ih hrest _)
    · intro hmem
      rcases List.mem_append.mp hmem with hmem | hmem
      · exact letter_not_mem_lowerChar hc hmem
      · exact ih hrest _ hmem

theorem lowerChar_letter : lowerChar 'A' = ['a'] := by decide +kernel

theorem meetsCased_letter : meetsCased ['A'] = true := by decide +kernel

/-- A letter right behind a part with a loose last sigma changes its form. -/
theorem not_infix_of_last (hx : meetsCased x.reverse = true) (hy : IsBare y) :
    ¬ lowerChars (x ++ capitalSigma :: y) <:+: lowerChars (x ++ capitalSigma :: y ++ ['A']) := by
  have htext : lowerChars (x ++ capitalSigma :: y ++ ['A']) =
      lowerBetween [] ['A'] (x ++ capitalSigma :: y) ++ ['a'] := by
    rw [lowerChars, lowerAfter_append, lowerAfter, if_neg (by decide), lowerChar_letter, lowerAfter,
      List.append_nil]
  rw [htext, lowerChars, lowerAfter_eq_lowerBetween, List.infix_concat_iff]
  rintro (hsuffix | hinfix)
  · -- The text would end with the sigma and what follows it, but it ends with the letter.
    rw [lowerBetween_sigma] at hsuffix
    have hend := (List.suffix_append _ _).trans hsuffix
    rcases List.suffix_concat_iff.mp hend with hnil | ⟨t, heq, -⟩
    · exact nomatch hnil
    · have hmem : 'a' ∈ t ++ ['a'] := List.mem_concat_self
      rw [← heq] at hmem
      rcases List.mem_cons.mp hmem with hform | hmem
      · exact letter_ne_sigmaForm _ _ hform
      · exact letter_not_mem_lowerBetween hy _ _ hmem
  · have heq := hinfix.eq_of_length (length_lowerBetween _ _ _ _ _)
    have hform := sameForms_of_lowerBetween_eq heq x y rfl
    simp [endsWord, hx, meetsCased_of_bare hy, meetsCased_append_of_bare hy, meetsCased_letter]
      at hform

theorem not_infix_of_first (hx : IsBare x) (hy : meetsCased y = false) :
    ¬ lowerChars (x ++ capitalSigma :: y) <:+: lowerChars ('A' :: (x ++ capitalSigma :: y)) := by
  have hreverse : IsBare x.reverse := fun c hc => hx c (List.mem_reverse.mp hc)
  have htext : lowerChars ('A' :: (x ++ capitalSigma :: y)) =
      'a' :: lowerBetween ['A'] [] (x ++ capitalSigma :: y) := by
    rw [lowerChars, lowerAfter, if_neg (by decide), lowerChar_letter, lowerAfter_eq_lowerBetween,
      List.singleton_append]
  rw [htext, lowerChars, lowerAfter_eq_lowerBetween, List.infix_cons_iff]
  rintro (hlead | hinfix)
  · -- The text would begin with what precedes the sigma and the sigma, but it begins with the
    -- letter.
    rw [lowerBetween_sigma, List.append_cons] at hlead
    have hbegin := (List.prefix_append _ _).trans hlead
    rcases List.prefix_cons_iff.mp hbegin with hnil | ⟨t, heq, -⟩
    · exact absurd hnil (by simp)
    · have hmem : 'a' ∈ 'a' :: t := List.mem_cons_self
      rw [← heq] at hmem
      rcases List.mem_append.mp hmem with hmem | hform
      · exact letter_not_mem_lowerBetween hx _ _ hmem
      · exact letter_ne_sigmaForm _ _ (List.mem_singleton.mp hform)
  · have heq := hinfix.eq_of_length (length_lowerBetween _ _ _ _ _)
    have hform := sameForms_of_lowerBetween_eq heq x y rfl
    simp [endsWord, hy, meetsCased_of_bare hreverse, meetsCased_append_of_bare hreverse,
      meetsCased_letter] at hform

end Text

namespace Operator

open Text (IsLoose SameForms capitalSigma lowerChars)

theorem holds_contains_string_iff (part text : String) :
    (contains (.string part)).holds (some (.string text)) = true ↔
      lowerChars part.toList <:+: lowerChars text.toList := by
  rw [holds, Option.any_some, Json.contains, Text.occursIn_iff, Text.lowercase, Text.lowercase,
    String.toList_ofList, String.toList_ofList]

/-- A text contains a part of it if all capital sigmas of the part have the same form there as in
the part alone. It contains the part whatever stands around it exactly if no capital sigma of the
part is loose. -/
theorem contains_between (part : String) :
    (∀ before after : String,
      SameForms [] [] before.toList.reverse after.toList part.toList →
        (contains (.string part)).holds (some (.string (before ++ part ++ after))) = true) ∧
    ((∀ before after : String,
      (contains (.string part)).holds (some (.string (before ++ part ++ after))) = true) ↔
        ∀ x y, part.toList = x ++ capitalSigma :: y → ¬ IsLoose x.reverse y) := by
  simp only [holds_contains_string_iff, String.toList_append]
  refine ⟨fun before after h => Text.infix_lowerChars h, ?_, ?_⟩
  · intro h x y hpart hloose
    cases hloose with
    | last hx hy =>
      have hinfix := h "" "A"
      rw [hpart] at hinfix
      exact Text.not_infix_of_last hx hy hinfix
    | first hx hy =>
      have hinfix := h "A" ""
      rw [hpart] at hinfix
      have hbare : Text.IsBare x := fun c hc => hx c (List.mem_reverse.mpr hc)
      exact Text.not_infix_of_first hbare hy (by simpa using hinfix)
  · intro h before after
    exact Text.infix_lowerChars (Text.sameForms_of_not_loose h _ _)

/-- The last sigma of the word has its final form with and without a letter behind the blank. -/
theorem contains_between_word :
    SameForms [] [] "ὁ ".toList.reverse "ἥ".toList "ΟΔΟΣ ".toList ∧
      (contains (.string "ΟΔΟΣ ")).holds (some (.string ("ὁ " ++ "ΟΔΟΣ " ++ "ἥ"))) = true := by
  have hforms : SameForms [] [] "ὁ ".toList.reverse "ἥ".toList "ΟΔΟΣ ".toList :=
    Text.sameForms_of_lowerBetween_eq (by decide +kernel)
  exact ⟨hforms, (contains_between "ΟΔΟΣ ").1 "ὁ " "ἥ" hforms⟩

/-- A text need not contain each of its parts: the sigma that ends the part is followed by a letter
in the text. -/
theorem not_contains_between : ¬ ∀ before part after : String,
    (contains (.string part)).holds (some (.string (before ++ part ++ after))) = true := by
  intro h
  exact absurd (h "" "ΑΣ" "Α") (by decide +kernel)

end Operator

end TemplateAudit
