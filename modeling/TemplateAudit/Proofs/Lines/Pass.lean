import TemplateAudit.Proofs.Lines.Tokens

/-! # The pass over a text

What the scanner does at the next character of a text, once the rounds it is given are known not
to matter. The line need not be carried along, since it is known from the characters that are left
of the text.
-/

namespace TemplateAudit.LineIndex

theorem length_scanLowSurrogate (high : Nat) (chars : List Char) :
    (scanLowSurrogate high chars).2.length ≤ chars.length := by
  rw [scanLowSurrogate.eq_def]
  split
  · split <;> simp only [List.length_cons, List.length_drop] <;> omega
  · simp only [List.length_cons, List.length_tail]
    omega
  · exact Nat.le_refl _

theorem length_scanUnicode (chars : List Char) :
    (scanUnicode chars).2.length ≤ chars.length := by
  have hdrop : (chars.drop 4).length ≤ chars.length := by
    rw [List.length_drop]
    omega
  rw [scanUnicode]
  split
  · split
    · exact (length_scanLowSurrogate _ _).trans hdrop
    · exact hdrop
  · exact hdrop

theorem length_scanEscape (c : Char) (rest : List Char) :
    (scanEscape c rest).2.length ≤ rest.length := by
  rw [scanEscape]
  split
  · exact length_scanUnicode rest
  · repeat' split
    all_goals exact Nat.le_refl _

theorem length_scanStringWithin (rounds : Nat) (chars : List Char) :
    (scanStringWithin rounds chars).2.length ≤ chars.length := by
  induction rounds generalizing chars with
  | zero => exact Nat.le_refl _
  | succ rounds ih =>
    rw [scanStringWithin.eq_def]
    cases chars with
    | nil => exact Nat.le_refl _
    | cons c rest =>
      dsimp only
      split
      · exact Nat.le_succ _
      · split
        · cases rest with
          | nil => exact Nat.zero_le _
          | cons d after =>
            have := ih (scanEscape d after).2
            have := length_scanEscape d after
            simp only [List.length_cons]
            omega
        · exact (ih rest).trans (Nat.le_succ _)

theorem length_scanString (chars : List Char) :
    (scanString chars).2.length ≤ chars.length := length_scanStringWithin _ _

def Delimited (rest : List Char) : Prop :=
  ∀ c tail, rest = c :: tail → Scanner.endsScalar c = true

namespace Scanner

variable {c : Char} {rest : List Char}

/-- More rounds than there are characters do not matter. -/
theorem scanWithin_congr {m n : Nat} (s : Scanner) (chars : List Char) (hm : chars.length ≤ m)
    (hn : chars.length ≤ n) : scanWithin m s chars = scanWithin n s chars := by
  induction m generalizing n s chars with
  | zero =>
    obtain rfl := List.eq_nil_of_length_eq_zero (Nat.le_zero.mp hm)
    cases n <;> rfl
  | succ m ih =>
    cases chars with
    | nil => cases n <;> rfl
    | cons c rest =>
      obtain ⟨n, rfl⟩ := Nat.exists_eq_succ_of_ne_zero (Nat.ne_zero_of_lt hn)
      rw [List.length_cons, Nat.succ_le_succ_iff] at hm hn
      have hnext : ∀ (s : Scanner) (after : List Char), after.length ≤ rest.length →
          scanWithin m s after = scanWithin n s after := fun s after ha =>
        ih s after (ha.trans hm) (ha.trans hn)
      have hstring := length_scanString rest
      have hword : (rest.dropWhile fun d => !endsScalar d).length ≤ rest.length :=
        (List.dropWhile_suffix _).length_le
      simp only [scanWithin, hnext _ _ (Nat.le_refl _), hnext _ _ hstring, hnext _ _ hword]

theorem scanWithin_eq_scan {n : Nat} (s : Scanner) {chars : List Char} (h : chars.length ≤ n) :
    scanWithin n s chars = s.scan chars := scanWithin_congr s chars h (Nat.le_refl _)

theorem scan_newline (s : Scanner) : s.scan ('\n' :: rest) = s.newline.scan rest := rfl

theorem scan_comma (s : Scanner) : s.scan (',' :: rest) = s.comma.scan rest := rfl

theorem scan_colon (s : Scanner) : s.scan (':' :: rest) = s.colon.scan rest := rfl

theorem scan_closeObject (s : Scanner) : s.scan ('\x7d' :: rest) = s.close.scan rest := rfl

theorem scan_closeArray (s : Scanner) : s.scan (']' :: rest) = s.close.scan rest := rfl

theorem scan_openObject (s : Scanner) : s.scan ('\x7b' :: rest) = s.openObject.scan rest := rfl

theorem scan_openArray (s : Scanner) : s.scan ('[' :: rest) = s.openArray.scan rest := rfl

theorem scan_string (s : Scanner) :
    s.scan ('"' :: rest) =
      (s.string (String.ofList (scanString rest).1)).scan (scanString rest).2 :=
  scanWithin_eq_scan _ (length_scanString rest)

theorem scan_space (s : Scanner) (hc : Json.isSpace c = true) (hline : c ≠ '\n') :
    s.scan (c :: rest) = s.scan rest := by
  simp only [Json.isSpace, Bool.or_eq_true, decide_eq_true_eq] at hc
  rcases hc with ((rfl | rfl) | rfl) | rfl
  · rfl
  · exact absurd rfl hline
  · rfl
  · rfl

theorem scan_plain (s : Scanner) (hc : isPlain c = true) :
    s.scan (c :: rest) = s.enterValue.2.scan (rest.dropWhile fun d => !endsScalar d) := by
  have hword := scanWithin_eq_scan s.enterValue.2
    (List.dropWhile_suffix fun d => !endsScalar d : _ <:+ rest).length_le
  have hline : c ≠ '\n' := by
    rintro rfl
    exact absurd hc (by decide)
  simp only [isPlain, endsScalar, Bool.and_eq_true, decide_eq_true_eq, Bool.not_eq_true',
    Bool.or_eq_false_iff, decide_eq_false_iff_not, ne_eq] at hc
  rw [scan, List.length_cons, scanWithin]
  simp only [hline, hc, hword, if_false, or_self, Bool.false_eq_true]

theorem scan_word (s : Scanner) {chars : List Char} (h : WordAt chars rest)
    (hd : Delimited rest) :
    s.scan chars = s.enterValue.2.scan rest := by
  obtain ⟨c, tail, rfl, hc, word, rfl, hword⟩ := h
  have hplain : ∀ d ∈ word, (!endsScalar d) = true := by
    intro d hd
    have hp := hword d hd
    rw [isPlain, Bool.and_eq_true] at hp
    exact hp.2
  have hrest : rest.dropWhile (fun d => !endsScalar d) = rest := by
    cases rest with
    | nil => rfl
    | cons d tail => rw [List.dropWhile_cons_of_neg (by simp [hd d tail rfl])]
  rw [scan_plain s hc, List.dropWhile_append_of_pos hplain, hrest]

end Scanner

end TemplateAudit.LineIndex
