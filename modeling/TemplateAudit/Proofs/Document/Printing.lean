import TemplateAudit.Json.Printer
import TemplateAudit.Proofs.Document.Sorted
import TemplateAudit.Proofs.Document.Spelling

/-! # Printed documents

A plain document that is printed in its indented form is read as the same document in order. An
array or an object is read back if what it holds is, for what stands behind a value never continues
it: a comma or a line break.
-/

namespace TemplateAudit

namespace Json

variable {levels depth n : Nat} {chars rest : List Char} {j : Json}

/-! ### Scalars -/

def EndsValue (rest : List Char) : Prop := ∀ c ∈ rest.head?, c = ',' ∨ c = '\n'

theorem spells_escapeChar (c : Char) : Spells (escapeChar c) c := by
  have hcontrol : ∀ n < 32, ['0', '0', hexDigit (n / 16), hexDigit (n % 16)].map Text.asciiLower =
      hexDigits n := by decide
  unfold escapeChar
  by_cases hquote : c = '"'
  · rw [if_pos hquote, hquote]
    exact .simple (by decide)
  rw [if_neg hquote]
  by_cases hback : c = '\\'
  · rw [if_pos hback, hback]
    exact .simple (by decide)
  rw [if_neg hback]
  repeat' split
  · next h => exact h ▸ .simple (by decide)
  · next h => exact h ▸ .simple (by decide)
  · next h => exact h ▸ .simple (by decide)
  · next h =>
    have hc : c = Char.ofNat 8 := by rw [← h, Char.ofNat_toNat]
    exact hc ▸ .simple (by decide)
  · next h =>
    have hc : c = Char.ofNat 12 := by rw [← h, Char.ofNat_toNat]
    exact hc ▸ .simple (by decide)
  · next h => exact .unit (by omega) (hcontrol _ h)
  · next h => exact .plain hquote hback (Nat.not_lt.mp h)

theorem toList_printString (s : String) :
    (printString s).toList = '"' :: (s.toList.flatMap escapeChar ++ ['"']) := by
  rw [printString, String.toList_ofList, List.cons_append]

theorem readString_printed (s : List Char) (rest : List Char) :
    readString (s.flatMap escapeChar ++ '"' :: rest) = .ok (s, rest) := by
  rw [readString_eq_ok_iff]
  refine ⟨s.map escapeChar, ?_, by rw [List.flatMap_def]⟩
  rw [List.forall₂_map_left_iff, List.forall₂_same]
  exact fun c _ => spells_escapeChar c

theorem le_ofDigitChars (digits : List Char) (n : Nat) : n ≤ Nat.ofDigitChars 10 digits n := by
  induction digits generalizing n with
  | nil => rw [Nat.ofDigitChars_nil]
  | cons d digits ih =>
    rw [Nat.ofDigitChars_cons]
    exact le_trans (by omega) (ih _)

theorem absorb_eq {digits : List Char}
    (h : Nat.ofDigitChars 10 digits n < 18446744073709551616) :
    absorb n digits = (Nat.ofDigitChars 10 digits n, []) := by
  induction digits generalizing n with
  | nil => rw [absorb, Nat.ofDigitChars_nil]
  | cons d digits ih =>
    rw [Nat.ofDigitChars_cons] at h ⊢
    have hnext : 10 * n + digitValue d < 18446744073709551616 :=
      lt_of_le_of_lt (le_ofDigitChars _ _) h
    rw [absorb, if_pos hnext]
    exact ih h

theorem toDigits_of_zero_head {digits : List Char} (h : Nat.toDigits 10 n = '0' :: digits) :
    n = 0 := by
  induction n using Nat.strongRecOn generalizing digits with
  | ind n ih =>
    by_cases hn : n < 10
    · rw [Nat.toDigits_of_lt_base hn] at h
      have hdigit : ∀ n < 10, Nat.digitChar n = '0' → n = 0 := by decide
      exact hdigit n hn (List.cons.inj h).1
    · rw [Nat.toDigits_of_base_le (by omega) (by omega)] at h
      cases hfront : Nat.toDigits 10 (n / 10) with
      | nil => exact absurd hfront Nat.toDigits_ne_nil
      | cons d front =>
        rw [hfront, List.cons_append] at h
        obtain ⟨rfl, -⟩ := List.cons.inj h
        have hzero := ih (n / 10) (by omega) hfront
        omega

theorem EndsValue.takeWhile_digits {digits : List Char} (hrest : EndsValue rest)
    (hdigits : ∀ d ∈ digits, d.isDigit = true) :
    (digits ++ rest).takeWhile Char.isDigit = digits ∧
      (digits ++ rest).dropWhile Char.isDigit = rest := by
  rw [List.takeWhile_append_of_pos hdigits, List.dropWhile_append_of_pos hdigits]
  cases rest with
  | nil => exact ⟨List.append_nil _, rfl⟩
  | cons c rest =>
    have hc : ¬ c.isDigit = true := by
      rcases hrest c rfl with rfl | rfl <;> decide
    rw [List.takeWhile_cons_of_neg hc, List.dropWhile_cons_of_neg hc]
    exact ⟨List.append_nil _, rfl⟩

theorem readFraction_of_endsValue (hrest : EndsValue rest) (negative : Bool) (whole : List Char) :
    readFraction negative whole rest = wholeValue negative whole rest := by
  cases rest with
  | nil => rfl
  | cons c rest => rcases hrest c rfl with rfl | rfl <;> rfl

theorem readNumber_printed {negative : Bool} {m : Number} (hn : n < 18446744073709551616)
    (hsign : ¬(negative = true ∧ n = 0))
    (hm : Number.ofInt? (if negative then -(n : Int) else n) = some m) (hrest : EndsValue rest) :
    readNumber negative (Nat.toDigits 10 n ++ rest) = .ok (m, rest) := by
  have hdigits : ∀ d ∈ Nat.toDigits 10 n, d.isDigit = true := fun d hd =>
    Nat.isDigit_of_mem_toDigits (by decide) (by decide) hd
  have hread : wholeValue negative (Nat.toDigits 10 n) rest = .ok (m, rest) := by
    have habsorb : absorb 0 (Nat.toDigits 10 n) = (n, []) := by
      have hvalue := Nat.ofDigitChars_ten_toDigits (n := n)
      rw [absorb_eq (by omega), hvalue]
    rw [wholeValue, habsorb, if_pos ⟨rfl, by simpa using hsign⟩]
    simp only [hm]
  cases hchars : Nat.toDigits 10 n with
  | nil => exact absurd hchars Nat.toDigits_ne_nil
  | cons d ds =>
    rw [hchars] at hdigits hread
    by_cases hzero : d = '0'
    · subst hzero
      obtain rfl := toDigits_of_zero_head hchars
      obtain rfl : ds = [] := (List.cons.inj (hchars.symm.trans rfl)).2
      rw [List.singleton_append, ← hread, ← readFraction_of_endsValue hrest]
      cases rest with
      | nil => rfl
      | cons c rest => rcases hrest c rfl with rfl | rfl <;> rfl
    · obtain ⟨htake, hdrop⟩ :=
        hrest.takeWhile_digits fun x hx => hdigits x (List.mem_cons_of_mem _ hx)
      rw [List.cons_append, readNumber, if_pos (hdigits d List.mem_cons_self), htake, hdrop,
        readFraction_of_endsValue hrest, hread]
      simpa using hzero

theorem skipSpace_cons {c : Char} (hc : isSpace c = false) :
    skipSpace (c :: chars) = c :: chars := by
  rw [skipSpace, List.dropWhile_cons_of_neg (by simp [hc])]

variable {onArray onObject : List Char → Reading Json}

theorem ne_of_isDigit {c d : Char} (hc : c.isDigit = true) (hd : d.isDigit = false) : c ≠ d := by
  rintro rfl
  exact Bool.false_ne_true (hd.symm.trans hc)

theorem not_isSpace_of_isDigit {c : Char} (hc : c.isDigit = true) : isSpace c = false := by
  simp [isSpace, ne_of_isDigit hc]

theorem readValueWith_digit {c : Char} (hc : c.isDigit = true) :
    readValueWith onArray onObject (c :: chars) =
      (readNumber false (c :: chars)).mapValue .number := by
  rw [readValueWith, skipSpace_cons (not_isSpace_of_isDigit hc)]
  simp [ne_of_isDigit hc, hc]

theorem exists_digit (n : Nat) : ∃ d ds, Nat.toDigits 10 n = d :: ds ∧ d.isDigit = true := by
  cases hchars : Nat.toDigits 10 n with
  | nil => exact absurd hchars Nat.toDigits_ne_nil
  | cons d ds =>
    exact ⟨d, ds, rfl, Nat.isDigit_of_mem_toDigits (by decide) (by decide)
      (hchars ▸ List.mem_cons_self)⟩

theorem toList_ofNat (n : Nat) : (toString (Int.ofNat n)).toList = Nat.toDigits 10 n := by
  rw [← String.toList_ofList (l := Nat.toDigits 10 n), ← Nat.toString_eq_ofList_toDigits]
  rfl

theorem toList_negSucc (n : Nat) :
    (toString (Int.negSucc n)).toList = '-' :: Nat.toDigits 10 (n + 1) := by
  rw [← toList_ofNat]
  exact String.toList_append

theorem readValueWith_integer {value : Int}
    (inRange : -9223372036854775808 ≤ value ∧ value < 18446744073709551616)
    (hrest : EndsValue rest) :
    readValueWith onArray onObject ((toString value).toList ++ rest) =
      .ok (.number (.integer value inRange), rest) := by
  have hvalue : Number.ofInt? value = some (.integer value inRange) := dif_pos inRange
  cases value with
  | ofNat n =>
    have hread : readNumber false (Nat.toDigits 10 n ++ rest) =
        .ok (.integer (.ofNat n) inRange, rest) :=
      readNumber_printed (Int.ofNat_lt.mp inRange.2) (by simp) hvalue hrest
    obtain ⟨d, ds, hchars, hd⟩ := exists_digit n
    rw [hchars, List.cons_append] at hread
    rw [toList_ofNat, hchars, List.cons_append, readValueWith_digit hd, hread]
    rfl
  | negSucc n =>
    have hread : readNumber true (Nat.toDigits 10 (n + 1) ++ rest) =
        .ok (.integer (.negSucc n) inRange, rest) := by
      refine readNumber_printed (by omega) (by simp) ?_ hrest
      rw [if_pos rfl]
      exact hvalue
    rw [toList_negSucc, List.cons_append, readValueWith, skipSpace_cons (by decide)]
    simp only [hread]
    rfl

/-! ### Arrays and objects -/

theorem skipSpace_indentation (depth : Nat) (chars : List Char) :
    skipSpace ((indentation depth).toList ++ chars) = skipSpace chars := by
  rw [indentation, String.toList_ofList, skipSpace, List.dropWhile_append_of_pos]
  · rfl
  · intro c hc
    rcases List.mem_cons.mp hc with rfl | hc
    · rfl
    · rw [List.eq_of_mem_replicate hc]
      rfl

theorem readValue_space (levels : Nat) (chars : List Char) :
    readValue levels (' ' :: chars) = readValue levels chars := by
  cases levels <;> rfl

theorem nextItem_first {c : Char} {tail : List Char} (h : skipSpace chars = c :: tail)
    (hc : c ≠ ']') : nextItem true chars = .ok (true, c :: tail) := by
  rw [nextItem, h]
  exact if_neg hc

theorem nextItem_comma {c : Char} {tail : List Char} (h : skipSpace chars = c :: tail)
    (hc : c ≠ ']') : nextItem false (',' :: chars) = .ok (true, c :: tail) := by
  rw [nextItem, skipSpace_cons (by decide)]
  simp [h, hc]

theorem nextItem_close (first : Bool) (depth : Nat) (rest : List Char) :
    nextItem first ((indentation depth).toList ++ ']' :: rest) = .ok (false, rest) := by
  rw [nextItem, skipSpace_indentation, skipSpace_cons (by decide)]
  rfl

theorem nextMember_first (h : skipSpace chars = '"' :: rest) :
    nextMember true chars = .ok (true, rest) := by
  rw [nextMember, h]
  rfl

theorem nextMember_comma (h : skipSpace chars = '"' :: rest) :
    nextMember false (',' :: chars) = .ok (true, rest) := by
  rw [nextMember, skipSpace_cons (by decide)]
  simp [h]

theorem nextMember_close (first : Bool) (depth : Nat) (rest : List Char) :
    nextMember first ((indentation depth).toList ++ '\x7d' :: rest) = .ok (false, rest) := by
  rw [nextMember, skipSpace_indentation, skipSpace_cons (by decide)]
  rfl

/-- At a depth a value is printed so that it is read back from its first character on. -/
structure IsReadBack (levels depth : Nat) (j : Json) : Prop where
  first : ∃ c tail, (j.printIndented depth).toList = c :: tail ∧ isSpace c = false ∧ c ≠ ']'
  read (rest : List Char) : EndsValue rest →
    readValue levels ((j.printIndented depth).toList ++ rest) = .ok (j.sorted, rest)

theorem IsReadBack.skipSpace (h : IsReadBack levels depth j) (d : Nat) (rest : List Char) :
    ∃ c tail, skipSpace ((indentation d).toList ++ ((j.printIndented depth).toList ++ rest)) =
      c :: tail ∧ c ≠ ']' ∧ c :: tail = (j.printIndented depth).toList ++ rest := by
  obtain ⟨c, tail, htext, hspace, hclose⟩ := h.first
  refine ⟨c, tail ++ rest, ?_, hclose, by rw [htext, List.cons_append]⟩
  rw [skipSpace_indentation, htext, List.cons_append, skipSpace_cons hspace]

theorem endsValue_indentation (depth : Nat) (chars : List Char) :
    EndsValue ((indentation depth).toList ++ chars) := by
  rw [indentation, String.toList_ofList]
  rintro c ⟨⟩
  exact .inr rfl

theorem endsValue_items (depth n : Nat) (items : List Json) (chars : List Char) :
    EndsValue ((printIndentedItems depth items).toList ++ ((indentation n).toList ++ chars)) := by
  cases items with
  | nil => exact endsValue_indentation n chars
  | cons item items =>
    rw [printIndentedItems]
    simp only [String.toList_append, List.append_assoc]
    rintro c ⟨⟩
    exact .inl rfl

theorem endsValue_members (depth n : Nat) (members : List (String × Json)) (chars : List Char) :
    EndsValue ((printIndentedMembers depth members).toList ++
      ((indentation n).toList ++ chars)) := by
  cases members with
  | nil => exact endsValue_indentation n chars
  | cons m members =>
    rw [printIndentedMembers]
    simp only [String.toList_append, List.append_assoc]
    rintro c ⟨⟩
    exact .inl rfl

theorem readItems_step {rounds : Nat} {first : Bool} {start after : List Char} {v : Json}
    {vs : List Json} (hnext : nextItem first chars = .ok (true, start))
    (hvalue : readValue levels start = .ok (v, after))
    (hrest : readItems (readValue levels) rounds false after = .ok (vs, rest)) :
    readItems (readValue levels) (rounds + 1) first chars = .ok (v :: vs, rest) := by
  rw [readItems, hnext, Reading.andThen_ok, if_pos rfl, hvalue, Reading.andThen_ok, hrest,
    Reading.mapValue_ok]

theorem readItems_printed {items : List Json}
    (hitems : ∀ item ∈ items, IsReadBack levels depth item) {rounds : Nat}
    (hrounds : items.length < rounds) :
    readItems (readValue levels) rounds false ((printIndentedItems depth items).toList ++
      ((indentation n).toList ++ ']' :: rest)) = .ok (items.map sorted, rest) := by
  induction items generalizing rounds with
  | nil =>
    obtain ⟨rounds, rfl⟩ := Nat.exists_eq_succ_of_ne_zero (Nat.ne_zero_of_lt hrounds)
    rw [printIndentedItems, readItems, String.toList_empty, List.nil_append, nextItem_close]
    rfl
  | cons item items ih =>
    obtain ⟨rounds, rfl⟩ := Nat.exists_eq_succ_of_ne_zero (Nat.ne_zero_of_lt hrounds)
    obtain ⟨hitem, hitems⟩ := List.forall_mem_cons.mp hitems
    have hvalue := hitem.read _
      (endsValue_items depth n items (']' :: rest))
    obtain ⟨c, tail, hskip, hclose, hstart⟩ := hitem.skipSpace depth _
    rw [← hstart] at hvalue
    rw [printIndentedItems]
    simp only [String.toList_append, List.append_assoc]
    exact readItems_step (nextItem_comma hskip hclose) hvalue
      (ih hitems (Nat.lt_of_succ_lt_succ hrounds))

theorem readValue_array (h : readArray (readValue levels) chars = .ok (j, rest)) :
    readValue (levels + 1) ('[' :: chars) = .ok (j, rest) := by
  rw [readValue, readValueWith, skipSpace_cons (by decide)]
  exact h

theorem readValue_object (h : readObject (readValue levels) chars = .ok (j, rest)) :
    readValue (levels + 1) ('\x7b' :: chars) = .ok (j, rest) := by
  rw [readValue, readValueWith, skipSpace_cons (by decide)]
  exact h

theorem toList_array (depth : Nat) (item : Json) (items : List Json) (rest : List Char) :
    ((array (item :: items)).printIndented depth).toList ++ rest =
      '[' :: ((indentation (depth + 1)).toList ++ ((item.printIndented (depth + 1)).toList ++
        ((printIndentedItems (depth + 1) items).toList ++
          ((indentation depth).toList ++ ']' :: rest)))) := by
  rw [printIndented]
  simp only [String.toList_append, List.append_assoc]
  rfl

theorem length_le_items (depth : Nat) (items : List Json) :
    items.length ≤ (printIndentedItems depth items).toList.length := by
  induction items with
  | nil => exact Nat.zero_le _
  | cons item items ih =>
    have hcomma : ",".toList.length = 1 := rfl
    rw [printIndentedItems]
    simp only [String.toList_append, List.length_append, List.length_cons]
    omega

theorem readArray_printed {items : List Json}
    (hitems : ∀ item ∈ items, IsReadBack levels (depth + 1) item) (rest : List Char) :
    readValue (levels + 1) (((array items).printIndented depth).toList ++ rest) =
      .ok ((array items).sorted, rest) := by
  rw [sorted, sortedItems_eq_map]
  cases items with
  | nil =>
    rw [printIndented]
    change readValue (levels + 1) ('[' :: ']' :: rest) = _
    refine readValue_array ?_
    rw [readArray, readItems, nextItem, skipSpace_cons (by decide)]
    rfl
  | cons item items =>
    obtain ⟨hitem, hmore⟩ := List.forall_mem_cons.mp hitems
    have hvalue := hitem.read _
      (endsValue_items (depth + 1) depth items (']' :: rest))
    obtain ⟨c, tail, hskip, hclose, hstart⟩ := hitem.skipSpace (depth + 1) _
    rw [← hstart] at hvalue
    rw [toList_array]
    refine readValue_array ?_
    rw [readArray, readItems_step (nextItem_first hskip hclose) hvalue
      (readItems_printed hmore ?_)]
    · rfl
    · -- There is a round for every character, and an item is printed with one at least.
      have hlength := length_le_items (depth + 1) items
      simp only [List.length_append, List.length_cons]
      omega

theorem readColon_cons (chars : List Char) : readColon (':' :: chars) = .ok ((), chars) := rfl

theorem readMembers_step {rounds : Nat} {first : Bool} {name : String} {start after : List Char}
    {v : Json} {written : List (String × Json)}
    (hnext : nextMember first chars =
      .ok (true, name.toList.flatMap escapeChar ++ '"' :: ':' :: ' ' :: start))
    (hvalue : readValue levels start = .ok (v, after))
    (hrest : readMembers (readValue levels) rounds false after = .ok (written, rest)) :
    readMembers (readValue levels) (rounds + 1) first chars = .ok ((name, v) :: written, rest) := by
  rw [readMembers, hnext, Reading.andThen_ok, if_pos rfl, readString_printed, Reading.andThen_ok,
    readColon_cons, Reading.andThen_ok, readValue_space, hvalue, Reading.andThen_ok, hrest,
    Reading.mapValue_ok, String.ofList_toList]

theorem toList_members (name : String) (value : Json) (members : List (String × Json)) :
    (printIndentedMembers depth ((name, value) :: members)).toList ++ rest =
      ',' :: ((indentation depth).toList ++ '"' :: (name.toList.flatMap escapeChar ++
        '"' :: ':' :: ' ' :: ((value.printIndented depth).toList ++
          ((printIndentedMembers depth members).toList ++ rest)))) := by
  rw [printIndentedMembers]
  simp only [String.toList_append, toList_printString, List.append_assoc, List.cons_append]
  rfl

theorem skipSpace_quote (depth : Nat) (chars : List Char) :
    skipSpace ((indentation depth).toList ++ '"' :: chars) = '"' :: chars := by
  rw [skipSpace_indentation, skipSpace_cons (by decide)]

theorem readMembers_printed {members : List (String × Json)}
    (hmembers : ∀ m ∈ members, IsReadBack levels depth m.2) {rounds : Nat}
    (hrounds : members.length < rounds) :
    readMembers (readValue levels) rounds false ((printIndentedMembers depth members).toList ++
      ((indentation n).toList ++ '\x7d' :: rest)) =
        .ok (members.map fun m => (m.1, m.2.sorted), rest) := by
  induction members generalizing rounds with
  | nil =>
    obtain ⟨rounds, rfl⟩ := Nat.exists_eq_succ_of_ne_zero (Nat.ne_zero_of_lt hrounds)
    rw [printIndentedMembers, readMembers, String.toList_empty, List.nil_append, nextMember_close]
    rfl
  | cons m members ih =>
    obtain ⟨name, value⟩ := m
    obtain ⟨rounds, rfl⟩ := Nat.exists_eq_succ_of_ne_zero (Nat.ne_zero_of_lt hrounds)
    obtain ⟨hvalue, hmembers⟩ := List.forall_mem_cons.mp hmembers
    rw [toList_members]
    exact readMembers_step (nextMember_comma (skipSpace_quote depth _))
      (hvalue.read _ (endsValue_members _ _ members _))
      (ih hmembers (Nat.lt_of_succ_lt_succ hrounds))

theorem toList_object (depth : Nat) (name : String) (value : Json) (members : List (String × Json))
    (rest : List Char) : ((object ((name, value) :: members)).printIndented depth).toList ++ rest =
      '\x7b' :: ((indentation (depth + 1)).toList ++ '"' :: (name.toList.flatMap escapeChar ++
        '"' :: ':' :: ' ' :: ((value.printIndented (depth + 1)).toList ++
          ((printIndentedMembers (depth + 1) members).toList ++
            ((indentation depth).toList ++ '\x7d' :: rest))))) := by
  rw [printIndented]
  simp only [String.toList_append, toList_printString, List.append_assoc, List.cons_append]
  rfl

theorem length_le_members (depth : Nat) (members : List (String × Json)) :
    members.length ≤ (printIndentedMembers depth members).toList.length := by
  induction members with
  | nil => exact Nat.zero_le _
  | cons m members ih =>
    have hcomma : ",".toList.length = 1 := rfl
    rw [printIndentedMembers]
    simp only [String.toList_append, List.length_append, List.length_cons]
    omega

theorem readObject_printed {members : List (String × Json)}
    (hmembers : ∀ m ∈ members, IsReadBack levels (depth + 1) m.2) (rest : List Char) :
    readValue (levels + 1) (((object members).printIndented depth).toList ++ rest) =
      .ok ((object members).sorted, rest) := by
  rw [sorted, sortedMembers_eq_map]
  cases members with
  | nil =>
    rw [printIndented]
    change readValue (levels + 1) ('\x7b' :: '\x7d' :: rest) = _
    refine readValue_object ?_
    rw [readObject, readMembers, nextMember, skipSpace_cons (by decide)]
    rfl
  | cons m members =>
    obtain ⟨name, value⟩ := m
    obtain ⟨hvalue, hmore⟩ := List.forall_mem_cons.mp hmembers
    rw [toList_object]
    refine readValue_object ?_
    rw [readObject, readMembers_step (nextMember_first (skipSpace_quote (depth + 1) _))
      (hvalue.read _ (endsValue_members _ _ members _)) (readMembers_printed hmore ?_)]
    · rfl
    · have hlength := length_le_members (depth + 1) members
      simp only [List.length_append, List.length_cons]
      omega

theorem isReadBack_scalar (text : String) (hprint : j.printIndented depth = text)
    (hsorted : j.sorted = j)
    (first : ∃ c tail, text.toList = c :: tail ∧ isSpace c = false ∧ c ≠ ']')
    (read : ∀ onArray onObject rest, EndsValue rest →
      readValueWith onArray onObject (text.toList ++ rest) = .ok (j, rest)) :
    IsReadBack levels depth j := by
  refine ⟨by rwa [hprint], fun rest hrest => ?_⟩
  rw [hprint, hsorted]
  cases levels with
  | zero => exact read _ _ rest hrest
  | succ levels => exact read _ _ rest hrest

theorem readValueWith_string (value : String) (rest : List Char) :
    readValueWith onArray onObject ((printString value).toList ++ rest) =
      .ok (.string value, rest) := by
  rw [toList_printString, List.cons_append, List.append_assoc, List.singleton_append,
    readValueWith, skipSpace_cons (by decide)]
  simp only [readString_printed]
  simp

theorem exists_first_array (items : List Json) (depth : Nat) :
    ∃ c tail, ((array items).printIndented depth).toList = c :: tail ∧ isSpace c = false ∧
      c ≠ ']' := by
  cases items with
  | nil => exact ⟨'[', [']'], by rw [printIndented]; rfl, rfl, by decide⟩
  | cons item items =>
    have htext := toList_array depth item items []
    rw [List.append_nil] at htext
    exact ⟨'[', _, htext, rfl, by decide⟩

theorem exists_first_object (members : List (String × Json)) (depth : Nat) :
    ∃ c tail, ((object members).printIndented depth).toList = c :: tail ∧ isSpace c = false ∧
      c ≠ ']' := by
  cases members with
  | nil => exact ⟨'\x7b', ['\x7d'], by rw [printIndented]; rfl, rfl, by decide⟩
  | cons m members =>
    obtain ⟨name, value⟩ := m
    have htext := toList_object depth name value members []
    rw [List.append_nil] at htext
    exact ⟨'\x7b', _, htext, rfl, by decide⟩

theorem exists_first_integer (value : Int) :
    ∃ c tail, (toString value).toList = c :: tail ∧ isSpace c = false ∧ c ≠ ']' := by
  cases value with
  | ofNat n =>
    obtain ⟨d, ds, hchars, hd⟩ := exists_digit n
    exact ⟨d, ds, (toList_ofNat n).trans hchars, not_isSpace_of_isDigit hd, ne_of_isDigit hd rfl⟩
  | negSucc n => exact ⟨'-', _, toList_negSucc n, rfl, by decide⟩

/-- Every plain document is read back wherever it is printed. -/
theorem Plain.isReadBack (h : Plain levels j) (depth : Nat) : IsReadBack levels depth j := by
  induction h generalizing depth with
  | null =>
    refine isReadBack_scalar "null" (by simp [printIndented, print]) rfl ?_ ?_
    · exact ⟨'n', _, rfl, rfl, by decide⟩
    · exact fun _ _ _ _ => rfl
  | bool value =>
    cases value with
    | true =>
      refine isReadBack_scalar "true" (by simp [printIndented, print]) rfl ?_ ?_
      · exact ⟨'t', _, rfl, rfl, by decide⟩
      · exact fun _ _ _ _ => rfl
    | false =>
      refine isReadBack_scalar "false" (by simp [printIndented, print]) rfl ?_ ?_
      · exact ⟨'f', _, rfl, rfl, by decide⟩
      · exact fun _ _ _ _ => rfl
  | integer value inRange =>
    refine isReadBack_scalar (toString value) ?_ rfl (exists_first_integer value) ?_
    · simp [printIndented, print, Number.display]
    · exact fun _ _ _ hrest => readValueWith_integer inRange hrest
  | string value =>
    refine isReadBack_scalar (printString value) (by simp [printIndented, print]) rfl ?_ ?_
    · exact ⟨'"', _, toList_printString value, rfl, by decide⟩
    · exact fun _ _ _ _ => readValueWith_string value _
  | array hitems ih =>
    exact ⟨exists_first_array _ depth, fun rest _ =>
      readArray_printed (fun item hitem => ih item hitem (depth + 1)) rest⟩
  | object hnames hmembers ih =>
    exact ⟨exists_first_object _ depth, fun rest _ =>
      readObject_printed (fun m hm => ih m hm (depth + 1)) rest⟩

/-- A printed document that ends with a line break is read as the document in order. -/
theorem parse_printed (h : Plain maxLevels j) :
    parse (j.printIndented 0 ++ "\n") = .ok j.sorted := by
  have hends : EndsValue ['\n'] := fun c hc => .inr (Option.some.inj hc).symm
  have hread := (h.isReadBack 0).read _ hends
  have htext : (j.printIndented 0 ++ "\n").toList = (j.printIndented 0).toList ++ ['\n'] :=
    String.toList_append
  rw [parse, htext, parseChars, hread]
  rfl

end Json

end TemplateAudit
