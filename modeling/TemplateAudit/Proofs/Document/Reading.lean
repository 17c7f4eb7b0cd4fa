import Mathlib.Data.List.DropRight
import TemplateAudit.Proofs.Document.Layout

/-! # Layouts of the texts that are read

Whenever a text is read as a document, it has a layout of that document. Reading is followed token
by token, and the nesting that is still allowed only matters where an array or an object begins.
A text has no second layout.
-/

namespace TemplateAudit

namespace Json

namespace Reading

variable {α β : Type}

theorem mapValue_eq_ok_iff {f : α → β} {r : Reading α} {b : β} {rest : List Char} :
    r.mapValue f = .ok (b, rest) ↔ ∃ a, r = .ok (a, rest) ∧ f a = b := by
  rw [mapValue, andThen_eq_ok_iff]
  constructor
  · rintro ⟨a, rest', h, he⟩
    obtain ⟨rfl, rfl⟩ := Prod.mk.inj (Except.ok.inj he)
    exact ⟨a, h, rfl⟩
  · rintro ⟨a, h, rfl⟩
    exact ⟨a, rest, h, rfl⟩

end Reading

variable {chars rest : List Char} {v : Json}

@[simp] theorem skipSpace_skipSpace (chars : List Char) :
    skipSpace (skipSpace chars) = skipSpace chars := List.dropWhile_idempotent _ _

theorem readValueWith_cases {array object : List Char → Reading Json}
    (h : readValueWith array object chars = .ok (v, rest)) :
    readValue 0 chars = .ok (v, rest) ∨
      (∃ inside, skipSpace chars = '[' :: inside ∧ array inside = .ok (v, rest)) ∨
      (∃ inside, skipSpace chars = '\x7b' :: inside ∧ object inside = .ok (v, rest)) := by
  rw [readValue]
  unfold readValueWith at h ⊢
  cases hc : skipSpace chars with
  | nil =>
    rw [hc] at h
    exact nomatch h
  | cons c inside =>
    rw [hc] at h
    by_cases harray : c = '['
    · subst harray
      exact .inr (.inl ⟨inside, rfl, h⟩)
    · by_cases hobject : c = '\x7b'
      · subst hobject
        exact .inr (.inr ⟨inside, rfl, h⟩)
      · simp only [harray, hobject, if_false] at h ⊢
        exact .inl h

theorem readIdent_eq_ok {value : Json} {letters : List Char}
    (h : readIdent value letters chars = .ok (v, rest)) : v = value ∧ chars = letters ++ rest := by
  induction letters generalizing chars with
  | nil =>
    obtain ⟨rfl, rfl⟩ := Prod.mk.inj (Except.ok.inj h)
    exact ⟨rfl, rfl⟩
  | cons letter letters ih =>
    cases chars with
    | nil => exact nomatch h
    | cons c chars =>
      rw [readIdent] at h
      split at h
      · next hc =>
        obtain ⟨hv, rfl⟩ := ih h
        exact ⟨hv, by rw [hc]; rfl⟩
      · exact nomatch h

theorem scalarAt_of_readValue (h : readValue 0 chars = .ok (v, rest)) :
    v.ScalarAt (skipSpace chars) rest := by
  rw [readValue, readValueWith] at h
  cases hc : skipSpace chars with
  | nil =>
    rw [hc] at h
    exact nomatch h
  | cons c inside =>
    rw [hc] at h
    simp only at h
    by_cases hn : c = 'n'
    · rw [if_pos hn] at h
      obtain ⟨rfl, rfl⟩ := readIdent_eq_ok h
      exact hn ▸ .null rest
    rw [if_neg hn] at h
    by_cases ht : c = 't'
    · rw [if_pos ht] at h
      obtain ⟨rfl, rfl⟩ := readIdent_eq_ok h
      exact ht ▸ .true rest
    rw [if_neg ht] at h
    by_cases hf : c = 'f'
    · rw [if_pos hf] at h
      obtain ⟨rfl, rfl⟩ := readIdent_eq_ok h
      exact hf ▸ .false rest
    rw [if_neg hf] at h
    by_cases hm : c = '-'
    · rw [if_pos hm] at h
      obtain ⟨n, hnum, rfl⟩ := Reading.mapValue_eq_ok_iff.mp h
      exact hm ▸ .negative hnum
    rw [if_neg hm] at h
    by_cases hd : c.isDigit = true
    · rw [if_pos hd] at h
      obtain ⟨n, hnum, rfl⟩ := Reading.mapValue_eq_ok_iff.mp h
      exact .number hd hnum
    rw [if_neg hd] at h
    by_cases hq : c = '"'
    · rw [if_pos hq] at h
      obtain ⟨s, hs, rfl⟩ := Reading.mapValue_eq_ok_iff.mp h
      exact hq ▸ .string hs
    rw [if_neg hq] at h
    repeat' split at h
    all_goals cases h

theorem nextItem_end {first : Bool} (h : nextItem first chars = .ok (false, rest)) :
    skipSpace chars = ']' :: rest := by
  rw [nextItem] at h
  split at h
  · exact nomatch h
  · next c tail hc =>
    repeat' split at h
    all_goals
      first
      | cases h; done
      | next he =>
        obtain ⟨-, rfl⟩ := Prod.mk.inj (Except.ok.inj h)
        rw [hc, he]

theorem nextItem_more {first : Bool} {start : List Char}
    (h : nextItem first chars = .ok (true, start)) :
    (first = true ∧ skipSpace chars = start) ∨
      (first = false ∧ ∃ after, skipSpace chars = ',' :: after ∧ skipSpace after = start) := by
  rw [nextItem] at h
  split at h
  · exact nomatch h
  · next c tail hc =>
    split at h
    · exact nomatch h
    · split at h
      · next hf =>
        obtain ⟨-, rfl⟩ := Prod.mk.inj (Except.ok.inj h)
        exact .inl ⟨hf, hc⟩
      · next hf =>
        split at h
        · next hcomma =>
          obtain rfl := hcomma
          split at h
          · exact nomatch h
          · next d after hd =>
            split at h
            · exact nomatch h
            · obtain ⟨-, rfl⟩ := Prod.mk.inj (Except.ok.inj h)
              exact .inr ⟨Bool.eq_false_iff.mpr hf, tail, hc, hd⟩
        · exact nomatch h

theorem nextMember_end {first : Bool} (h : nextMember first chars = .ok (false, rest)) :
    skipSpace chars = '\x7d' :: rest := by
  rw [nextMember] at h
  split at h
  · exact nomatch h
  · next c tail hc =>
    repeat' split at h
    all_goals
      first
      | cases h; done
      | next he =>
        obtain ⟨-, rfl⟩ := Prod.mk.inj (Except.ok.inj h)
        rw [hc, he]

theorem nextMember_more {first : Bool} {inside : List Char}
    (h : nextMember first chars = .ok (true, inside)) :
    (first = true ∧ skipSpace chars = '"' :: inside) ∨
      (first = false ∧
        ∃ after, skipSpace chars = ',' :: after ∧ skipSpace after = '"' :: inside) := by
  rw [nextMember] at h
  split at h
  · exact nomatch h
  · next c tail hc =>
    split at h
    · exact nomatch h
    · split at h
      · next hf =>
        split at h
        · next hquote =>
          obtain rfl := hquote
          obtain ⟨-, rfl⟩ := Prod.mk.inj (Except.ok.inj h)
          exact .inl ⟨hf, hc⟩
        · exact nomatch h
      · next hf =>
        split at h
        · next hcomma =>
          obtain rfl := hcomma
          split at h
          · exact nomatch h
          · next d after hd =>
            split at h
            · next hquote =>
              obtain rfl := hquote
              obtain ⟨-, rfl⟩ := Prod.mk.inj (Except.ok.inj h)
              exact .inr ⟨Bool.eq_false_iff.mpr hf, tail, hc, hd⟩
            · exact nomatch h
        · exact nomatch h

theorem skipSpace_of_readColon (h : readColon chars = .ok ((), rest)) :
    skipSpace chars = ':' :: rest := by
  rw [readColon] at h
  split at h
  · exact nomatch h
  · next c tail hc =>
    split at h
    · next hcolon =>
      obtain ⟨-, rfl⟩ := Prod.mk.inj (Except.ok.inj h)
      rw [hc, hcolon]
    · exact nomatch h

theorem skipSpace_of_nextItem {first : Bool} {start : List Char}
    (h : nextItem first chars = .ok (true, start)) : skipSpace start = start := by
  rcases nextItem_more h with ⟨-, rfl⟩ | ⟨-, after, -, rfl⟩
  · exact skipSpace_skipSpace chars
  · exact skipSpace_skipSpace after

end Json

namespace Layout

open Json

variable {item : List Char → Reading Json}

def HasLayouts (item : List Char → Reading Json) : Prop :=
  ∀ {chars v rest}, item chars = .ok (v, rest) →
    ∃ y : Layout, y.ReadAt (skipSpace chars) rest ∧ y.value = v

theorem exists_itemsReadAt (hitem : HasLayouts item) {rounds : Nat} {first : Bool}
    {chars rest : List Char} {vs : List Json}
    (h : readItems item rounds first chars = .ok (vs, rest)) :
    ∃ items, ItemsReadAt items first chars rest ∧ itemValues items = vs := by
  induction rounds generalizing first chars vs with
  | zero => exact nomatch h
  | succ rounds ih =>
    rw [readItems, Reading.andThen_eq_ok_iff] at h
    obtain ⟨more, start, hnext, h⟩ := h
    cases more with
    | false =>
      obtain ⟨rfl, rfl⟩ := Prod.mk.inj (Except.ok.inj h)
      exact ⟨[], hnext, rfl⟩
    | true =>
      rw [if_pos rfl, Reading.andThen_eq_ok_iff] at h
      obtain ⟨v, after, hv, h⟩ := h
      obtain ⟨vs, hvs, rfl⟩ := Reading.mapValue_eq_ok_iff.mp h
      obtain ⟨y, hy, rfl⟩ := hitem hv
      obtain ⟨items, hitems, rfl⟩ := ih hvs
      rw [skipSpace_of_nextItem hnext] at hy
      exact ⟨(start, y) :: items, ⟨hnext, after, hy, hitems⟩, rfl⟩

theorem exists_membersReadAt (hitem : HasLayouts item) {rounds : Nat} {first : Bool}
    {chars rest : List Char} {written : List (String × Json)}
    (h : readMembers item rounds first chars = .ok (written, rest)) :
    ∃ members, MembersReadAt members first chars rest ∧ memberValues members = written := by
  induction rounds generalizing first chars written with
  | zero => exact nomatch h
  | succ rounds ih =>
    rw [readMembers, Reading.andThen_eq_ok_iff] at h
    obtain ⟨more, inside, hnext, h⟩ := h
    cases more with
    | false =>
      obtain ⟨rfl, rfl⟩ := Prod.mk.inj (Except.ok.inj h)
      exact ⟨[], hnext, rfl⟩
    | true =>
      simp only [if_true, Reading.andThen_eq_ok_iff, Reading.mapValue_eq_ok_iff] at h
      obtain ⟨name, afterName, hname, _, afterColon, hcolon, v, after, hv, written, hw, rfl⟩ := h
      obtain ⟨y, hy, rfl⟩ := hitem hv
      obtain ⟨members, hmembers, rfl⟩ := ih hw
      refine ⟨(String.ofList name, '"' :: inside, y) :: members, ?_, rfl⟩
      rw [MembersReadAt]
      refine ⟨inside, afterName, afterColon, after, hnext, rfl, ?_, hcolon, hy, hmembers⟩
      rwa [String.toList_ofList]

/-- Reading a value at any depth of nesting reads a text with a layout of that value. -/
theorem hasLayouts_readValue (levels : Nat) : HasLayouts (readValue levels) := by
  induction levels with
  | zero =>
    intro chars v rest h
    have hv := scalarAt_of_readValue h
    exact ⟨.scalar v hv.isScalar, hv, rfl⟩
  | succ levels ih =>
    intro chars v rest h
    rw [readValue] at h
    rcases readValueWith_cases h with h | ⟨inside, hc, h⟩ | ⟨inside, hc, h⟩
    · have hv := scalarAt_of_readValue h
      exact ⟨.scalar v hv.isScalar, hv, rfl⟩
    · obtain ⟨vs, hvs, rfl⟩ := Reading.mapValue_eq_ok_iff.mp h
      obtain ⟨items, hitems, rfl⟩ := exists_itemsReadAt ih hvs
      rw [hc]
      exact ⟨.array items, ⟨inside, rfl, hitems⟩, rfl⟩
    · obtain ⟨written, hw, rfl⟩ := Reading.mapValue_eq_ok_iff.mp h
      obtain ⟨members, hmembers, rfl⟩ := exists_membersReadAt ih hw
      rw [hc]
      exact ⟨.object members, ⟨inside, rfl, hmembers⟩, rfl⟩

theorem scalarAt_unique {chars rest rest' : List Char} {v v' : Json}
    (h : v.ScalarAt chars rest) (h' : v'.ScalarAt chars rest') : v = v' ∧ rest = rest' := by
  cases h <;> cases h' <;> simp_all

theorem not_scalarAt_of_bracket {c : Char} (hc : c = '[' ∨ c = '\x7b') {inside rest : List Char}
    {v : Json} : ¬ v.ScalarAt (c :: inside) rest := by
  rintro h
  rcases hc with rfl | rfl <;> cases h <;> simp_all

theorem itemsReadAt_unique {items items' : List (List Char × Layout)}
    (ih : ∀ item ∈ items, ∀ {chars rest rest' z}, item.2.ReadAt chars rest →
      ReadAt z chars rest' → item.2 = z ∧ rest = rest')
    {first : Bool} {chars rest rest' : List Char} (h : ItemsReadAt items first chars rest)
    (h' : ItemsReadAt items' first chars rest') : items = items' ∧ rest = rest' := by
  induction items generalizing items' first chars with
  | nil =>
    cases items' with
    | nil =>
      rw [ItemsReadAt] at h
      rw [ItemsReadAt] at h'
      obtain ⟨-, rfl⟩ := Prod.mk.inj (Except.ok.inj (h.symm.trans h'))
      exact ⟨rfl, rfl⟩
    | cons item' items' =>
      obtain ⟨start', y'⟩ := item'
      rw [ItemsReadAt] at h
      rw [ItemsReadAt] at h'
      exact nomatch h.symm.trans h'.1
  | cons item items ihs =>
    obtain ⟨start, y⟩ := item
    cases items' with
    | nil =>
      rw [ItemsReadAt] at h
      rw [ItemsReadAt] at h'
      exact nomatch h.1.symm.trans h'
    | cons item' items' =>
      obtain ⟨start', y'⟩ := item'
      rw [ItemsReadAt] at h
      rw [ItemsReadAt] at h'
      obtain ⟨hnext, after, hy, hitems⟩ := h
      obtain ⟨hnext', after', hy', hitems'⟩ := h'
      obtain ⟨-, rfl⟩ := Prod.mk.inj (Except.ok.inj (hnext.symm.trans hnext'))
      obtain ⟨rfl, rfl⟩ := ih _ List.mem_cons_self hy hy'
      obtain ⟨rfl, rfl⟩ :=
        ihs (fun item hi => ih item (List.mem_cons_of_mem _ hi)) hitems hitems'
      exact ⟨rfl, rfl⟩

theorem membersReadAt_unique {members members' : List (String × List Char × Layout)}
    (ih : ∀ m ∈ members, ∀ {chars rest rest' z}, m.2.2.ReadAt chars rest →
      ReadAt z chars rest' → m.2.2 = z ∧ rest = rest')
    {first : Bool} {chars rest rest' : List Char} (h : MembersReadAt members first chars rest)
    (h' : MembersReadAt members' first chars rest') : members = members' ∧ rest = rest' := by
  induction members generalizing members' first chars with
  | nil =>
    cases members' with
    | nil =>
      rw [MembersReadAt] at h
      rw [MembersReadAt] at h'
      obtain ⟨-, rfl⟩ := Prod.mk.inj (Except.ok.inj (h.symm.trans h'))
      exact ⟨rfl, rfl⟩
    | cons m' members' =>
      obtain ⟨name', quote', y'⟩ := m'
      rw [MembersReadAt] at h
      rw [MembersReadAt] at h'
      obtain ⟨_, _, _, _, hnext', -⟩ := h'
      exact nomatch h.symm.trans hnext'
  | cons m members ihs =>
    obtain ⟨name, quote, y⟩ := m
    cases members' with
    | nil =>
      rw [MembersReadAt] at h
      rw [MembersReadAt] at h'
      obtain ⟨_, _, _, _, hnext, -⟩ := h
      exact nomatch hnext.symm.trans h'
    | cons m' members' =>
      obtain ⟨name', quote', y'⟩ := m'
      rw [MembersReadAt] at h
      rw [MembersReadAt] at h'
      obtain ⟨inside, afterName, afterColon, after, hnext, rfl, hname, hcolon, hy, hms⟩ := h
      obtain ⟨_, _, _, _, hnext', rfl, hname', hcolon', hy', hms'⟩ := h'
      obtain ⟨-, rfl⟩ := Prod.mk.inj (Except.ok.inj (hnext.symm.trans hnext'))
      obtain ⟨hn, rfl⟩ := Prod.mk.inj (Except.ok.inj (hname.symm.trans hname'))
      obtain ⟨-, rfl⟩ := Prod.mk.inj (Except.ok.inj (hcolon.symm.trans hcolon'))
      obtain ⟨rfl, rfl⟩ := ih _ List.mem_cons_self hy hy'
      obtain ⟨rfl, rfl⟩ := ihs (fun m hm => ih m (List.mem_cons_of_mem _ hm)) hms hms'
      obtain rfl := String.toList_inj.mp hn
      exact ⟨rfl, rfl⟩

/-- What the characters begin with has one layout. -/
theorem readAt_unique (y : Layout) {chars rest rest' : List Char} {z : Layout}
    (h : y.ReadAt chars rest) (h' : z.ReadAt chars rest') : y = z ∧ rest = rest' := by
  induction y using descend generalizing chars rest rest' z with
  | scalar v plain =>
    cases z with
    | scalar v' plain' =>
      obtain ⟨rfl, rfl⟩ := scalarAt_unique h h'
      exact ⟨rfl, rfl⟩
    | array items =>
      obtain ⟨inside, rfl, -⟩ := h'
      exact absurd h (not_scalarAt_of_bracket (.inl rfl))
    | object members =>
      obtain ⟨inside, rfl, -⟩ := h'
      exact absurd h (not_scalarAt_of_bracket (.inr rfl))
  | array items ih =>
    obtain ⟨inside, rfl, h⟩ := h
    cases z with
    | scalar v' plain' => exact absurd h' (not_scalarAt_of_bracket (.inl rfl))
    | array items' =>
      obtain ⟨inside', hi, h'⟩ := h'
      obtain rfl := (List.cons.inj hi).2
      obtain ⟨rfl, rfl⟩ := itemsReadAt_unique ih h h'
      exact ⟨rfl, rfl⟩
    | object members =>
      obtain ⟨inside', hi, -⟩ := h'
      exact nomatch (List.cons.inj hi).1
  | object members ih =>
    obtain ⟨inside, rfl, h⟩ := h
    cases z with
    | scalar v' plain' => exact absurd h' (not_scalarAt_of_bracket (.inr rfl))
    | array items =>
      obtain ⟨inside', hi, -⟩ := h'
      exact nomatch (List.cons.inj hi).1
    | object members' =>
      obtain ⟨inside', hi, h'⟩ := h'
      obtain rfl := (List.cons.inj hi).2
      obtain ⟨rfl, rfl⟩ := membersReadAt_unique ih h h'
      exact ⟨rfl, rfl⟩

theorem isOf_unique {y z : Layout} {text : List Char} (h : y.IsOf text) (h' : z.IsOf text) :
    y = z := by
  obtain ⟨rest, h, -⟩ := h
  obtain ⟨rest', h', -⟩ := h'
  exact (readAt_unique y h h').1

/-- A text that is read has a layout of the document that it holds. -/
theorem exists_isOf {text : String} {document : Json} (h : Json.parse text = .ok document) :
    ∃ y : Layout, y.IsOf text.toList ∧ y.value = document := by
  rw [Json.parse, Json.parseChars] at h
  split at h
  · exact nomatch h
  · next v rest hv =>
    split at h
    · next hrest =>
      obtain rfl := Except.ok.inj h
      obtain ⟨y, hy, rfl⟩ := hasLayouts_readValue _ hv
      exact ⟨y, ⟨rest, hy, hrest⟩, rfl⟩
    · exact nomatch h

end Layout

end TemplateAudit
