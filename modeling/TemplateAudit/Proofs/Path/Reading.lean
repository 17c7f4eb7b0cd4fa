import Mathlib.Data.List.DropRight
import TemplateAudit.Path

/-! # Paths that are read

The reader of paths takes one character at a time, and every character that it accepts is one of
six moves. A path that is read is a run of these moves, whatever the text around it and the offset
at which it stands, so two paths with a dot between them are read one after the other.
-/

namespace TemplateAudit

theorem bind_eq_ok_iff {ε α β : Type} {x : Except ε α} {f : α → Except ε β} {b : β} :
    (x >>= f) = .ok b ↔ ∃ a, x = .ok a ∧ f a = .ok b := by
  cases x with
  | error e => simp [bind, Except.bind]
  | ok a => simp [bind, Except.bind]

theorem bind_eq_error_iff {ε α β : Type} {x : Except ε α} {f : α → Except ε β} {e : ε} :
    (x >>= f) = .error e ↔ x = .error e ∨ ∃ a, x = .ok a ∧ f a = .error e := by
  cases x with
  | error e => simp [bind, Except.bind]
  | ok a => simp [bind, Except.bind]

namespace Text

variable {cs more text : List Char}

theorem trim_begins_trimStart (cs : List Char) : trim cs <+: trimStart cs := by
  rw [trim, trimEnd, ← List.reverse_suffix, List.reverse_reverse]
  exact List.dropWhile_suffix isBlank

theorem trimStart_eq_and_trimEnd_eq (h : trim cs = cs) : trimStart cs = cs ∧ trimEnd cs = cs := by
  have hstart : trimStart cs <:+ cs := List.dropWhile_suffix isBlank
  have hend : trim cs <+: trimStart cs := trim_begins_trimStart cs
  have hlength : (trimStart cs).length = cs.length := by
    apply Nat.le_antisymm hstart.length_le
    rw [h] at hend
    exact hend.length_le
  have htrim : trimStart cs = cs := hstart.eq_of_length hlength
  rw [trim, htrim] at h
  exact ⟨htrim, h⟩

theorem trimStart_eq_self_iff :
    trimStart cs = cs ↔ ∀ c, cs.head? = some c → isBlank c = false := by
  cases cs with
  | nil => simp [trimStart]
  | cons c rest =>
    rw [trimStart, List.dropWhile_eq_self_iff]
    simp

theorem trimStart_of_beginning (h : cs <+: more) (hmore : trimStart more = more) :
    trimStart cs = cs := by
  rw [trimStart_eq_self_iff] at hmore ⊢
  intro c hc
  obtain ⟨rest, rfl⟩ := List.head?_eq_some_iff.mp hc
  obtain ⟨after, rfl⟩ := h
  exact hmore c rfl

theorem trim_trim (cs : List Char) : trim (trim cs) = trim cs := by
  have hstart : trimStart (trim cs) = trim cs :=
    trimStart_of_beginning (trim_begins_trimStart cs) (List.dropWhile_idempotent isBlank cs)
  calc trim (trim cs)
    _ = trimEnd (trim cs) := by rw [trim, hstart]
    _ = trim cs := List.rdropWhile_idempotent isBlank (trimStart cs)

theorem trimStart_append (h : trimStart cs = cs) (hne : cs ≠ []) :
    trimStart (cs ++ more) = cs ++ more := by
  have hdrop : cs.dropWhile isBlank = cs := h
  rw [trimStart, List.dropWhile_append, hdrop, if_neg]
  simpa using hne

theorem trimEnd_append (h : trimEnd more = more) (hne : more ≠ []) :
    trimEnd (cs ++ more) = cs ++ more := by
  have hreverse : trimStart more.reverse = more.reverse := by
    rw [← List.reverse_inj, List.reverse_reverse]
    exact h
  have happend : trimStart (more.reverse ++ cs.reverse) = more.reverse ++ cs.reverse :=
    trimStart_append hreverse (by simpa using hne)
  rw [trimEnd, List.reverse_append]
  change (trimStart _).reverse = _
  rw [happend, List.reverse_append, List.reverse_reverse, List.reverse_reverse]

theorem trim_append (hcs : trim cs = cs) (hmore : trim more = more) (hne : cs ≠ [])
    (hne' : more ≠ []) (between : List Char) :
    trim (cs ++ between ++ more) = cs ++ between ++ more := by
  rw [trim, List.append_assoc, trimStart_append (trimStart_eq_and_trimEnd_eq hcs).1 hne,
    ← List.append_assoc, trimEnd_append (trimStart_eq_and_trimEnd_eq hmore).2 hne']

theorem trim_append_of_beginning (h : cs <+: text) (htext : trim text = text)
    (hmore : trim more = more) (hne : more ≠ []) : trim (cs ++ more) = cs ++ more := by
  by_cases hcs : cs = []
  · subst hcs
    exact hmore
  · have hstart : trimStart cs = cs :=
      trimStart_of_beginning h (trimStart_eq_and_trimEnd_eq htext).1
    rw [trim, trimStart_append hstart hcs,
      trimEnd_append (trimStart_eq_and_trimEnd_eq hmore).2 hne]

end Text

namespace Path

def IsPlain (c : Char) : Prop := c ≠ '.' ∧ c ≠ '[' ∧ c ≠ ']'

instance (c : Char) : Decidable (IsPlain c) :=
  inferInstanceAs (Decidable (c ≠ '.' ∧ c ≠ '[' ∧ c ≠ ']'))

/-- What is pending is read on to the end of the characters, and gives these segments. -/
inductive ReadsAs : Pending → List Char → List Segment → Prop where
  | finish {pending : Pending} : (∀ chars, pending ≠ .bracket chars) →
      ReadsAs pending [] pending.finish
  | dot {pending : Pending} {rest : List Char} {segments : List Segment} :
      (∀ chars, pending ≠ .bracket chars) → pending ≠ .start → rest ≠ [] →
      ReadsAs .start rest segments → ReadsAs pending ('.' :: rest) (pending.finish ++ segments)
  | openBracket {pending : Pending} {rest : List Char} {segments : List Segment} :
      (∀ chars, pending ≠ .bracket chars) → ReadsAs (.bracket []) rest segments →
      ReadsAs pending ('[' :: rest) (pending.finish ++ segments)
  | insideBracket {chars : List Char} {c : Char} {rest : List Char} {segments : List Segment} :
      c ≠ ']' → ReadsAs (.bracket (chars ++ [c])) rest segments →
      ReadsAs (.bracket chars) (c :: rest) segments
  | closeBracket {chars rest : List Char} {segment : Segment} {segments : List Segment} :
      (∀ raw, bracketSegment raw chars = .ok segment) → ReadsAs .closed rest segments →
      ReadsAs (.bracket chars) (']' :: rest) (segment :: segments)
  | firstOfName {c : Char} {rest : List Char} {segments : List Segment} : IsPlain c →
      ReadsAs (.name [c]) rest segments → ReadsAs .start (c :: rest) segments
  | nextOfName {chars : List Char} {c : Char} {rest : List Char} {segments : List Segment} :
      IsPlain c → ReadsAs (.name (chars ++ [c])) rest segments →
      ReadsAs (.name chars) (c :: rest) segments

variable {raw : String} {offset : Nat} {pending : Pending} {chars rest : List Char}
  {segment : Segment} {segments more : List Segment}

theorem bracketSegment_eq_ok (h : bracketSegment raw chars = .ok segment) (other : String) :
    bracketSegment other chars = .ok segment := by
  unfold bracketSegment at h ⊢
  dsimp only at h ⊢
  split at h
  · next hstar => rw [if_pos hstar, h]
  · next hstar =>
    rw [if_neg hstar]
    split at h
    · next hindex => rw [h]
    · exact nomatch h

theorem readsAs_of_read (h : read raw offset pending chars = .ok segments) :
    ReadsAs pending chars segments := by
  fun_induction read raw offset pending chars generalizing segments with
  | case1 | case5 | case6 | case9 | case10 => exact nomatch h
  | case2 _ pending hout =>
    obtain rfl := Except.ok.inj h
    exact .finish fun chars he => hout chars he
  | case3 _ chars rest ih =>
    obtain ⟨segment, hsegment, h⟩ := bind_eq_ok_iff.mp h
    obtain ⟨more, hmore, h⟩ := bind_eq_ok_iff.mp h
    obtain rfl := Except.ok.inj h
    exact .closeBracket (fun other => bracketSegment_eq_ok hsegment other) (ih hmore)
  | case4 _ chars c rest hc ih => exact .insideBracket hc (ih h)
  | case7 _ pending rest hout hstart hrest ih =>
    obtain ⟨more, hmore, h⟩ := bind_eq_ok_iff.mp h
    obtain rfl := Except.ok.inj h
    exact .dot (fun chars he => hout chars he) hstart hrest (ih hmore)
  | case8 _ pending rest hout _ ih =>
    obtain ⟨more, hmore, h⟩ := bind_eq_ok_iff.mp h
    obtain rfl := Except.ok.inj h
    exact .openBracket (fun chars he => hout chars he) (ih hmore)
  | case11 _ c rest hdot hopen hclose chars _ ih => exact .nextOfName ⟨hdot, hopen, hclose⟩ (ih h)
  | case12 _ pending c rest hout hdot hopen hclose hclosed hname ih =>
    cases pending with
    | start => exact .firstOfName ⟨hdot, hopen, hclose⟩ (ih h)
    | name chars => exact absurd rfl (hname chars)
    | bracket chars => exact absurd rfl (hout chars)
    | closed => exact absurd rfl hclosed

theorem read_of_readsAs (h : ReadsAs pending chars segments) (raw : String) (offset : Nat) :
    read raw offset pending chars = .ok segments := by
  induction h generalizing offset with
  | @finish pending hout =>
    cases pending with
    | bracket chars => exact absurd rfl (hout chars)
    | _ => rfl
  | @dot pending rest segments hout hstart hrest _ ih =>
    cases pending with
    | start => exact absurd rfl hstart
    | bracket chars => exact absurd rfl (hout chars)
    | name chars => simp [read, hrest, ih, bind, Except.bind, pure, Except.pure]
    | closed => simp [read, hrest, ih, bind, Except.bind, pure, Except.pure]
  | @openBracket pending rest segments hout _ ih =>
    cases pending with
    | bracket chars => exact absurd rfl (hout chars)
    | _ => simp [read, ih, bind, Except.bind, pure, Except.pure]
  | insideBracket hc _ ih => rw [read, if_neg hc, ih]
  | closeBracket hsegment _ ih => simp [read, hsegment, ih, bind, Except.bind, pure, Except.pure]
  | firstOfName hc _ ih => simp [read, hc.1, hc.2.1, hc.2.2, ih]
  | nextOfName hc _ ih => simp [read, hc.1, hc.2.1, hc.2.2, ih]

theorem read_eq_ok_iff (raw : String) (offset : Nat) :
    read raw offset pending chars = .ok segments ↔ ReadsAs pending chars segments :=
  ⟨readsAs_of_read, fun h => read_of_readsAs h raw offset⟩

theorem ReadsAs.joined (h : ReadsAs pending chars segments) (hmore : ReadsAs .start rest more)
    (hrest : rest ≠ []) (hsome : pending ≠ .start ∨ chars ≠ []) :
    ReadsAs pending (chars ++ '.' :: rest) (segments ++ more) := by
  induction h with
  | finish hout => exact .dot hout (hsome.resolve_right fun hne => hne rfl) hrest hmore
  | dot hout hstart hne _ ih =>
    rw [List.append_assoc]
    exact .dot hout hstart (List.append_ne_nil_of_left_ne_nil hne _) (ih (.inr hne))
  | openBracket hout _ ih =>
    rw [List.append_assoc]
    exact .openBracket hout (ih (.inl nofun))
  | insideBracket hc _ ih => exact .insideBracket hc (ih (.inl nofun))
  | closeBracket hsegment _ ih => exact .closeBracket hsegment (ih (.inl nofun))
  | firstOfName hc _ ih => exact .firstOfName hc (ih (.inl nofun))
  | nextOfName hc _ ih => exact .nextOfName hc (ih (.inl nofun))

theorem ReadsAs.followed (h : ReadsAs pending chars segments)
    (hmore : ReadsAs .start ('[' :: rest) more) :
    ReadsAs pending (chars ++ '[' :: rest) (segments ++ more) := by
  induction h with
  | finish hout =>
    cases hmore with
    | openBracket _ hinside => exact .openBracket hout hinside
    | firstOfName hplain _ => exact absurd rfl hplain.2.1
  | dot hout hstart hne _ ih =>
    rw [List.append_assoc]
    exact .dot hout hstart (List.append_ne_nil_of_left_ne_nil hne _) ih
  | openBracket hout _ ih =>
    rw [List.append_assoc]
    exact .openBracket hout ih
  | insideBracket hc _ ih => exact .insideBracket hc ih
  | closeBracket hsegment _ ih => exact .closeBracket hsegment ih
  | firstOfName hc _ ih => exact .firstOfName hc ih
  | nextOfName hc _ ih => exact .nextOfName hc ih

/-! ### Texts of paths -/

variable {p q : Path} {text other : String}

theorem parse_eq_ok_iff : parse text = .ok p ↔
    Text.trim text.toList ≠ [] ∧ p.raw = String.ofList (Text.trim text.toList) ∧
      ReadsAs .start (Text.trim text.toList) p.segments := by
  obtain ⟨raw, segments⟩ := p
  rw [parse, parseChars]
  dsimp only
  split
  · next hempty => simp [hempty]
  · next hne =>
    rw [bind_eq_ok_iff]
    simp only [read_eq_ok_iff, pure, Except.pure, Except.ok.injEq, mk.injEq, ne_eq, hne,
      not_false_eq_true, true_and]
    constructor
    · rintro ⟨_, hread, rfl, rfl⟩
      exact ⟨rfl, hread⟩
    · rintro ⟨rfl, hread⟩
      exact ⟨_, hread, rfl, rfl⟩

theorem parse_ofList (hne : chars ≠ []) (htrim : Text.trim chars = chars)
    (h : ReadsAs .start chars segments) :
    parse (String.ofList chars) = .ok ⟨String.ofList chars, segments⟩ := by
  rw [parse_eq_ok_iff, String.toList_ofList, htrim]
  exact ⟨hne, rfl, h⟩

theorem readsAs_of_parse (h : parse text = .ok p)
    (htext : Text.trim text.toList = text.toList) :
    text.toList ≠ [] ∧ ReadsAs .start text.toList p.segments := by
  obtain ⟨hne, -, hreads⟩ := parse_eq_ok_iff.mp h
  rw [htext] at hne hreads
  exact ⟨hne, hreads⟩

/-- Two paths with a dot between them are a path that takes the steps of the first one and then
those of the second one. -/
theorem parse_joined (hp : parse text = .ok p) (hq : parse other = .ok q)
    (htext : Text.trim text.toList = text.toList) (hother : Text.trim other.toList = other.toList) :
    parse (text ++ "." ++ other) =
      .ok ⟨text ++ "." ++ other, p.segments ++ q.segments⟩ := by
  obtain ⟨hne, hreads⟩ := readsAs_of_parse hp htext
  obtain ⟨hne', hreads'⟩ := readsAs_of_parse hq hother
  have hchars : text ++ "." ++ other = String.ofList (text.toList ++ ['.'] ++ other.toList) := by
    simp [String.append_assoc]
  rw [hchars]
  refine parse_ofList (by simp) (Text.trim_append htext hother hne hne' ['.']) ?_
  rw [List.append_assoc]
  exact hreads.joined hreads' hne' (.inr hne)

theorem parse_followed (hp : parse text = .ok p) (hq : parse other = .ok q)
    (htext : Text.trim text.toList = text.toList) (hother : Text.trim other.toList = other.toList)
    (hbracket : other.toList.head? = some '[') :
    parse (text ++ other) = .ok ⟨text ++ other, p.segments ++ q.segments⟩ := by
  obtain ⟨hne, hreads⟩ := readsAs_of_parse hp htext
  obtain ⟨hne', hreads'⟩ := readsAs_of_parse hq hother
  have hchars : text ++ other = String.ofList (text.toList ++ other.toList) := by simp
  have htrim : Text.trim (text.toList ++ other.toList) = text.toList ++ other.toList := by
    simpa using Text.trim_append htext hother hne hne' []
  rw [hchars]
  refine parse_ofList (List.append_ne_nil_of_left_ne_nil hne _) htrim ?_
  obtain ⟨rest, hrest⟩ := List.head?_eq_some_iff.mp hbracket
  rw [hrest] at hreads' ⊢
  exact hreads.followed hreads'

end Path

end TemplateAudit
