import TemplateAudit.Proofs.Path.Reading

/-! # Where a path goes wrong

An error of the reader that points to an offset points right behind the characters that some path
begins with, and no path goes on with the character there. The reader moves from state to state as
long as it can, from every state outside brackets it can get to the end of a path, and at the
character that it refuses nothing that follows could help.
-/

namespace TemplateAudit

def PathError.place? : PathError → Option (String × Nat)
  | .emptySegment path offset => some (path, offset)
  | .unexpectedBracket path offset => some (path, offset)
  | .missingSeparator path offset => some (path, offset)
  | _ => none

namespace Path

inductive Move : Pending → Char → Pending → Prop where
  | dot {pending : Pending} : (∀ begun, pending ≠ .bracket begun) → pending ≠ .start →
      Move pending '.' .start
  | openBracket {pending : Pending} : (∀ begun, pending ≠ .bracket begun) →
      Move pending '[' (.bracket [])
  | insideBracket {begun : List Char} {c : Char} : c ≠ ']' →
      Move (.bracket begun) c (.bracket (begun ++ [c]))
  | closeBracket {begun : List Char} {segment : Segment} :
      (∀ raw, bracketSegment raw begun = .ok segment) → Move (.bracket begun) ']' .closed
  | firstOfName {c : Char} : IsPlain c → Move .start c (.name [c])
  | nextOfName {begun : List Char} {c : Char} : IsPlain c →
      Move (.name begun) c (.name (begun ++ [c]))

inductive Runs : Pending → List Char → Pending → Prop where
  | nil {pending : Pending} : Runs pending [] pending
  | cons {pending next last : Pending} {c : Char} {rest : List Char} : Move pending c next →
      Runs next rest last → Runs pending (c :: rest) last

variable {pending next last : Pending} {c : Char} {chars rest before : List Char}
  {segments : List Segment} {raw path : String} {offset : Nat} {e : PathError}

theorem readsAs_of_move (h : Move pending c next) (hne : rest ≠ [])
    (hreads : ReadsAs next rest segments) : ∃ segments, ReadsAs pending (c :: rest) segments := by
  cases h with
  | dot hout hstart => exact ⟨_, .dot hout hstart hne hreads⟩
  | openBracket hout => exact ⟨_, .openBracket hout hreads⟩
  | insideBracket hc => exact ⟨_, .insideBracket hc hreads⟩
  | closeBracket hsegment => exact ⟨_, .closeBracket hsegment hreads⟩
  | firstOfName hc => exact ⟨_, .firstOfName hc hreads⟩
  | nextOfName hc => exact ⟨_, .nextOfName hc hreads⟩

theorem readsAs_of_runs (h : Runs pending before last) (hne : rest ≠ [])
    (hreads : ReadsAs last rest segments) :
    ∃ segments, ReadsAs pending (before ++ rest) segments := by
  induction h generalizing segments with
  | nil => exact ⟨segments, hreads⟩
  | cons hmove _ ih =>
    obtain ⟨_, hreads⟩ := ih hreads
    exact readsAs_of_move hmove (List.append_ne_nil_of_right_ne_nil _ hne) hreads

theorem readsAs_after_move (h : Move pending c next)
    (hreads : ReadsAs pending (c :: rest) segments) : ∃ segments, ReadsAs next rest segments := by
  cases h with
  | dot hout hstart =>
    cases hreads with
    | dot _ _ _ hreads => exact ⟨_, hreads⟩
    | insideBracket _ _ => exact absurd rfl (hout _)
    | firstOfName hc _ => exact absurd rfl hc.1
    | nextOfName hc _ => exact absurd rfl hc.1
  | openBracket hout =>
    cases hreads with
    | openBracket _ hreads => exact ⟨_, hreads⟩
    | insideBracket _ _ => exact absurd rfl (hout _)
    | firstOfName hc _ => exact absurd rfl hc.2.1
    | nextOfName hc _ => exact absurd rfl hc.2.1
  | insideBracket hc =>
    cases hreads with
    | dot hout _ _ _ => exact absurd rfl (hout _)
    | openBracket hout _ => exact absurd rfl (hout _)
    | insideBracket _ hreads => exact ⟨_, hreads⟩
    | closeBracket _ _ => exact absurd rfl hc
  | closeBracket _ =>
    cases hreads with
    | insideBracket hc _ => exact absurd rfl hc
    | closeBracket _ hreads => exact ⟨_, hreads⟩
  | firstOfName hc =>
    cases hreads with
    | dot _ hstart _ _ => exact absurd rfl hstart
    | openBracket _ _ => exact absurd rfl hc.2.1
    | firstOfName _ hreads => exact ⟨_, hreads⟩
  | nextOfName hc =>
    cases hreads with
    | dot _ _ _ _ => exact absurd rfl hc.1
    | openBracket _ _ => exact absurd rfl hc.2.1
    | nextOfName _ hreads => exact ⟨_, hreads⟩

theorem readsAs_after_runs (h : Runs pending before last)
    (hreads : ReadsAs pending (before ++ rest) segments) :
    ∃ segments, ReadsAs last rest segments := by
  induction h generalizing segments with
  | nil => exact ⟨segments, hreads⟩
  | cons hmove _ ih =>
    obtain ⟨_, hreads⟩ := readsAs_after_move hmove hreads
    exact ih hreads

theorem exists_readsAs (hout : ∀ begun, last ≠ .bracket begun) :
    ∃ rest segments, rest ≠ [] ∧ Text.trim rest = rest ∧ ReadsAs last rest segments := by
  have hplain : IsPlain 'a' := by decide
  cases last with
  | start => exact ⟨['a'], _, by decide, by decide, .firstOfName hplain (.finish nofun)⟩
  | name begun => exact ⟨['a'], _, by decide, by decide, .nextOfName hplain (.finish nofun)⟩
  | bracket begun => exact absurd rfl (hout begun)
  | closed => exact ⟨['.', 'a'], _, by decide, by decide,
      .dot nofun nofun (by decide) (.firstOfName hplain (.finish nofun))⟩

/-- Reading goes wrong behind some of the characters: at the end of the text after a dot, or at a
character that cannot be read in the state there, whatever follows it. -/
def GoesWrong (pending : Pending) (chars before : List Char) : Prop :=
  ∃ rest last, chars = before ++ rest ∧ Runs pending before last ∧
    (∀ begun, last ≠ .bracket begun) ∧
    (rest = [] ∧ before.getLast? = some '.' ∨
      ∃ c after, rest = c :: after ∧ ∀ other segments, ¬ ReadsAs last (c :: other) segments)

theorem GoesWrong.cons (hmove : Move pending c next) (h : GoesWrong next chars before) :
    GoesWrong pending (c :: chars) (c :: before) := by
  obtain ⟨rest, last, rfl, hruns, hout, hwrong⟩ := h
  refine ⟨rest, last, rfl, .cons hmove hruns, hout, hwrong.imp_left ?_⟩
  rintro ⟨hrest, hdot⟩
  exact ⟨hrest, by rw [List.getLast?_cons, hdot, Option.getD_some]⟩

theorem GoesWrong.here (hout : ∀ begun, pending ≠ .bracket begun)
    (hstuck : ∀ other segments, ¬ ReadsAs pending (c :: other) segments) :
    GoesWrong pending (c :: rest) [] :=
  ⟨c :: rest, pending, rfl, .nil, hout, .inr ⟨c, rest, rfl, hstuck⟩⟩

theorem utf8ByteSize_cons (c : Char) (chars : List Char) :
    (String.ofList (c :: chars)).utf8ByteSize =
      c.utf8Size + (String.ofList chars).utf8ByteSize := by
  simp [String.ofList_cons]

theorem place?_bracketSegment (h : bracketSegment raw chars = .error e) : e.place? = none := by
  unfold bracketSegment at h
  dsimp only at h
  split at h
  · nomatch h
  · split at h
    · nomatch h
    · obtain rfl := Except.error.inj h
      rfl

def IsAt (raw : String) (offset : Nat) (pending : Pending) (chars : List Char) (e : PathError) :
    Prop :=
  ∃ before, GoesWrong pending chars before ∧
    e.place? = some (raw, offset + (String.ofList before).utf8ByteSize)

theorem IsAt.cons (hmove : Move pending c next)
    (h : IsAt raw (offset + c.utf8Size) next rest e) : IsAt raw offset pending (c :: rest) e := by
  obtain ⟨before, hwrong, hplace⟩ := h
  exact ⟨c :: before, hwrong.cons hmove, by rw [hplace, utf8ByteSize_cons, Nat.add_assoc]⟩

theorem IsAt.here (hout : ∀ begun, pending ≠ .bracket begun)
    (hstuck : ∀ other segments, ¬ ReadsAs pending (c :: other) segments)
    (hplace : e.place? = some (raw, offset)) : IsAt raw offset pending (c :: rest) e :=
  ⟨[], .here hout hstuck, hplace⟩

/-- An error that points to an offset points to where reading goes wrong. -/
theorem isAt_of_read (h : read raw offset pending chars = .error e) (hsome : e.place? ≠ none) :
    IsAt raw offset pending chars e := by
  fun_induction read raw offset pending chars with
  | case1 =>
    obtain rfl := Except.error.inj h
    exact absurd rfl hsome
  | case2 => cases h
  | case3 _ chars rest ih =>
    obtain h | ⟨segment, hsegment, h⟩ := bind_eq_error_iff.mp h
    · exact absurd (place?_bracketSegment h) hsome
    · obtain h | ⟨_, _, h⟩ := bind_eq_error_iff.mp h
      · exact .cons (.closeBracket fun other => bracketSegment_eq_ok hsegment other) (ih h)
      · cases h
  | case4 _ chars c rest hc ih => exact .cons (.insideBracket hc) (ih h)
  | case5 _ rest hout =>
    -- a dot where a part should begin
    obtain rfl := Except.error.inj h
    refine .here (by simp) (fun other segments hreads => ?_) rfl
    cases hreads with
    | dot _ hstart _ _ => exact hstart rfl
    | firstOfName hc _ => exact hc.1 rfl
  | case6 _ pending hout hstart =>
    -- a dot at the end of the text, which is reported behind the dot
    obtain rfl := Except.error.inj h
    have hmove : Move pending '.' .start := .dot (fun begun he => hout begun he) hstart
    exact ⟨['.'], ⟨[], .start, rfl, .cons hmove .nil, by simp, .inl ⟨rfl, rfl⟩⟩, rfl⟩
  | case7 _ pending rest hout hstart hrest ih =>
    obtain h | ⟨_, _, h⟩ := bind_eq_error_iff.mp h
    · exact .cons (.dot (fun begun he => hout begun he) hstart) (ih h)
    · cases h
  | case8 _ pending rest hout _ ih =>
    obtain h | ⟨_, _, h⟩ := bind_eq_error_iff.mp h
    · exact .cons (.openBracket fun begun he => hout begun he) (ih h)
    · cases h
  | case9 _ pending rest hout =>
    -- a bracket that closes none
    obtain rfl := Except.error.inj h
    refine .here (fun begun he => hout begun he) (fun other segments hreads => ?_) rfl
    cases hreads with
    | closeBracket _ _ => exact hout _ rfl
    | insideBracket hc _ => exact hc rfl
    | firstOfName hc _ => exact hc.2.2 rfl
    | nextOfName hc _ => exact hc.2.2 rfl
  | case10 _ c rest hdot hopen hclose hout =>
    -- a name right behind a bracket
    obtain rfl := Except.error.inj h
    refine .here (by simp) (fun other segments hreads => ?_) rfl
    cases hreads with
    | dot _ _ _ _ => exact hdot rfl
    | openBracket _ _ => exact hopen rfl
  | case11 _ c rest hdot hopen hclose chars _ ih =>
    exact .cons (.nextOfName ⟨hdot, hopen, hclose⟩) (ih h)
  | case12 _ pending c rest hout hdot hopen hclose hclosed hname ih =>
    cases pending with
    | start => exact .cons (.firstOfName ⟨hdot, hopen, hclose⟩) (ih h)
    | name chars => exact absurd rfl (hname chars)
    | bracket chars => exact absurd rfl (hout chars)
    | closed => exact absurd rfl hclosed

variable {text : String}

theorem read_of_parse_error (h : parse text = .error e) (hsome : e.place? ≠ none) :
    read (String.ofList (Text.trim text.toList)) 0 .start (Text.trim text.toList) = .error e := by
  unfold parse parseChars at h
  dsimp only at h
  split at h
  · obtain rfl := Except.error.inj h
    exact absurd rfl hsome
  · obtain h | ⟨_, _, h⟩ := bind_eq_error_iff.mp h
    · exact h
    · nomatch h

/-- Some path begins with the characters of a text up to here, and none goes on as the text does:
the text ends here with a dot, or no path without blanks around it has the next character. -/
structure FirstFault (text before : List Char) : Prop where
  isPrefix : before <+: text
  goesOn : ∃ more p, parse (String.ofList (before ++ more)) = .ok p
  stops : before = text ∧ before.getLast? = some '.' ∨
    ∃ c, before ++ [c] <+: text ∧
      ∀ (other : String) (p : Path), Text.trim other.toList = other.toList →
        parse other = .ok p → ¬ before ++ [c] <+: other.toList

theorem GoesWrong.firstFault (htrim : Text.trim chars = chars) (h : GoesWrong .start chars before) :
    FirstFault chars before := by
  obtain ⟨rest, last, hchars, hruns, hout, hwrong⟩ := h
  have hbegins : before <+: chars := ⟨rest, hchars.symm⟩
  refine ⟨hbegins, ?_, hwrong.imp ?_ ?_⟩
  · obtain ⟨more, _, hne, hmore, hreads⟩ := exists_readsAs hout
    obtain ⟨segments, hreads⟩ := readsAs_of_runs hruns hne hreads
    exact ⟨more, _, parse_ofList (List.append_ne_nil_of_right_ne_nil _ hne)
      (Text.trim_append_of_beginning hbegins htrim hmore hne) hreads⟩
  · rintro ⟨rfl, hdot⟩
    rw [List.append_nil] at hchars
    exact ⟨hchars.symm, hdot⟩
  · rintro ⟨c, after, rfl, hstuck⟩
    refine ⟨c, ⟨after, by simp [hchars]⟩, ?_⟩
    rintro other p hother hparse ⟨tail, htail⟩
    obtain ⟨-, hreads⟩ := readsAs_of_parse hparse hother
    rw [← htail, List.append_assoc] at hreads
    obtain ⟨_, hreads⟩ := readsAs_after_runs hruns hreads
    exact hstuck tail _ hreads

/-- An error that points to an offset shows the text without the blanks around it, and the offset
is the place between two of its characters at which the text stops to be the beginning of a path. -/
theorem firstFault_of_parse_error {e : PathError} (h : parse text = .error e)
    (hplace : e.place? = some (path, offset)) :
    path = String.ofList (Text.trim text.toList) ∧ String.Pos.Raw.IsValid path ⟨offset⟩ ∧
      ∃ before, FirstFault (Text.trim text.toList) before ∧
        offset = (String.ofList before).utf8ByteSize := by
  have hsome : e.place? ≠ none := by simp [hplace]
  obtain ⟨before, hwrong, hat⟩ := isAt_of_read (read_of_parse_error h hsome) hsome
  obtain ⟨rfl, rfl⟩ := Prod.mk.inj (Option.some.inj (hplace.symm.trans hat))
  have hfault := hwrong.firstFault (Text.trim_trim text.toList)
  refine ⟨rfl, ?_, before, hfault, Nat.zero_add _⟩
  obtain ⟨rest, htext⟩ := hfault.isPrefix
  rw [String.Pos.Raw.isValid_iff_exists_append, Nat.zero_add]
  exact ⟨String.ofList before, String.ofList rest, by rw [← htext, String.ofList_append], rfl⟩

/-- A bracket is closed that was not opened, after characters of two bytes, and a path ends with
a dot; there are blanks around both. -/
theorem firstFault_of_parse_error_bytes :
    parse " ü[0].é]b " = .error (.unexpectedBracket "ü[0].é]b" 8) ∧
      (∃ before, FirstFault "ü[0].é]b".toList before ∧
        8 = (String.ofList before).utf8ByteSize) ∧
      parse " a. " = .error (.emptySegment "a." 2) ∧
      ∃ before, FirstFault "a.".toList before ∧ 2 = (String.ofList before).utf8ByteSize := by
  have hbracket : parse " ü[0].é]b " = .error (.unexpectedBracket "ü[0].é]b" 8) := by rfl
  have hdot : parse " a. " = .error (.emptySegment "a." 2) := by rfl
  obtain ⟨-, -, hfault⟩ := firstFault_of_parse_error hbracket rfl
  obtain ⟨-, -, hfault'⟩ := firstFault_of_parse_error hdot rfl
  exact ⟨hbracket, hfault, hdot, hfault'⟩

end Path

end TemplateAudit
