import Mathlib.Data.Nat.Digits.Defs
import TemplateAudit.Proofs.Path.Reading

/-! # The grammar of paths

A path is written as pieces with dots between them. A piece is a name, brackets, or a name with
brackets behind it, and each of its parts stands for one segment. The reader accepts exactly the
texts that are written so, and gives the segments of the parts in order.
-/

namespace TemplateAudit.Path

namespace Grammar

inductive NameMeans : List Char → Segment → Prop where
  | wildcard : NameMeans ['*'] .wildcard
  | property {chars : List Char} : chars ≠ ['*'] →
      NameMeans chars (.property (String.ofList chars))

/-- What the text between two brackets stands for, without the blanks around it. -/
inductive BodyMeans : List Char → Segment → Prop where
  | wildcard : BodyMeans ['*'] .wildcard
  | index {sign digits : List Char} {n : Nat} : sign = [] ∨ sign = ['+'] → digits ≠ [] →
      (∀ d ∈ digits, d.isDigit = true) →
      n = Nat.ofDigits 10 (digits.reverse.map fun d => d.toNat - '0'.toNat) → n < 2 ^ 64 →
      BodyMeans (sign ++ digits) (.index n)

structure Name where
  chars : List Char
  segment : Segment
  chars_ne_nil : chars ≠ []
  isPlain : ∀ c ∈ chars, IsPlain c
  means : NameMeans chars segment

structure Bracket where
  body : List Char
  segment : Segment
  close_not_mem : ']' ∉ body
  means : BodyMeans (Text.trim body) segment

/-- A name and the brackets behind it, where one of the two may be missing. -/
structure Piece where
  name : Option Name
  brackets : List Bracket
  not_empty : name ≠ none ∨ brackets ≠ []

def Bracket.written (b : Bracket) : List Char := '[' :: (b.body ++ [']'])

namespace Piece

def written (piece : Piece) : List Char :=
  piece.name.elim [] Name.chars ++ piece.brackets.flatMap Bracket.written

def segments (piece : Piece) : List Segment :=
  (piece.name.map Name.segment).toList ++ piece.brackets.map Bracket.segment

end Piece

def written (pieces : List Piece) : List Char := ['.'].intercalate (pieces.map Piece.written)

def segments (pieces : List Piece) : List Segment := pieces.flatMap Piece.segments

theorem Piece.written_ne_nil (piece : Piece) : piece.written ≠ [] := by
  obtain ⟨name, brackets, hsome⟩ := piece
  cases name with
  | some name => exact List.append_ne_nil_of_left_ne_nil name.chars_ne_nil _
  | none =>
    obtain ⟨b, rest, rfl⟩ := List.exists_cons_of_ne_nil (hsome.resolve_left fun hne => hne rfl)
    simp [Piece.written, Bracket.written]

theorem written_cons (piece : Piece) (pieces : List Piece) :
    written (piece :: pieces) =
      piece.written ++ pieces.flatMap fun piece => '.' :: piece.written := by
  induction pieces generalizing piece with
  | nil => simp [written]
  | cons next rest ih =>
    have hnext := ih next
    simp only [written, List.map_cons, List.intercalate_cons_cons, List.flatMap_cons,
      List.cons_append, List.append_assoc, List.nil_append] at hnext ⊢
    rw [hnext]

theorem written_ne_nil {pieces : List Piece} (h : pieces ≠ []) : written pieces ≠ [] := by
  obtain ⟨piece, rest, rfl⟩ := List.exists_cons_of_ne_nil h
  rw [written_cons]
  exact List.append_ne_nil_of_left_ne_nil piece.written_ne_nil _

end Grammar

open Grammar

variable {pending : Pending} {chars rest body : List Char} {segment : Segment}
  {segments : List Segment} {raw : String} {n : Nat}

/-! ### Parts -/

theorem nameMeans_iff : NameMeans chars segment ↔ namedSegment chars = segment := by
  unfold namedSegment
  constructor
  · intro h
    cases h with
    | wildcard => rfl
    | property hne => exact if_neg hne
  · rintro rfl
    split
    · next h =>
      subst h
      exact .wildcard
    · next h => exact .property h

theorem digitsValue_eq_ofDigits (digits : List Char) :
    digitsValue digits = Nat.ofDigits 10 (digits.reverse.map fun d => d.toNat - '0'.toNat) := by
  simp only [digitsValue, Nat.ofDigits_eq_foldr, List.foldr_map, List.foldr_reverse, Nat.add_comm,
    Nat.cast_id]

def AreDigitsOf (digits : List Char) (n : Nat) : Prop :=
  digits ≠ [] ∧ (∀ d ∈ digits, d.isDigit = true) ∧ digitsValue digits = n ∧ n < 2 ^ 64

theorem indexValue?_signed {digits : List Char} :
    indexValue? ('+' :: digits) = some n ↔ AreDigitsOf digits n := by
  simp only [indexValue?, Option.ite_none_right_eq_some, List.all_eq_true, AreDigitsOf,
    Option.some.injEq, Nat.reducePow]
  constructor
  · rintro ⟨⟨hne, hdigits, hlt⟩, rfl⟩
    exact ⟨hne, hdigits, rfl, hlt⟩
  · rintro ⟨hne, hdigits, rfl, hlt⟩
    exact ⟨⟨hne, hdigits, hlt⟩, rfl⟩

theorem indexValue?_unsigned {digits : List Char} (hsign : ∀ rest, digits ≠ '+' :: rest) :
    indexValue? digits = some n ↔ AreDigitsOf digits n := by
  rw [← indexValue?_signed, indexValue?, indexValue?]
  exact hsign

theorem AreDigitsOf.ne_cons {digits : List Char} {c : Char} (h : AreDigitsOf digits n)
    (hc : c.isDigit = false) (rest : List Char) : digits ≠ c :: rest := by
  rintro rfl
  exact absurd (h.2.1 c List.mem_cons_self) (by simp [hc])

theorem bodyMeans_index_iff : BodyMeans body (.index n) ↔
    ∃ sign digits, body = sign ++ digits ∧ (sign = [] ∨ sign = ['+']) ∧ AreDigitsOf digits n := by
  constructor
  · intro h
    cases h with
    | @index sign digits _ hsign hne hdigits hvalue hlt =>
      exact ⟨sign, digits, rfl, hsign, hne, hdigits, by rw [digitsValue_eq_ofDigits, hvalue], hlt⟩
  · rintro ⟨sign, digits, rfl, hsign, hne, hdigits, hvalue, hlt⟩
    exact .index hsign hne hdigits (by rw [← digitsValue_eq_ofDigits, hvalue]) hlt

theorem indexValue?_eq_some_iff : indexValue? body = some n ↔ BodyMeans body (.index n) := by
  rw [bodyMeans_index_iff]
  constructor
  · intro h
    by_cases hsign : ∃ rest, body = '+' :: rest
    · obtain ⟨digits, rfl⟩ := hsign
      exact ⟨['+'], digits, rfl, .inr rfl, indexValue?_signed.mp h⟩
    · have hsign : ∀ rest, body ≠ '+' :: rest := fun rest he => hsign ⟨rest, he⟩
      exact ⟨[], body, rfl, .inl rfl, (indexValue?_unsigned hsign).mp h⟩
  · rintro ⟨sign, digits, rfl, rfl | rfl, h⟩
    · exact (indexValue?_unsigned (h.ne_cons (by decide))).mpr h
    · exact indexValue?_signed.mpr h

theorem bracketSegment_eq_ok_iff :
    bracketSegment raw body = .ok segment ↔ BodyMeans (Text.trim body) segment := by
  unfold bracketSegment
  generalize Text.trim body = trimmed
  constructor
  · intro h
    dsimp only at h
    split at h
    · next hstar =>
      obtain rfl := Except.ok.inj h
      exact hstar ▸ .wildcard
    · split at h
      · next hindex =>
        obtain rfl := Except.ok.inj h
        exact indexValue?_eq_some_iff.mp hindex
      · nomatch h
  · intro h
    cases segment with
    | wildcard =>
      cases h
      rfl
    | property name => cases h
    | index n =>
      have hstar : trimmed ≠ ['*'] := by
        obtain ⟨sign, digits, rfl, rfl | rfl, hdigits⟩ := bodyMeans_index_iff.mp h
        · exact hdigits.ne_cons (by decide) []
        · simp
      simp [hstar, indexValue?_eq_some_iff.mpr h]

/-! ### Written pieces are read -/

theorem readsAs_rest_of_name {begun : List Char} (hplain : ∀ c ∈ chars, IsPlain c) :
    ReadsAs (.name begun) chars [namedSegment (begun ++ chars)] := by
  induction chars generalizing begun with
  | nil =>
    rw [List.append_nil]
    exact .finish nofun
  | cons c rest ih =>
    obtain ⟨hc, hrest⟩ := List.forall_mem_cons.mp hplain
    have h : ReadsAs (.name (begun ++ [c])) rest [namedSegment (begun ++ [c] ++ rest)] := ih hrest
    rw [List.append_assoc] at h
    exact .nextOfName hc h

theorem readsAs_name (name : Name) : ReadsAs .start name.chars [name.segment] := by
  obtain ⟨chars, segment, hne, hplain, hmeans⟩ := name
  obtain ⟨c, rest, rfl⟩ := List.exists_cons_of_ne_nil hne
  obtain ⟨hc, hrest⟩ := List.forall_mem_cons.mp hplain
  obtain rfl := nameMeans_iff.mp hmeans
  exact .firstOfName hc (readsAs_rest_of_name hrest)

theorem readsAs_rest_of_bracket {begun : List Char} (hclose : ']' ∉ chars)
    (hmeans : BodyMeans (Text.trim (begun ++ chars)) segment) :
    ReadsAs (.bracket begun) (chars ++ [']']) [segment] := by
  induction chars generalizing begun with
  | nil =>
    rw [List.append_nil] at hmeans
    exact .closeBracket (fun raw => bracketSegment_eq_ok_iff.mpr hmeans) (.finish nofun)
  | cons c rest ih =>
    refine .insideBracket (List.ne_of_not_mem_cons hclose).symm
      (ih (List.not_mem_of_not_mem_cons hclose) ?_)
    rwa [List.append_assoc]

theorem readsAs_bracket (b : Bracket) : ReadsAs .start b.written [b.segment] :=
  .openBracket nofun (readsAs_rest_of_bracket b.close_not_mem b.means)

theorem ReadsAs.brackets (h : ReadsAs pending chars segments) (brackets : List Bracket) :
    ReadsAs pending (chars ++ brackets.flatMap Bracket.written)
      (segments ++ brackets.map Bracket.segment) := by
  induction brackets generalizing chars segments with
  | nil => simpa using h
  | cons b rest ih =>
    have hnext := ih (h.followed (readsAs_bracket b))
    simpa [Bracket.written] using hnext

theorem readsAs_piece (piece : Piece) : ReadsAs .start piece.written piece.segments := by
  obtain ⟨name, brackets, _⟩ := piece
  cases name with
  | some name => exact (readsAs_name name).brackets brackets
  | none =>
    have hstart : ReadsAs .start [] [] := .finish nofun
    exact hstart.brackets brackets

theorem readsAs_written {pieces : List Piece} (h : pieces ≠ []) :
    ReadsAs .start (written pieces) (Grammar.segments pieces) := by
  induction pieces with
  | nil => exact absurd rfl h
  | cons piece rest ih =>
    cases rest with
    | nil => simpa [written, Grammar.segments] using readsAs_piece piece
    | cons next rest =>
      have hrest := ih (List.cons_ne_nil next rest)
      have hjoined := (readsAs_piece piece).joined hrest (written_ne_nil (List.cons_ne_nil _ _))
        (.inr piece.written_ne_nil)
      simpa [written, Grammar.segments, List.intercalate_cons_cons] using hjoined

/-! ### What is read is written so -/

/-- What may come behind a part of a piece: brackets, and further pieces with a dot before each. -/
def Follows (chars : List Char) (segments : List Segment) : Prop :=
  ∃ (brackets : List Bracket) (pieces : List Piece),
    chars = brackets.flatMap Bracket.written ++
      pieces.flatMap (fun piece => '.' :: piece.written) ∧
    segments = brackets.map Bracket.segment ++ Grammar.segments pieces

def Completes : Pending → List Char → List Segment → Prop
  | .start, chars, segments =>
    ∃ pieces, chars = written pieces ∧ segments = Grammar.segments pieces
  | .name begun, chars, segments =>
    ∃ more rest segment after, chars = more ++ rest ∧ (∀ c ∈ more, IsPlain c) ∧
      NameMeans (begun ++ more) segment ∧ segments = segment :: after ∧ Follows rest after
  | .bracket begun, chars, segments =>
    ∃ more rest segment after, chars = more ++ ']' :: rest ∧ ']' ∉ more ∧
      BodyMeans (Text.trim (begun ++ more)) segment ∧ segments = segment :: after ∧
      Follows rest after
  | .closed, chars, segments => Follows chars segments

theorem Follows.nil : Follows [] [] := ⟨[], [], rfl, rfl⟩

theorem Follows.completes (h : Follows chars segments) (hstart : pending ≠ .start)
    (hout : ∀ begun, pending ≠ .bracket begun) :
    Completes pending chars (pending.finish ++ segments) := by
  cases pending with
  | start => exact absurd rfl hstart
  | bracket begun => exact absurd rfl (hout begun)
  | closed => exact h
  | name begun =>
    exact ⟨[], chars, namedSegment begun, segments, rfl, List.forall_mem_nil _,
      nameMeans_iff.mpr (by rw [List.append_nil]), rfl, h⟩

theorem completes_of_dot (h : Completes .start rest segments) (hne : rest ≠ [])
    (hstart : pending ≠ .start) (hout : ∀ begun, pending ≠ .bracket begun) :
    Completes pending ('.' :: rest) (pending.finish ++ segments) := by
  obtain ⟨pieces, rfl, rfl⟩ := h
  cases pieces with
  | nil => exact absurd rfl hne
  | cons piece pieces =>
    refine Follows.completes ⟨[], piece :: pieces, ?_, rfl⟩ hstart hout
    simp [written_cons]

theorem completes_of_openBracket (h : Completes (.bracket []) rest segments)
    (hout : ∀ begun, pending ≠ .bracket begun) :
    Completes pending ('[' :: rest) (pending.finish ++ segments) := by
  obtain ⟨body, rest, segment, after, rfl, hclose, hmeans, rfl, brackets, pieces, rfl, rfl⟩ := h
  let b : Bracket := ⟨body, segment, hclose, hmeans⟩
  have hchars : '[' :: (body ++ ']' :: (brackets.flatMap Bracket.written ++
      pieces.flatMap fun piece => '.' :: piece.written)) =
      (b :: brackets).flatMap Bracket.written ++
        pieces.flatMap fun piece => '.' :: piece.written := by
    simp [b, Bracket.written]
  rw [hchars]
  by_cases hstart : pending = .start
  · subst hstart
    refine ⟨⟨none, b :: brackets, .inr (List.cons_ne_nil _ _)⟩ :: pieces, ?_, ?_⟩
    · simp [written_cons, Piece.written]
    · simp [Pending.finish, Grammar.segments, Piece.segments, b]
  · refine Follows.completes ⟨b :: brackets, pieces, rfl, ?_⟩ hstart hout
    simp [b]

theorem completes_of_firstOfName {c : Char} (hc : IsPlain c)
    (h : Completes (.name [c]) rest segments) : Completes .start (c :: rest) segments := by
  obtain ⟨more, rest, segment, after, rfl, hplain, hmeans, rfl, brackets, pieces, rfl, rfl⟩ := h
  let name : Name := ⟨c :: more, segment, List.cons_ne_nil _ _,
    List.forall_mem_cons.mpr ⟨hc, hplain⟩, hmeans⟩
  refine ⟨⟨some name, brackets, .inl nofun⟩ :: pieces, ?_, ?_⟩
  · simp [written_cons, Piece.written, name]
  · simp [Grammar.segments, Piece.segments, name]

/-- Whatever is pending, the characters that are read complete it to pieces. -/
theorem completes_of_readsAs (h : ReadsAs pending chars segments) :
    Completes pending chars segments := by
  induction h with
  | @finish pending hout =>
    by_cases hstart : pending = .start
    · subst hstart
      exact ⟨[], rfl, rfl⟩
    · simpa using Follows.nil.completes hstart hout
  | dot hout hstart hne _ ih => exact completes_of_dot ih hne hstart hout
  | openBracket hout _ ih => exact completes_of_openBracket ih hout
  | @insideBracket begun c rest segments hc _ ih =>
    obtain ⟨more, rest, segment, after, rfl, hclose, hmeans, rfl, hfollows⟩ := ih
    rw [List.append_assoc] at hmeans
    exact ⟨c :: more, rest, segment, after, rfl,
      List.not_mem_cons_of_ne_of_not_mem hc.symm hclose, hmeans, rfl, hfollows⟩
  | @closeBracket begun rest segment segments hsegment _ ih =>
    refine ⟨[], rest, segment, segments, rfl, List.not_mem_nil, ?_, rfl, ih⟩
    rw [List.append_nil]
    exact bracketSegment_eq_ok_iff.mp (hsegment "")
  | firstOfName hc _ ih => exact completes_of_firstOfName hc ih
  | @nextOfName begun c rest segments hc _ ih =>
    obtain ⟨more, rest, segment, after, rfl, hplain, hmeans, rfl, hfollows⟩ := ih
    rw [List.append_assoc] at hmeans
    exact ⟨c :: more, rest, segment, after, rfl, List.forall_mem_cons.mpr ⟨hc, hplain⟩, hmeans,
      rfl, hfollows⟩

/-- A text is a path exactly if it is written as pieces, apart from blanks around it; the path has
the segments of any such pieces, and it is read again from the text that it keeps. -/
theorem parse_eq_ok_iff_written (text : String) (p : Path) :
    (parse text = .ok p ↔ ∃ pieces : List Piece, pieces ≠ [] ∧
      Text.trim text.toList = written pieces ∧ p.raw = String.ofList (written pieces) ∧
      p.segments = Grammar.segments pieces) ∧
    (parse text = .ok p → parse p.raw = .ok p) := by
  simp only [parse_eq_ok_iff]
  refine ⟨⟨?_, ?_⟩, ?_⟩
  · rintro ⟨hne, hraw, hreads⟩
    obtain ⟨pieces, hpieces, hsegments⟩ := completes_of_readsAs hreads
    rw [hpieces] at hne hraw
    refine ⟨pieces, ?_, hpieces, hraw, hsegments⟩
    rintro rfl
    exact hne rfl
  · rintro ⟨pieces, hne, htrim, hraw, hsegments⟩
    rw [htrim, hsegments]
    exact ⟨written_ne_nil hne, hraw, readsAs_written hne⟩
  · rintro ⟨hne, hraw, hreads⟩
    rw [hraw, String.toList_ofList, Text.trim_trim]
    exact ⟨hne, rfl, hreads⟩

/-- A name with a blank inside, an index with a sign and blanks, and both ways to write any child,
with blanks around all of it. -/
theorem parse_eq_ok_iff_written_blanks :
    let name : Name :=
      ⟨['é', ' ', 'x'], .property "é x", by decide, by simp [IsPlain], .property (by decide)⟩
    let star : Name := ⟨['*'], .wildcard, by decide, by simp [IsPlain], .wildcard⟩
    let seven : BodyMeans (['+'] ++ ['0', '7']) (.index 7) :=
      .index (.inr rfl) (by decide) (List.all_eq_true.mp rfl) (by decide) (by decide)
    let pieces : List Piece :=
      [⟨some name, [⟨[' ', '+', '0', '7'], .index 7, by decide, seven⟩,
        ⟨['*'], .wildcard, by decide, .wildcard⟩], by decide⟩, ⟨some star, [], by decide⟩]
    let p : Path := ⟨"é x[ +07][*].*", [.property "é x", .index 7, .wildcard, .wildcard]⟩
    Text.trim "\té x[ +07][*].* ".toList = written pieces ∧
      parse "\té x[ +07][*].* " = .ok p ∧ parse p.raw = .ok p := by
  intro name star seven pieces p
  have htrim : Text.trim "\té x[ +07][*].* ".toList = written pieces := by rfl
  obtain ⟨hiff, hagain⟩ := parse_eq_ok_iff_written "\té x[ +07][*].* " p
  have hparse := hiff.mpr ⟨pieces, List.cons_ne_nil _ _, htrim, by rfl, by rfl⟩
  exact ⟨htrim, hparse, hagain hparse⟩

end TemplateAudit.Path
