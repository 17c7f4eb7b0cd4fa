import TemplateAudit.Proofs.Lines.Notes

/-! # The pass follows the layout

Where a value may begin, the pass over it opens and closes the same arrays and objects as the
layout, ends in the frames it began with, and notes exactly the places inside the value. For a
whole text it therefore notes the places of the layout and nothing else.
-/

namespace TemplateAudit.LineIndex

open Json (skipSpace nextItem nextMember readString readColon)
open Layout (itemPlaces memberPlaces itemPlaces_cons memberPlaces_cons places)

variable {text chars rest : List Char} {frames : List Frame} {index : LineIndex} {l : Location}

def resume (text : List Char) (frames : List Frame) (index : LineIndex) (chars : List Char) :
    Scanner :=
  (⟨frames, lineAt text chars, index⟩ : Scanner).scan chars

@[simp] theorem resume_nil :
    (resume text frames index []).index = index := rfl

theorem resume_skipSpace (h : chars <:+ text) :
    resume text frames index chars = resume text frames index (skipSpace chars) := by
  induction chars with
  | nil => rfl
  | cons c rest ih =>
    rw [skipSpace, List.dropWhile_cons]
    split
    · next hc =>
      rw [← skipSpace, ← ih ((List.suffix_cons c rest).trans h)]
      by_cases hline : c = '\n'
      · subst hline
        rw [resume, Scanner.scan_newline, Scanner.newline, resume, lineAt_newline h]
      · rw [resume, Scanner.scan_space _ hc hline, resume,
          lineAt_cons (by simpa [staysOnLine] using hline)]
    · rfl

theorem resume_comma_array {next : Nat} :
    resume text (.array l next :: frames) index (',' :: rest) =
      resume text (.array l next :: frames) index rest := by
  rw [resume, Scanner.scan_comma, Scanner.comma, lineAt_cons rfl, resume]

theorem resume_comma_object {key : Option String} {expectKey : Bool} :
    resume text (.object l key expectKey :: frames) index (',' :: rest) =
      resume text (.object l none true :: frames) index rest := by
  rw [resume, Scanner.scan_comma, Scanner.comma, lineAt_cons rfl, resume]

theorem resume_colon {key : Option String} {expectKey : Bool} :
    resume text (.object l key expectKey :: frames) index (':' :: rest) =
      resume text (.object l key false :: frames) index rest := by
  rw [resume, Scanner.scan_colon, Scanner.colon, lineAt_cons rfl, resume]

theorem resume_closeArray {frame : Frame} :
    resume text (frame :: frames) index (']' :: rest) = resume text frames index rest := by
  rw [resume, Scanner.scan_closeArray, Scanner.close, lineAt_cons rfl, resume, List.tail_cons]

theorem resume_closeObject {frame : Frame} :
    resume text (frame :: frames) index ('\x7d' :: rest) = resume text frames index rest := by
  rw [resume, Scanner.scan_closeObject, Scanner.close, lineAt_cons rfl, resume, List.tail_cons]

theorem resume_name {name : String} (h : readString chars = .ok (name.toList, rest)) :
    resume text (.object l none true :: frames) index ('"' :: chars) =
      resume text (.object l (some name) true :: frames)
        (index.insert (l.key name) (lineAt text ('"' :: chars))) rest := by
  obtain ⟨hscan, hpass⟩ := Json.scanString_of_ok h
  rw [resume, Scanner.scan_string, hscan, String.ofList_toList, Scanner.string, resume,
    lineAt_of_passes (.cons rfl hpass)]

theorem resume_nextItem {first : Bool} {next : Nat} {start : List Char}
    (h : nextItem first chars = .ok (true, start)) (hc : chars <:+ text) :
    resume text (.array l next :: frames) index chars =
      resume text (.array l next :: frames) index start := by
  rw [resume_skipSpace hc]
  rcases Json.nextItem_more h with ⟨-, rfl⟩ | ⟨-, rest, hcomma, rfl⟩
  · rfl
  · have hrest : rest <:+ text := (Json.suffix_of_skipSpace hcomma).trans hc
    rw [hcomma, resume_comma_array, resume_skipSpace hrest]

theorem resume_nextMember {first : Bool} {key : Option String} {expectKey : Bool}
    {inside : List Char} (hfirst : first = true → key = none ∧ expectKey = true)
    (h : nextMember first chars = .ok (true, inside)) (hc : chars <:+ text) :
    resume text (.object l key expectKey :: frames) index chars =
      resume text (.object l none true :: frames) index ('"' :: inside) := by
  rw [resume_skipSpace hc]
  rcases Json.nextMember_more h with ⟨hf, hmore⟩ | ⟨-, rest, hcomma, hmore⟩
  · obtain ⟨rfl, rfl⟩ := hfirst hf
    rw [hmore]
  · have hrest : rest <:+ text := (Json.suffix_of_skipSpace hcomma).trans hc
    rw [hcomma, resume_comma_object, resume_skipSpace hrest, hmore]

theorem resume_readColon {key : Option String} {expectKey : Bool} {afterColon : List Char}
    (h : readColon chars = .ok ((), afterColon)) (hc : chars <:+ text)
    (hv : afterColon <:+ text) :
    resume text (.object l key expectKey :: frames) index chars =
      resume text (.object l key false :: frames) index (skipSpace afterColon) := by
  rw [resume_skipSpace hc, Json.skipSpace_of_readColon h, resume_colon, resume_skipSpace hv]

/-- A string that comes next is not the name of a member. -/
def AwaitsValue : List Frame → Prop
  | .object _ _ true :: _ => False
  | _ => True

theorem string_of_awaitsValue {s : Scanner} (h : AwaitsValue s.frames) (t : String) :
    s.string t = s.enterValue.2 := by
  rw [Scanner.string]
  split
  · next he =>
    rw [he] at h
    exact h.elim
  · rfl

theorem delimited_nil : Delimited [] := fun _ _ h => nomatch h

theorem delimited_cons {d : Char} (hd : Scanner.endsScalar d = true) : Delimited (d :: rest) := by
  rintro c tail h
  exact (List.cons.inj h).1 ▸ hd

theorem delimited_of_skipSpace (h : Delimited (skipSpace chars)) : Delimited chars := by
  rintro c tail rfl
  rw [skipSpace, List.dropWhile_cons] at h
  split at h
  · next hc =>
    simp only [Json.isSpace, Bool.or_eq_true, decide_eq_true_eq] at hc
    rcases hc with ((rfl | rfl) | rfl) | rfl <;> rfl
  · exact h c tail rfl

theorem delimited_of_itemsReadAt {items : List (List Char × Layout)}
    (h : Layout.ItemsReadAt items false chars rest) : Delimited chars := by
  cases items with
  | nil =>
    rw [Layout.ItemsReadAt] at h
    exact delimited_of_skipSpace (Json.nextItem_end h ▸ delimited_cons rfl)
  | cons item items =>
    obtain ⟨start, y⟩ := item
    rw [Layout.ItemsReadAt] at h
    rcases Json.nextItem_more h.1 with ⟨hf, -⟩ | ⟨-, after, hcomma, -⟩
    · cases hf
    · exact delimited_of_skipSpace (hcomma ▸ delimited_cons rfl)

theorem delimited_of_membersReadAt {members : List (String × List Char × Layout)}
    (h : Layout.MembersReadAt members false chars rest) : Delimited chars := by
  cases members with
  | nil =>
    rw [Layout.MembersReadAt] at h
    exact delimited_of_skipSpace (Json.nextMember_end h ▸ delimited_cons rfl)
  | cons m members =>
    obtain ⟨name, quote, y⟩ := m
    rw [Layout.MembersReadAt] at h
    obtain ⟨inside, -, -, -, hnext, -⟩ := h
    rcases Json.nextMember_more hnext with ⟨hf, -⟩ | ⟨-, after, hcomma, -⟩
    · cases hf
    · exact delimited_of_skipSpace (hcomma ▸ delimited_cons rfl)

/-- The pass follows a layout wherever it awaits a value. -/
def Follows (text : List Char) (y : Layout) : Prop :=
  ∀ {chars rest frames frames' index index' l}, y.ReadAt chars rest → Delimited rest →
    chars <:+ text → AwaitsValue frames →
    (⟨frames, lineAt text chars, index⟩ : Scanner).enterValue =
      (l, ⟨frames', lineAt text chars, index'⟩) →
    resume text frames index chars =
      resume text frames' (noteAll (lineAt text) l y.inner index') rest

theorem follows_items {items : List (List Char × Layout)}
    (ih : ∀ item ∈ items, Follows text item.2) {first : Bool} {next : Nat}
    (h : Layout.ItemsReadAt items first chars rest) (hc : chars <:+ text) :
    resume text (.array l next :: frames) index chars =
      resume text frames (noteAll (lineAt text) l (itemPlaces next items) index) rest := by
  induction items generalizing first next index chars with
  | nil =>
    rw [Layout.ItemsReadAt] at h
    rw [resume_skipSpace hc, Json.nextItem_end h, resume_closeArray, itemPlaces, noteAll_nil]
  | cons item items ihs =>
    obtain ⟨start, y⟩ := item
    obtain ⟨hy, hitems⟩ := List.forall_mem_cons.mp ih
    rw [Layout.ItemsReadAt] at h
    obtain ⟨hnext, after, hread, h⟩ := h
    have hs : start <:+ text := (Json.suffix_of_nextItem hnext).trans hc
    have hvalue : resume text (.array l next :: frames) index start =
        resume text (.array l (next + 1) :: frames) (noteAll (lineAt text) (l.index next) y.inner
          (index.insert (l.index next) (lineAt text start))) after :=
      hy hread (delimited_of_itemsReadAt h) hs trivial rfl
    have hafter : after <:+ text := (Layout.staysIn text y hread hs).1
    rw [resume_nextItem hnext hc, hvalue, ihs hitems h hafter, itemPlaces_cons, noteAll_append,
      noteAll_map_under, noteAll_places]
    rfl

theorem follows_members {members : List (String × List Char × Layout)}
    (ih : ∀ m ∈ members, Follows text m.2.2) {first : Bool} {key : Option String}
    {expectKey : Bool} (hfirst : first = true → key = none ∧ expectKey = true)
    (h : Layout.MembersReadAt members first chars rest) (hc : chars <:+ text) :
    resume text (.object l key expectKey :: frames) index chars =
      resume text frames (noteAll (lineAt text) l (memberPlaces members) index) rest := by
  induction members generalizing first key expectKey index chars with
  | nil =>
    rw [Layout.MembersReadAt] at h
    rw [resume_skipSpace hc, Json.nextMember_end h, resume_closeObject, memberPlaces, noteAll_nil]
  | cons m members ihs =>
    obtain ⟨name, quote, y⟩ := m
    obtain ⟨hy, hmembers⟩ := List.forall_mem_cons.mp ih
    rw [Layout.MembersReadAt] at h
    obtain ⟨inside, afterName, afterColon, after, hnext, rfl, hname, hcolon, hread, h⟩ := h
    have hquote : '"' :: inside <:+ text := (Json.suffix_of_nextMember hnext).trans hc
    obtain ⟨hn, hv⟩ := Json.suffix_of_member hquote hname hcolon
    have hvs : skipSpace afterColon <:+ text := (Json.skipSpace_suffix _).trans hv
    have hvalue : ∀ {index : LineIndex},
        resume text (.object l (some name) false :: frames) index (skipSpace afterColon) =
          resume text (.object l (some name) false :: frames)
            (noteAll (lineAt text) (l.key name) y.inner index) after :=
      hy hread (delimited_of_membersReadAt h) hvs trivial rfl
    have hafter : after <:+ text := (Layout.staysIn text y hread hvs).1
    rw [resume_nextMember hfirst hnext hc, resume_name hname, resume_readColon hcolon hn hv, hvalue,
      ihs hmembers (fun hf => absurd hf Bool.false_ne_true) h hafter, memberPlaces_cons,
      noteAll_append, noteAll_map_under, noteAll_places]
    rfl

theorem follows_scalar {v : Json} (h : v.ScalarAt chars rest) (hd : Delimited rest)
    {frames' : List Frame} {index' : LineIndex} (hv : AwaitsValue frames)
    (he : (⟨frames, lineAt text chars, index⟩ : Scanner).enterValue =
      (l, ⟨frames', lineAt text chars, index'⟩)) :
    resume text frames index chars = resume text frames' index' rest := by
  rcases Json.wordAt_or_string h with hword | ⟨s, tail, rfl, hs⟩
  · have hline : lineAt text chars = lineAt text rest :=
      lineAt_of_passes (hword.passes.mono fun _ => staysOnLine_of_isPlain)
    rw [resume, Scanner.scan_word _ hword hd, he, hline, resume]
  · obtain ⟨hscan, hpass⟩ := Json.scanString_of_ok hs
    rw [resume, Scanner.scan_string, hscan, string_of_awaitsValue hv, he,
      lineAt_of_passes (.cons rfl hpass), resume]

/-- The pass over a value notes the places inside it. -/
theorem follows (text : List Char) (y : Layout) : Follows text y := by
  induction y using Layout.descend with
  | scalar v plain =>
    intro chars rest frames frames' index index' l h hd hc hv he
    exact follows_scalar h hd hv he
  | array items ih =>
    rintro chars rest frames frames' index index' l ⟨inside, rfl, h⟩ hd hc hv he
    have hopen : resume text frames index ('[' :: inside) =
        resume text (.array l 0 :: frames') index' inside := by
      rw [resume, Scanner.scan_openArray, Scanner.openArray, he, lineAt_cons rfl, resume]
    rw [hopen, follows_items ih h ((List.suffix_cons _ _).trans hc)]
    rfl
  | object members ih =>
    rintro chars rest frames frames' index index' l ⟨inside, rfl, h⟩ hd hc hv he
    have hopen : resume text frames index ('\x7b' :: inside) =
        resume text (.object l none true :: frames') index' inside := by
      rw [resume, Scanner.scan_openObject, Scanner.openObject, he, lineAt_cons rfl, resume]
    rw [hopen, follows_members ih (fun _ => ⟨rfl, rfl⟩) h ((List.suffix_cons _ _).trans hc)]
    rfl

/-- The lines of a text are those of the places of its layout, in the order of the text. -/
theorem ofChars_eq_noteAll {y : Layout} (h : y.IsOf text) :
    ofChars text = noteAll (lineAt text) .root (places (skipSpace text) y) .empty := by
  obtain ⟨rest, hread, hend⟩ := h
  have hs : skipSpace text <:+ text := Json.skipSpace_suffix text
  have hrest : rest <:+ text := (Layout.staysIn text y hread hs).1
  have hstart : ofChars text = (resume text [] .empty text).index := by
    rw [ofChars, Scanner.start, resume, lineAt, Nat.sub_self]
  have hvalue : resume text [] .empty (skipSpace text) =
      resume text [] (noteAll (lineAt text) .root y.inner
        (LineIndex.empty.insert .root (lineAt text (skipSpace text)))) rest :=
    follows text y hread (delimited_of_skipSpace (hend ▸ delimited_nil)) hs trivial rfl
  rw [hstart, resume_skipSpace (List.suffix_refl _), hvalue, resume_skipSpace hrest, hend,
    resume_nil, noteAll_places]

end TemplateAudit.LineIndex
