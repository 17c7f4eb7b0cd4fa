import TemplateAudit.Proofs.Document.Places
import TemplateAudit.Proofs.Lines.Tokens

/-! # What is left of a text

Reading goes on with a suffix of the characters it started with, and the places of a layout are
suffixes as well. So a place is known from how much of the text comes before it.
-/

namespace TemplateAudit

namespace Json

variable {chars rest : List Char}

theorem skipSpace_suffix (chars : List Char) : skipSpace chars <:+ chars :=
  List.dropWhile_suffix _

theorem suffix_of_skipSpace {c : Char} (h : skipSpace chars = c :: rest) : rest <:+ chars :=
  (List.suffix_cons c rest).trans (h ▸ skipSpace_suffix chars)

theorem suffix_of_nextItem_end {first : Bool} (h : nextItem first chars = .ok (false, rest)) :
    rest <:+ chars := suffix_of_skipSpace (nextItem_end h)

theorem suffix_of_nextItem {first : Bool} {start : List Char}
    (h : nextItem first chars = .ok (true, start)) : start <:+ chars := by
  rcases nextItem_more h with ⟨-, rfl⟩ | ⟨-, after, hcomma, rfl⟩
  · exact skipSpace_suffix chars
  · exact (skipSpace_suffix after).trans (suffix_of_skipSpace hcomma)

theorem suffix_of_nextMember_end {first : Bool} (h : nextMember first chars = .ok (false, rest)) :
    rest <:+ chars := suffix_of_skipSpace (nextMember_end h)

theorem suffix_of_nextMember {first : Bool} {inside : List Char}
    (h : nextMember first chars = .ok (true, inside)) : '"' :: inside <:+ chars := by
  rcases nextMember_more h with ⟨-, hquote⟩ | ⟨-, after, hcomma, hquote⟩
  · exact hquote ▸ skipSpace_suffix chars
  · exact (hquote ▸ skipSpace_suffix after : '"' :: inside <:+ after).trans
      (suffix_of_skipSpace hcomma)

theorem suffix_of_readString {s : List Char} (h : readString chars = .ok (s, rest)) :
    rest <:+ chars := (scanString_of_ok h).2.suffix

theorem suffix_of_scalarAt {v : Json} (h : v.ScalarAt chars rest) : rest <:+ chars := by
  rcases wordAt_or_string h with hword | ⟨s, tail, rfl, hs⟩
  · exact hword.passes.suffix
  · exact (suffix_of_readString hs).trans (List.suffix_cons _ _)

theorem suffix_of_member {text inside afterName afterColon s : List Char}
    (hquote : '"' :: inside <:+ text) (hname : readString inside = .ok (s, afterName))
    (hcolon : readColon afterName = .ok ((), afterColon)) :
    afterName <:+ text ∧ afterColon <:+ text := by
  have hinside : inside <:+ text := (List.suffix_cons _ _).trans hquote
  have hn : afterName <:+ text := (suffix_of_readString hname).trans hinside
  exact ⟨hn, (suffix_of_skipSpace (skipSpace_of_readColon hcolon)).trans hn⟩

end Json

namespace Layout

open Json

variable {text chars rest : List Char}

def AllIn (text : List Char) (ps : List (List Step × List Char)) : Prop := ∀ p ∈ ps, p.2 <:+ text

theorem allIn_nil (text : List Char) : AllIn text [] := List.forall_mem_nil _

theorem AllIn.append {ps qs : List (List Step × List Char)} (hp : AllIn text ps)
    (hq : AllIn text qs) : AllIn text (ps ++ qs) := List.forall_mem_append.mpr ⟨hp, hq⟩

theorem AllIn.cons {p : List Step × List Char} {ps : List (List Step × List Char)}
    (h : p.2 <:+ text) (hps : AllIn text ps) : AllIn text (p :: ps) :=
  List.forall_mem_cons.mpr ⟨h, hps⟩

theorem AllIn.map_under {ps : List (List Step × List Char)} (h : AllIn text ps) (step : Step) :
    AllIn text (ps.map (under step)) := by
  intro p hp
  obtain ⟨q, hq, rfl⟩ := List.mem_map.mp hp
  exact h q hq

/-- Reading a layout in a text stays in the text, with all the places inside it. -/
def StaysIn (text : List Char) (y : Layout) : Prop :=
  ∀ {chars rest}, y.ReadAt chars rest → chars <:+ text → rest <:+ text ∧ AllIn text y.inner

theorem itemsStayIn {items : List (List Char × Layout)} (ih : ∀ item ∈ items, StaysIn text item.2)
    {first : Bool} (position : Nat) (h : ItemsReadAt items first chars rest)
    (hc : chars <:+ text) : rest <:+ text ∧ AllIn text (itemPlaces position items) := by
  induction items generalizing first position chars with
  | nil =>
    rw [ItemsReadAt] at h
    exact ⟨(suffix_of_nextItem_end h).trans hc, allIn_nil text⟩
  | cons item items ihs =>
    obtain ⟨start, y⟩ := item
    obtain ⟨hy, hitems⟩ := List.forall_mem_cons.mp ih
    rw [ItemsReadAt] at h
    obtain ⟨hnext, after, hread, h⟩ := h
    have hstart : start <:+ text := (suffix_of_nextItem hnext).trans hc
    obtain ⟨hafter, hinner⟩ := hy hread hstart
    obtain ⟨hrest, hplaces⟩ := ihs hitems (position + 1) h hafter
    rw [itemPlaces_cons]
    exact ⟨hrest, ((AllIn.cons hstart hinner).map_under _).append hplaces⟩

theorem membersStayIn {members : List (String × List Char × Layout)}
    (ih : ∀ m ∈ members, StaysIn text m.2.2) {first : Bool}
    (h : MembersReadAt members first chars rest) (hc : chars <:+ text) :
    rest <:+ text ∧ AllIn text (memberPlaces members) := by
  induction members generalizing first chars with
  | nil =>
    rw [MembersReadAt] at h
    exact ⟨(suffix_of_nextMember_end h).trans hc, allIn_nil text⟩
  | cons m members ihs =>
    obtain ⟨name, quote, y⟩ := m
    obtain ⟨hy, hmembers⟩ := List.forall_mem_cons.mp ih
    rw [MembersReadAt] at h
    obtain ⟨inside, afterName, afterColon, after, hnext, rfl, hname, hcolon, hread, h⟩ := h
    have hquote : '"' :: inside <:+ text := (suffix_of_nextMember hnext).trans hc
    have hvalue : skipSpace afterColon <:+ text :=
      (skipSpace_suffix _).trans (suffix_of_member hquote hname hcolon).2
    obtain ⟨hafter, hinner⟩ := hy hread hvalue
    obtain ⟨hrest, hplaces⟩ := ihs hmembers h hafter
    rw [memberPlaces_cons]
    exact ⟨hrest, ((AllIn.cons hquote hinner).map_under _).append hplaces⟩

theorem staysIn (text : List Char) (y : Layout) : StaysIn text y := by
  induction y using descend with
  | scalar v plain => exact fun h hc => ⟨(suffix_of_scalarAt h).trans hc, allIn_nil text⟩
  | array items ih =>
    rintro chars rest ⟨inside, rfl, h⟩ hc
    exact itemsStayIn ih 0 h ((List.suffix_cons _ _).trans hc)
  | object members ih =>
    rintro chars rest ⟨inside, rfl, h⟩ hc
    exact membersStayIn ih h ((List.suffix_cons _ _).trans hc)

/-- The places of the layout of a text are suffixes of the text. -/
theorem suffix_of_place? {y : Layout} (h : y.IsOf text) {steps : List Step}
    {p : List Char × Layout} (hp : y.place? (skipSpace text) steps = some p) : p.1 <:+ text := by
  obtain ⟨rest, hread, -⟩ := h
  have hinner := (staysIn text y hread (skipSpace_suffix text)).2
  have hplaces : AllIn text (places (skipSpace text) y) := .cons (skipSpace_suffix text) hinner
  exact hplaces _ (mem_of_lastFor? (lastFor?_places hp))

end Layout

end TemplateAudit
