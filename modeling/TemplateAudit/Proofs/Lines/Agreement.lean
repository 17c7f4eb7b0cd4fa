import Mathlib.Data.Set.Card
import TemplateAudit.Proofs.Lines.Simulation

/-! # The lines of a document

In a text that is read as a document, every location of the document is found at the line on which
it is written, and without repeated names nothing else is found.
-/

namespace TemplateAudit

theorem length_eraseDups {α : Type} [DecidableEq α] (xs : List α) :
    xs.eraseDups.length = xs.toFinset.card := by
  induction hlen : xs.length using Nat.strong_induction_on generalizing xs with
  | _ n ih =>
    cases xs with
    | nil => rfl
    | cons x xs =>
      have hle : (xs.filter fun y => !y == x).length < n := by
        rw [← hlen]
        exact Nat.lt_succ_of_le (List.length_filter_le _ _)
      have hset : (x :: xs).toFinset = insert x (xs.filter fun y => !y == x).toFinset := by
        ext y
        by_cases hy : y = x <;> simp [hy]
      rw [List.eraseDups_cons, List.length_cons, ih _ hle _ rfl, hset,
        Finset.card_insert_of_notMem (by simp)]

namespace LineIndex

variable {text : String} {y : Layout}

theorem find?_build (h : y.IsOf text.toList) (l : Location) :
    (build text).find? l =
      (lastFor? l.steps (y.places (Json.skipSpace text.toList))).map (lineAt text.toList) := by
  rw [build, ofChars_eq_noteAll h]
  exact (find?_noteAll _ .root _ _ l.steps).trans Option.or_none

/-- A location with a place is found on the line of that place. -/
theorem find?_build_of_place? (h : y.IsOf text.toList) {l : Location} {p : List Char × Layout}
    (hp : y.place? (Json.skipSpace text.toList) l.steps = some p) :
    ∃ before, text.toList = before ++ p.1 ∧
      (build text).find? l = some (1 + before.count '\n') := by
  obtain ⟨before, hbefore⟩ := Layout.suffix_of_place? h hp
  refine ⟨before, hbefore.symm, ?_⟩
  rw [find?_build h, Layout.lastFor?_places hp, Option.map_some, ← hbefore, lineAt_append]

theorem has_iff_isSome_place? (start : List Char) (y : Layout) (l : Location) :
    y.value.Has l ↔ (y.place? start l.steps).isSome = true := by
  rw [Json.Has, Layout.at?_value start, Option.isSome_map]

theorem isSome_find?_build (h : y.IsOf text.toList) (hn : y.NoRepeats) (l : Location) :
    ((build text).find? l).isSome = true ↔ y.value.Has l := by
  rw [find?_build h, Layout.lastFor?_places_of_noRepeats hn,
    has_iff_isSome_place? (Json.skipSpace text.toList), Option.isSome_map, Option.isSome_map]

theorem size_eq_ncard (index : LineIndex) :
    index.size = {l | (index.find? l).isSome = true}.ncard := by
  have hset : {l | (index.find? l).isSome = true} =
      ((index.entries.map (·.1)).toFinset : Set Location) := by
    ext l
    simp only [Set.mem_ofPred_eq, isSome_find?_iff, List.coe_toFinset]
  rw [hset, Set.ncard_coe_finset, size, length_eraseDups]

/-- An index has the lines of a text with this layout: it finds every location of the document on
the line where its place begins, and without repeated names it finds nothing else. -/
structure Describes (index : LineIndex) (text : String) (y : Layout) : Prop where
  found : ∀ l, y.value.Has l → ∃ before start z,
    y.place? (Json.skipSpace text.toList) l.steps = some (start, z) ∧
      text.toList = before ++ start ∧ index.find? l = some (1 + before.count '\n')
  only : y.NoRepeats → ∀ l, (index.find? l).isSome = true ↔ y.value.Has l
  size : y.NoRepeats → index.size = {l | y.value.Has l}.ncard

theorem describes_build (h : y.IsOf text.toList) : (build text).Describes text y where
  found := by
    intro l hl
    rw [has_iff_isSome_place? (Json.skipSpace text.toList), Option.isSome_iff_exists] at hl
    obtain ⟨⟨start, z⟩, hp⟩ := hl
    obtain ⟨before, hbefore, hfind⟩ := find?_build_of_place? h hp
    exact ⟨before, start, z, hp, hbefore, hfind⟩
  only := isSome_find?_build h
  size := by
    intro hn
    simp only [size_eq_ncard, isSome_find?_build h hn]

/-- The lines found in the text of a document are those of its only layout. -/
theorem build_agrees_with_parse {document : Json} (h : Json.parse text = .ok document) :
    ∃ y : Layout, y.IsOf text.toList ∧ (∀ z : Layout, z.IsOf text.toList → z = y) ∧
      y.value = document ∧ (build text).Describes text y := by
  obtain ⟨y, hy, hvalue⟩ := Layout.exists_isOf h
  exact ⟨y, hy, fun z hz => Layout.isOf_unique hz hy, hvalue, describes_build hy⟩

theorem build_agrees_with_parse_repeatedName :
    Json.parse "\x7b\"a\": true,\n\"a\": [\nnull]\x7d" = .ok (.object [("a", .array [.null])]) ∧
      ∃ y : Layout, y.IsOf "\x7b\"a\": true,\n\"a\": [\nnull]\x7d".toList ∧
        (∀ z : Layout, z.IsOf "\x7b\"a\": true,\n\"a\": [\nnull]\x7d".toList → z = y) ∧
        y.value = .object [("a", .array [.null])] ∧
        (build "\x7b\"a\": true,\n\"a\": [\nnull]\x7d").Describes
          "\x7b\"a\": true,\n\"a\": [\nnull]\x7d" y :=
  ⟨rfl, build_agrees_with_parse rfl⟩

end LineIndex

end TemplateAudit
