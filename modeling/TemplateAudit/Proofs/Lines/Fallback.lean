import TemplateAudit.Proofs.Lines.Attribution

/-! # Lines of what is absent

A location without a value has the line of the nearest location around it that is written in the
text. A value that a repeated name overwrites is written as well, although it does not exist in
the document, so that location may lie deeper than all that exist. Without anything overwritten
around it, what is absent has the line of the nearest location that exists.
-/

namespace TemplateAudit

namespace Location

variable {P Q : Location → Prop} {l a b : Location}

/-- Among a location and those enclosing it, the longest one with a property. -/
structure Nearest (P : Location → Prop) (l a : Location) : Prop where
  around : a.steps <+: l.steps
  holds : P a
  longest : ∀ b : Location, b.steps <+: l.steps → P b → b.steps.length ≤ a.steps.length

theorem exists_nearest (hroot : P root) (l : Location) : ∃ a, Nearest P l a := by
  obtain ⟨steps⟩ := l
  induction steps using List.reverseRecOn with
  | nil =>
    refine ⟨root, List.prefix_refl _, hroot, ?_⟩
    intro b hb _
    exact hb.length_le
  | append_singleton steps step ih =>
    by_cases hl : P ⟨steps ++ [step]⟩
    · exact ⟨_, List.prefix_refl _, hl, fun b hb _ => hb.length_le⟩
    · obtain ⟨a, ha⟩ := ih
      refine ⟨a, ha.around.trans (List.prefix_append _ _), ha.holds, ?_⟩
      intro b hb hP
      rcases List.prefix_concat_iff.mp hb with he | hb
      · obtain ⟨bsteps⟩ := b
        obtain rfl : bsteps = steps ++ [step] := he
        exact absurd hP hl
      · exact ha.longest b hb hP

theorem Nearest.prefix_of_imp (hPQ : ∀ c, P c → Q c) (ha : Nearest P l a) (hb : Nearest Q l b) :
    a.steps <+: b.steps :=
  List.prefix_of_prefix_length_le ha.around hb.around
    (hb.longest a ha.around (hPQ a ha.holds))

theorem ancestors_concat (steps : List Step) (step : Step) :
    ancestors ⟨steps ++ [step]⟩ = ⟨steps⟩ :: ancestors ⟨steps⟩ := by
  have htake : ∀ n ∈ (List.range steps.length).reverse,
      (⟨(steps ++ [step]).take n⟩ : Location) = ⟨steps.take n⟩ := by
    intro n hn
    have hlt : n < steps.length := List.mem_range.mp (List.mem_reverse.mp hn)
    rw [List.take_append_of_le_length hlt.le]
  rw [ancestors, List.length_append, List.length_singleton, List.range_succ, List.reverse_append,
    List.reverse_singleton, List.singleton_append, List.map_cons, List.take_left',
    List.map_congr_left htake, ancestors]
  rfl

end Location

namespace LineIndex

open Location (Nearest)

variable {index : LineIndex} {l a : Location}

theorem lineOf_concat (index : LineIndex) (steps : List Step) (step : Step) :
    index.lineOf ⟨steps ++ [step]⟩ =
      (index.find? ⟨steps ++ [step]⟩).getD (index.lineOf ⟨steps⟩) := by
  rw [lineOf, Location.ancestors_concat, List.findSome?_cons, lineOf]
  cases index.find? ⟨steps ++ [step]⟩ <;> rfl

theorem lineOf_append_of_none {steps rest : List Step}
    (h : ∀ more, more ≠ [] → more <+: rest → index.find? ⟨steps ++ more⟩ = none) :
    index.lineOf ⟨steps ++ rest⟩ = index.lineOf ⟨steps⟩ := by
  induction rest using List.reverseRecOn with
  | nil => rw [List.append_nil]
  | append_singleton rest last ih =>
    have hnone : index.find? ⟨steps ++ (rest ++ [last])⟩ = none :=
      h _ (List.append_ne_nil_of_right_ne_nil _ (List.cons_ne_nil _ _)) (List.prefix_refl _)
    rw [← List.append_assoc] at hnone ⊢
    rw [lineOf_concat, hnone, Option.getD_none]
    refine ih ?_
    intro more hne hmore
    exact h more hne (hmore.trans (List.prefix_append _ _))

theorem lineOf_eq_of_nearest (h : Nearest (fun b => (index.find? b).isSome = true) l a) :
    index.lineOf l = index.lineOf a := by
  obtain ⟨lsteps⟩ := l
  obtain ⟨asteps⟩ := a
  obtain ⟨rest, hrest⟩ := h.around
  obtain rfl : asteps ++ rest = lsteps := hrest
  refine lineOf_append_of_none ?_
  intro more hne hmore
  by_contra hfound
  have hle : (asteps ++ more).length ≤ asteps.length :=
    h.longest ⟨asteps ++ more⟩ ((List.prefix_append_right_inj asteps).mpr hmore)
      (Option.isSome_iff_ne_none.mpr hfound)
  have hpos := List.length_pos_iff.mpr hne
  rw [List.length_append] at hle
  omega

end LineIndex

namespace Layout

variable {start : List Char} {y : Layout}

/-- Some steps lead to something written, through any of the members of a repeated name. -/
def Writes : Layout → List Step → Prop
  | _, [] => True
  | y, step :: rest => ∃ part ∈ y.parts, part.1 = step ∧ Writes part.2.2 rest

theorem writes_iff_mem_places (start : List Char) {steps : List Step} :
    y.Writes steps ↔ ∃ p ∈ places start y, p.1 = steps := by
  induction steps generalizing start y with
  | nil =>
    rw [Writes]
    exact ⟨fun _ => ⟨([], start), List.mem_cons_self, rfl⟩, fun _ => trivial⟩
  | cons step rest ih =>
    rw [Writes, places, inner_eq_within]
    constructor
    · rintro ⟨part, hpart, rfl, hrest⟩
      obtain ⟨p, hp, rfl⟩ := (ih part.2.1).mp hrest
      refine ⟨under part.1 p, List.mem_cons_of_mem _ ?_, rfl⟩
      exact List.mem_flatMap.mpr ⟨part, hpart, List.mem_map.mpr ⟨p, hp, rfl⟩⟩
    · rintro ⟨p, hp, hsteps⟩
      rcases List.mem_cons.mp hp with rfl | hp
      · cases hsteps
      · obtain ⟨part, hpart, hp⟩ := List.mem_flatMap.mp hp
        obtain ⟨q, hq, rfl⟩ := List.mem_map.mp hp
        obtain ⟨hstep, hrest⟩ := List.cons.inj hsteps
        exact ⟨part, hpart, hstep, (ih _).mpr ⟨q, hq, hrest⟩⟩

theorem lastFor?_places_isSome_iff {steps : List Step} :
    (lastFor? steps (places start y)).isSome = true ↔ y.Writes steps := by
  rw [writes_iff_mem_places start, Option.isSome_iff_ne_none, ne_eq,
    lastFor?_eq_none_iff]
  push Not
  rfl

end Layout

namespace LineIndex

open Location (Nearest)

variable {text : String} {y : Layout}

/-- The locations found in the lines of a text are those that it writes. -/
theorem isSome_find?_build_iff_writes (h : y.IsOf text.toList) (l : Location) :
    ((build text).find? l).isSome = true ↔ y.Writes l.steps := by
  rw [find?_build h, Option.isSome_map, Layout.lastFor?_places_isSome_iff]

theorem writes_of_has (h : y.IsOf text.toList) {l : Location} (hl : y.value.Has l) :
    y.Writes l.steps := by
  obtain ⟨before, start, z, -, -, hfind⟩ := (describes_build h).found l hl
  rw [← isSome_find?_build_iff_writes h, hfind]
  rfl

theorem has_of_writes (h : y.IsOf text.toList) (hn : y.NoRepeats) {l : Location}
    (hl : y.Writes l.steps) : y.value.Has l := by
  rw [← isSome_find?_build_iff_writes h] at hl
  exact (isSome_find?_build h hn l).mp hl

/-- A location has the line of the nearest location that is written, at or below the nearest one
that exists. The two are the same unless something overwritten is written between them, which
never happens without repeated names. -/
theorem lineOf_build_of_nearest {document : Json} (h : Json.parse text = .ok document) :
    ∃ y : Layout, y.IsOf text.toList ∧ y.value = document ∧
      ∀ l a, Nearest document.Has l a →
        (∃ w, Nearest (fun b => y.Writes b.steps) l w ∧ a.steps <+: w.steps ∧
          (build text).lineOf l = (build text).lineOf w) ∧
        ((∀ b : Location, b.steps <+: l.steps → y.Writes b.steps → document.Has b) →
          (build text).lineOf l = (build text).lineOf a) ∧
        (y.NoRepeats → (build text).lineOf l = (build text).lineOf a) := by
  obtain ⟨y, hy, rfl⟩ := Layout.exists_isOf h
  refine ⟨y, hy, rfl, ?_⟩
  intro l a ha
  have hline : ∀ {w : Location}, Nearest (fun b => y.Writes b.steps) l w →
      (build text).lineOf l = (build text).lineOf w := by
    intro w hw
    simp only [← isSome_find?_build_iff_writes hy] at hw
    exact lineOf_eq_of_nearest hw
  have hexists : (∀ b : Location, b.steps <+: l.steps → y.Writes b.steps → y.value.Has b) →
      (build text).lineOf l = (build text).lineOf a := by
    intro hwritten
    refine hline ⟨ha.around, writes_of_has hy ha.holds, ?_⟩
    intro b hb hw
    exact ha.longest b hb (hwritten b hb hw)
  refine ⟨?_, hexists, ?_⟩
  · obtain ⟨w, hw⟩ := Location.exists_nearest (P := fun b => y.Writes b.steps) trivial l
    exact ⟨w, hw, ha.prefix_of_imp (fun c hc => writes_of_has hy hc) hw, hline hw⟩
  · intro hn
    exact hexists fun b _ hw => has_of_writes hy hn hw

/-- The member inside the overwritten value is written on the first line, while its object is
overwritten on the second. -/
theorem lineOf_build_of_nearest_overwritten :
    let text : String := "\x7b\"a\": \x7b\"b\": true\x7d,\n\"a\": null\x7d"
    let document : Json := .object [("a", .null)]
    Json.parse text = .ok document ∧
      ∃ y : Layout, y.IsOf text.toList ∧ y.value = document ∧
        ∃ w, Nearest (fun b => y.Writes b.steps) ⟨[.key "a", .key "b"]⟩ w ∧
          (build text).lineOf ⟨[.key "a", .key "b"]⟩ = (build text).lineOf w := by
  intro text document
  have hparse : Json.parse text = .ok document := by
    dsimp only [text, document]
    rfl
  obtain ⟨y, hy, hvalue, hlines⟩ := lineOf_build_of_nearest hparse
  have hroot : document.Has .root := by
    rw [Json.Has]
    rfl
  obtain ⟨a, ha⟩ := Location.exists_nearest hroot ⟨[.key "a", .key "b"]⟩
  obtain ⟨⟨w, hw, -, hline⟩, -⟩ := hlines _ a ha
  exact ⟨hparse, y, hy, hvalue, w, hw, hline⟩

/-- What is absent does not always have the line of the nearest location that exists. -/
theorem not_lineOf_build_eq_existing :
    ¬ ∀ (text : String) (document : Json), Json.parse text = .ok document →
      ∀ l a, ¬ document.Has l → Nearest document.Has l a →
        (build text).lineOf l = (build text).lineOf a := by
  intro h
  have hparse : Json.parse "\x7b\"a\": \x7b\"b\": true\x7d,\n\"a\": null\x7d" =
      .ok (.object [("a", .null)]) := rfl
  have habsent : ¬ (Json.object [("a", .null)]).Has ⟨[.key "a", .key "b"]⟩ := by
    rw [Json.Has]
    exact Bool.false_ne_true
  have hnearest : Nearest (Json.object [("a", .null)]).Has
      ⟨[.key "a", .key "b"]⟩ ⟨[.key "a"]⟩ := by
    refine ⟨⟨[.key "b"], rfl⟩, rfl, ?_⟩
    intro b hb hhas
    rcases List.prefix_concat_iff.mp (show b.steps <+: [.key "a"] ++ [.key "b"] from hb) with
      he | hb
    · rw [Json.Has, he] at hhas
      exact absurd hhas Bool.false_ne_true
    · exact hb.length_le
  have hlines := h _ _ hparse _ _ habsent hnearest
  exact absurd hlines (by decide)

end LineIndex

end TemplateAudit
