import TemplateAudit.Proofs.Document.Layout

/-! # The places of a layout

The places of a layout in the order in which they are written, each under the steps that lead to
it. A place that exists in the document is the last one under its steps, since what a repeated
name overwrites stands before; without repeated names there are no other places.
-/

namespace TemplateAudit.Layout

def under (step : Step) (p : List Step × List Char) : List Step × List Char := (step :: p.1, p.2)

mutual

def inner : Layout → List (List Step × List Char)
  | .scalar _ _ => []
  | .array items => itemPlaces 0 items
  | .object members => memberPlaces members

def itemPlaces (position : Nat) : List (List Char × Layout) → List (List Step × List Char)
  | [] => []
  | (start, y) :: rest =>
    (([], start) :: inner y).map (under (.index position)) ++ itemPlaces (position + 1) rest

def memberPlaces : List (String × List Char × Layout) → List (List Step × List Char)
  | [] => []
  | (name, quote, y) :: rest =>
    (([], quote) :: inner y).map (under (.key name)) ++ memberPlaces rest

end

/-- The places of a value that begins at `start`, itself included. -/
def places (start : List Char) (y : Layout) : List (List Step × List Char) :=
  ([], start) :: y.inner

def itemParts (position : Nat) : List (List Char × Layout) → List (Step × List Char × Layout)
  | [] => []
  | item :: rest => (.index position, item) :: itemParts (position + 1) rest

def parts : Layout → List (Step × List Char × Layout)
  | .scalar _ _ => []
  | .array items => itemParts 0 items
  | .object members => members.map fun m => (.key m.1, m.2)

def within (ps : List (Step × List Char × Layout)) : List (List Step × List Char) :=
  ps.flatMap fun part => (places part.2.1 part.2.2).map (under part.1)

theorem lastFor?_map_under (step head : Step) (rest : List Step)
    (ps : List (List Step × List Char)) :
    lastFor? (head :: rest) (ps.map (under step)) =
      if head = step then lastFor? rest ps else none := by
  induction ps with
  | nil => simp
  | cons p ps ih =>
    rw [List.map_cons, lastFor?_cons, lastFor?_cons, ih, under]
    by_cases h : head = step <;> simp [h]

theorem itemPlaces_cons (position : Nat) (item : List Char × Layout)
    (rest : List (List Char × Layout)) :
    itemPlaces position (item :: rest) =
      (places item.1 item.2).map (under (.index position)) ++ itemPlaces (position + 1) rest := by
  rw [itemPlaces, places]

theorem memberPlaces_cons (m : String × List Char × Layout)
    (rest : List (String × List Char × Layout)) :
    memberPlaces (m :: rest) =
      (places m.2.1 m.2.2).map (under (.key m.1)) ++ memberPlaces rest := by
  rw [memberPlaces, places]

theorem within_cons (part : Step × List Char × Layout) (ps : List (Step × List Char × Layout)) :
    within (part :: ps) = (places part.2.1 part.2.2).map (under part.1) ++ within ps :=
  List.flatMap_cons

theorem itemPlaces_eq_within (position : Nat) (items : List (List Char × Layout)) :
    itemPlaces position items = within (itemParts position items) := by
  induction items generalizing position with
  | nil => rfl
  | cons item rest ih => rw [itemPlaces_cons, ih, itemParts, within_cons]

theorem memberPlaces_eq_within (members : List (String × List Char × Layout)) :
    memberPlaces members = within (members.map fun m => (.key m.1, m.2)) := by
  induction members with
  | nil => rfl
  | cons m rest ih => rw [memberPlaces_cons, ih, List.map_cons, within_cons]

theorem inner_eq_within (y : Layout) : y.inner = within y.parts := by
  cases y with
  | scalar v plain => rfl
  | array items => rw [inner, itemPlaces_eq_within, parts]
  | object members => rw [inner, memberPlaces_eq_within, parts]

theorem step_of_mem_itemParts {position : Nat} {items : List (List Char × Layout)}
    {part : Step × List Char × Layout} (h : part ∈ itemParts position items) :
    ∃ i, position ≤ i ∧ part.1 = .index i := by
  induction items generalizing position with
  | nil => exact absurd h List.not_mem_nil
  | cons item rest ih =>
    rcases List.mem_cons.mp h with rfl | h
    · exact ⟨position, Nat.le_refl _, rfl⟩
    · obtain ⟨i, hi, he⟩ := ih h
      exact ⟨i, by omega, he⟩

theorem lastFor?_itemParts (position i : Nat) (items : List (List Char × Layout)) :
    lastFor? (.index (position + i)) (itemParts position items) = items[i]? := by
  induction items generalizing position i with
  | nil => rfl
  | cons item rest ih =>
    rw [itemParts, lastFor?_cons]
    cases i with
    | zero =>
      have hnone : lastFor? (.index position) (itemParts (position + 1) rest) = none := by
        rw [lastFor?_eq_none_iff]
        intro part hp he
        obtain ⟨i, hi, hs⟩ := step_of_mem_itemParts hp
        have : i = position := Step.index.inj (hs.symm.trans he)
        omega
      simp [hnone]
    | succ i =>
      rw [← Nat.succ_add_eq_add_succ, ih, if_neg (by simp; omega), Option.or_none]
      rfl

theorem lastFor?_map_key (name : String) (members : List (String × List Char × Layout)) :
    lastFor? (Step.key name) (members.map fun m => (Step.key m.1, m.2)) =
      lastFor? name members := by
  induction members with
  | nil => rfl
  | cons m rest ih =>
    rw [List.map_cons, lastFor?_cons, lastFor?_cons, ih]
    simp only [Step.key.injEq]

theorem lastFor?_parts (y : Layout) (step : Step) : lastFor? step y.parts = y.child? step := by
  cases y with
  | scalar v plain => rfl
  | array items =>
    cases step with
    | key name =>
      rw [parts, lastFor?_eq_none_iff.mpr fun part hp he => ?_]
      · rfl
      · obtain ⟨i, -, hs⟩ := step_of_mem_itemParts hp
        cases hs.symm.trans he
    | index position =>
      rw [parts, ← Nat.zero_add position, lastFor?_itemParts, Nat.zero_add]
      rfl
  | object members =>
    cases step with
    | key name => exact lastFor?_map_key name members
    | index position =>
      rw [parts, lastFor?_eq_none_iff.mpr fun part hp he => ?_]
      · rfl
      · obtain ⟨m, -, rfl⟩ := List.mem_map.mp hp
        cases he

theorem lastFor?_nil_inner (y : Layout) : lastFor? [] y.inner = none := by
  rw [inner_eq_within, lastFor?_eq_none_iff]
  intro w hw
  obtain ⟨part, -, hw⟩ := List.mem_flatMap.mp hw
  obtain ⟨p, -, rfl⟩ := List.mem_map.mp hw
  exact List.cons_ne_nil _ _

section Parts

variable {step : Step} {rest : List Step} {ps : List (Step × List Char × Layout)}

theorem lastFor?_within_cons (part : Step × List Char × Layout) :
    lastFor? (step :: rest) (within (part :: ps)) =
      (lastFor? (step :: rest) (within ps)).or
        (if step = part.1 then lastFor? rest (places part.2.1 part.2.2) else none) := by
  rw [within_cons, lastFor?_append, lastFor?_map_under]

theorem lastFor?_within_eq_none (h : lastFor? step ps = none) :
    lastFor? (step :: rest) (within ps) = none := by
  induction ps with
  | nil => rfl
  | cons part ps ih =>
    rw [lastFor?_cons, Option.or_eq_none_iff] at h
    rw [lastFor?_within_cons, ih h.1, if_neg]
    · rfl
    · intro he
      rw [if_pos he] at h
      exact nomatch h.2

theorem lastFor?_within_of_part {part : List Char × Layout} {start : List Char}
    (hpart : lastFor? step ps = some part)
    (hstart : lastFor? rest (places part.1 part.2) = some start) :
    lastFor? (step :: rest) (within ps) = some start := by
  induction ps with
  | nil => exact nomatch hpart
  | cons head ps ih =>
    rw [lastFor?_within_cons]
    rw [lastFor?_cons] at hpart
    cases htail : lastFor? step ps with
    | some other =>
      rw [htail, Option.some_or] at hpart
      rw [ih (htail.trans hpart), Option.some_or]
    | none =>
      rw [htail, Option.none_or] at hpart
      rw [lastFor?_within_eq_none htail, Option.none_or]
      split at hpart
      · next he =>
        obtain rfl := Option.some.inj hpart
        rw [if_pos he, hstart]
      · exact nomatch hpart

theorem lastFor?_within_of_nodup (hn : (ps.map (·.1)).Nodup) :
    lastFor? (step :: rest) (within ps) =
      (lastFor? step ps).bind fun part => lastFor? rest (places part.1 part.2) := by
  induction ps with
  | nil => rfl
  | cons head ps ih =>
    rw [List.map_cons, List.nodup_cons] at hn
    rw [lastFor?_within_cons, lastFor?_cons, ih hn.2]
    by_cases he : step = head.1
    · have hnone : lastFor? step ps = none := by
        rw [lastFor?_eq_none_iff]
        exact fun part hp hs => hn.1 (List.mem_map.mpr ⟨part, hp, hs.trans he⟩)
      rw [hnone, if_pos he, if_pos he]
      rfl
    · rw [if_neg he, if_neg he, Option.or_none, Option.or_none]

end Parts

theorem nodup_itemParts (position : Nat) (items : List (List Char × Layout)) :
    ((itemParts position items).map (·.1)).Nodup := by
  induction items generalizing position with
  | nil => exact List.nodup_nil
  | cons item rest ih =>
    rw [itemParts, List.map_cons, List.nodup_cons]
    refine ⟨?_, ih (position + 1)⟩
    intro hm
    obtain ⟨part, hp, hs⟩ := List.mem_map.mp hm
    obtain ⟨i, hi, he⟩ := step_of_mem_itemParts hp
    have : i = position := Step.index.inj (he.symm.trans hs)
    omega

theorem nodup_parts {y : Layout} (h : y.NoRepeats) : (y.parts.map (·.1)).Nodup := by
  cases h with
  | scalar v plain => exact List.nodup_nil
  | array _ => exact nodup_itemParts 0 _
  | object hn _ =>
    have hkeys : (List.map Step.key _).Nodup :=
      List.Pairwise.map Step.key (fun a b hne he => hne (Step.key.inj he)) hn
    rw [parts, List.map_map]
    rwa [List.map_map] at hkeys

theorem noRepeats_of_child? {y : Layout} (h : y.NoRepeats) {step : Step}
    {part : List Char × Layout} (hc : y.child? step = some part) : part.2.NoRepeats := by
  cases h with
  | scalar v plain => exact nomatch hc
  | array hitems =>
    cases step with
    | key name => exact nomatch hc
    | index position => exact hitems _ (List.mem_of_getElem? hc)
  | object hn hmembers =>
    cases step with
    | key name => exact hmembers _ (mem_of_lastFor? hc)
    | index position => exact nomatch hc

/-- The place of a location that exists is the last one written under its steps. -/
theorem lastFor?_places {start : List Char} {y : Layout} {steps : List Step}
    {p : List Char × Layout} (h : y.place? start steps = some p) :
    lastFor? steps (places start y) = some p.1 := by
  induction steps generalizing start y with
  | nil =>
    obtain rfl : (start, y) = p := by simpa [place?] using h
    rw [places, lastFor?_cons, lastFor?_nil_inner]
    rfl
  | cons step rest ih =>
    rw [place?, Option.bind_eq_some_iff] at h
    obtain ⟨part, hpart, hp⟩ := h
    rw [places, lastFor?_cons, inner_eq_within,
      lastFor?_within_of_part ((lastFor?_parts y step).trans hpart) (ih hp), Option.some_or]

/-- Without repeated names nothing but the locations of the document has a place. -/
theorem lastFor?_places_of_noRepeats {start : List Char} {y : Layout} (h : y.NoRepeats)
    (steps : List Step) :
    lastFor? steps (places start y) = (y.place? start steps).map (·.1) := by
  induction steps generalizing start y with
  | nil =>
    rw [places, lastFor?_cons, lastFor?_nil_inner, place?]
    rfl
  | cons step rest ih =>
    rw [places, lastFor?_cons, inner_eq_within, lastFor?_within_of_nodup (nodup_parts h),
      lastFor?_parts, place?, if_neg (List.cons_ne_nil _ _), Option.or_none]
    cases hc : y.child? step with
    | none => rfl
    | some part => exact ih (noRepeats_of_child? h hc)

end TemplateAudit.Layout
