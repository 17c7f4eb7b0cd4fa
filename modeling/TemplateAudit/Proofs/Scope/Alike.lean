import Mathlib.Data.List.Forall2
import TemplateAudit.Proofs.Document.Apart
import TemplateAudit.Proofs.Lines.Fallback
import TemplateAudit.Proofs.Scope.Exact

/-! # Scopes that look alike

Two spellings of a name lead to the same member of a document, or to two places where there is
none. The places differ, but they lie below the same value, and that is where their line comes
from. So the two scopes cannot be told apart by what is asked of them, and neither can those that
they are narrowed to.
-/

namespace TemplateAudit

namespace Scope

/-- Two scopes of a document with the same value and the same line, which are one scope unless
their value is absent. -/
structure Alike (document : Json) (index : LineIndex) (s t : Scope) : Prop where
  left : s.Exact document
  right : t.Exact document
  value : s.value = t.value
  line : index.lineOf s.location = index.lineOf t.location
  same : s.value.isSome = true → s = t

variable {document : Json} {index : LineIndex} {s t s' t' : Scope}

theorem Exact.alike (h : s.Exact document) (index : LineIndex) : Alike document index s s :=
  ⟨h, h, rfl, rfl, fun _ => rfl⟩

theorem Alike.eq_or_absent (h : Alike document index s t) :
    s = t ∨ s.value = none ∧ t.value = none := by
  by_cases hs : s.value.isSome = true
  · exact .inl (h.same hs)
  · have hnone : s.value = none := Option.not_isSome_iff_eq_none.mp hs
    exact .inr ⟨hnone, h.value ▸ hnone⟩

def member? (value : Option Json) (name : String) : Option (String × Json) :=
  match value with
  | some (.object members) => Json.findMember members name
  | _ => none

theorem property_eq (s : Scope) (name : String) : s.property name =
    match member? s.value name with
    | some (key, value) => ⟨s.location.key key, some value⟩
    | none => ⟨s.location.key name, none⟩ := by
  unfold property member?
  cases s.value with
  | none => rfl
  | some v => cases v <;> rfl

theorem isSome_of_member? {value : Option Json} {name : String} {m : String × Json}
    (h : member? value name = some m) : value.isSome = true := by
  cases value with
  | none => exact nomatch h
  | some v => rfl

section Lines

variable (hfound : ∀ l, (index.find? l).isSome = true → document.Has l)

include hfound

theorem lineOf_of_absent {steps : List Step} {step : Step}
    (habsent : document.at? (steps ++ [step]) = none) :
    index.lineOf ⟨steps ++ [step]⟩ = index.lineOf ⟨steps⟩ := by
  have hnone : index.find? ⟨steps ++ [step]⟩ = none := by
    rw [← Option.not_isSome_iff_eq_none]
    intro hsome
    have hhas := hfound _ hsome
    rw [Json.Has, habsent] at hhas
    exact Bool.false_ne_true hhas
  rw [LineIndex.lineOf_concat, hnone, Option.getD_none]

theorem Alike.absent (h : Alike document index s t) {step step' : Step}
    (hs : Exact document ⟨⟨s.location.steps ++ [step]⟩, none⟩)
    (ht : Exact document ⟨⟨t.location.steps ++ [step']⟩, none⟩) :
    Alike document index ⟨⟨s.location.steps ++ [step]⟩, none⟩
      ⟨⟨t.location.steps ++ [step']⟩, none⟩ where
  left := hs
  right := ht
  value := rfl
  line := by
    rw [lineOf_of_absent hfound hs, lineOf_of_absent hfound ht]
    exact h.line
  same := fun hsome => absurd hsome Bool.false_ne_true

theorem Alike.property (ha : document.NamesApart) (h : Alike document index s t)
    {name name' : String} (hname : Text.sameIgnoringCase name name' = true) :
    Alike document index (s.property name) (t.property name') := by
  have hmember : member? s.value name = member? t.value name' := by
    rw [← h.value]
    cases hv : s.value with
    | none => rfl
    | some v =>
      cases v with
      | object members =>
        have hmembers := Json.namesApart_of_at? ha (h.left.trans hv)
        exact Json.findMember_congr (Json.namesApart_object hmembers).1 hname
      | _ => rfl
  have hs := h.left.property name
  have ht := h.right.property name'
  rw [property_eq] at hs ht
  rw [property_eq, property_eq]
  cases hm : member? s.value name with
  | none =>
    rw [hm] at hs
    rw [← hmember, hm] at ht ⊢
    exact h.absent hfound hs ht
  | some m =>
    obtain rfl := h.same (isSome_of_member? hm)
    rw [hm] at hs
    rw [← hmember, hm]
    exact hs.alike index

theorem Alike.element (h : Alike document index s t) (position : Nat) :
    Alike document index (s.element position) (t.element position) := by
  rcases h.eq_or_absent with rfl | ⟨hs, ht⟩
  · exact (h.left.element position).alike index
  · have hexact := h.left.element position
    have hexact' := h.right.element position
    rw [Scope.element, hs] at hexact ⊢
    rw [Scope.element, ht] at hexact' ⊢
    exact h.absent hfound hexact hexact'

omit hfound in
theorem Alike.children (ho : document.Ordered) (h : Alike document index s t) :
    List.Forall₂ (Alike document index) s.children t.children := by
  rcases h.eq_or_absent with rfl | ⟨hs, ht⟩
  · exact List.forall₂_same.mpr fun child hc => (h.left.children ho hc).alike index
  · rw [Scope.children, Scope.children, hs, ht]
    exact .nil

end Lines

section Resources

variable {target target' : String}

theorem resourcesIn_congr (htarget : Text.sameIgnoringCase target target' = true) (v : Json) :
    ∀ parent l, resourcesIn target parent l v = resourcesIn target' parent l v := by
  induction v using Json.descendResources with
  | inside v ih =>
    intro parent l
    have hamong : ∀ items, (∀ item ∈ items, item ∈ v.resources) → ∀ l position,
        resourcesAmong target parent l position items =
          resourcesAmong target' parent l position items := by
      intro items
      induction items with
      | nil => exact fun _ _ _ => rfl
      | cons item rest ihs =>
        intro hitems l position
        obtain ⟨hitem, hrest⟩ := List.forall_mem_cons.mp hitems
        simp only [resourcesAmong_cons, resourcesFrom, ihs hrest, ih item hitem,
          Text.sameIgnoringCase_congr_right htarget]
    rw [resourcesIn_eq, resourcesIn_eq]
    split
    · next key items harray =>
      refine hamong items ?_ _ _
      rw [Json.resources_of_array harray]
      exact fun _ hi => hi
    · rfl

theorem Alike.resourcesOfType (h : Alike document index s t)
    (htarget : Text.sameIgnoringCase target target' = true) :
    List.Forall₂ (Alike document index) (s.resourcesOfType target)
      (t.resourcesOfType target') := by
  have hsame : s.resourcesOfType target = t.resourcesOfType target' := by
    rcases h.eq_or_absent with rfl | ⟨hs, ht⟩
    · rw [Scope.resourcesOfType, Scope.resourcesOfType]
      simp only [resourcesIn_congr htarget]
    · rw [Scope.resourcesOfType, Scope.resourcesOfType, hs, ht]
  rw [← hsame]
  exact List.forall₂_same.mpr fun found hf => (h.left.resourcesOfType target hf).alike index

end Resources

end Scope

end TemplateAudit
