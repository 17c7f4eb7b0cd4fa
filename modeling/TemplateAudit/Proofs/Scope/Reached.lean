import TemplateAudit.Proofs.Document.Reading
import TemplateAudit.Proofs.Scope.Exact

/-! # Reached scopes

A scope is reached from the root of a document by narrowing again and again, by any paths and any
resource types. One narrowing of exact scopes gives exact scopes, so every reached scope is exact:
walking the document along its location gives its value, and fails if it has none.
-/

namespace TemplateAudit

inductive Narrowing where
  | path (p : Path)
  | resourceType (target : String)

namespace Resolver

def narrow (r : Resolver) (s : Scope) : Narrowing → List Scope
  | .path p => r.resolve s p
  | .resourceType target => r.resourcesOfType s target

/-- The scopes that a chain of narrowings leads to, each narrowing applied to every scope so far. -/
def narrowAll (r : Resolver) (scopes : List Scope) : List Narrowing → List Scope
  | [] => scopes
  | narrowing :: rest => r.narrowAll (scopes.flatMap fun s => r.narrow s narrowing) rest

end Resolver

/-- The members of every object that was read are ordered by name. -/
theorem Json.ordered_of_parse {text : String} {document : Json}
    (h : Json.parse text = .ok document) : document.Ordered := by
  obtain ⟨y, -, rfl⟩ := Layout.exists_isOf h
  exact y.ordered_value

namespace Scope

variable {document : Json} {lines : LineIndex} {s : Scope}

theorem Exact.narrow (ho : document.Ordered) (h : s.Exact document) (narrowing : Narrowing)
    {next : Scope} (hn : next ∈ (Template.resolver lines).narrow s narrowing) :
    next.Exact document := by
  cases narrowing with
  | path p => exact h.resolve ho p hn
  | resourceType target => exact h.resourcesOfType target hn

theorem exact_of_mem_narrowAll (ho : document.Ordered) {scopes : List Scope}
    (h : ∀ s ∈ scopes, s.Exact document) {chain : List Narrowing} {last : Scope}
    (hl : last ∈ (Template.resolver lines).narrowAll scopes chain) : last.Exact document := by
  induction chain generalizing scopes with
  | nil => exact h last hl
  | cons narrowing rest ih =>
    refine ih ?_ hl
    intro next hn
    obtain ⟨s, hs, hn⟩ := List.mem_flatMap.mp hn
    exact (h s hs).narrow ho narrowing hn

/-- Wherever a chain of narrowings leads from the root of a document, walking along the location
succeeds exactly if there is a value, gives that value, and fails if there is none. -/
theorem walk_of_mem_narrowAll_root (ho : document.Ordered) (lines : LineIndex)
    (chain : List Narrowing)
    (hs : s ∈ (Template.resolver lines).narrowAll [.root document] chain) :
    (document.Has s.location ↔ s.value.isSome = true) ∧
      (∀ v, s.value = some v → document.at? s.location.steps = some v) ∧
      (s.value = none → document.at? s.location.steps = none) := by
  have hroot : ∀ t ∈ [root document], t.Exact document := by
    intro t ht
    obtain rfl := List.mem_singleton.mp ht
    exact exact_root document
  have hexact : document.at? s.location.steps = s.value := exact_of_mem_narrowAll ho hroot hs
  refine ⟨?_, ?_, ?_⟩
  · rw [Json.Has, hexact]
  · rintro v hv
    rw [hexact, hv]
  · intro hv
    rw [hexact, hv]

/-- The resource is found below another spelling of its array, and the path leads through another
spelling of a member to one that is absent. -/
theorem walk_of_mem_narrowAll_root_absent :
    let text : String :=
      "\x7b\"Resources\": [\x7b\"type\": \"T\", \"Props\": \x7b\x7d\x7d]\x7d"
    let resource : Json := .object [("Props", .object []), ("type", .string "T")]
    let document : Json := .object [("Resources", .array [resource])]
    let chain : List Narrowing :=
      [.resourceType "t", .path ⟨"props.b", [.property "props", .property "b"]⟩]
    let l : Location := ⟨[.key "Resources", .index 0, .key "Props", .key "b"]⟩
    Json.parse text = .ok document ∧ document.Ordered ∧
      (⟨l, none⟩ : Scope) ∈ (Template.resolver .empty).narrowAll [.root document] chain ∧
      ¬ document.Has l ∧ document.at? l.steps = none := by
  intro text resource document chain l
  have hparse : Json.parse text = .ok document := by
    dsimp only [text, document, resource]
    rfl
  have ho : document.Ordered := Json.ordered_of_parse hparse
  have hchain : (Template.resolver .empty).narrowAll [.root document] chain = [⟨l, none⟩] := by
    dsimp only [document, resource, chain, l]
    rfl
  have hs : (⟨l, none⟩ : Scope) ∈
      (Template.resolver .empty).narrowAll [.root document] chain := by
    rw [hchain]
    exact List.mem_singleton_self _
  obtain ⟨hhas, -, hnone⟩ := walk_of_mem_narrowAll_root ho .empty chain hs
  exact ⟨hparse, ho, hs, fun h => Bool.false_ne_true (hhas.mp h), hnone rfl⟩

end Scope

end TemplateAudit
