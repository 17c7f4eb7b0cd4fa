import TemplateAudit.Expression.Evaluate
import TemplateAudit.Proofs.Document.Ordered
import TemplateAudit.Proofs.Scope.Resources

/-! # Exact scopes

A scope is exact if it has the value that the document has at its location. A name is matched up
to ASCII case, but its location keeps the spelling of the document, so every narrowing of an exact
scope gives exact scopes.
-/

namespace TemplateAudit

namespace Scope

variable {document : Json} {s next child : Scope} {segment : Segment}

/-- The members of every object in the value of a scope are ordered by name, as they are in every
document that was read. -/
def Ordered (s : Scope) : Prop := ∀ v, s.value = some v → v.Ordered

structure Takes (s : Scope) (step : Step) (next : Scope) : Prop where
  steps_eq : next.location.steps = s.location.steps ++ [step]
  value_eq : next.value = s.value.bind fun v => v.child? step

theorem Ordered.takes {step : Step} (h : s.Ordered) (ht : Takes s step next) : next.Ordered := by
  intro child hchild
  rw [ht.value_eq, Option.bind_eq_some_iff] at hchild
  obtain ⟨v, hv, hchild⟩ := hchild
  exact Json.ordered_of_child? (h v hv) hchild

theorem exists_takes_property (s : Scope) (name : String) :
    ∃ key, Takes s (.key key) (s.property name) := by
  unfold Scope.property
  split
  · next members hv =>
    split
    · next key value hm =>
      refine ⟨key, rfl, ?_⟩
      rw [hv]
      exact (Json.lookup_of_findMember hm).symm
    · next hm =>
      refine ⟨name, rfl, ?_⟩
      rw [hv]
      exact (Json.lookup_of_findMember_eq_none hm).symm
  · next hv =>
    refine ⟨name, rfl, (Option.bind_eq_none_iff.mpr fun v hs => ?_).symm⟩
    cases v with
    | object members => exact absurd hs (hv members)
    | _ => rfl

theorem takes_element (s : Scope) (position : Nat) :
    Takes s (.index position) (s.element position) := by
  unfold Scope.element
  split
  · next items hv =>
    refine ⟨rfl, ?_⟩
    rw [hv]
    rfl
  · next hv =>
    refine ⟨rfl, (Option.bind_eq_none_iff.mpr fun v hs => ?_).symm⟩
    cases v with
    | array items => exact absurd hs (hv items)
    | _ => rfl

theorem mem_elementsFrom {l : Location} {position : Nat} {items : List Json} {child : Scope}
    (h : child ∈ elementsFrom l position items) :
    ∃ i, child.location = l.index (position + i) ∧ child.value = items[i]? := by
  induction items generalizing position with
  | nil => exact absurd h List.not_mem_nil
  | cons item rest ih =>
    rcases List.mem_cons.mp h with rfl | h
    · exact ⟨0, rfl, rfl⟩
    · obtain ⟨i, hl, hv⟩ := ih h
      exact ⟨i + 1, by rw [hl, Nat.add_right_comm, Nat.add_assoc], hv⟩

theorem exists_takes_of_mem_children (h : s.Ordered) (hc : child ∈ s.children) :
    ∃ step, Takes s step child := by
  unfold Scope.children at hc
  split at hc
  · next items hv =>
    obtain ⟨i, hl, hi⟩ := mem_elementsFrom hc
    refine ⟨.index i, ?_, ?_⟩
    · rw [hl, Nat.zero_add, Location.steps_index]
    · rw [hi, hv]
      rfl
  · next members hv =>
    obtain ⟨m, hm, rfl⟩ := List.mem_map.mp hc
    refine ⟨.key m.1, rfl, ?_⟩
    rw [hv]
    exact (Json.lookup_of_mem (h _ hv).names hm).symm
  · exact absurd hc List.not_mem_nil

theorem exists_takes_of_mem_step (h : s.Ordered) (hn : next ∈ s.step segment) :
    ∃ step, Takes s step next := by
  cases segment with
  | property name =>
    obtain rfl := List.mem_singleton.mp hn
    exact (exists_takes_property s name).imp' Step.key fun _ ht => ht
  | index position =>
    obtain rfl := List.mem_singleton.mp hn
    exact ⟨_, takes_element s position⟩
  | wildcard => exact exists_takes_of_mem_children h hn

/-- The scope has the value of its location, and none where the document has none. -/
def Exact (document : Json) (s : Scope) : Prop := document.at? s.location.steps = s.value

theorem exact_root (document : Json) : (root document).Exact document := Json.at?_nil document

theorem Exact.takes {step : Step} (h : s.Exact document) (ht : Takes s step next) :
    next.Exact document := by
  rw [Exact, ht.steps_eq, Json.at?_concat, h, ht.value_eq]

theorem Exact.ordered (ho : document.Ordered) (h : s.Exact document) : s.Ordered :=
  fun _ hv => Json.ordered_of_at? ho (h.trans hv)

theorem Exact.property (h : s.Exact document) (name : String) :
    (s.property name).Exact document := by
  obtain ⟨key, ht⟩ := exists_takes_property s name
  exact h.takes ht

theorem Exact.element (h : s.Exact document) (position : Nat) :
    (s.element position).Exact document := h.takes (takes_element s position)

theorem Exact.children (ho : document.Ordered) (h : s.Exact document) (hc : child ∈ s.children) :
    child.Exact document := by
  obtain ⟨step, ht⟩ := exists_takes_of_mem_children (h.ordered ho) hc
  exact h.takes ht

theorem Exact.step (ho : document.Ordered) (h : s.Exact document) (hn : next ∈ s.step segment) :
    next.Exact document := by
  obtain ⟨step, ht⟩ := exists_takes_of_mem_step (h.ordered ho) hn
  exact h.takes ht

theorem exact_of_mem_follow (ho : document.Ordered) {segments : List Segment}
    {scopes : List Scope} (h : ∀ s ∈ scopes, s.Exact document) {last : Scope}
    (hl : last ∈ follow scopes segments) : last.Exact document := by
  induction segments generalizing scopes with
  | nil => exact h last hl
  | cons segment rest ih =>
    refine ih (fun next hn => ?_) hl
    obtain ⟨s, hs, hn⟩ := List.mem_flatMap.mp hn
    exact (h s hs).step ho hn

theorem Exact.resolve (ho : document.Ordered) (h : s.Exact document) (p : Path) {last : Scope}
    (hl : last ∈ s.resolve p) : last.Exact document :=
  exact_of_mem_follow ho (fun _ hs => List.mem_singleton.mp hs ▸ h) hl

section Resources

variable {target : String}

def ExactBelow (document : Json) (target : String) (v : Json) : Prop :=
  ∀ parent l, document.at? l.steps = some v →
    ∀ s ∈ resourcesIn target parent l v, s.Exact document

theorem exact_of_mem_resourcesFrom {item : Json} (ih : ExactBelow document target item)
    {parent : Option String} {here : Location} (hat : document.at? here.steps = some item)
    {s : Scope} (hs : s ∈ resourcesFrom target parent here item) : s.Exact document := by
  rw [resourcesFrom] at hs
  split at hs
  · dsimp only at hs
    split at hs
    · rcases List.mem_cons.mp hs with rfl | hs
      · exact hat
      · exact ih _ _ hat s hs
    · exact ih _ _ hat s hs
  · exact absurd hs List.not_mem_nil

theorem exact_of_mem_resourcesAmong {items : List Json}
    (ih : ∀ item ∈ items, ExactBelow document target item) {parent : Option String}
    {l : Location} {position : Nat}
    (hat : ∀ i, document.at? (l.index (position + i)).steps = items[i]?) {s : Scope}
    (hs : s ∈ resourcesAmong target parent l position items) : s.Exact document := by
  induction items generalizing position with
  | nil => exact absurd hs List.not_mem_nil
  | cons item rest ihs =>
    obtain ⟨hitem, hrest⟩ := List.forall_mem_cons.mp ih
    rw [resourcesAmong_cons] at hs
    rcases List.mem_append.mp hs with hs | hs
    · exact exact_of_mem_resourcesFrom hitem (hat 0) hs
    · refine ihs hrest (fun i => ?_) hs
      rw [Nat.add_right_comm]
      exact hat (i + 1)

theorem exactBelow (document : Json) (target : String) (v : Json) :
    ExactBelow document target v := by
  induction v using Json.descendResources with
  | inside v ih =>
    intro parent l hat s hs
    rw [resourcesIn_eq] at hs
    split at hs
    · next key items harray =>
      rw [Json.resources_of_array harray] at ih
      have hitems : document.at? (l.key key).steps = some (.array items) := by
        rw [Location.steps_key, Json.at?_concat, hat]
        exact Json.child?_of_resourceArray? harray
      refine exact_of_mem_resourcesAmong ih (fun i => ?_) hs
      rw [Location.steps_index, Json.at?_concat, hitems, Nat.zero_add]
      rfl
    · exact absurd hs List.not_mem_nil

theorem Exact.resourcesOfType {s : Scope} (h : s.Exact document) (target : String) {found : Scope}
    (hf : found ∈ s.resourcesOfType target) : found.Exact document := by
  rw [Scope.resourcesOfType] at hf
  split at hf
  · next value hv => exact exactBelow document target value none _ (h.trans hv) found hf
  · exact absurd hf List.not_mem_nil

end Resources

end Scope

end TemplateAudit
