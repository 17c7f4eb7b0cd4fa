import TemplateAudit.Proofs.Document.Walk
import TemplateAudit.Resolver

/-! # Walks for resources

A value has at most one array of resources, whose name is matched up to ASCII case, and a walk for
resources looks into nothing else. So what holds of a value if it holds of the resources directly
inside it holds of all values.
-/

namespace TemplateAudit

namespace Json

variable {members : List (String × Json)} {name key : String} {value : Json}

theorem lookup_of_find? (h : members.find? (fun m => Text.sameIgnoringCase m.1 name) =
    some (key, value)) : lookup key members = some value := by
  induction members with
  | nil => exact nomatch h
  | cons m rest ih =>
    rw [List.find?_cons] at h
    split at h
    · obtain rfl := Option.some.inj h
      rw [lookup, if_pos rfl]
    · next hm =>
      have hkey := List.find?_some h
      have hne : m.1 ≠ key := by
        rintro rfl
        exact Bool.false_ne_true (hm.symm.trans hkey)
      rw [lookup, if_neg hne, ih h]

theorem lookup_of_findMember (h : findMember members name = some (key, value)) :
    lookup key members = some value := by
  rw [findMember] at h
  split at h
  · next found hl =>
    obtain ⟨rfl, rfl⟩ := Prod.mk.inj (Option.some.inj h)
    exact hl
  · exact lookup_of_find? h

theorem lookup_of_findMember_eq_none (h : findMember members name = none) :
    lookup name members = none := by
  rw [findMember] at h
  split at h
  · exact nomatch h
  · next hl => exact hl

def resourceArray? : Json → Option (String × List Json)
  | .object members =>
    match findMember members "resources" with
    | some (key, .array items) => some (key, items)
    | _ => none
  | _ => none

def resources (v : Json) : List Json := (v.resourceArray?.map (·.2)).getD []

theorem resources_of_array {v : Json} {key : String} {items : List Json}
    (h : v.resourceArray? = some (key, items)) : v.resources = items := by
  rw [resources, h]
  rfl

theorem child?_of_resourceArray? {v : Json} {key : String} {items : List Json}
    (h : v.resourceArray? = some (key, items)) : v.child? (.key key) = some (.array items) := by
  cases v with
  | object members =>
    rw [resourceArray?] at h
    split at h
    · next hm =>
      obtain ⟨rfl, rfl⟩ := Prod.mk.inj (Option.some.inj h)
      exact lookup_of_findMember hm
    · exact nomatch h
  | _ => exact nomatch h

@[elab_as_elim]
theorem descendResources {motive : Json → Prop}
    (inside : ∀ v, (∀ item ∈ v.resources, motive item) → motive v) (v : Json) : motive v := by
  suffices h : motive v ∧ ∀ items, v = .array items → ∀ item ∈ items, motive item from h.1
  induction v using Json.descend with
  | scalar v hv =>
    refine ⟨inside v ?_, ?_⟩
    · cases v with
      | object members => exact nomatch hv
      | _ => exact List.forall_mem_nil _
    · rintro items rfl
      exact nomatch hv
  | array items ih =>
    refine ⟨inside _ (List.forall_mem_nil _), ?_⟩
    intro items' he item hi
    obtain rfl := Json.array.inj he
    exact (ih item hi).1
  | object members ih =>
    refine ⟨inside _ ?_, fun items he => nomatch he⟩
    intro item hi
    rw [resources, resourceArray?] at hi
    split at hi
    · next key items hm =>
      exact (ih _ (mem_of_lookup (lookup_of_findMember hm))).2 items rfl item hi
    · exact absurd hi List.not_mem_nil

end Json

namespace Scope

theorem resourcesUnder_eq (target : String) (parent : Option String) (l : Location)
    (key : String) (members : List (String × Json)) :
    resourcesUnder target parent l key members =
      match Json.lookup key members with
      | some (.array items) => resourcesAmong target parent (l.key key) 0 items
      | _ => [] := by
  induction members with
  | nil => rw [resourcesUnder, Json.lookup]
  | cons m rest ih =>
    obtain ⟨name, value⟩ := m
    rw [resourcesUnder.eq_def, Json.lookup]
    dsimp only
    by_cases h : name = key
    · rw [if_pos h, if_pos h]
      cases value <;> rfl
    · rw [if_neg h, if_neg h, ih]

theorem resourcesIn_eq (target : String) (parent : Option String) (l : Location) (v : Json) :
    resourcesIn target parent l v =
      match v.resourceArray? with
      | some (key, items) => resourcesAmong target parent (l.key key) 0 items
      | none => [] := by
  cases v with
  | object members =>
    rw [resourcesIn, Json.resourceArray?]
    cases hm : Json.findMember members "resources" with
    | none => rfl
    | some m =>
      obtain ⟨key, value⟩ := m
      dsimp only
      rw [resourcesUnder_eq, Json.lookup_of_findMember hm]
      cases value <;> rfl
  | _ => rfl

def resourcesFrom (target : String) (parent : Option String) (here : Location) (item : Json) :
    List Scope :=
  match declaredType? item with
  | some declared =>
    let full := fullType parent declared
    let inside := resourcesIn target (some full) here item
    if Text.sameIgnoringCase full target then ⟨here, some item⟩ :: inside else inside
  | none => []

theorem resourcesAmong_cons (target : String) (parent : Option String) (l : Location)
    (position : Nat) (item : Json) (rest : List Json) :
    resourcesAmong target parent l position (item :: rest) =
      resourcesFrom target parent (l.index position) item ++
        resourcesAmong target parent l (position + 1) rest := by
  cases h : declaredType? item <;> simp [resourcesAmong, resourcesFrom, h]

end Scope

end TemplateAudit
