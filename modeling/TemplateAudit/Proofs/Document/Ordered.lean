import TemplateAudit.Ascending
import TemplateAudit.Proofs.Document.Layout

/-! # Documents that were read are ordered

The members of an object are put in order one by one, and a member that is written again keeps its
place. So every object of a document that was read is ordered by name, and so is every value in it.
-/

namespace TemplateAudit

namespace Json

theorem map_fst_insertMember (name : String) (value : Json) (members : List (String × Json)) :
    (insertMember name value members).map (·.1) = insertAscending name (members.map (·.1)) := by
  induction members with
  | nil => rfl
  | cons m rest ih =>
    obtain ⟨other, old⟩ := m
    rw [insertMember, List.map_cons, insertAscending]
    repeat' split
    · rfl
    · next h => rw [List.map_cons, h]
    · rw [List.map_cons, ih]

theorem mem_insertMember {name : String} {value : Json} {members : List (String × Json)}
    {m : String × Json} (h : m ∈ insertMember name value members) :
    m = (name, value) ∨ m ∈ members := by
  induction members with
  | nil => exact .inl (List.mem_singleton.mp h)
  | cons head rest ih =>
    obtain ⟨other, old⟩ := head
    rw [insertMember] at h
    repeat' split at h
    · exact List.mem_cons.mp h
    · rcases List.mem_cons.mp h with h | h
      · exact .inl h
      · exact .inr (List.mem_cons_of_mem _ h)
    · rcases List.mem_cons.mp h with rfl | h
      · exact .inr List.mem_cons_self
      · exact (ih h).imp_right (List.mem_cons_of_mem _)

theorem name_lt_of_not_lt {a b : String} (h : ¬ a < b) (hne : a ≠ b) : b < a := by
  rw [← String.not_le]
  intro hle
  exact hne (String.le_antisymm hle (String.not_lt.mp h))

theorem ordered_ofMembers {written : List (String × Json)} (h : ∀ m ∈ written, Ordered m.2) :
    Ordered (ofMembers written) := by
  suffices hfold : ∀ {members : List (String × Json)},
      (members.map (·.1)).Pairwise (· < ·) → (∀ m ∈ members, Ordered m.2) →
        Ordered (.object (written.foldl (fun ms m => insertMember m.1 m.2 ms) members)) from
    hfold List.Pairwise.nil (List.forall_mem_nil _)
  induction written with
  | nil => exact fun ho hm => .object ho hm
  | cons w rest ih =>
    intro members ho hm
    obtain ⟨hw, hrest⟩ := List.forall_mem_cons.mp h
    refine ih hrest ?_ ?_
    · rw [map_fst_insertMember]
      exact pairwise_insertAscending String.lt_trans name_lt_of_not_lt ho
    · intro m hmem
      rcases mem_insertMember hmem with rfl | hmem
      · exact hw
      · exact hm m hmem

theorem ordered_of_child? {v child : Json} (h : v.Ordered) {step : Step}
    (hc : v.child? step = some child) : child.Ordered := by
  cases h with
  | array hitems =>
    cases step with
    | key name => exact nomatch hc
    | index position => exact hitems _ (List.mem_of_getElem? hc)
  | object _ hmembers =>
    cases step with
    | key name => exact hmembers _ (mem_of_lookup hc)
    | index position => exact nomatch hc
  | _ => exact nomatch hc

theorem ordered_of_at? {v w : Json} (h : v.Ordered) {steps : List Step}
    (hat : v.at? steps = some w) : w.Ordered := by
  induction steps generalizing v with
  | nil => exact Option.some.inj hat ▸ h
  | cons step rest ih =>
    rw [at?_cons, Option.bind_eq_some_iff] at hat
    obtain ⟨child, hc, hat⟩ := hat
    exact ih (ordered_of_child? h hc) hat

end Json

theorem Layout.ordered_value (y : Layout) : y.value.Ordered := by
  induction y using Layout.descend with
  | scalar v plain => exact Json.ordered_of_isScalar plain
  | array items ih =>
    rw [value, itemValues_eq_map]
    exact .array (List.forall_mem_map.mpr ih)
  | object members ih =>
    rw [value, memberValues_eq_map]
    exact Json.ordered_ofMembers (List.forall_mem_map.mpr ih)

end TemplateAudit
