import Mathlib.Data.List.Pairwise
import TemplateAudit.Proofs.Document.Agreement
import TemplateAudit.Proofs.Document.Ordered
import TemplateAudit.Proofs.Scope.Resources

/-! # Texts whose names stay apart

A text may write the members of an object in any order and a name more than once. If its names stay
apart up to ASCII case, then no name is repeated, and the names of the document that it holds stay
apart as well. In such a document a member is found by all spellings of its name or by none.
-/

namespace TemplateAudit

open Text (sameIgnoringCase sameIgnoringCase_self sameIgnoringCase_symm
  sameIgnoringCase_congr_right)

namespace Json

variable {v w : Json} {written members : List (String × Json)} {name key : String}

theorem mem_of_mem_foldl_insertMember {m : String × Json}
    (h : m ∈ written.foldl (fun ms m => insertMember m.1 m.2 ms) members) :
    m ∈ written ∨ m ∈ members := by
  induction written generalizing members with
  | nil => exact .inr h
  | cons w rest ih =>
    rcases ih h with h | h
    · exact .inl (List.mem_cons_of_mem _ h)
    · rcases mem_insertMember h with rfl | h
      · exact .inl List.mem_cons_self
      · exact .inr h

theorem apart_of_subset (ha : Apart written) (hnames : (members.map (·.1)).Pairwise (· < ·))
    (hsubset : members ⊆ written) : Apart members := by
  have : Std.Symm fun m n : String × Json => sameIgnoringCase m.1 n.1 = false := by
    constructor
    intro m n h
    rw [Bool.eq_false_iff] at h ⊢
    exact fun hsame => h (sameIgnoringCase_symm hsame)
  refine (List.pairwise_map.mp hnames).imp_of_mem fun {m n} hm hn hlt => ?_
  refine List.Pairwise.forall ha (hsubset hm) (hsubset hn) ?_
  rintro rfl
  exact String.lt_irrefl _ hlt

theorem namesApart_of_child? (h : v.NamesApart) {step : Step} (hc : v.child? step = some w) :
    w.NamesApart := by
  cases h with
  | scalar hv =>
    rw [child?_of_isScalar hv] at hc
    exact nomatch hc
  | array hitems =>
    cases step with
    | key name => exact nomatch hc
    | index position => exact hitems _ (List.mem_of_getElem? hc)
  | object _ hmembers =>
    cases step with
    | key name => exact hmembers _ (mem_of_lookup hc)
    | index position => exact nomatch hc

theorem namesApart_of_at? (h : v.NamesApart) {steps : List Step} (hat : v.at? steps = some w) :
    w.NamesApart := by
  induction steps generalizing v with
  | nil => exact Option.some.inj hat ▸ h
  | cons step rest ih =>
    rw [at?_cons, Option.bind_eq_some_iff] at hat
    obtain ⟨child, hc, hat⟩ := hat
    exact ih (namesApart_of_child? h hc) hat

/-- Where names stay apart, nothing precedes the first member whose name agrees up to case. -/
theorem findMember_of_apart (ha : Apart members) (name : String) :
    findMember members name = members.find? fun m => sameIgnoringCase m.1 name := by
  rw [findMember]
  split
  · next value hl => rw [find?_of_mem ha (mem_of_lookup hl) (sameIgnoringCase_self name)]
  · rfl

theorem findMember_congr (ha : Apart members) (h : sameIgnoringCase name key = true) :
    findMember members name = findMember members key := by
  simp only [findMember_of_apart ha, sameIgnoringCase_congr_right h]

end Json

namespace Layout

/-- No object is written with two members whose names agree up to ASCII case. -/
inductive NamesApart : Layout → Prop where
  | scalar (v : Json) (plain : v.isScalar = true) : NamesApart (.scalar v plain)
  | array {items : List (List Char × Layout)} :
    (∀ item ∈ items, NamesApart item.2) → NamesApart (.array items)
  | object {members : List (String × List Char × Layout)} :
    (members.map (·.1)).Pairwise (fun a b => sameIgnoringCase a b = false) →
    (∀ m ∈ members, NamesApart m.2.2) → NamesApart (.object members)

variable {y : Layout}

theorem NamesApart.noRepeats (h : y.NamesApart) : y.NoRepeats := by
  induction h with
  | scalar v plain => exact .scalar v plain
  | array _ ih => exact .array ih
  | object ha _ ih =>
    refine .object (ha.imp fun {a b} hne heq => ?_) ih
    rw [heq, sameIgnoringCase_self] at hne
    exact Bool.false_ne_true hne.symm

theorem NamesApart.value (h : y.NamesApart) : y.value.NamesApart := by
  induction h with
  | scalar v plain => exact .scalar plain
  | array _ ih =>
    rw [Layout.value, itemValues_eq_map]
    exact .array (List.forall_mem_map.mpr ih)
  | @object members ha _ ih =>
    have hwritten : ∀ m ∈ (members.map fun m => (m.1, m.2.2.value)).foldl
        (fun ms m => Json.insertMember m.1 m.2 ms) [],
        m ∈ members.map fun m => (m.1, m.2.2.value) := fun m hm =>
      (Json.mem_of_mem_foldl_insertMember hm).resolve_right List.not_mem_nil
    have hordered := (Layout.object members).ordered_value
    rw [Layout.value, memberValues_eq_map, Json.ofMembers] at hordered ⊢
    refine .object (Json.apart_of_subset ?_ hordered.names hwritten) fun m hm => ?_
    · exact List.pairwise_map.mpr (List.pairwise_map.mp ha)
    · obtain ⟨n, hn, rfl⟩ := List.mem_map.mp (hwritten m hm)
      exact ih n hn

end Layout

end TemplateAudit
