import TemplateAudit.Proofs.Document.Walk

/-! # Documents in order

Reading a document puts the members of its objects in the order of their names. Where no object
repeats a name, this changes the order alone, and all locations lead to the same values.
-/

namespace TemplateAudit

namespace Json

variable {levels : Nat} {j : Json}

mutual

def sorted : Json → Json
  | .array items => .array (sortedItems items)
  | .object members => .ofMembers (sortedMembers members)
  | v => v

def sortedItems : List Json → List Json
  | [] => []
  | item :: rest => sorted item :: sortedItems rest

def sortedMembers : List (String × Json) → List (String × Json)
  | [] => []
  | (name, value) :: rest => (name, sorted value) :: sortedMembers rest

end

theorem sortedItems_eq_map (items : List Json) : sortedItems items = items.map sorted := by
  induction items with
  | nil => rfl
  | cons item rest ih => rw [sortedItems, ih, List.map_cons]

theorem sortedMembers_eq_map (members : List (String × Json)) :
    sortedMembers members = members.map fun m => (m.1, m.2.sorted) := by
  induction members with
  | nil => rfl
  | cons m rest ih => rw [sortedMembers, ih, List.map_cons]

/-- A document of integers and texts with so many levels at most, where no object repeats a name. -/
inductive Plain : Nat → Json → Prop where
  | null {levels : Nat} : Plain levels .null
  | bool {levels : Nat} (value : Bool) : Plain levels (.bool value)
  | integer {levels : Nat} (value : Int)
    (inRange : -9223372036854775808 ≤ value ∧ value < 18446744073709551616) :
    Plain levels (.number (.integer value inRange))
  | string {levels : Nat} (value : String) : Plain levels (.string value)
  | array {levels : Nat} {items : List Json} : (∀ item ∈ items, Plain levels item) →
    Plain (levels + 1) (.array items)
  | object {levels : Nat} {members : List (String × Json)} : (members.map (·.1)).Nodup →
    (∀ m ∈ members, Plain levels m.2) → Plain (levels + 1) (.object members)

@[simp] theorem plain_string (s : String) : Plain levels (.string s) := .string s

@[simp] theorem plain_natural (n : Nat) : Plain levels (.number (.ofNat n)) := .integer _ _

@[simp] theorem plain_array_iff {items : List Json} :
    Plain (levels + 1) (.array items) ↔ ∀ item ∈ items, Plain levels item :=
  ⟨fun | .array h => h, .array⟩

@[simp] theorem plain_object_iff {members : List (String × Json)} :
    Plain (levels + 1) (.object members) ↔
      (members.map (·.1)).Nodup ∧ ∀ m ∈ members, Plain levels m.2 :=
  ⟨fun | .object hnames hmembers => ⟨hnames, hmembers⟩, fun ⟨hnames, hmembers⟩ =>
    .object hnames hmembers⟩

theorem lastFor?_eq_lookup {members : List (String × Json)} (h : (members.map (·.1)).Nodup)
    (name : String) : lastFor? name members = lookup name members := by
  induction members with
  | nil => rfl
  | cons m rest ih =>
    obtain ⟨other, value⟩ := m
    obtain ⟨hnew, hrest⟩ := List.nodup_cons.mp h
    rw [lastFor?_cons, ih hrest, lookup]
    by_cases heq : other = name
    · subst heq
      have hnone : lookup other rest = none := by
        rw [← ih hrest, lastFor?_eq_none_iff]
        rintro w hw rfl
        exact hnew (List.mem_map.mpr ⟨w, hw, rfl⟩)
      rw [hnone, Option.none_or, if_pos rfl]
    · rw [if_neg heq, if_neg (Ne.symm heq), Option.or_none]

theorem Plain.child?_sorted (h : Plain levels j) (step : Step) :
    j.sorted.child? step = (j.child? step).map sorted := by
  cases h with
  | null => rfl
  | bool value => rfl
  | integer value inRange => rfl
  | string value => rfl
  | array hitems =>
    cases step with
    | key name => rfl
    | index position =>
      rw [sorted, child?, child?, sortedItems_eq_map, List.getElem?_map]
  | object hnames hmembers =>
    cases step with
    | key name =>
      rw [sorted, ofMembers, child?, child?, lookup_foldl_insertMember, lookup, Option.or_none,
        sortedMembers_eq_map, lastFor?_map, lastFor?_eq_lookup hnames]
    | index position => rfl

theorem Plain.of_child? (h : Plain levels j) {step : Step} {child : Json}
    (hchild : j.child? step = some child) : ∃ levels, Plain levels child := by
  cases h with
  | array hitems =>
    cases step with
    | key name => exact nomatch hchild
    | index position => exact ⟨_, hitems _ (List.mem_of_getElem? hchild)⟩
  | object hnames hmembers =>
    cases step with
    | key name => exact ⟨_, hmembers _ (mem_of_lookup hchild)⟩
    | index position => exact nomatch hchild
  | _ => exact nomatch hchild

/-- Sorting the members keeps where all values are. -/
theorem Plain.at?_sorted (h : Plain levels j) (steps : List Step) :
    j.sorted.at? steps = (j.at? steps).map sorted := by
  induction steps generalizing j levels with
  | nil => rfl
  | cons step rest ih =>
    rw [at?_cons, at?_cons, h.child?_sorted]
    cases hchild : j.child? step with
    | none => rfl
    | some child =>
      obtain ⟨levels, hplain⟩ := h.of_child? hchild
      exact ih hplain

end Json

end TemplateAudit
