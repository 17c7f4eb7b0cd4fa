import TemplateAudit.Json.Basic

/-! # What was written last

A list of named values stands for what it says last about each name. The members of an object
are such a list, and so are the lines noted for locations; reading an object keeps for each name
what was written last for it.
-/

namespace TemplateAudit

variable {α β γ : Type} [DecidableEq α]

/-- What a list says last about a key. -/
def lastFor? (key : α) (written : List (α × β)) : Option β := written.reverse.lookup key

@[simp] theorem lastFor?_nil (key : α) : lastFor? key ([] : List (α × β)) = none := rfl

theorem lastFor?_append (key : α) (xs ys : List (α × β)) :
    lastFor? key (xs ++ ys) = (lastFor? key ys).or (lastFor? key xs) := by
  rw [lastFor?, List.reverse_append, List.lookup_append]
  rfl

theorem lastFor?_cons (key : α) (w : α × β) (rest : List (α × β)) :
    lastFor? key (w :: rest) =
      (lastFor? key rest).or (if key = w.1 then some w.2 else none) := by
  obtain ⟨other, value⟩ := w
  have hw : lastFor? key [(other, value)] = if key = other then some value else none := by
    rw [lastFor?, List.reverse_singleton, List.lookup_eq_findSome?]
    by_cases h : key = other <;> simp [h]
  rw [← List.singleton_append, lastFor?_append, hw]

theorem lastFor?_eq_none_iff {key : α} {written : List (α × β)} :
    lastFor? key written = none ↔ ∀ w ∈ written, w.1 ≠ key := by
  simp only [lastFor?, List.lookup_eq_none_iff, List.mem_reverse, bne_iff_ne, ne_eq, Prod.forall]
  exact ⟨fun h a b hm he => h a b hm he.symm, fun h a b hm he => h a b hm he.symm⟩

theorem lastFor?_map (f : β → γ) (key : α) (written : List (α × β)) :
    lastFor? key (written.map fun w => (w.1, f w.2)) = (lastFor? key written).map f := by
  induction written with
  | nil => rfl
  | cons w rest ih =>
    rw [List.map_cons, lastFor?_cons, lastFor?_cons, ih, Option.map_or]
    split <;> rfl

theorem mem_of_lastFor? {key : α} {value : β} {written : List (α × β)}
    (h : lastFor? key written = some value) : (key, value) ∈ written := by
  induction written with
  | nil => exact nomatch h
  | cons w rest ih =>
    rw [lastFor?_cons, Option.or_eq_some_iff] at h
    rcases h with h | ⟨-, h⟩
    · exact List.mem_cons_of_mem _ (ih h)
    · split at h
      · next heq =>
        obtain rfl := Option.some.inj h
        subst heq
        exact List.mem_cons_self
      · exact nomatch h

namespace Json

theorem lookup_insertMember (name key : String) (value : Json) (members : List (String × Json)) :
    lookup key (insertMember name value members) =
      if key = name then some value else lookup key members := by
  split
  · next h => rw [h, lookup_insertMember_self]
  · next h => rw [lookup_insertMember_of_ne h]

theorem lookup_foldl_insertMember (key : String) (written members : List (String × Json)) :
    lookup key (written.foldl (fun ms m => insertMember m.1 m.2 ms) members) =
      (lastFor? key written).or (lookup key members) := by
  induction written generalizing members with
  | nil => rfl
  | cons w rest ih =>
    rw [List.foldl_cons, ih, lookup_insertMember, lastFor?_cons, Option.or_assoc]
    split <;> rfl

theorem mem_of_lookup {name : String} {value : Json} {members : List (String × Json)}
    (h : lookup name members = some value) : (name, value) ∈ members := by
  induction members with
  | nil => exact nomatch h
  | cons m rest ih =>
    rw [lookup] at h
    split at h
    · next heq =>
      obtain rfl := Option.some.inj h
      subst heq
      exact List.mem_cons_self
    · exact List.mem_cons_of_mem _ (ih h)

end Json

end TemplateAudit
