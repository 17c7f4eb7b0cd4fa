import Mathlib.Logic.Relation
import TemplateAudit.Proofs.Scope.Nested

/-! # The search for resources

A search for resources enters the elements of `resources` arrays, as long as each of them declares
a type, and passes the full type of each on to the next one. It finds the elements that are entered
by such a chain and whose full type is the one that is looked for: all of them, each once, parents
before children and along each array.
-/

namespace TemplateAudit

namespace Json

variable {members : List (String × Json)} {name key declared : String} {v value : Json}
  {items : List Json}

/-- The member that a name means: the first one spelled so, or else the first one whose name agrees
up to ASCII case. -/
inductive IsMember (members : List (String × Json)) (name : String) : String → Json → Prop where
  | exact {before after : List (String × Json)} {value : Json} :
      members = before ++ (name, value) :: after → (∀ m ∈ before, m.1 ≠ name) →
      IsMember members name name value
  | folded {before after : List (String × Json)} {key : String} {value : Json} :
      (∀ m ∈ members, m.1 ≠ name) → members = before ++ (key, value) :: after →
      Text.sameIgnoringCase key name = true →
      (∀ m ∈ before, Text.sameIgnoringCase m.1 name = false) →
      IsMember members name key value

/-- A value is an object whose `resources` member, spelled like the key, is an array. -/
def ListsResources (v : Json) (key : String) (items : List Json) : Prop :=
  ∃ members, v = .object members ∧ IsMember members "resources" key (.array items)

def DeclaresType (v : Json) (declared : String) : Prop :=
  ∃ members key, v = .object members ∧ IsMember members "type" key (.string declared)

theorem lookup_eq_find? (name : String) (members : List (String × Json)) :
    lookup name members = (members.find? fun m => m.1 = name).map (·.2) := by
  induction members with
  | nil => rfl
  | cons m rest ih =>
    rw [lookup, List.find?_cons]
    by_cases h : m.1 = name <;> simp [h, ih]

theorem lookup_eq_some_iff_first : lookup name members = some value ↔
    ∃ before after, members = before ++ (name, value) :: after ∧ ∀ m ∈ before, m.1 ≠ name := by
  rw [lookup_eq_find?, Option.map_eq_some_iff]
  constructor
  · rintro ⟨⟨key, found⟩, hfind, rfl⟩
    obtain ⟨hkey, before, after, hmembers, hbefore⟩ := List.find?_eq_some_iff_append.mp hfind
    obtain rfl : key = name := by simpa using hkey
    exact ⟨before, after, hmembers, by simpa using hbefore⟩
  · rintro ⟨before, after, hmembers, hbefore⟩
    refine ⟨(name, value), ?_, rfl⟩
    rw [List.find?_eq_some_iff_append]
    exact ⟨by simp, before, after, hmembers, by simpa using hbefore⟩

theorem lookup_eq_none_iff : lookup name members = none ↔ ∀ m ∈ members, m.1 ≠ name := by
  rw [lookup_eq_find?, Option.map_eq_none_iff, List.find?_eq_none]
  simp

theorem isMember_iff :
    IsMember members name key value ↔ findMember members name = some (key, value) := by
  unfold findMember
  constructor
  · intro h
    cases h with
    | exact hmembers hbefore =>
      rw [lookup_eq_some_iff_first.mpr ⟨_, _, hmembers, hbefore⟩]
    | @folded before after _ _ hnone hmembers hkey hbefore =>
      rw [lookup_eq_none_iff.mpr hnone]
      exact List.find?_eq_some_iff_append.mpr
        ⟨hkey, before, after, hmembers, by simpa using hbefore⟩
  · intro h
    split at h
    · next found hfound =>
      obtain ⟨rfl, rfl⟩ := Prod.mk.inj (Option.some.inj h)
      obtain ⟨before, after, hmembers, hbefore⟩ := lookup_eq_some_iff_first.mp hfound
      exact .exact hmembers hbefore
    · next hnone =>
      obtain ⟨hkey, before, after, hmembers, hbefore⟩ := List.find?_eq_some_iff_append.mp h
      exact .folded (lookup_eq_none_iff.mp hnone) hmembers hkey (by simpa using hbefore)

theorem listsResources_iff : v.ListsResources key items ↔ v.resourceArray? = some (key, items) := by
  unfold ListsResources
  constructor
  · rintro ⟨members, rfl, hmember⟩
    rw [resourceArray?, isMember_iff.mp hmember]
  · intro h
    cases v with
    | object members =>
      rw [resourceArray?] at h
      split at h
      · next hm =>
        obtain ⟨rfl, rfl⟩ := Prod.mk.inj (Option.some.inj h)
        exact ⟨members, rfl, isMember_iff.mpr hm⟩
      · simp at h
    | _ => simp [resourceArray?] at h

theorem declaresType_iff : v.DeclaresType declared ↔ Scope.declaredType? v = some declared := by
  unfold DeclaresType
  constructor
  · rintro ⟨members, key, rfl, hmember⟩
    rw [Scope.declaredType?, isMember_iff.mp hmember]
  · intro h
    cases v with
    | object members =>
      rw [Scope.declaredType?] at h
      split at h
      · next key declared hm =>
        obtain rfl := Option.some.inj h
        exact ⟨members, key, rfl, isMember_iff.mpr hm⟩
      · simp at h
    | _ => simp [Scope.declaredType?] at h

end Json

namespace Location

variable {a b : Location}

/-- One location comes before another if it lies above it, or if the two lie in one array and the
element of the first one comes first. -/
inductive Precedes : Location → Location → Prop where
  | above {a b : Location} : b.isBelow a = true → Precedes a b
  | along {a b l : Location} {i j : Nat} : i < j → (l.index i).steps <+: a.steps →
      (l.index j).steps <+: b.steps → Precedes a b

theorem Precedes.ne (h : Precedes a b) : a ≠ b := by
  rintro rfl
  rcases h with hbelow | ⟨hlt, hi, hj⟩
  · have hself : a.isBelow a = false := not_isBelow_of_prefix (List.prefix_refl _)
    exact Bool.false_ne_true (hself.symm.trans hbelow)
  · have heq := eq_of_index_prefix (List.prefix_of_prefix_length_le hi hj (by simp))
    exact Nat.ne_of_lt hlt heq

end Location

namespace Scope

open Relation (TransGen ReflTransGen)

/-- What a search has come to; the full type is that of a resource that it has entered. -/
structure Visit where
  fullType : Option String
  location : Location
  value : Json

inductive IsFullType (declared : String) : Option String → String → Prop where
  | first : IsFullType declared none declared
  | short {above : String} : '/' ∉ declared.toList →
      IsFullType declared (some above) (above ++ "/" ++ declared)
  | full {above : String} : '/' ∈ declared.toList → IsFullType declared (some above) declared

/-- A search enters the elements of the array of resources that declare a type. -/
inductive Enters : Visit → Visit → Prop where
  | element {above : Option String} {l : Location} {v item : Json} {key : String}
      {items : List Json} {i : Nat} {declared full : String} :
      v.ListsResources key items → items[i]? = some item → item.DeclaresType declared →
      IsFullType declared above full →
      Enters ⟨above, l, v⟩ ⟨some full, (l.key key).index i, item⟩

variable {document item v : Json} {target full declared : String} {parent : Option String}
  {l here : Location} {position : Nat} {items : List Json} {found s : Scope} {p q : Visit}

theorem isFullType_iff : IsFullType declared parent full ↔ fullType parent declared = full := by
  cases parent with
  | none =>
    constructor
    · rintro ⟨⟩
      rfl
    · rintro rfl
      exact .first
  | some above =>
    by_cases hslash : '/' ∈ declared.toList
    · rw [fullType, if_pos (by simpa using hslash)]
      constructor
      · rintro (_ | hshort | _)
        · exact absurd hslash hshort
        · rfl
      · rintro rfl
        exact .full hslash
    · rw [fullType, if_neg (by simpa using hslash)]
      constructor
      · rintro (_ | _ | hfull)
        · rfl
        · exact absurd hfull hslash
      · rintro rfl
        exact .short hslash

theorem enters_iff : Enters ⟨parent, l, v⟩ q ↔
    ∃ key items i item declared, v.resourceArray? = some (key, items) ∧ items[i]? = some item ∧
      declaredType? item = some declared ∧
      q = ⟨some (fullType parent declared), (l.key key).index i, item⟩ := by
  constructor
  · rintro ⟨hlists, hitem, hdeclares, hfull⟩
    rw [Json.listsResources_iff] at hlists
    rw [Json.declaresType_iff] at hdeclares
    rw [isFullType_iff] at hfull
    exact ⟨_, _, _, _, _, hlists, hitem, hdeclares, by rw [hfull]⟩
  · rintro ⟨key, items, i, item, declared, hlists, hitem, hdeclares, rfl⟩
    exact .element (Json.listsResources_iff.mpr hlists) hitem
      (Json.declaresType_iff.mpr hdeclares) (isFullType_iff.mpr rfl)

/-! ### What is found is what is entered -/

theorem mem_resourcesFrom_iff : found ∈ resourcesFrom target parent here item ↔
    ∃ declared, declaredType? item = some declared ∧
      (found = ⟨here, some item⟩ ∧
          Text.sameIgnoringCase (fullType parent declared) target = true ∨
        found ∈ resourcesIn target (some (fullType parent declared)) here item) := by
  unfold resourcesFrom
  cases hdeclared : declaredType? item with
  | none => simp
  | some declared =>
    dsimp only
    split
    · next hfits => simp [hfits]
    · next hfits => simp [hfits]

theorem mem_resourcesAmong_iff : found ∈ resourcesAmong target parent l position items ↔
    ∃ i item, items[i]? = some item ∧
      found ∈ resourcesFrom target parent (l.index (position + i)) item := by
  induction items generalizing position with
  | nil => simp [resourcesAmong]
  | cons item rest ih =>
    rw [resourcesAmong_cons, List.mem_append, ih]
    constructor
    · rintro (hhere | ⟨i, item, hitem, hlater⟩)
      · exact ⟨0, item, rfl, hhere⟩
      · refine ⟨i + 1, item, hitem, ?_⟩
        rwa [Nat.add_right_comm] at hlater
    · rintro ⟨_ | i, item, hitem, hmem⟩
      · obtain rfl := Option.some.inj hitem
        exact .inl hmem
      · refine .inr ⟨i, item, hitem, ?_⟩
        rwa [Nat.add_right_comm]

def IsEntered (target : String) (p : Visit) (found : Scope) : Prop :=
  ∃ item full, found.value = some item ∧ Text.sameIgnoringCase full target = true ∧
    TransGen Enters p ⟨some full, found.location, item⟩

theorem isEntered_iff : IsEntered target p found ↔ ∃ q, Enters p q ∧
    ((∃ full, q.fullType = some full ∧ found = ⟨q.location, some q.value⟩ ∧
        Text.sameIgnoringCase full target = true) ∨ IsEntered target q found) := by
  unfold IsEntered
  constructor
  · rintro ⟨item, full, hvalue, hfits, hchain⟩
    obtain ⟨q, hq, hrest⟩ := TransGen.head'_iff.mp hchain
    refine ⟨q, hq, ?_⟩
    rcases Relation.reflTransGen_iff_eq_or_transGen.mp hrest with rfl | hrest
    · exact .inl ⟨full, rfl, by rw [← hvalue], hfits⟩
    · exact .inr ⟨item, full, hvalue, hfits, hrest⟩
  · rintro ⟨⟨_, location, item⟩, hq, ⟨full, rfl, rfl, hfits⟩ | ⟨item, full, hvalue, hfits, hrest⟩⟩
    · exact ⟨item, full, rfl, hfits, .single hq⟩
    · exact ⟨item, full, hvalue, hfits, .head hq hrest⟩

theorem mem_resourcesIn_iff (target : String) (v : Json) :
    ∀ parent l found, found ∈ resourcesIn target parent l v ↔
      IsEntered target ⟨parent, l, v⟩ found := by
  induction v using Json.descendResources with
  | inside v ih =>
    intro parent l found
    rw [isEntered_iff, resourcesIn_eq]
    cases harray : v.resourceArray? with
    | none => simp [enters_iff, harray]
    | some listed =>
      obtain ⟨key, items⟩ := listed
      rw [Json.resources_of_array harray] at ih
      dsimp only
      rw [mem_resourcesAmong_iff]
      simp only [mem_resourcesFrom_iff, Nat.zero_add]
      constructor
      · rintro ⟨i, item, hitem, declared, hdeclared, hfound⟩
        refine
          ⟨_, enters_iff.mpr ⟨key, items, i, item, declared, harray, hitem, hdeclared, rfl⟩, ?_⟩
        rw [ih item (List.mem_of_getElem? hitem)] at hfound
        exact hfound.imp_left fun ⟨he, hfits⟩ => ⟨_, rfl, he, hfits⟩
      · rintro ⟨q, hq, hfound⟩
        obtain ⟨key', items', i, item, declared, harray', hitem, hdeclared, rfl⟩ :=
          enters_iff.mp hq
        obtain ⟨rfl, rfl⟩ := Prod.mk.inj (Option.some.inj (harray.symm.trans harray'))
        refine ⟨i, item, hitem, declared, hdeclared, ?_⟩
        rw [ih item (List.mem_of_getElem? hitem)]
        refine hfound.imp_left ?_
        rintro ⟨full, hfull, he, hfits⟩
        obtain rfl := Option.some.inj hfull
        exact ⟨he, hfits⟩

theorem mem_resourcesOfType_iff : found ∈ s.resourcesOfType target ↔
    ∃ v, s.value = some v ∧ IsEntered target ⟨none, s.location, v⟩ found := by
  unfold resourcesOfType
  cases s.value with
  | none => simp
  | some v => simp [mem_resourcesIn_iff]

/-! ### The order of what is found -/

theorem pairwise_resourcesFrom
    (ih : ∀ parent l, (resourcesIn target parent l item).Pairwise
      fun a b => a.location.Precedes b.location) :
    (resourcesFrom target parent here item).Pairwise
      fun a b => a.location.Precedes b.location := by
  unfold resourcesFrom
  split
  · next declared hdeclared =>
    dsimp only
    split
    · refine List.pairwise_cons.mpr ⟨?_, ih _ _⟩
      intro inside hinside
      exact .above (foundBelow target item _ _ inside hinside)
    · exact ih _ _
  · exact .nil

theorem pairwise_resourcesAmong
    (ih : ∀ item ∈ items, ∀ parent l, (resourcesIn target parent l item).Pairwise
      fun a b => a.location.Precedes b.location) :
    (resourcesAmong target parent l position items).Pairwise
      fun a b => a.location.Precedes b.location := by
  induction items generalizing position with
  | nil => exact .nil
  | cons item rest ihs =>
    obtain ⟨hitem, hrest⟩ := List.forall_mem_cons.mp ih
    rw [resourcesAmong_cons, List.pairwise_append]
    refine ⟨pairwise_resourcesFrom hitem, ihs hrest, ?_⟩
    intro a ha b hb
    have hhere := prefix_of_mem_resourcesFrom (foundBelow target item) ha
    obtain ⟨j, hj, hlater⟩ :=
      prefix_of_mem_resourcesAmong (fun item _ => foundBelow target item) hb
    exact .along (by omega) hhere hlater

theorem pairwise_resourcesIn (target : String) (v : Json) :
    ∀ parent l, (resourcesIn target parent l v).Pairwise
      fun a b => a.location.Precedes b.location := by
  induction v using Json.descendResources with
  | inside v ih =>
    intro parent l
    rw [resourcesIn_eq]
    split
    · next key items harray =>
      rw [Json.resources_of_array harray] at ih
      exact pairwise_resourcesAmong ih
    · exact .nil

theorem pairwise_resourcesOfType (s : Scope) (target : String) :
    (s.resourcesOfType target).Pairwise fun a b => a.location.Precedes b.location := by
  unfold resourcesOfType
  split
  · exact pairwise_resourcesIn target _ none _
  · exact .nil

theorem nodup_resourcesOfType (s : Scope) (target : String) :
    ((s.resourcesOfType target).map (·.location)).Nodup := by
  rw [List.Nodup, List.pairwise_map]
  exact (pairwise_resourcesOfType s target).imp Location.Precedes.ne

/-! ### Where nothing is found -/

theorem Enters.leads (h : Enters p q) : ∃ key i items declared,
    q.location.steps = p.location.steps ++ [.key key, .index i] ∧
      p.value.at? [.key key, .index i] = some q.value ∧ p.value.ListsResources key items ∧
      q.value.DeclaresType declared := by
  obtain ⟨hlists, hitem, hdeclares, -⟩ := h
  refine ⟨_, _, _, _, List.append_assoc _ _ _, ?_, hlists, hdeclares⟩
  rw [Json.at?_cons, Json.child?_of_resourceArray? (Json.listsResources_iff.mp hlists),
    Option.bind_some, Json.at?_cons, Json.child?, hitem, Option.bind_some, Json.at?_nil]

theorem at?_of_chain (h : ReflTransGen Enters p q) :
    ∃ rest, q.location.steps = p.location.steps ++ rest ∧ p.value.at? rest = some q.value := by
  induction h with
  | refl => exact ⟨[], by simp, Json.at?_nil _⟩
  | tail _ hq ih =>
    obtain ⟨rest, hsteps, hat⟩ := ih
    obtain ⟨key, i, -, -, hnext, hchild, -, -⟩ := hq.leads
    refine ⟨rest ++ [.key key, .index i], ?_, ?_⟩
    · rw [hnext, hsteps, List.append_assoc]
    · rw [Json.at?_append, hat, Option.bind_some, hchild]

variable {steps : List Step} {i : Nat}

theorem Enters.element_of_prefix (h : Enters p q)
    (hsteps : steps ++ [.index i] <+: q.location.steps) :
    steps ++ [.index i] = q.location.steps ∨ steps ++ [.index i] <+: p.location.steps := by
  obtain ⟨key, j, -, -, hnext, -⟩ := h.leads
  rw [List.append_cons p.location.steps] at hnext
  rw [hnext, List.prefix_concat_iff, List.prefix_concat_iff] at hsteps
  rcases hsteps with heq | heq | hsteps
  · exact .inl (heq.trans hnext.symm)
  · exact absurd (List.append_inj_right' heq rfl) (by simp)
  · exact .inr hsteps

/-- Every element on the way to what is entered was entered on the way. -/
theorem exists_entered_of_prefix (h : TransGen Enters p q)
    (hsteps : p.location.steps ++ steps ++ [.index i] <+: q.location.steps) :
    ∃ m, m.location.steps = p.location.steps ++ steps ++ [.index i] ∧ TransGen Enters p m ∧
      ReflTransGen Enters m q := by
  induction h with
  | single hq =>
    rcases hq.element_of_prefix hsteps with heq | hprefix
    · exact ⟨_, heq.symm, .single hq, .refl⟩
    · have hlength := hprefix.length_le
      simp only [List.length_append, List.length_singleton] at hlength
      omega
  | tail hc hq ih =>
    rcases hq.element_of_prefix hsteps with heq | hprefix
    · exact ⟨_, heq.symm, .tail hc hq, .refl⟩
    · obtain ⟨m, hm, hpm, hmc⟩ := ih hprefix
      exact ⟨m, hm, hpm, hmc.tail hq⟩

theorem declares_and_lists_of_isBelow (hs : s.value = some v)
    (hitem : v.at? (steps ++ [.index i]) = some item) (hf : found ∈ s.resourcesOfType target)
    (hbelow : found.location.isBelow ⟨s.location.steps ++ steps ++ [.index i]⟩ = true) :
    (∃ declared, item.DeclaresType declared) ∧ ∃ key items, item.ListsResources key items := by
  obtain ⟨v', hs', last, full, -, -, hchain⟩ := mem_resourcesOfType_iff.mp hf
  obtain rfl := Option.some.inj (hs.symm.trans hs')
  obtain ⟨m, hm, hentered, hrest⟩ :=
    exists_entered_of_prefix hchain (Location.prefix_of_isBelow hbelow)
  obtain rfl : m.value = item := by
    obtain ⟨rest, hsteps, hat⟩ := at?_of_chain hentered.to_reflTransGen
    rw [hm, List.append_assoc, List.append_cancel_left_eq] at hsteps
    exact Option.some.inj (hat.symm.trans (hsteps ▸ hitem))
  constructor
  · obtain ⟨c, -, hc⟩ := TransGen.tail'_iff.mp hentered
    obtain ⟨-, -, -, declared, -, -, -, hdeclares⟩ := hc.leads
    exact ⟨declared, hdeclares⟩
  · rcases Relation.reflTransGen_iff_eq_or_transGen.mp hrest with rfl | hrest
    · have hself := Location.not_isBelow_of_prefix (List.prefix_refl found.location.steps)
      rw [← hm, hself] at hbelow
      exact absurd hbelow Bool.false_ne_true
    · obtain ⟨c, hc, -⟩ := TransGen.head'_iff.mp hrest
      obtain ⟨key, -, items, -, -, -, hlists, -⟩ := hc.leads
      exact ⟨key, items, hlists⟩

/-- A search for a resource type finds exactly the elements that are entered by a chain of one or
more steps and have this full type, each once, parents first and along each array. Nothing is found
below an element that declares no type or lists no resources. -/
theorem resourcesOfType_finds (s : Scope) (target : String) :
    (∀ found, found ∈ s.resourcesOfType target ↔ ∃ v item full,
      s.value = some v ∧ found.value = some item ∧ Text.sameIgnoringCase full target = true ∧
        TransGen Enters ⟨none, s.location, v⟩ ⟨some full, found.location, item⟩) ∧
    ((s.resourcesOfType target).map (·.location)).Nodup ∧
    (s.resourcesOfType target).Pairwise (fun a b => a.location.Precedes b.location) ∧
    ∀ v steps i item, s.value = some v → v.at? (steps ++ [.index i]) = some item →
      (∀ declared, ¬ item.DeclaresType declared) ∨ (∀ key items, ¬ item.ListsResources key items) →
      ∀ found ∈ s.resourcesOfType target,
        found.location.isBelow ⟨s.location.steps ++ steps ++ [.index i]⟩ = false := by
  refine ⟨?_, nodup_resourcesOfType s target, pairwise_resourcesOfType s target, ?_⟩
  · intro found
    rw [mem_resourcesOfType_iff]
    simp only [IsEntered]
    constructor
    · rintro ⟨v, hs, item, full, hrest⟩
      exact ⟨v, item, full, hs, hrest⟩
    · rintro ⟨v, item, full, hs, hrest⟩
      exact ⟨v, hs, item, full, hrest⟩
  · intro v steps i item hs hitem hneither found hf
    rw [Bool.eq_false_iff]
    intro hbelow
    obtain ⟨⟨declared, hdeclares⟩, key, items, hlists⟩ :=
      declares_and_lists_of_isBelow hs hitem hf hbelow
    rcases hneither with hnone | hnone
    · exact hnone declared hdeclares
    · exact hnone key items hlists

/-- The database is entered through its server and has its full type from there. The other one of
this type is below an element without a type. -/
theorem resourcesOfType_finds_nested :
    let database : Json := .object [("type", .string "databases")]
    let server : Json := .object [("Resources", .array [database]),
      ("type", .string "Microsoft.Sql/servers")]
    let other : Json := .object [("type", .string "Microsoft.Sql/servers/databases")]
    let untyped : Json := .object [("resources", .array [other])]
    let document : Json := .object [("resources", .array [server, untyped])]
    let found := (root document).resourcesOfType "microsoft.sql/servers/DATABASES"
    (⟨⟨[.key "resources", .index 0, .key "Resources", .index 0]⟩, some database⟩ : Scope) ∈ found ∧
      (∀ declared, ¬ untyped.DeclaresType declared) ∧
      ∀ s ∈ found, s.location.isBelow ⟨[.key "resources", .index 1]⟩ = false := by
  intro database server other untyped document found
  obtain ⟨hfound, -, -, hnothing⟩ :=
    resourcesOfType_finds (root document) "microsoft.sql/servers/DATABASES"
  have huntyped : ∀ declared, ¬ untyped.DeclaresType declared := by
    intro declared hdeclares
    have hnone : declaredType? untyped = none := by
      dsimp only [untyped, other]
      rfl
    rw [Json.declaresType_iff, hnone] at hdeclares
    exact nomatch hdeclares
  refine ⟨(hfound _).mpr ?_, huntyped, ?_⟩
  · have hlists : server.ListsResources "Resources" [database] := by
      rw [Json.listsResources_iff]
      dsimp only [server, database]
      rfl
    have hserver : Enters ⟨none, .root, document⟩
        ⟨some "Microsoft.Sql/servers", ⟨[.key "resources", .index 0]⟩, server⟩ :=
      .element (Json.listsResources_iff.mpr rfl) rfl (Json.declaresType_iff.mpr rfl) .first
    have hdatabase : Enters ⟨some "Microsoft.Sql/servers", ⟨[.key "resources", .index 0]⟩, server⟩
        ⟨some ("Microsoft.Sql/servers" ++ "/" ++ "databases"),
          ⟨[.key "resources", .index 0, .key "Resources", .index 0]⟩, database⟩ :=
      .element hlists rfl (Json.declaresType_iff.mpr rfl) (.short (by decide))
    exact ⟨document, database, _, rfl, rfl, by decide, .tail (.single hserver) hdatabase⟩
  · exact hnothing document [.key "resources"] 1 untyped rfl rfl (.inl huntyped)

end Scope

end TemplateAudit
