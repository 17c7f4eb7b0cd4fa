import TemplateAudit.Proofs.Scope.Resources

/-! # Resources inside resources

A walk for resources passes the full type of a resource on to those inside it. What the walk over
a document finds strictly below one of its resources is therefore a walk from that resource which
starts with its full type, while a walk that is started there knows no type. The two find the same
for every type exactly if all resources directly inside are declared with their full type.
-/

namespace TemplateAudit

namespace Location

def isBelow (l around : Location) : Bool := around ∈ l.ancestors

variable {l a b : Location} {i j : Nat}

theorem isBelow_iff : l.isBelow a = true ↔ ∃ rest, rest ≠ [] ∧ l.steps = a.steps ++ rest := by
  rw [isBelow, decide_eq_true_eq, mem_ancestors]

theorem isBelow_key (l : Location) (name : String) : (l.key name).isBelow l = true :=
  isBelow_iff.mpr ⟨[.key name], List.cons_ne_nil _ _, rfl⟩

theorem prefix_of_isBelow (h : l.isBelow a = true) : a.steps <+: l.steps := by
  obtain ⟨rest, -, hrest⟩ := isBelow_iff.mp h
  exact ⟨rest, hrest.symm⟩

theorem isBelow_of_prefix (h : b.isBelow a = true) (hp : b.steps <+: l.steps) :
    l.isBelow a = true := by
  obtain ⟨rest, hne, hrest⟩ := isBelow_iff.mp h
  obtain ⟨more, hmore⟩ := hp
  refine isBelow_iff.mpr ⟨rest ++ more, List.append_ne_nil_of_left_ne_nil hne _, ?_⟩
  rw [← hmore, hrest, List.append_assoc]

theorem not_isBelow_of_prefix (h : l.steps <+: a.steps) : l.isBelow a = false := by
  rw [Bool.eq_false_iff]
  intro hbelow
  obtain ⟨rest, hne, hrest⟩ := isBelow_iff.mp hbelow
  have hle := h.length_le
  have hpos := List.length_pos_iff.mpr hne
  rw [hrest, List.length_append] at hle
  omega

theorem eq_of_index_prefix (h : (l.index i).steps <+: (l.index j).steps) : i = j := by
  have heq := h.eq_of_length (by simp)
  simpa using heq

theorem not_isBelow_of_index_ne {b c : Location} (hij : i ≠ j)
    (hb : (l.index i).steps <+: b.steps) (hc : (l.index j).steps <+: c.steps) :
    b.isBelow c = false := by
  rw [Bool.eq_false_iff]
  intro hbelow
  have hboth : (l.index j).steps <+: b.steps := hc.trans (prefix_of_isBelow hbelow)
  have heq : (l.index i).steps = (l.index j).steps := by
    refine (List.prefix_of_prefix_length_le hb hboth ?_).eq_of_length ?_ <;> simp
  simp only [steps_index, List.append_cancel_left_eq, List.cons.injEq, Step.index.injEq] at heq
  exact hij heq.1

end Location

namespace Scope

variable {document item value : Json} {target : String} {parent : Option String} {l : Location}
  {position : Nat} {items : List Json} {r s : Scope}

def FoundBelow (target : String) (v : Json) : Prop :=
  ∀ parent l, ∀ s ∈ resourcesIn target parent l v, s.location.isBelow l = true

theorem prefix_of_mem_resourcesFrom (ih : FoundBelow target item) {here : Location}
    (hs : s ∈ resourcesFrom target parent here item) : here.steps <+: s.location.steps := by
  rw [resourcesFrom] at hs
  split at hs
  · next declared hdeclared =>
    dsimp only at hs
    split at hs
    · rcases List.mem_cons.mp hs with rfl | hs
      · exact List.prefix_refl _
      · exact Location.prefix_of_isBelow (ih _ _ s hs)
    · exact Location.prefix_of_isBelow (ih _ _ s hs)
  · exact absurd hs List.not_mem_nil

theorem prefix_of_mem_resourcesAmong (ih : ∀ item ∈ items, FoundBelow target item)
    (hs : s ∈ resourcesAmong target parent l position items) :
    ∃ i, position ≤ i ∧ (l.index i).steps <+: s.location.steps := by
  induction items generalizing position with
  | nil => exact absurd hs List.not_mem_nil
  | cons item rest ihs =>
    obtain ⟨hitem, hrest⟩ := List.forall_mem_cons.mp ih
    rw [resourcesAmong_cons] at hs
    rcases List.mem_append.mp hs with hs | hs
    · exact ⟨position, Nat.le_refl _, prefix_of_mem_resourcesFrom hitem hs⟩
    · obtain ⟨i, hi, hprefix⟩ := ihs hrest hs
      exact ⟨i, by omega, hprefix⟩

theorem foundBelow (target : String) (v : Json) : FoundBelow target v := by
  induction v using Json.descendResources with
  | inside v ih =>
    intro parent l s hs
    rw [resourcesIn_eq] at hs
    split at hs
    · next key items harray =>
      rw [Json.resources_of_array harray] at ih
      obtain ⟨i, -, hprefix⟩ := prefix_of_mem_resourcesAmong ih hs
      have hkey : (l.key key).steps <+: s.location.steps :=
        (List.prefix_append _ _).trans hprefix
      exact Location.isBelow_of_prefix (Location.isBelow_key l key) hkey
    · exact absurd hs List.not_mem_nil

def below (l : Location) (scopes : List Scope) : List Scope :=
  scopes.filter fun s => s.location.isBelow l

theorem below_append (l : Location) (scopes more : List Scope) :
    below l (scopes ++ more) = below l scopes ++ below l more := List.filter_append ..

theorem below_eq_self {scopes : List Scope} (h : ∀ s ∈ scopes, s.location.isBelow l = true) :
    below l scopes = scopes := List.filter_eq_self.mpr h

theorem below_eq_nil {scopes : List Scope} (h : ∀ s ∈ scopes, s.location.isBelow l = false) :
    below l scopes = [] := by
  refine List.filter_eq_nil_iff.mpr ?_
  intro s hs
  rw [h s hs]
  exact Bool.false_ne_true

/-- A found resource has a value and a full type that fits the target, and what the same walk finds
below it for any type is a walk from there that starts with this full type. -/
def ContinuesFrom (walk : String → List Scope) (target : String) (r : Scope) : Prop :=
  ∃ value full, r.value = some value ∧ Text.sameIgnoringCase full target = true ∧
    ∀ inner, below r.location (walk inner) = resourcesIn inner (some full) r.location value

theorem continuesFrom_resourcesFrom {here : Location}
    (ih : ∀ parent l, ∀ r ∈ resourcesIn target parent l item,
      ContinuesFrom (fun inner => resourcesIn inner parent l item) target r)
    (hr : r ∈ resourcesFrom target parent here item) :
    ContinuesFrom (fun inner => resourcesFrom inner parent here item) target r := by
  have hwithin : here.steps <+: r.location.steps :=
    prefix_of_mem_resourcesFrom (foundBelow target item) hr
  rw [resourcesFrom] at hr
  split at hr
  · next declared hdeclared =>
    dsimp only at hr
    -- The resource itself is not below anything that is found from it.
    have hinside : ∀ inner, below r.location (resourcesFrom inner parent here item) =
        below r.location (resourcesIn inner (some (fullType parent declared)) here item) := by
      intro inner
      have hhere : here.isBelow r.location = false := Location.not_isBelow_of_prefix hwithin
      rw [resourcesFrom, hdeclared]
      dsimp only
      split
      · rw [below, List.filter_cons_of_neg (by rw [hhere]; exact Bool.false_ne_true), below]
      · rfl
    have hself : r ∈ resourcesIn target (some (fullType parent declared)) here item →
        ContinuesFrom (fun inner => resourcesFrom inner parent here item) target r := by
      intro hr
      obtain ⟨value, full, hvalue, hfull, hwalk⟩ := ih _ _ r hr
      exact ⟨value, full, hvalue, hfull, fun inner => (hinside inner).trans (hwalk inner)⟩
    split at hr
    · next hfits =>
      rcases List.mem_cons.mp hr with rfl | hr
      · refine ⟨item, _, rfl, hfits, ?_⟩
        intro inner
        exact (hinside inner).trans (below_eq_self (foundBelow inner item _ _))
      · exact hself hr
    · exact hself hr
  · exact absurd hr List.not_mem_nil

theorem continuesFrom_resourcesAmong
    (ih : ∀ item ∈ items, ∀ parent l, ∀ r ∈ resourcesIn target parent l item,
      ContinuesFrom (fun inner => resourcesIn inner parent l item) target r)
    (hr : r ∈ resourcesAmong target parent l position items) :
    ContinuesFrom (fun inner => resourcesAmong inner parent l position items) target r := by
  induction items generalizing position with
  | nil => exact absurd hr List.not_mem_nil
  | cons item rest ihs =>
    obtain ⟨hitem, hrest⟩ := List.forall_mem_cons.mp ih
    rw [resourcesAmong_cons] at hr
    rcases List.mem_append.mp hr with hr | hr
    · have hwithin := prefix_of_mem_resourcesFrom (foundBelow target item) hr
      obtain ⟨value, full, hvalue, hfull, hwalk⟩ := continuesFrom_resourcesFrom hitem hr
      refine ⟨value, full, hvalue, hfull, ?_⟩
      intro inner
      have hlater : below r.location (resourcesAmong inner parent l (position + 1) rest) = [] := by
        refine below_eq_nil ?_
        intro s hs
        obtain ⟨i, hi, hs⟩ :=
          prefix_of_mem_resourcesAmong (fun item _ => foundBelow inner item) hs
        exact Location.not_isBelow_of_index_ne (by omega) hs hwithin
      dsimp only
      rw [resourcesAmong_cons, below_append, hwalk, hlater, List.append_nil]
    · obtain ⟨i, hi, hwithin⟩ :=
        prefix_of_mem_resourcesAmong (fun item _ => foundBelow target item) hr
      obtain ⟨value, full, hvalue, hfull, hwalk⟩ := ihs hrest hr
      refine ⟨value, full, hvalue, hfull, ?_⟩
      intro inner
      have hearlier : below r.location (resourcesFrom inner parent (l.index position) item) =
          [] := by
        refine below_eq_nil ?_
        intro s hs
        have hs := prefix_of_mem_resourcesFrom (foundBelow inner item) hs
        exact Location.not_isBelow_of_index_ne (by omega) hs hwithin
      dsimp only
      rw [resourcesAmong_cons, below_append, hearlier, List.nil_append, hwalk]

theorem continuesFrom_resourcesIn (target : String) (v : Json) (parent : Option String)
    (l : Location) (hr : r ∈ resourcesIn target parent l v) :
    ContinuesFrom (fun inner => resourcesIn inner parent l v) target r := by
  induction v using Json.descendResources generalizing parent l r with
  | inside v ih =>
    simp only [resourcesIn_eq] at hr ⊢
    split at hr
    · next key items harray =>
      rw [Json.resources_of_array harray] at ih
      exact continuesFrom_resourcesAmong (fun item hi parent l r hr => ih item hi parent l hr) hr
    · exact absurd hr List.not_mem_nil

theorem mem_resourcesFrom_here_iff {here : Location} {v : Option Json} :
    (⟨here, v⟩ : Scope) ∈ resourcesFrom target parent here item ↔
      v = some item ∧ ∃ declared, declaredType? item = some declared ∧
        Text.sameIgnoringCase (fullType parent declared) target = true := by
  have hinside : ∀ full, (⟨here, v⟩ : Scope) ∉ resourcesIn target full here item := by
    intro full hs
    have hbelow := foundBelow target item full here _ hs
    rw [Location.not_isBelow_of_prefix (List.prefix_refl _)] at hbelow
    exact Bool.false_ne_true hbelow
  rw [resourcesFrom]
  cases hdeclared : declaredType? item with
  | none => simp
  | some declared =>
    dsimp only
    split
    · next hfits => simp [hinside, hfits]
    · next hfits => simp [hinside, hfits]

theorem mem_resourcesAmong_index_iff {i : Nat} {v : Option Json} :
    (⟨l.index (position + i), v⟩ : Scope) ∈ resourcesAmong target parent l position items ↔
      ∃ item declared, items[i]? = some item ∧ v = some item ∧
        declaredType? item = some declared ∧
        Text.sameIgnoringCase (fullType parent declared) target = true := by
  induction items generalizing position i with
  | nil => simp [resourcesAmong]
  | cons item rest ih =>
    rw [resourcesAmong_cons, List.mem_append]
    cases i with
    | zero =>
      have hlater : (⟨l.index position, v⟩ : Scope) ∉
          resourcesAmong target parent l (position + 1) rest := by
        intro hs
        obtain ⟨i, hi, hprefix⟩ :=
          prefix_of_mem_resourcesAmong (fun item _ => foundBelow target item) hs
        have := Location.eq_of_index_prefix hprefix
        omega
      rw [Nat.add_zero, mem_resourcesFrom_here_iff, or_iff_left hlater]
      simp
    | succ i =>
      have hearlier : (⟨l.index (position + (i + 1)), v⟩ : Scope) ∉
          resourcesFrom target parent (l.index position) item := by
        intro hs
        have := Location.eq_of_index_prefix
          (prefix_of_mem_resourcesFrom (foundBelow target item) hs)
        omega
      rw [or_iff_right hearlier, show position + (i + 1) = position + 1 + i by omega, ih]
      rfl

theorem fullType_of_slash (parent : Option String) {declared : String}
    (h : '/' ∈ declared.toList) : fullType parent declared = declared := by
  cases parent with
  | none => rfl
  | some parent => rw [fullType, if_pos (by simpa using h)]

/-- All resources directly inside a value are declared with their full type. -/
def DeclaresFullTypes (v : Json) : Prop :=
  ∀ item ∈ v.resources, ∀ declared, declaredType? item = some declared → '/' ∈ declared.toList

theorem resourcesAmong_parent_irrelevant
    (h : ∀ item ∈ items, ∀ declared, declaredType? item = some declared → '/' ∈ declared.toList)
    (target : String) (parent other : Option String) (l : Location) (position : Nat) :
    resourcesAmong target parent l position items =
      resourcesAmong target other l position items := by
  induction items generalizing position with
  | nil => rfl
  | cons item rest ih =>
    obtain ⟨hitem, hrest⟩ := List.forall_mem_cons.mp h
    rw [resourcesAmong_cons, resourcesAmong_cons, ih hrest, resourcesFrom, resourcesFrom]
    cases hdeclared : declaredType? item with
    | none => rfl
    | some declared =>
      dsimp only
      rw [fullType_of_slash parent (hitem declared hdeclared),
        fullType_of_slash other (hitem declared hdeclared)]

theorem length_eq_of_sameIgnoringCase {a b : String} (h : Text.sameIgnoringCase a b = true) :
    a.toList.length = b.toList.length := by
  simpa [Text.folded] using congrArg List.length (Text.sameIgnoringCase_iff.mp h)

/-- A walk that starts with a full type and one that starts without find the same for every type
exactly if the first resources need no type around them. -/
theorem resourcesIn_parent_irrelevant_iff (v : Json) (full : String) (l : Location) :
    (∀ inner, resourcesIn inner none l v = resourcesIn inner (some full) l v) ↔
      DeclaresFullTypes v := by
  simp only [resourcesIn_eq, DeclaresFullTypes, Json.resources]
  cases harray : v.resourceArray? with
  | none => simp
  | some found =>
    obtain ⟨key, items⟩ := found
    dsimp only [Option.map_some, Option.getD_some]
    constructor
    · intro hsame item hi declared hdeclared
      refine Decidable.byContradiction fun hslash => ?_
      obtain ⟨i, hi⟩ := List.mem_iff_getElem?.mp hi
      have hfull : fullType (some full) declared = full ++ "/" ++ declared := by
        rw [fullType, if_neg (by simpa using hslash)]
      have hfound : (⟨(l.key key).index (0 + i), some item⟩ : Scope) ∈
          resourcesAmong (full ++ "/" ++ declared) (some full) (l.key key) 0 items := by
        refine mem_resourcesAmong_index_iff.mpr ⟨item, declared, hi, rfl, hdeclared, ?_⟩
        rw [hfull, Text.sameIgnoringCase_self]
      rw [← hsame, mem_resourcesAmong_index_iff] at hfound
      obtain ⟨item', declared', hi', -, hdeclared', hfits⟩ := hfound
      obtain rfl := Option.some.inj (hi.symm.trans hi')
      obtain rfl := Option.some.inj (hdeclared.symm.trans hdeclared')
      have hlength := length_eq_of_sameIgnoringCase hfits
      simp [fullType] at hlength
      omega
    · intro hslash inner
      exact resourcesAmong_parent_irrelevant hslash inner none (some full) _ _

/-- What a filter for a type finds strictly below a resource of the document is a walk from this
resource with its full type. A filter that is applied to the resource finds the same for every
type exactly if all resources directly inside are declared with their full type. -/
theorem resourcesOfType_root_below (h : r ∈ (root document).resourcesOfType target) :
    ∃ value full, r.value = some value ∧ Text.sameIgnoringCase full target = true ∧
      (∀ inner, below r.location ((root document).resourcesOfType inner) =
        resourcesIn inner (some full) r.location value) ∧
      ((∀ inner, r.resourcesOfType inner =
        below r.location ((root document).resourcesOfType inner)) ↔ DeclaresFullTypes value) := by
  obtain ⟨value, full, hvalue, hfull, hwalk⟩ :=
    continuesFrom_resourcesIn target document none .root h
  refine ⟨value, full, hvalue, hfull, hwalk, ?_⟩
  have hnested : ∀ inner, r.resourcesOfType inner = resourcesIn inner none r.location value := by
    intro inner
    rw [resourcesOfType, hvalue]
  rw [← resourcesIn_parent_irrelevant_iff value full r.location]
  refine forall_congr' fun inner => ?_
  rw [hnested inner, ← hwalk inner]
  rfl

/-- The server declares its firewall rule in full, and that has a part with a short type. -/
theorem resourcesOfType_root_below_firewall :
    let part : Json := .object [("type", .string "ranges")]
    let rule : Json := .object [("resources", .array [part]),
      ("type", .string "Microsoft.Sql/servers/firewallRules")]
    let server : Json := .object [("Resources", .array [rule]),
      ("type", .string "Microsoft.Sql/servers")]
    let document : Json := .object [("resources", .array [server])]
    let r : Scope := ⟨⟨[.key "resources", .index 0]⟩, some server⟩
    r ∈ (root document).resourcesOfType "microsoft.sql/SERVERS" ∧
      ∀ inner, r.resourcesOfType inner =
        below r.location ((root document).resourcesOfType inner) := by
  intro part rule server document r
  have hfound : (root document).resourcesOfType "microsoft.sql/SERVERS" = [r] := by
    dsimp only [document, server, rule, part, r]
    rfl
  have hr : r ∈ (root document).resourcesOfType "microsoft.sql/SERVERS" := by
    rw [hfound]
    exact List.mem_singleton_self r
  obtain ⟨value, full, hvalue, -, -, hnested⟩ := resourcesOfType_root_below hr
  obtain rfl : server = value := Option.some.inj hvalue
  refine ⟨hr, hnested.mpr ?_⟩
  intro item hi declared hdeclared
  have hinside : server.resources = [rule] := by
    dsimp only [server, rule, part]
    rfl
  rw [hinside] at hi
  obtain rfl := List.mem_singleton.mp hi
  obtain rfl : "Microsoft.Sql/servers/firewallRules" = declared := Option.some.inj hdeclared
  decide

/-- A filter that is applied to a resource does not always find the resources of the type below
it: the database of the server is declared with a short type. -/
theorem not_resourcesOfType_eq_below :
    ¬ ∀ (document : Json) (target inner : String) (r : Scope),
      r ∈ (root document).resourcesOfType target →
        r.resourcesOfType inner = below r.location ((root document).resourcesOfType inner) := by
  intro h
  let database : Json := .object [("type", .string "databases")]
  let server : Json := .object [("resources", .array [database]),
    ("type", .string "Microsoft.Sql/servers")]
  have hnested := h (.object [("resources", .array [server])]) "Microsoft.Sql/servers"
    "Microsoft.Sql/servers/databases" ⟨⟨[.key "resources", .index 0]⟩, some server⟩
    (List.mem_singleton_self _)
  exact absurd (congrArg List.length hnested) (by decide)

end Scope

end TemplateAudit
