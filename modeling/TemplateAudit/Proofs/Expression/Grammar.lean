import TemplateAudit.Expression.Reader
import TemplateAudit.Proofs.Document.Walk
import TemplateAudit.Proofs.Path.Reading

/-! # The grammar of expressions

Which values stand for expressions is said here without reading them: an object has one kind of
question, every member fits its name, and the values that have to be expressions are expressions in
turn. Where no narrowing member is null, reading succeeds on exactly these values.
-/

namespace TemplateAudit

open Json (lookup)

theorem Json.lookup_eq_some_iff {members : List (String × Json)}
    (h : (members.map (·.1)).Pairwise (· < ·)) {name : String} {value : Json} :
    lookup name members = some value ↔ (name, value) ∈ members :=
  ⟨mem_of_lookup, lookup_of_mem h⟩

namespace Expression

def nestedAt (key : String) (value : Json) : List Json :=
  if key = "where" then [value]
  else if key = "allOf" ∨ key = "anyOf" then value.asArray?.getD []
  else []

def nested (members : List (String × Json)) : List Json :=
  members.flatMap fun m => nestedAt m.1 m.2

mutual

/-- The objects that stand where expressions have to be: the value itself, its condition and the
items of its groups, at any depth. -/
def objects : Json → List (List (String × Json))
  | .object members => members :: objectsAmong members
  | _ => []

def objectsAmong : List (String × Json) → List (List (String × Json))
  | [] => []
  | (key, value) :: rest =>
    (if key = "where" then objects value
    else if key = "allOf" ∨ key = "anyOf" then objectsInGroup value
    else []) ++ objectsAmong rest

def objectsInGroup : Json → List (List (String × Json))
  | .array items => objectsOf items
  | _ => []

def objectsOf : List Json → List (List (String × Json))
  | [] => []
  | item :: rest => objects item ++ objectsOf rest

end

/-- What the value of a member of an expression is, apart from expressions inside of it. -/
def Fits (key : String) (value : Json) : Prop :=
  if key = "resourceType" then ∃ s, value = .string s
  else if key = "path" then ∃ text path, value = .string text ∧ Path.parse text = .ok path
  else if key = "where" then ∃ members, value = .object members
  else if key = "allOf" ∨ key = "anyOf" then ∃ items, value = .array items
  else key ∈ Operator.keys ∧ ∃ op, Operator.ofJson key value = .ok op

def HasOneKind (members : List (String × Json)) : Prop :=
  (members.filter fun m => isKindKey m.1).length = 1

/-- The values that stand for expressions. -/
inductive Grammatical : Json → Prop where
  | object {members : List (String × Json)} : (∀ m ∈ members, Fits m.1 m.2) →
      HasOneKind members → (∀ child ∈ nested members, Grammatical child) →
      Grammatical (.object members)

variable {members : List (String × Json)} {items : List Json} {key : String} {v : Json}

theorem fits_resourceType_iff : Fits "resourceType" v ↔ ∃ s, v = .string s := by simp [Fits]

theorem fits_path_iff :
    Fits "path" v ↔ ∃ text path, v = .string text ∧ Path.parse text = .ok path := by simp [Fits]

theorem fits_where_iff : Fits "where" v ↔ ∃ members, v = .object members := by simp [Fits]

theorem fits_group_iff (quantifier : Quantifier) :
    Fits quantifier.key v ↔ ∃ items, v = .array items := by
  cases quantifier <;> simp [Fits, Quantifier.key]

theorem eq_of_mem_narrowingKeys (h : key ∈ narrowingKeys) :
    key = "resourceType" ∨ key = "path" ∨ key = "where" := by
  simpa [narrowingKeys] using h

theorem ne_of_operator (h : key ∈ Operator.keys) :
    (key ≠ "resourceType" ∧ key ≠ "path" ∧ key ≠ "where") ∧ key ≠ "allOf" ∧ key ≠ "anyOf" := by
  have hne : ∀ other, other ∉ Operator.keys → key ≠ other := fun _ => ne_of_mem_of_not_mem h
  refine ⟨⟨?_, ?_, ?_⟩, ?_, ?_⟩ <;> exact hne _ (by decide)

theorem fits_operator_iff (h : key ∈ Operator.keys) :
    Fits key v ↔ ∃ op, Operator.ofJson key v = .ok op := by
  simp [Fits, ne_of_operator h, h]

theorem isKindKey_iff : isKindKey key = true ↔
    (∃ quantifier : Quantifier, key = quantifier.key) ∨ key ∈ Operator.keys := by
  constructor
  · intro h
    simp only [isKindKey, Bool.or_eq_true, decide_eq_true_eq, List.contains_iff_mem] at h
    rcases h with (rfl | rfl) | h
    · exact .inl ⟨.allOf, rfl⟩
    · exact .inl ⟨.anyOf, rfl⟩
    · exact .inr h
  · rintro (⟨quantifier, rfl⟩ | h)
    · cases quantifier <;> rfl
    · simp [isKindKey, h]

theorem known_of_fits (h : Fits key v) : key ∈ narrowingKeys ∨ isKindKey key = true := by
  unfold Fits at h
  repeat' split at h
  all_goals simp_all [narrowingKeys, isKindKey]

theorem mem_nested_iff : v ∈ nested members ↔ ("where", v) ∈ members ∨
    ∃ (quantifier : Quantifier) (items : List Json),
      (quantifier.key, .array items) ∈ members ∧ v ∈ items := by
  simp only [nested, nestedAt, List.mem_flatMap]
  constructor
  · rintro ⟨⟨key, value⟩, hm, hv⟩
    split at hv
    · next hkey =>
      obtain rfl := List.mem_singleton.mp hv
      exact .inl (hkey ▸ hm)
    · split at hv
      · next hkey =>
        cases value with
        | array items =>
          rcases hkey with rfl | rfl
          · exact .inr ⟨.allOf, items, hm, hv⟩
          · exact .inr ⟨.anyOf, items, hm, hv⟩
        | _ => exact absurd hv List.not_mem_nil
      · exact absurd hv List.not_mem_nil
  · rintro (hm | ⟨quantifier, items, hm, hv⟩)
    · exact ⟨_, hm, by simp⟩
    · refine ⟨_, hm, ?_⟩
      cases quantifier <;> simpa [Quantifier.key, Json.asArray?] using hv

theorem objectsOf_eq_flatMap (items : List Json) : objectsOf items = items.flatMap objects := by
  induction items with
  | nil => rw [objectsOf, List.flatMap_nil]
  | cons item rest ih => rw [objectsOf, ih, List.flatMap_cons]

theorem objects_object (members : List (String × Json)) :
    objects (.object members) = members :: (nested members).flatMap objects := by
  suffices hamong : objectsAmong members = (nested members).flatMap objects by
    rw [objects, hamong]
  induction members with
  | nil => simp [objectsAmong, nested]
  | cons m rest ih =>
    obtain ⟨key, value⟩ := m
    have hgroup : objectsInGroup value = (value.asArray?.getD []).flatMap objects := by
      cases value <;> simp [objectsInGroup, Json.asArray?, objectsOf_eq_flatMap]
    rw [objectsAmong, ih, hgroup, nested, nested, List.flatMap_cons, List.flatMap_append, nestedAt]
    congr 1
    split
    · simp
    · split <;> rfl

theorem forall_objects_iff {P : List (String × Json) → Prop} :
    (∀ o ∈ objects (.object members), P o) ↔
      P members ∧ ∀ child ∈ nested members, ∀ o ∈ objects child, P o := by
  rw [objects_object, List.forall_mem_cons]
  simp only [List.forall_mem_flatMap]

/-- What follows for a value from the values inside of it that have to be expressions holds of all
values. -/
@[elab_as_elim]
theorem descendNested {motive : Json → Prop}
    (step : ∀ v, (∀ members, v = .object members → ∀ child ∈ nested members, motive child) →
      motive v) (v : Json) : motive v := by
  -- Items are reached through arrays, which are no expressions themselves.
  suffices h : motive v ∧ ∀ items, v = .array items → ∀ item ∈ items, motive item from h.1
  induction v using Json.descend with
  | scalar v plain =>
    refine ⟨step v ?_, ?_⟩
    · rintro members rfl
      exact nomatch plain
    · rintro items rfl
      exact nomatch plain
  | array items ih =>
    refine ⟨step _ nofun, ?_⟩
    rintro _ ⟨⟩ item hitem
    exact (ih item hitem).1
  | object members ih =>
    refine ⟨step _ ?_, nofun⟩
    rintro _ ⟨⟩ child hchild
    rcases mem_nested_iff.mp hchild with hm | ⟨quantifier, items, hm, hchild⟩
    · exact (ih _ hm).1
    · exact (ih _ hm).2 items rfl child hchild

theorem exists_ofItems_iff : (∃ es, ofItems items = .ok es) ↔
    ∀ item ∈ items, ∃ e, ofJson item = .ok e := by
  induction items with
  | nil => simp [ofItems]
  | cons item rest ih =>
    rw [List.forall_mem_cons, ← ih, ofItems]
    cases ofJson item <;> cases ofItems rest <;> simp [bind, Except.bind, pure, Except.pure]

theorem exists_operatorBody_iff : (∃ b, operatorBody key members = .ok b) ↔
    ∃ op, Operator.ofJson key ((lookup key members).getD .null) = .ok op := by
  unfold operatorBody
  split
  · next op hop => simp [hop]
  · next e hop => simp [hop]

section Members

variable (h : (members.map (·.1)).Pairwise (· < ·))

include h

theorem exists_optionalText_iff : (∃ t, optionalText key members = .ok t) ↔
    ∀ v, (key, v) ∈ members → v = .null ∨ ∃ s, v = .string s := by
  simp only [← Json.lookup_eq_some_iff h]
  unfold optionalText
  cases lookup key members with
  | none => simp
  | some v => cases v <;> simp

theorem exists_optionalPath_iff : (∃ p, optionalPath members = .ok p) ↔
    ∀ v, ("path", v) ∈ members →
      v = .null ∨ ∃ text path, v = .string text ∧ Path.parse text = .ok path := by
  simp only [← Json.lookup_eq_some_iff h]
  unfold optionalPath optionalText
  cases lookup "path" members with
  | none => simp [bind, Except.bind, pure, Except.pure]
  | some v =>
    cases v with
    | string text =>
      cases hpath : Path.parse text <;> simp [bind, Except.bind, pure, Except.pure, hpath]
    | _ => simp [bind, Except.bind, pure, Except.pure]

theorem exists_conditionIn_iff : (∃ c, conditionIn members = .ok c) ↔
    ∀ v, ("where", v) ∈ members → v = .null ∨ ∃ e, ofJson v = .ok e := by
  simp only [← Json.lookup_eq_some_iff h]
  clear h
  induction members with
  | nil => simp [conditionIn, lookup]
  | cons m rest ih =>
    obtain ⟨key, value⟩ := m
    by_cases hkey : key = "where"
    · cases hvalue : ofJson value <;> cases value <;>
        simp_all [conditionIn, lookup, isNull, Except.map]
    · simp [conditionIn, lookup, hkey, ih]

theorem exists_groupIn_iff (quantifier : Quantifier) : (∃ b, groupIn quantifier members = .ok b) ↔
    ∃ items, (quantifier.key, .array items) ∈ members ∧
      ∀ item ∈ items, ∃ e, ofJson item = .ok e := by
  simp only [← Json.lookup_eq_some_iff h]
  clear h
  induction members with
  | nil => simp [groupIn, lookup]
  | cons m rest ih =>
    obtain ⟨key, value⟩ := m
    by_cases hkey : key = quantifier.key
    · cases value with
      | array items =>
        cases hitems : ofItems items <;>
          simp [groupIn, lookup, hkey, ← exists_ofItems_iff, hitems, Except.map]
      | _ => simp [groupIn, lookup, hkey]
    · cases value <;> simp [groupIn, lookup, hkey, ih]

end Members

theorem kindKeys_eq_ok_iff {keys : List String} : kindKeys members = .ok keys ↔
    (∀ m ∈ members, m.1 ∈ narrowingKeys ∨ isKindKey m.1 = true) ∧
      (members.filter fun m => isKindKey m.1).map (·.1) = keys := by
  induction members generalizing keys with
  | nil => simp [kindKeys]
  | cons m rest ih =>
    obtain ⟨key, value⟩ := m
    by_cases hnarrowing : key ∈ narrowingKeys
    · have hkind : isKindKey key = false := by
        rcases eq_of_mem_narrowingKeys hnarrowing with rfl | rfl | rfl <;> decide
      simp [kindKeys, hnarrowing, hkind, ih]
    · by_cases hkind : isKindKey key = true
      · have hcons : kindKeys ((key, value) :: rest) =
            kindKeys rest >>= fun keys => .ok (key :: keys) := by
          simp [kindKeys, hnarrowing, hkind, pure, Except.pure]
        rw [hcons, bind_eq_ok_iff]
        simp only [ih, Except.ok.injEq]
        simp [hkind]
      · simp [kindKeys, hnarrowing, hkind]

def bodyIn (key : String) (members : List (String × Json)) : Except ExpressionError Body :=
  if key = "allOf" then groupIn .allOf members
  else if key = "anyOf" then groupIn .anyOf members
  else operatorBody key members

theorem bodyIn_group (quantifier : Quantifier) :
    bodyIn quantifier.key members = groupIn quantifier members := by
  cases quantifier <;> simp [bodyIn, Quantifier.key]

theorem ofJson_object (members : List (String × Json)) : ofJson (.object members) = (do
    let resourceType ← optionalText "resourceType" members
    let path ← optionalPath members
    let condition ← conditionIn members
    match ← kindKeys members with
    | [] => .error .missingOperator
    | [key] => bodyIn key members >>= fun body => .ok (.narrowed resourceType path condition body)
    | keys => .error (.ambiguous keys)) := by
  rw [ofJson]
  congr 1; funext resourceType
  congr 1; funext path
  congr 1; funext condition
  congr 1; funext keys
  match keys with
  | [] => rfl
  | [key] =>
    simp only [bodyIn]
    split
    · rfl
    · split <;> rfl
  | _ :: _ :: _ => rfl

theorem exists_ofJson_object_iff : (∃ e, ofJson (.object members) = .ok e) ↔
    (∃ t, optionalText "resourceType" members = .ok t) ∧ (∃ p, optionalPath members = .ok p) ∧
      (∃ c, conditionIn members = .ok c) ∧
      ∃ key, kindKeys members = .ok [key] ∧ ∃ b, bodyIn key members = .ok b := by
  simp only [ofJson_object, bind_eq_ok_iff]
  constructor
  · rintro ⟨e, t, ht, p, hp, c, hc, keys, hkeys, h⟩
    split at h
    · exact nomatch h
    · next key =>
      obtain ⟨b, hb, -⟩ := bind_eq_ok_iff.mp h
      exact ⟨⟨t, ht⟩, ⟨p, hp⟩, ⟨c, hc⟩, key, hkeys, b, hb⟩
    · exact nomatch h
  · rintro ⟨⟨t, ht⟩, ⟨p, hp⟩, ⟨c, hc⟩, key, hkeys, b, hb⟩
    exact ⟨_, t, ht, p, hp, c, hc, [key], hkeys, bind_eq_ok_iff.mpr ⟨b, hb, rfl⟩⟩

theorem object_of_ofJson {e : Expression} (h : ofJson v = .ok e) :
    ∃ members, v = .object members := by
  cases v with
  | object members => exact ⟨members, rfl⟩
  | _ =>
    rw [ofJson] at h
    · exact nomatch h
    · nofun

theorem eq_of_hasOneKind (h : HasOneKind members) {m n : String × Json} (hm : m ∈ members)
    (hmkind : isKindKey m.1 = true) (hn : n ∈ members) (hnkind : isKindKey n.1 = true) : m = n := by
  obtain ⟨only, honly⟩ := List.length_eq_one_iff.mp h
  have hall : ∀ m ∈ members, isKindKey m.1 = true → m = only := fun m hm hkind =>
    List.mem_singleton.mp (honly ▸ List.mem_filter.mpr ⟨hm, hkind⟩)
  rw [hall m hm hmkind, hall n hn hnkind]

theorem isKindKey_group (quantifier : Quantifier) : isKindKey quantifier.key = true :=
  isKindKey_iff.mpr (.inl ⟨quantifier, rfl⟩)

theorem exists_bodyIn_iff (h : (members.map (·.1)).Pairwise (· < ·)) (hone : HasOneKind members)
    (hm : (key, v) ∈ members) (hkind : isKindKey key = true) : (∃ b, bodyIn key members = .ok b) ↔
      Fits key v ∧ ∀ quantifier : Quantifier, key = quantifier.key →
        ∀ items, v = .array items → ∀ item ∈ items, ∃ e, ofJson item = .ok e := by
  rcases isKindKey_iff.mp hkind with ⟨quantifier, rfl⟩ | hoperator
  · rw [bodyIn_group, exists_groupIn_iff h, fits_group_iff]
    constructor
    · rintro ⟨items, hitems, hread⟩
      have heq := eq_of_hasOneKind hone hm hkind hitems hkind
      obtain rfl : v = .array items := (Prod.mk.inj heq).2
      refine ⟨⟨items, rfl⟩, ?_⟩
      rintro _ - _ ⟨⟩
      exact hread
    · rintro ⟨⟨items, rfl⟩, hread⟩
      exact ⟨items, hm, hread quantifier rfl items rfl⟩
  · have hbody : bodyIn key members = operatorBody key members := by
      simp [bodyIn, ne_of_operator hoperator]
    rw [hbody, exists_operatorBody_iff, Json.lookup_of_mem h hm, Option.getD_some,
      fits_operator_iff hoperator, iff_self_and]
    rintro - quantifier rfl
    cases quantifier <;> exact absurd hoperator (by decide)

theorem exists_kindKeys_iff {P : String → Prop} :
    (∃ key, kindKeys members = .ok [key] ∧ P key) ↔
      (∀ m ∈ members, m.1 ∈ narrowingKeys ∨ isKindKey m.1 = true) ∧ HasOneKind members ∧
        ∀ m ∈ members, isKindKey m.1 = true → P m.1 := by
  simp only [kindKeys_eq_ok_iff, List.map_eq_singleton_iff]
  constructor
  · rintro ⟨_, ⟨hknown, only, honly, rfl⟩, hP⟩
    have hone : HasOneKind members := List.length_eq_one_iff.mpr ⟨only, honly⟩
    have hmem : only ∈ members.filter fun m => isKindKey m.1 := by simp [honly]
    obtain ⟨hmem, hkind⟩ := List.mem_filter.mp hmem
    refine ⟨hknown, hone, fun m hm hmkind => ?_⟩
    rwa [eq_of_hasOneKind hone hm hmkind hmem hkind]
  · rintro ⟨hknown, hone, hP⟩
    obtain ⟨only, honly⟩ := List.length_eq_one_iff.mp hone
    have hmem : only ∈ members.filter fun m => isKindKey m.1 := by simp [honly]
    obtain ⟨hmem, hkind⟩ := List.mem_filter.mp hmem
    exact ⟨only.1, ⟨hknown, only, honly, rfl⟩, hP only hmem hkind⟩

/-- An object without null members is read exactly if all its members fit, one of them is of a kind
and the values that have to be expressions are read. -/
theorem reads_object_iff (h : (members.map (·.1)).Pairwise (· < ·)) :
    ((∃ e, ofJson (.object members) = .ok e) ∧ ∀ key ∈ narrowingKeys, (key, Json.null) ∉ members) ↔
      (∀ m ∈ members, Fits m.1 m.2) ∧ HasOneKind members ∧
        ∀ child ∈ nested members, ∃ e, ofJson child = .ok e := by
  rw [exists_ofJson_object_iff, exists_optionalText_iff h, exists_optionalPath_iff h,
    exists_conditionIn_iff h, exists_kindKeys_iff]
  constructor
  · rintro ⟨⟨htype, hpath, hcondition, hknown, hone, hbody⟩, hnull⟩
    have hread : ∀ v, ("where", v) ∈ members → ∃ e, ofJson v = .ok e := fun v hm =>
      (hcondition v hm).resolve_left fun he => hnull "where" (by decide) (he ▸ hm)
    refine ⟨?_, hone, ?_⟩
    · rintro ⟨key, v⟩ hm
      rcases hknown _ hm with hnarrowing | hkind
      · have hne : v ≠ .null := fun he => hnull key hnarrowing (he ▸ hm)
        rcases eq_of_mem_narrowingKeys hnarrowing with rfl | rfl | rfl
        · exact fits_resourceType_iff.mpr ((htype v hm).resolve_left hne)
        · exact fits_path_iff.mpr ((hpath v hm).resolve_left hne)
        · obtain ⟨e, he⟩ := hread v hm
          exact fits_where_iff.mpr (object_of_ofJson he)
      · exact ((exists_bodyIn_iff h hone hm hkind).mp (hbody _ hm hkind)).1
    · intro child hchild
      rcases mem_nested_iff.mp hchild with hm | ⟨quantifier, items, hm, hchild⟩
      · exact hread child hm
      · have hkind := isKindKey_group quantifier
        have hbody := (exists_bodyIn_iff h hone hm hkind).mp (hbody _ hm hkind)
        exact hbody.2 quantifier rfl items rfl child hchild
  · rintro ⟨hfits, hone, hread⟩
    refine ⟨⟨?_, ?_, ?_, fun m hm => known_of_fits (hfits m hm), hone, ?_⟩, ?_⟩
    · exact fun v hm => .inr (fits_resourceType_iff.mp (hfits _ hm))
    · exact fun v hm => .inr (fits_path_iff.mp (hfits _ hm))
    · exact fun v hm => .inr (hread v (mem_nested_iff.mpr (.inl hm)))
    · rintro ⟨key, v⟩ hm hkind
      refine (exists_bodyIn_iff h hone hm hkind).mpr ⟨hfits _ hm, ?_⟩
      rintro quantifier rfl items rfl item hitem
      exact hread item (mem_nested_iff.mpr (.inr ⟨quantifier, items, hm, hitem⟩))
    · intro key hkey hm
      have hfit := hfits _ hm
      rcases eq_of_mem_narrowingKeys hkey with rfl | rfl | rfl <;> simp [Fits] at hfit

theorem ordered_of_mem_nested (h : (Json.object members).Ordered) (hv : v ∈ nested members) :
    v.Ordered := by
  cases h with
  | object _ hmembers =>
    rcases mem_nested_iff.mp hv with hm | ⟨quantifier, items, hm, hv⟩
    · exact hmembers _ hm
    · have hitems : (Json.array items).Ordered := hmembers _ hm
      cases hitems with
      | array hitems => exact hitems v hv

/-- The values that are read, and have no null where a narrowing member is, are the expressions of
the grammar. -/
theorem reads_iff_grammatical (h : v.Ordered) :
    ((∃ e, ofJson v = .ok e) ∧
      ∀ members ∈ objects v, ∀ key ∈ narrowingKeys, (key, Json.null) ∉ members) ↔
      Grammatical v := by
  induction v using descendNested with
  | step v ih =>
    constructor
    · rintro ⟨⟨e, he⟩, hnull⟩
      obtain ⟨members, rfl⟩ := object_of_ofJson he
      obtain ⟨hnull, hnested⟩ := forall_objects_iff.mp hnull
      obtain ⟨hfits, hone, hread⟩ := (reads_object_iff h.names).mp ⟨⟨e, he⟩, hnull⟩
      refine .object hfits hone fun child hchild => ?_
      have hchildren := ih members rfl child hchild (ordered_of_mem_nested h hchild)
      exact hchildren.mp ⟨hread child hchild, hnested child hchild⟩
    · rintro @⟨members, hfits, hone, hgrammatical⟩
      have hchildren := fun child hchild =>
        (ih members rfl child hchild (ordered_of_mem_nested h hchild)).mpr
          (hgrammatical child hchild)
      obtain ⟨hread, hnull⟩ := (reads_object_iff h.names).mpr
        ⟨hfits, hone, fun child hchild => (hchildren child hchild).1⟩
      exact ⟨hread, forall_objects_iff.mpr ⟨hnull, fun child hchild => (hchildren child hchild).2⟩⟩

end Expression

end TemplateAudit
