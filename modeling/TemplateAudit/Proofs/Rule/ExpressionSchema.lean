import TemplateAudit.Proofs.Expression.Grammar
import TemplateAudit.Rule.Schema

/-! # Expressions that meet the schema

The schema of expressions and their reader are separate descriptions of one language. The schema
does not count the kinds of an object and knows neither paths nor patterns, and the reader takes a
null for a narrowing member that is missing. Apart from that they accept the same values, since
both come to the grammar of expressions.
-/

namespace TemplateAudit.Schema

open Expression

variable {members : List (String × Json)} {key : String} {v : Json}

section Requirements

theorem meets_boolean_iff : meets (.ofType .boolean) v = true ↔ ∃ b, v = .bool b := by
  cases v <;> simp [meets, ValueType.holds]

theorem meets_number_iff : meets (.ofType .number) v = true ↔ ∃ n, v = .number n := by
  cases v <;> simp [meets, ValueType.holds]

theorem meets_array_iff : meets (.ofType .array) v = true ↔ ∃ items, v = .array items := by
  cases v <;> simp [meets, ValueType.holds]

theorem meets_text_iff {minimum : Nat} :
    meets (.text minimum) v = true ↔ ∃ s, v = .string s ∧ minimum ≤ s.length := by
  cases v <;> simp [meets, hasLength]

theorem meets_expressionList_iff : meets (.defined .expressionList) v = true ↔
    ∃ items, v = .array items ∧ ∀ item ∈ items, meets (.defined .expression) item = true := by
  cases v <;> simp [meets, Definition.shape, allMeet_eq_all]

/-- Whether a member of an expression is known to the schema and meets what it requires there. -/
def MeetsAt (key : String) (value : Json) : Prop :=
  ∃ r, expressionSchema.requirement? key = some r ∧ meets r value = true

theorem membersMeet_iff : membersMeet expressionSchema members = true ↔
    ∀ m ∈ members, MeetsAt m.1 m.2 := by
  induction members with
  | nil => simp [membersMeet]
  | cons m rest ih =>
    obtain ⟨key, value⟩ := m
    rw [membersMeet, Bool.and_eq_true, ih, List.forall_mem_cons, MeetsAt]
    refine and_congr_left fun _ => ?_
    cases expressionSchema.requirement? key <;> simp

theorem meets_expression_iff : meets (.defined .expression) v = true ↔
    ∃ members, v = .object members ∧ members ≠ [] ∧ ∀ m ∈ members, MeetsAt m.1 m.2 := by
  cases v with
  | object members =>
    have henough : expressionSchema.hasEnough members = true ↔ members ≠ [] := by
      simp [ObjectSchema.hasEnough, expressionSchema, Nat.one_le_iff_ne_zero]
    simp [meets, Definition.shape, henough, membersMeet_iff]
  | _ => simp [meets, Definition.shape]

end Requirements

section Members

/-- What a member is beyond what the schema requires: a path that is one, a pattern that is one. -/
def Compiles (key : String) (value : Json) : Prop :=
  (key = "path" → ∀ text, value = .string text → ∃ path, Path.parse text = .ok path) ∧
  (key = "regex" → ∀ source, value = .string source →
    ∃ pattern, Pattern.parse? source = some pattern)

theorem length_pos_of_parse {text : String} {path : Path} (h : Path.parse text = .ok path) :
    1 ≤ text.length := by
  rw [Nat.one_le_iff_ne_zero]
  intro hlength
  obtain rfl : text = "" := String.length_eq_zero_iff.mp hlength
  exact nomatch h

theorem known_of_requirement? {r : Requirement} (h : expressionSchema.requirement? key = some r) :
    key ∈ narrowingKeys ∨ isKindKey key = true := by
  obtain ⟨m, hm, -⟩ := Option.map_eq_some_iff.mp h
  obtain rfl : m.1 = key := by simpa using List.find?_some hm
  have hall : ∀ m ∈ expressionSchema.members, m.1 ∈ narrowingKeys ∨ isKindKey m.1 = true := by
    decide
  exact hall m (List.mem_of_find?_eq_some hm)

theorem compiles_of_ne (hpath : key ≠ "path") (hregex : key ≠ "regex") : Compiles key v :=
  ⟨fun he => absurd he hpath, fun he => absurd he hregex⟩

section Operators

theorem operator_cases (h : key ∈ Operator.keys) : (key = "exists" ∨ key = "hasValue") ∨
    (key = "equals" ∨ key = "notEquals" ∨ key = "contains") ∨ key = "in" ∨
    (∃ comparison : Comparison, key = comparison.name) ∨ key = "regex" := by
  simp only [Operator.keys, List.mem_cons, List.not_mem_nil, or_false] at h
  have hcomparison : (∃ comparison : Comparison, key = comparison.name) ↔
      key = "less" ∨ key = "lessOrEquals" ∨ key = "greater" ∨ key = "greaterOrEquals" := by
    constructor
    · rintro ⟨comparison, rfl⟩
      cases comparison <;> simp [Comparison.name]
    · rintro (rfl | rfl | rfl | rfl)
      exacts [⟨.less, rfl⟩, ⟨.lessOrEquals, rfl⟩, ⟨.greater, rfl⟩, ⟨.greaterOrEquals, rfl⟩]
  rw [hcomparison]
  tauto

theorem meetsAt_boolean_iff (h : key = "exists" ∨ key = "hasValue") :
    MeetsAt key v ↔ ∃ op, Operator.ofJson key v = .ok op := by
  have hread : (∃ op, Operator.ofJson key v = .ok op) ↔ ∃ b, v = .bool b := by
    cases v <;> simp [Operator.ofJson, h]
  rw [hread, ← meets_boolean_iff]
  rcases h with rfl | rfl <;> simp [MeetsAt, ObjectSchema.requirement?, expressionSchema]

theorem meetsAt_anything_iff (h : key = "equals" ∨ key = "notEquals" ∨ key = "contains") :
    MeetsAt key v ↔ ∃ op, Operator.ofJson key v = .ok op := by
  rcases h with rfl | rfl | rfl <;>
    simp [MeetsAt, ObjectSchema.requirement?, expressionSchema, meets_anything, Operator.ofJson]

theorem meetsAt_in_iff : MeetsAt "in" v ↔ ∃ op, Operator.ofJson "in" v = .ok op := by
  have hread : (∃ op, Operator.ofJson "in" v = .ok op) ↔ ∃ items, v = .array items := by
    cases v <;> simp [Operator.ofJson]
  rw [hread, ← meets_array_iff]
  simp [MeetsAt, ObjectSchema.requirement?, expressionSchema]

theorem meetsAt_comparison_iff (comparison : Comparison) :
    MeetsAt comparison.name v ↔ ∃ op, Operator.ofJson comparison.name v = .ok op := by
  have hread : (∃ op, Operator.ofJson comparison.name v = .ok op) ↔ ∃ n, v = .number n := by
    cases comparison <;> cases v <;>
      simp [Operator.ofJson, Operator.comparison?, Comparison.name]
  rw [hread, ← meets_number_iff]
  cases comparison <;>
    simp [MeetsAt, ObjectSchema.requirement?, expressionSchema, Comparison.name]

theorem meetsAt_regex_iff : MeetsAt "regex" v ∧ Compiles "regex" v ↔
    ∃ op, Operator.ofJson "regex" v = .ok op := by
  have hmeets : MeetsAt "regex" v ↔ ∃ source, v = .string source := by
    simp [MeetsAt, ObjectSchema.requirement?, expressionSchema, meets_text_iff]
  have hread : (∃ op, Operator.ofJson "regex" v = .ok op) ↔
      ∃ source, v = .string source ∧ ∃ pattern, Pattern.parse? source = some pattern := by
    cases v with
    | string source => cases hpattern : Pattern.parse? source <;> simp [Operator.ofJson, hpattern]
    | _ => simp [Operator.ofJson]
  rw [hmeets, hread]
  constructor
  · rintro ⟨⟨source, rfl⟩, -, hcompiles⟩
    exact ⟨source, rfl, hcompiles rfl source rfl⟩
  · rintro ⟨source, rfl, hpattern⟩
    refine ⟨⟨source, rfl⟩, nofun, ?_⟩
    rintro - _ ⟨⟩
    exact hpattern

theorem meetsAt_operator_iff (h : key ∈ Operator.keys) :
    MeetsAt key v ∧ Compiles key v ↔ ∃ op, Operator.ofJson key v = .ok op := by
  by_cases hregex : key = "regex"
  · subst hregex
    exact meetsAt_regex_iff
  · rw [and_iff_left (compiles_of_ne (ne_of_mem_of_not_mem h (by decide)) hregex)]
    rcases operator_cases h with hboolean | hanything | rfl | ⟨comparison, rfl⟩ | rfl
    · exact meetsAt_boolean_iff hboolean
    · exact meetsAt_anything_iff hanything
    · exact meetsAt_in_iff
    · exact meetsAt_comparison_iff comparison
    · exact absurd rfl hregex

end Operators

theorem nestedAt_operator (h : key ∈ Operator.keys) (v : Json) : nestedAt key v = [] := by
  simp [nestedAt, ne_of_operator h]

theorem meetsAt_group_iff (quantifier : Quantifier) :
    MeetsAt quantifier.key v ∧ Compiles quantifier.key v ↔ Fits quantifier.key v ∧
      ∀ child ∈ nestedAt quantifier.key v, meets (.defined .expression) child = true := by
  have hmeets : MeetsAt quantifier.key v ↔ meets (.defined .expressionList) v = true := by
    cases quantifier <;> simp [MeetsAt, ObjectSchema.requirement?, expressionSchema, Quantifier.key]
  have hcompiles : Compiles quantifier.key v := by
    cases quantifier <;> exact compiles_of_ne (by decide) (by decide)
  have hnested : ∀ items, nestedAt quantifier.key (.array items) = items := by
    cases quantifier <;> simp [nestedAt, Quantifier.key, Json.asArray?]
  rw [and_iff_left hcompiles, hmeets, meets_expressionList_iff, fits_group_iff]
  constructor
  · rintro ⟨items, rfl, hitems⟩
    exact ⟨⟨items, rfl⟩, by rwa [hnested]⟩
  · rintro ⟨⟨items, rfl⟩, hitems⟩
    exact ⟨items, rfl, by rwa [hnested] at hitems⟩

theorem meetsAt_narrowing_iff (h : key ∈ narrowingKeys) :
    MeetsAt key v ∧ Compiles key v ↔ Fits key v ∧
      ∀ child ∈ nestedAt key v, meets (.defined .expression) child = true := by
  rcases eq_of_mem_narrowingKeys h with rfl | rfl | rfl
  · simp [MeetsAt, ObjectSchema.requirement?, expressionSchema, Compiles, nestedAt, meets_text_iff,
      fits_resourceType_iff]
  · have hmeets : MeetsAt "path" v ↔ ∃ text, v = .string text ∧ 1 ≤ text.length := by
      simp [MeetsAt, ObjectSchema.requirement?, expressionSchema, meets_text_iff]
    simp only [hmeets, fits_path_iff, Compiles, nestedAt]
    constructor
    · rintro ⟨⟨text, rfl, -⟩, hpath, -⟩
      obtain ⟨path, hpath⟩ := hpath trivial text rfl
      exact ⟨⟨text, path, rfl, hpath⟩, by simp⟩
    · rintro ⟨⟨text, path, rfl, hpath⟩, -⟩
      refine ⟨⟨text, rfl, length_pos_of_parse hpath⟩, ?_, by simp⟩
      rintro - _ ⟨⟩
      exact ⟨path, hpath⟩
  · have hmeets : MeetsAt "where" v ↔ meets (.defined .expression) v = true := by
      simp [MeetsAt, ObjectSchema.requirement?, expressionSchema]
    have hcompiles : Compiles "where" v := compiles_of_ne (by decide) (by decide)
    rw [and_iff_left hcompiles, hmeets, fits_where_iff, nestedAt, if_pos rfl]
    simp only [List.mem_singleton, forall_eq, iff_and_self]
    intro hv
    obtain ⟨members, rfl, -⟩ := meets_expression_iff.mp hv
    exact ⟨members, rfl⟩

theorem meetsAt_iff : MeetsAt key v ∧ Compiles key v ↔
    Fits key v ∧ ∀ child ∈ nestedAt key v, meets (.defined .expression) child = true := by
  by_cases hknown : key ∈ narrowingKeys ∨ isKindKey key = true
  · rcases hknown with hnarrowing | hkind
    · exact meetsAt_narrowing_iff hnarrowing
    · rcases isKindKey_iff.mp hkind with ⟨quantifier, rfl⟩ | hoperator
      · exact meetsAt_group_iff quantifier
      · simp [meetsAt_operator_iff hoperator, fits_operator_iff hoperator,
          nestedAt_operator hoperator]
  · constructor
    · rintro ⟨⟨r, hr, -⟩, -⟩
      exact absurd (known_of_requirement? hr) hknown
    · rintro ⟨hfits, -⟩
      exact absurd (known_of_fits hfits) hknown

/-- An object meets the schema, has one kind and compiles exactly if all its members fit, one of
them is of a kind and the values that have to be expressions meet the schema. -/
theorem meets_object_iff : (meets (.defined .expression) (.object members) = true ∧
      HasOneKind members ∧ ∀ m ∈ members, Compiles m.1 m.2) ↔
    (∀ m ∈ members, Fits m.1 m.2) ∧ HasOneKind members ∧
      ∀ child ∈ nested members, meets (.defined .expression) child = true := by
  have hmembers : ((∀ m ∈ members, MeetsAt m.1 m.2) ∧ ∀ m ∈ members, Compiles m.1 m.2) ↔
      (∀ m ∈ members, Fits m.1 m.2) ∧
        ∀ child ∈ nested members, meets (.defined .expression) child = true := by
    simp only [nested, List.forall_mem_flatMap, ← forall₂_and, meetsAt_iff]
  have hmeets : meets (.defined .expression) (.object members) = true ↔
      members ≠ [] ∧ ∀ m ∈ members, MeetsAt m.1 m.2 := by
    simp [meets_expression_iff]
  have hne : HasOneKind members → members ≠ [] := by
    rintro hone rfl
    exact Nat.zero_ne_one hone
  rw [hmeets]
  constructor
  · rintro ⟨⟨-, hall⟩, hone, hcompiles⟩
    obtain ⟨hfits, hchildren⟩ := hmembers.mp ⟨hall, hcompiles⟩
    exact ⟨hfits, hone, hchildren⟩
  · rintro ⟨hfits, hone, hchildren⟩
    obtain ⟨hall, hcompiles⟩ := hmembers.mpr ⟨hfits, hchildren⟩
    exact ⟨⟨hne hone, hall⟩, hone, hcompiles⟩

end Members

/-- The values that meet the schema, with one kind of question in every object and with paths and
patterns that are some, are the expressions of the grammar. -/
theorem meets_iff_grammatical : (meets (.defined .expression) v = true ∧
      ∀ members ∈ objects v, HasOneKind members ∧ ∀ m ∈ members, Compiles m.1 m.2) ↔
    Grammatical v := by
  induction v using descendNested with
  | step v ih =>
    constructor
    · rintro ⟨hv, hobjects⟩
      obtain ⟨members, rfl, -⟩ := meets_expression_iff.mp hv
      obtain ⟨⟨hone, hcompiles⟩, hnested⟩ := forall_objects_iff.mp hobjects
      obtain ⟨hfits, hone, hchildren⟩ := meets_object_iff.mp ⟨hv, hone, hcompiles⟩
      refine .object hfits hone fun child hchild => ?_
      exact (ih members rfl child hchild).mp ⟨hchildren child hchild, hnested child hchild⟩
    · rintro @⟨members, hfits, hone, hgrammatical⟩
      have hchildren := fun child hchild =>
        (ih members rfl child hchild).mpr (hgrammatical child hchild)
      obtain ⟨hv, hone, hcompiles⟩ := meets_object_iff.mpr
        ⟨hfits, hone, fun child hchild => (hchildren child hchild).1⟩
      exact ⟨hv, forall_objects_iff.mpr
        ⟨⟨hone, hcompiles⟩, fun child hchild => (hchildren child hchild).2⟩⟩

theorem forall_compiles_iff : (∀ m ∈ members, Compiles m.1 m.2) ↔
    (∀ text, ("path", .string text) ∈ members → ∃ path, Path.parse text = .ok path) ∧
      ∀ source, ("regex", .string source) ∈ members →
        ∃ pattern, Pattern.parse? source = some pattern := by
  constructor
  · intro h
    exact ⟨fun text hm => (h _ hm).1 rfl text rfl, fun source hm => (h _ hm).2 rfl source rfl⟩
  · rintro ⟨hpath, hregex⟩ ⟨key, value⟩ hm
    constructor
    · rintro rfl text rfl
      exact hpath text hm
    · rintro rfl source rfl
      exact hregex source hm

/-- A value is read as an expression, with no null for what narrows one, exactly if it meets the
schema and every expression in it has one operator or group, paths that can be read and patterns
that compile. -/
theorem ofJson_iff_meets (v : Json) (h : v.Ordered) :
    ((∃ e, Expression.ofJson v = .ok e) ∧
      ∀ members ∈ objects v, ∀ key ∈ ["resourceType", "path", "where"],
        (key, Json.null) ∉ members) ↔
    meets (.defined .expression) v = true ∧
      ∀ members ∈ objects v,
        (members.filter fun m =>
          m.1 = "allOf" ∨ m.1 = "anyOf" ∨ m.1 ∈ Operator.keys).length = 1 ∧
        (∀ text, ("path", .string text) ∈ members → ∃ path, Path.parse text = .ok path) ∧
        ∀ source, ("regex", .string source) ∈ members →
          ∃ pattern, Pattern.parse? source = some pattern := by
  have hkinds : ∀ members : List (String × Json),
      (members.filter fun m => m.1 = "allOf" ∨ m.1 = "anyOf" ∨ m.1 ∈ Operator.keys).length = 1 ↔
        HasOneKind members := by
    simp [HasOneKind, isKindKey, Bool.or_assoc]
  simp only [hkinds, ← forall_compiles_iff]
  exact (reads_iff_grammatical h).trans meets_iff_grammatical.symm

/-- A condition and a group with two operators inside. -/
theorem ofJson_iff_meets_nested :
    let v : Json := .object [
      ("anyOf", .array [.object [("exists", .bool true), ("path", .string "a[*].b")],
        .object [("regex", .string "^[a-z]+$")]]),
      ("resourceType", .string "t"),
      ("where", .object [("less", .number (.ofNat 3)), ("path", .string "c")])]
    v.Ordered ∧ (∃ e, Expression.ofJson v = .ok e) ∧ meets (.defined .expression) v = true ∧
      (objects v).length = 4 := by
  intro v
  have hordered : v.Ordered := by
    refine .object (by decide +kernel) ?_
    simp only [List.forall_mem_cons, List.not_mem_nil, false_implies, implies_true, and_true]
    refine ⟨.array ?_, .string "t", .object (by decide +kernel) ?_⟩
    · simp only [List.forall_mem_cons, List.not_mem_nil, false_implies, implies_true, and_true]
      refine ⟨.object (by decide +kernel) ?_, .object (by decide +kernel) ?_⟩
      · simp [Json.Ordered.bool, Json.Ordered.string]
      · simp [Json.Ordered.string]
    · simp [Json.Ordered.number, Json.Ordered.string]
  have hobjects : ∀ members ∈ objects v, ∀ key ∈ ["resourceType", "path", "where"],
      (key, Json.null) ∉ members := by
    simp [v, objects_object, nested, nestedAt, Json.asArray?]
  obtain ⟨e, he⟩ : ∃ e, Expression.ofJson v = .ok e := ⟨_, rfl⟩
  exact ⟨hordered, ⟨e, he⟩, ((ofJson_iff_meets v hordered).mp ⟨⟨e, he⟩, hobjects⟩).1, rfl⟩

end TemplateAudit.Schema
