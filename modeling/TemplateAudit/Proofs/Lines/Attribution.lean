import TemplateAudit.Engine
import TemplateAudit.Proofs.Expression.Judged
import TemplateAudit.Proofs.Lines.Agreement
import TemplateAudit.Proofs.Scope.Exact

/-! # The lines of results

A result has the line of its scope. The scopes that rules judge are exact in the document, so the
line is the one on which their value is written; a value that is absent has the line of some
enclosing location, and the root always has one.
-/

namespace TemplateAudit

/-- A text has a location on a line: in the layout of the text its value begins there, or the name
of the value if it is a member. -/
def WrittenOn (text : String) (l : Location) (line : Nat) : Prop :=
  ∃ y : Layout, y.IsOf text.toList ∧ ∃ before start z,
    y.place? (Json.skipSpace text.toList) l.steps = some (start, z) ∧
      text.toList = before ++ start ∧ line = 1 + before.count '\n'

namespace LineIndex

variable {text : String} {y : Layout}

theorem lineOf_of_find? {index : LineIndex} {l : Location} {line : Nat}
    (h : index.find? l = some line) : index.lineOf l = line := by
  rw [lineOf, List.findSome?_cons, h]
  rfl

theorem bounds_of_find?_build (h : y.IsOf text.toList) {l : Location} {line : Nat}
    (hl : (build text).find? l = some line) : 1 ≤ line ∧ line ≤ 1 + text.toList.count '\n' := by
  rw [find?_build h, Option.map_eq_some_iff] at hl
  obtain ⟨start, -, rfl⟩ := hl
  rw [lineAt]
  omega

theorem exists_find?_build_root (h : y.IsOf text.toList) :
    ∃ line, (build text).find? .root = some line := by
  have hp : y.place? (Json.skipSpace text.toList) Location.root.steps =
      some (Json.skipSpace text.toList, y) := rfl
  obtain ⟨before, -, hfind⟩ := find?_build_of_place? h hp
  exact ⟨_, hfind⟩

theorem bounds_of_lineOf_build (h : y.IsOf text.toList) (l : Location) :
    1 ≤ (build text).lineOf l ∧ (build text).lineOf l ≤ 1 + text.toList.count '\n' := by
  obtain ⟨line, hroot⟩ := exists_find?_build_root h
  have hmem : Location.root ∈ l :: l.ancestors := by
    by_cases hl : l.steps = []
    · exact List.mem_cons.mpr (.inl (by cases l; simp_all [Location.root]))
    · exact List.mem_cons_of_mem _ (Location.mem_ancestors.mpr ⟨l.steps, hl, rfl⟩)
  have hsome : ((l :: l.ancestors).findSome? (build text).find?).isSome = true :=
    List.findSome?_isSome_iff.mpr ⟨.root, hmem, by rw [hroot]; rfl⟩
  obtain ⟨found, hfound⟩ := Option.isSome_iff_exists.mp hsome
  obtain ⟨a, -, ha⟩ := List.exists_of_findSome?_eq_some hfound
  rw [lineOf, hfound]
  exact bounds_of_find?_build h ha

/-- A location of the document has the line on which it is written. -/
theorem writtenOn_lineOf_build (h : y.IsOf text.toList) {l : Location} (hl : y.value.Has l) :
    WrittenOn text l ((build text).lineOf l) := by
  obtain ⟨before, start, z, hp, hbefore, hfind⟩ := (describes_build h).found l hl
  exact ⟨y, h, before, start, z, hp, hbefore, lineOf_of_find? hfind⟩

end LineIndex

namespace Expression

variable {document : Json} {lines : LineIndex} {s : Scope}

theorem exact_of_mem_survivors (ho : document.Ordered) (hs : s.Exact document) (e : Expression)
    {left : Scope} (hl : left ∈ e.survivors (Template.resolver lines) s) :
    left.Exact document := by
  refine of_mem_survivors ?_ ?_ hs e hl
  · exact fun s target hs t ht => hs.resourcesOfType target ht
  · exact fun s p hs t ht => hs.resolve ho p ht

/-- All scopes that are judged below an exact scope are exact. -/
theorem exact_of_mem_judged (ho : document.Ordered) (e : Expression) (hs : s.Exact document)
    {j : Operator × List Scope} (hj : j ∈ e.judged (Template.resolver lines) s) {left : Scope}
    (hl : left ∈ j.2) : left.Exact document := by
  have hkeeps : ∀ (e : Expression) s, s.Exact document →
      ∀ t ∈ e.survivors (Template.resolver lines) s, t.Exact document :=
    fun e s hs t ht => exact_of_mem_survivors ho hs e ht
  obtain ⟨inner, t, ht, heq⟩ := exists_survivors_of_mem_judged hkeeps e hs hj
  rw [heq] at hl
  exact exact_of_mem_survivors ho ht inner hl

end Expression

/-- A result belongs to a scope: if the scope has a value, that value is the one that the document
has at its location, and the result has the line on which it is written. -/
def BelongsTo (text : String) (document : Json) (result : RuleResult) (s : Scope) : Prop :=
  ∀ v, s.value = some v →
    document.at? s.location.steps = some v ∧ WrittenOn text s.location result.line

theorem belongsTo_resultsOf {text : String} {y : Layout} (h : y.IsOf text.toList)
    {j : Operator × List Scope} (hj : ∀ s ∈ j.2, s.Exact y.value) :
    List.Forall₂ (BelongsTo text y.value)
      (Expression.resultsOf (Template.resolver (.build text)) j) j.2 := by
  rw [Expression.resultsOf, List.forall₂_map_left_iff, List.forall₂_same]
  intro s hs v hv
  have hat : y.value.at? s.location.steps = some v := (hj s hs).trans hv
  exact ⟨hat, LineIndex.writtenOn_lineOf_build h (Option.isSome_iff_exists.mpr ⟨v, hat⟩)⟩

namespace RuleSet

theorem exists_rule_of_mem {rules : RuleSet} {t : Template} {e : RuleEvaluation}
    (h : e ∈ rules.evaluate t) :
    ∃ rule ∈ rules.rules, e.rule = rule.metadata ∧
      e.evaluation =
        rule.expression.evaluate (Template.resolver t.lines) (.root t.document) := by
  obtain ⟨rule, hr, he⟩ := List.mem_filterMap.mp h
  rw [evaluateRule] at he
  split at he
  · exact nomatch he
  · obtain rfl := Option.some.inj he
    exact ⟨rule, hr, rfl, rfl⟩

/-- All results of the rules for a template have a line of its text. The leaves of an evaluation
have the results of what its rule judges, and these belong to the scopes judged, one by one. -/
theorem evaluate?_attributes_lines {text : String} {path : Option FilePath} {t : Template}
    {rules : RuleSet} {evaluations : List RuleEvaluation}
    (ht : Template.parse text path = .ok t) (he : rules.evaluate? (some t) = .ok evaluations) :
    ∀ e ∈ evaluations,
      (∀ n ∈ e.evaluation.nodes, ∀ result ∈ n.results,
        1 ≤ result.line ∧ result.line ≤ 1 + text.toList.count '\n') ∧
      ∃ rule ∈ rules.rules, e.rule = rule.metadata ∧
        e.evaluation =
          rule.expression.evaluate (Template.resolver t.lines) (.root t.document) ∧
        List.Forall₂ (fun results j =>
            results = Expression.resultsOf (Template.resolver t.lines) j ∧
              List.Forall₂ (BelongsTo text t.document) results j.2)
          e.evaluation.leaves
          (rule.expression.judged (Template.resolver t.lines) (.root t.document)) := by
  intro e hmem
  obtain rfl := Except.ok.inj he
  obtain ⟨rule, hr, hrule, hevaluation⟩ := exists_rule_of_mem hmem
  rw [Template.parse] at ht
  split at ht
  · next document hparse =>
    obtain rfl := Except.ok.inj ht
    obtain ⟨y, hy, rfl⟩ := Layout.exists_isOf hparse
    dsimp only at hevaluation ⊢
    have hleaves : e.evaluation.leaves =
        (rule.expression.judged (Template.resolver (.build text)) (.root y.value)).map
          (Expression.resultsOf (Template.resolver (.build text))) := by
      rw [hevaluation, Expression.leaves_evaluate]
    refine ⟨fun n hn result hresult => ?_, rule, hr, hrule, hevaluation, ?_⟩
    · have hl := Evaluation.mem_leaves hn hresult
      rw [hleaves] at hl
      obtain ⟨j, -, hj⟩ := List.mem_map.mp hl
      rw [← hj] at hresult
      obtain ⟨s, -, rfl⟩ := List.mem_map.mp hresult
      exact LineIndex.bounds_of_lineOf_build hy s.location
    · rw [hleaves, List.forall₂_map_left_iff, List.forall₂_same]
      intro j hj
      refine ⟨rfl, belongsTo_resultsOf hy fun s hs => ?_⟩
      exact Expression.exact_of_mem_judged y.ordered_value _ (Scope.exact_root _) hj hs
  · exact nomatch ht

/-- The path agrees with the name up to ASCII case, and the element is on the second line. -/
theorem evaluate?_attributes_lines_element :
    let document : Json := .object [("Name", .array [.bool true])]
    let t : Template := ⟨document, .build "\x7b\"Name\":\n[true]\x7d", none⟩
    let expression : Expression :=
      .narrowed none (some ⟨"name[*]", [.property "name", .wildcard]⟩) none
        (.operator (.isPresent true))
    let metadata : RuleMetadata := ⟨"R", none, "", "", none, .low⟩
    let rules : RuleSet := ⟨[⟨metadata, expression⟩]⟩
    let evaluation : Evaluation := .leaf [⟨true, 2⟩]
    Template.parse "\x7b\"Name\":\n[true]\x7d" none = .ok t ∧
      rules.evaluate? (some t) = .ok [⟨metadata, evaluation⟩] ∧
      ∃ rule ∈ rules.rules,
        List.Forall₂ (fun results j =>
            results = Expression.resultsOf (Template.resolver t.lines) j ∧
              List.Forall₂ (BelongsTo "\x7b\"Name\":\n[true]\x7d" document) results j.2)
          evaluation.leaves
          (rule.expression.judged (Template.resolver t.lines) (.root document)) := by
  intro document t expression metadata rules evaluation
  have ht : Template.parse "\x7b\"Name\":\n[true]\x7d" none = .ok t := rfl
  have he : rules.evaluate? (some t) = .ok [⟨metadata, evaluation⟩] := rfl
  obtain ⟨-, rule, hr, -, -, hbelongs⟩ :=
    evaluate?_attributes_lines ht he _ (List.mem_singleton.mpr rfl)
  exact ⟨ht, he, rule, hr, hbelongs⟩

end RuleSet

end TemplateAudit
