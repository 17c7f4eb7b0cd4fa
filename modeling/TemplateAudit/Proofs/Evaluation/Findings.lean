import TemplateAudit.Expression.Evaluate

/-! # The findings of an evaluation

A node that passes hides the failed results below it, so what a combination contributes to a report
depends on its own outcome first. Where a combination passes only if all of its parts do, its
findings are those of its parts, one after the other, however the parts are grouped.
-/

namespace TemplateAudit.Evaluation

variable {e : Evaluation} {es : List Evaluation}

/-- The failed results that an evaluation reports as a part of another one: none if it passes. -/
def findings (e : Evaluation) : List RuleResult := if e.passed then [] else e.failingResults

theorem findings_of_passed (h : e.passed = true) : e.findings = [] := if_pos h

theorem findings_of_failed (h : e.passed = false) : e.findings = e.failingResults := by
  rw [findings, h, if_neg Bool.false_ne_true]

theorem failingAmong_eq_flatMap_findings (es : List Evaluation) :
    failingAmong es = es.flatMap findings := by
  induction es with
  | nil => rfl
  | cons e rest ih => rw [failingAmong, ih, List.flatMap_cons, findings]

theorem findings_leaf (rs : List RuleResult) :
    (leaf rs).findings = rs.filter fun result => !result.passed := by
  cases h : (leaf rs).passed with
  | true =>
    rw [findings_of_passed h, eq_comm, List.filter_eq_nil_iff]
    intro result hresult
    simp [List.all_eq_true.mp h result hresult]
  | false => rw [findings_of_failed h, failingResults]

theorem findings_eq_nil_of_all (h : es.all passed = true) : es.flatMap findings = [] :=
  List.flatMap_eq_nil_iff.mpr fun e he => findings_of_passed (List.all_eq_true.mp h e he)

theorem findings_combined_all (es : List Evaluation) :
    (combined (es.all passed) es).findings = es.flatMap findings := by
  cases h : es.all passed with
  | true => rw [findings_of_passed rfl, findings_eq_nil_of_all h]
  | false => rw [findings_of_failed rfl, failingResults, failingAmong_eq_flatMap_findings]

theorem passed_overScopes (es : List Evaluation) : (overScopes es).passed = es.all passed := by
  unfold overScopes
  split
  · rw [List.all_cons, List.all_nil, Bool.and_true]
  · rfl

/-- Whether several scopes are wrapped or a single one is not, the findings stay the same. -/
theorem findings_overScopes (es : List Evaluation) :
    (overScopes es).findings = es.flatMap findings := by
  unfold overScopes
  split
  · rw [List.flatMap_cons, List.flatMap_nil, List.append_nil]
  · exact findings_combined_all _

theorem passed_combine_allOf (es : List Evaluation) :
    (combine .allOf es).passed = es.all passed := by
  rw [combine, passed_combined, Quantifier.combine, List.all_map, List.all_filter]
  congr 1
  funext e
  cases e <;> simp [noScopesFound]

theorem flatMap_applicable {α : Type} {f : Evaluation → List α} (h : f notApplicable = [])
    (es : List Evaluation) :
    (es.filter fun e => !e.noScopesFound).flatMap f = es.flatMap f := by
  induction es with
  | nil => rfl
  | cons e rest ih =>
    rw [List.filter_cons, List.flatMap_cons]
    split
    · rw [List.flatMap_cons, ih]
    · next hdropped =>
      obtain rfl : e = notApplicable := noScopesFound_iff.mp (by simpa using hdropped)
      rw [ih, h, List.nil_append]

theorem findings_combine_allOf (es : List Evaluation) :
    (combine .allOf es).findings = es.flatMap findings := by
  rw [combine, Quantifier.combine, List.all_map]
  exact (findings_combined_all _).trans (flatMap_applicable rfl es)

end TemplateAudit.Evaluation
