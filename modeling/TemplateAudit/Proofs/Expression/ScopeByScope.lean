import Mathlib.Data.List.Flatten
import TemplateAudit.Engine
import TemplateAudit.Proofs.Evaluation.Findings
import TemplateAudit.Proofs.Expression.Descent

/-! # Judging scope by scope

The scopes that are left for a body pass together exactly if each of them passes alone, and their
findings are those that they have alone, in order. So leaving out some scopes only takes findings
away, which is all that a condition can do.
-/

namespace TemplateAudit

namespace Expression

open Evaluation

variable {r : Resolver} {s : Scope}

theorem judge_group_singleton (quantifier : Quantifier) (children : List Expression) (s : Scope) :
    judge r (.group quantifier children) [s] =
      .combine quantifier (children.map (evaluate r · s)) := by
  rw [judge_group (List.cons_ne_nil _ _)]
  rfl

theorem judge_group_eq_overScopes (quantifier : Quantifier) (children : List Expression)
    {scopes : List Scope} (h : scopes ≠ []) :
    judge r (.group quantifier children) scopes =
      .overScopes (scopes.map fun s => judge r (.group quantifier children) [s]) := by
  simp only [judge_group_singleton, judge_group h]

theorem passed_judge (b : Body) (scopes : List Scope) :
    (judge r b scopes).passed = scopes.all fun s => (judge r b [s]).passed := by
  by_cases hs : scopes = []
  · subst hs
    rw [judge_nil]
    rfl
  · cases b with
    | operator op => simp [judge_operator, hs, Function.comp_def]
    | group quantifier children =>
      rw [judge_group_eq_overScopes _ _ hs, passed_overScopes, List.all_map]
      rfl

theorem findings_judge (b : Body) (scopes : List Scope) :
    (judge r b scopes).findings = scopes.flatMap fun s => (judge r b [s]).findings := by
  by_cases hs : scopes = []
  · subst hs
    rw [judge_nil]
    rfl
  · cases b with
    | operator op =>
      rw [judge_operator hs, findings_leaf, List.map_eq_flatMap, List.filter_flatMap]
      simp only [judge_operator (List.cons_ne_nil _ _), findings_leaf, List.map_singleton]
    | group quantifier children =>
      rw [judge_group_eq_overScopes _ _ hs, findings_overScopes, List.flatMap_map]

theorem passed_evaluate (e : Expression) (s : Scope) :
    (e.evaluate r s).passed = (e.survivors r s).all fun t => (judge r e.body [t]).passed := by
  rw [evaluate_eq_judge, passed_judge]

theorem findings_evaluate (e : Expression) (s : Scope) :
    (e.evaluate r s).findings =
      (e.survivors r s).flatMap fun t => (judge r e.body [t]).findings := by
  rw [evaluate_eq_judge, findings_judge]

/-- Leaving out scopes keeps the outcome or lets the body pass, and only takes findings away. -/
theorem judge_of_sublist (b : Body) {scopes more : List Scope} (h : scopes.Sublist more) :
    ((judge r b more).passed = true → (judge r b scopes).passed = true) ∧
      (judge r b scopes).findings.Sublist (judge r b more).findings := by
  rw [passed_judge b more, passed_judge b scopes, findings_judge b more, findings_judge b scopes]
  constructor
  · intro hall
    rw [List.all_eq_true] at hall ⊢
    intro s hs
    exact hall s (h.mem hs)
  · exact h.flatMap _

theorem survivors_sublist (resourceType : Option String) (path : Option Path)
    (condition : Option Expression) (b : Body) (s : Scope) :
    ((narrowed resourceType path condition b).survivors r s).Sublist
      ((narrowed resourceType path none b).survivors r s) := by
  have hall : ∀ t, admits r none t = true := fun t => by rw [admits]
  rw [survivors, survivors, List.filter_eq_self.mpr fun t _ => hall t]
  exact List.filter_sublist

theorem evaluate_of_condition (resourceType : Option String) (path : Option Path)
    (condition : Option Expression) (b : Body) (s : Scope) :
    (((narrowed resourceType path none b).evaluate r s).passed = true →
        ((narrowed resourceType path condition b).evaluate r s).passed = true) ∧
      ((narrowed resourceType path condition b).evaluate r s).findings.Sublist
        ((narrowed resourceType path none b).evaluate r s).findings := by
  simp only [evaluate_eq_judge]
  exact judge_of_sublist b (survivors_sublist resourceType path condition b s)

/-- Under a condition an expression fails only where it fails without it, with some of the findings
that it has without it. So no rule that passes becomes a finding under a condition, and none gets a
line that it has not without it. -/
theorem failingResults_sublist_of_condition (r : Resolver) (resourceType : Option String)
    (path : Option Path) (condition : Expression) (b : Body) (s : Scope) :
    let narrow : Evaluation := (narrowed resourceType path (some condition) b).evaluate r s
    let wide : Evaluation := (narrowed resourceType path none b).evaluate r s
    narrow.passed = false → wide.passed = false ∧
      narrow.failingResults.Sublist wide.failingResults ∧
      ∀ rule : RuleMetadata,
        ((⟨rule, narrow⟩ : RuleEvaluation).isFinding = true →
          (⟨rule, wide⟩ : RuleEvaluation).isFinding = true) ∧
        (⟨rule, narrow⟩ : RuleEvaluation).findingLines.Sublist
          (⟨rule, wide⟩ : RuleEvaluation).findingLines := by
  intro narrow wide hnarrow
  obtain ⟨hpassed, hsublist⟩ :=
    evaluate_of_condition (r := r) resourceType path (some condition) b s
  have hwide : wide.passed = false := by
    rw [← Bool.not_eq_true]
    intro hwide
    exact Bool.false_ne_true (hnarrow.symm.trans (hpassed hwide))
  rw [findings_of_failed hnarrow, findings_of_failed hwide] at hsublist
  refine ⟨hwide, hsublist, fun rule => ⟨?_, hsublist.map _⟩⟩
  unfold RuleEvaluation.isFinding RuleEvaluation.passed
  simp only [hnarrow, hwide, Bool.not_false, Bool.true_and, Bool.not_eq_true',
    List.isEmpty_eq_false_iff]
  intro hne hnil
  exact hne (List.sublist_nil.mp (hnil ▸ hsublist))

/-- Of the two elements without a name, the condition leaves the one that has a kind. -/
theorem failingResults_sublist_of_condition_elements :
    let r : Resolver := Template.resolver (.build "[\x7b\"kind\": true\x7d,\n\x7b\x7d]")
    let s : Scope := .root (.array [.object [("kind", .bool true)], .object []])
    let has (name : String) : Expression :=
      .narrowed none (some ⟨name, [.property name]⟩) none (.operator (.isPresent true))
    let named (condition : Option Expression) : Expression :=
      .narrowed none (some ⟨"*", [.wildcard]⟩) condition (.group .anyOf [has "name"])
    let narrow : Evaluation := (named (some (has "kind"))).evaluate r s
    let wide : Evaluation := (named none).evaluate r s
    narrow.passed = false ∧ narrow.failingResults = [⟨false, 1⟩] ∧
      wide.failingResults = [⟨false, 1⟩, ⟨false, 2⟩] ∧
      wide.passed = false ∧ narrow.failingResults.Sublist wide.failingResults := by
  intro r s has named narrow wide
  have hnarrow : narrow.passed = false := by rfl
  obtain ⟨hwide, hsublist, -⟩ := failingResults_sublist_of_condition r none
    (some ⟨"*", [.wildcard]⟩) (has "kind") (.group .anyOf [has "name"]) s hnarrow
  exact ⟨hnarrow, rfl, rfl, hwide, hsublist⟩

end Expression

end TemplateAudit
