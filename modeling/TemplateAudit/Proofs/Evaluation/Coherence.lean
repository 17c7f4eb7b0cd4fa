import TemplateAudit.Proofs.Evaluation.Nodes
import TemplateAudit.Proofs.Expression.Descent

/-! # Coherent evaluations

Nothing in the type of evaluations ties the outcome of a combination to what it combines, or keeps
what is not applicable out of it. Evaluating an expression only builds coherent nodes: each of the
ways in which nodes are put together keeps coherence, and so does evaluation as a whole.
-/

namespace TemplateAudit

theorem Quantifier.combine_eq_of_forall (quantifier : Quantifier) {outcomes : List Bool}
    {outcome : Bool} (hne : outcomes ≠ []) (h : ∀ o ∈ outcomes, o = outcome) :
    quantifier.combine outcomes = outcome := by
  obtain ⟨o, ho⟩ := List.exists_mem_of_ne_nil _ hne
  cases quantifier <;> cases outcome
  · exact List.all_eq_false.mpr ⟨o, ho, by simp [h o ho]⟩
  · exact List.all_eq_true.mpr h
  · exact List.any_eq_false.mpr fun o ho => by simp [h o ho]
  · exact List.any_eq_true.mpr ⟨o, ho, h o ho⟩

namespace Evaluation

/-- What a node, its children and the nodes below it have to do with each other. -/
structure Coherent (n : Evaluation) : Prop where
  results_or_evaluations : n.results = [] ∨ n.evaluations = []
  hasResults_iff_node : n.hasResults = true ↔ ∃ d ∈ n.nodes, d.results ≠ []
  empty_of_noScopesFound : n.noScopesFound = true →
    n.results = [] ∧ n.evaluations = [] ∧ n.hasResults = false ∧ n.passed = true
  children_applicable : ∀ child ∈ n.evaluations, child.noScopesFound = false
  passed_eq_results : n.results ≠ [] → n.passed = n.results.all (·.passed)
  passed_eq_children : n.evaluations ≠ [] → ∀ outcome,
    (∀ child ∈ n.evaluations, child.passed = outcome) → n.passed = outcome

def CoherentTree (e : Evaluation) : Prop := ∀ n ∈ e.nodes, n.Coherent

theorem coherentTree_notApplicable : notApplicable.CoherentTree := by
  intro n hn
  obtain rfl : n = notApplicable := by simpa [nodes] using hn
  constructor <;> simp [results, evaluations, hasResults, nodes]

theorem coherentTree_leaf (rs : List RuleResult) : (leaf rs).CoherentTree := by
  intro n hn
  obtain rfl : n = leaf rs := by simpa [nodes] using hn
  constructor <;> simp [results, evaluations, hasResults, nodes, noScopesFound]

theorem coherentTree_combined (quantifier : Quantifier) {es : List Evaluation}
    (hes : ∀ e ∈ es, e.noScopesFound = false ∧ e.CoherentTree) :
    (combined (quantifier.combine (es.map Evaluation.passed)) es).CoherentTree := by
  intro n hn
  rcases mem_nodes_iff.mp hn with rfl | ⟨child, hc, hn⟩
  · exact {
      results_or_evaluations := .inl rfl
      hasResults_iff_node := hasResults_iff
      empty_of_noScopesFound := nofun
      children_applicable := fun e he => (hes e he).1
      passed_eq_results := fun h => absurd rfl h
      passed_eq_children := fun hne outcome hall =>
        quantifier.combine_eq_of_forall (by simpa using hne) (by simpa using hall) }
  · exact (hes child hc).2 n hn

theorem noScopesFound_combine (quantifier : Quantifier) (es : List Evaluation) :
    (combine quantifier es).noScopesFound = false := rfl

theorem coherentTree_combine (quantifier : Quantifier) {es : List Evaluation}
    (hes : ∀ e ∈ es, e.CoherentTree) : (combine quantifier es).CoherentTree := by
  refine coherentTree_combined quantifier fun e he => ?_
  obtain ⟨hmem, happlicable⟩ := List.mem_filter.mp he
  exact ⟨by simpa using happlicable, hes e hmem⟩

theorem coherentTree_overScopes {es : List Evaluation}
    (hes : ∀ e ∈ es, e.noScopesFound = false ∧ e.CoherentTree) :
    (overScopes es).CoherentTree := by
  unfold overScopes
  split
  · exact (hes _ (List.mem_singleton.mpr rfl)).2
  · have h := coherentTree_combined .allOf hes
    rwa [Quantifier.combine, List.all_map] at h

end Evaluation

namespace Expression

open Evaluation

theorem coherentTree_judge {r : Resolver} (b : Body) (scopes : List Scope)
    (h : ∀ e ∈ b.children, ∀ s, (e.evaluate r s).CoherentTree) :
    (judge r b scopes).CoherentTree := by
  by_cases hs : scopes = []
  · subst hs
    rw [judge_nil]
    exact coherentTree_notApplicable
  · cases b with
    | operator op =>
      rw [judge_operator hs]
      exact coherentTree_leaf _
    | group quantifier children =>
      rw [judge_group hs]
      refine coherentTree_overScopes fun e he => ?_
      obtain ⟨s, -, rfl⟩ := List.mem_map.mp he
      refine ⟨noScopesFound_combine _ _, coherentTree_combine quantifier fun e he => ?_⟩
      obtain ⟨child, hc, rfl⟩ := List.mem_map.mp he
      exact h child hc s

theorem coherentTree_evaluate (r : Resolver) (e : Expression) (s : Scope) :
    (e.evaluate r s).CoherentTree := by
  induction e using descend generalizing s with
  | narrowed resourceType path condition b _ hchildren =>
    rw [evaluate_eq_judge]
    exact coherentTree_judge b _ hchildren

/-- Every node of an evaluation of an expression, at whatever scope and however scopes are
narrowed, is coherent. -/
theorem coherent_of_mem_nodes (r : Resolver) (e : Expression) (scope : Option Scope)
    (evaluation : Evaluation) (h : e.evaluate? r scope = .ok evaluation) :
    ∀ n ∈ evaluation.nodes, n.Coherent := by
  cases scope with
  | none => exact nomatch h
  | some s =>
    obtain rfl : e.evaluate r s = evaluation := Except.ok.inj h
    exact coherentTree_evaluate r e s

/-- One branch of the group is not applicable, and the path leads to two scopes. -/
theorem coherent_of_mem_nodes_twoScopes :
    let r : Resolver := ⟨fun s _ => [s, s], fun _ _ => [], fun _ => 0⟩
    let branch (resourceType : Option String) : Expression :=
      .narrowed resourceType none none (.operator (.isPresent true))
    let e : Expression :=
      .narrowed none (some ⟨"*", [.wildcard]⟩) none (.group .anyOf [branch (some "t"), branch none])
    let inner : Evaluation := .combined true [.leaf [⟨true, 0⟩]]
    e.evaluate? r (some (.root .null)) = .ok (.combined true [inner, inner]) ∧
      ∀ n ∈ (combined true [inner, inner]).nodes, n.Coherent := by
  intro r branch e inner
  have h : e.evaluate? r (some (.root .null)) = .ok (.combined true [inner, inner]) := rfl
  exact ⟨h, coherent_of_mem_nodes r e _ _ h⟩

end Expression

end TemplateAudit
