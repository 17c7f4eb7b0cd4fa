import Mathlib.Data.List.Basic
import TemplateAudit.Proofs.Expression.ScopeByScope

/-! # Flattening groups

A group that does not narrow is applicable even if none of its children is. Inside a group of its
own kind it can still be replaced by its children: without applicable children it has the outcome
that is neutral there, and where the outer group fails its findings are those of its children.
-/

namespace TemplateAudit

theorem Quantifier.combine_nested (quantifier : Quantifier) (xs ys zs : List Bool) :
    quantifier.combine (xs ++ quantifier.combine ys :: zs) =
      quantifier.combine (xs ++ ys ++ zs) := by
  cases quantifier <;> simp [combine]

namespace Evaluation

/-- What a report shows of two evaluations is the same. -/
structure Matches (e e' : Evaluation) : Prop where
  noScopesFound : e.noScopesFound = e'.noScopesFound
  passed : e.passed = e'.passed
  hasResults : e.hasResults = e'.hasResults
  findings : e.findings = e'.findings

theorem Matches.refl (e : Evaluation) : e.Matches e := ⟨rfl, rfl, rfl, rfl⟩

theorem Matches.failingResults {e e' : Evaluation} (h : e.Matches e') (hfailed : e.passed = false) :
    e.failingResults = e'.failingResults := by
  have hfailed' : e'.passed = false := h.passed ▸ hfailed
  simpa only [findings_of_failed hfailed, findings_of_failed hfailed'] using h.findings

theorem hasResults_overScopes (es : List Evaluation) :
    (overScopes es).hasResults = es.any hasResults := by
  unfold overScopes
  split
  · simp
  · simp [hasResults, anyHasResults_eq_any]

theorem Matches.overScopes {scopes : List Scope} {f g : Scope → Evaluation}
    (h : ∀ s ∈ scopes, (f s).Matches (g s)) :
    (overScopes (scopes.map f)).Matches (overScopes (scopes.map g)) where
  noScopesFound := by
    match scopes, h with
    | [], _ => rfl
    | [s], h => exact (h s List.mem_cons_self).noScopesFound
    | _ :: _ :: _, _ => rfl
  passed := by
    simp only [passed_overScopes, List.all_map]
    rw [Bool.eq_iff_iff, List.all_eq_true, List.all_eq_true]
    exact forall₂_congr fun s hs => by simp [(h s hs).passed]
  hasResults := by
    simp only [hasResults_overScopes, List.any_map]
    rw [Bool.eq_iff_iff, List.any_eq_true, List.any_eq_true]
    exact exists_congr fun s => and_congr_right fun hs => by simp [(h s hs).hasResults]
  findings := by
    simp only [findings_overScopes, List.flatMap_map]
    exact List.flatMap_congr fun s hs => (h s hs).findings

section Nested

variable (quantifier : Quantifier) (xs ys zs : List Evaluation)

theorem hasResults_combine (es : List Evaluation) :
    (combine quantifier es).hasResults = es.any hasResults := by
  induction es with
  | nil => rfl
  | cons e rest ih =>
    cases e <;> simp_all [combine, noScopesFound, hasResults, anyHasResults_eq_any]

theorem findings_combine_of_failed {es : List Evaluation}
    (h : (combine quantifier es).passed = false) :
    (combine quantifier es).findings = es.flatMap findings := by
  rw [findings_of_failed h, combine, failingResults, failingAmong_eq_flatMap_findings,
    flatMap_applicable rfl]

theorem passed_combine_nested :
    (combine quantifier (xs ++ combine quantifier ys :: zs)).passed =
      (combine quantifier (xs ++ ys ++ zs)).passed := by
  have h := quantifier.combine_nested ((xs.filter fun e => !e.noScopesFound).map passed)
    ((ys.filter fun e => !e.noScopesFound).map passed)
    ((zs.filter fun e => !e.noScopesFound).map passed)
  simpa [combine, noScopesFound] using h

/-- Where a combination fails, the parts of a part of the same kind report what they report alone:
a conjunction that passes has only parts that pass, and a disjunction that passes is not there. -/
theorem findings_combine_part
    (h : (combine quantifier (xs ++ combine quantifier ys :: zs)).passed = false) :
    (combine quantifier ys).findings = ys.flatMap findings := by
  cases hpart : (combine quantifier ys).passed with
  | false => exact findings_combine_of_failed quantifier hpart
  | true =>
    cases quantifier with
    | allOf => exact findings_combine_allOf ys
    | anyOf =>
      have hpassed : (combine .anyOf (xs ++ combine .anyOf ys :: zs)).passed = true := by
        rw [combine, passed_combined, Quantifier.combine, List.any_map, List.any_eq_true]
        exact ⟨combine .anyOf ys, by simp [noScopesFound, combine], hpart⟩
      exact absurd (hpassed.symm.trans h) (by decide)

theorem findings_combine_nested :
    (combine quantifier (xs ++ combine quantifier ys :: zs)).findings =
      (combine quantifier (xs ++ ys ++ zs)).findings := by
  have hpassed := passed_combine_nested quantifier xs ys zs
  cases h : (combine quantifier (xs ++ ys ++ zs)).passed with
  | true => rw [findings_of_passed (hpassed.trans h), findings_of_passed h]
  | false =>
    have hnested := hpassed.trans h
    rw [findings_combine_of_failed quantifier hnested, findings_combine_of_failed quantifier h]
    simp [findings_combine_part quantifier xs ys zs hnested]

/-- A combination inside one of its kind can be replaced by its parts. -/
theorem matches_combine_nested :
    (combine quantifier (xs ++ combine quantifier ys :: zs)).Matches
      (combine quantifier (xs ++ ys ++ zs)) where
  noScopesFound := rfl
  passed := passed_combine_nested quantifier xs ys zs
  hasResults := by simp [hasResults_combine]
  findings := findings_combine_nested quantifier xs ys zs

end Nested

end Evaluation

namespace Expression

open Evaluation

variable {r : Resolver}

theorem evaluate_group (quantifier : Quantifier) (children : List Expression) (s : Scope) :
    (narrowed none none none (.group quantifier children)).evaluate r s =
      .combine quantifier (children.map (evaluate r · s)) := by
  rw [evaluate_eq_judge, ← judge_group_singleton]
  simp [body, survivors, narrowByPath, narrowByType, admits]

theorem matches_judge_nested (quantifier : Quantifier) (xs ys zs : List Expression)
    (scopes : List Scope) :
    (judge r (.group quantifier
        (xs ++ narrowed none none none (.group quantifier ys) :: zs)) scopes).Matches
      (judge r (.group quantifier (xs ++ ys ++ zs)) scopes) := by
  by_cases hs : scopes = []
  · subst hs
    simp only [judge_nil]
    exact .refl _
  · simp only [judge_group hs]
    apply Matches.overScopes
    intro s _
    simp only [List.map_append, List.map_cons, evaluate_group]
    exact matches_combine_nested quantifier _ _ _

/-- A group without narrowing inside a group of the same kind, whatever that narrows by, can be
replaced by its children: applicability, outcome and having results stay the same at every scope,
and so do the failed results of a failure in their order. -/
theorem failingResults_flattened (r : Resolver) (quantifier : Quantifier)
    (xs ys zs : List Expression) (resourceType : Option String) (path : Option Path)
    (condition : Option Expression) (s : Scope) :
    let inner : Expression := narrowed none none none (.group quantifier ys)
    let nested : Evaluation := (narrowed resourceType path condition
      (.group quantifier (xs ++ inner :: zs))).evaluate r s
    let flat : Evaluation := (narrowed resourceType path condition
      (.group quantifier (xs ++ ys ++ zs))).evaluate r s
    nested.noScopesFound = flat.noScopesFound ∧ nested.passed = flat.passed ∧
      nested.hasResults = flat.hasResults ∧
      (nested.passed = false → nested.failingResults = flat.failingResults) := by
  intro inner nested flat
  have h : nested.Matches flat := by
    simp only [nested, flat, evaluate_eq_judge]
    -- The scopes that are left do not depend on the body.
    exact matches_judge_nested quantifier xs ys zs _
  exact ⟨h.noScopesFound, h.passed, h.hasResults, h.failingResults⟩

end Expression

end TemplateAudit
