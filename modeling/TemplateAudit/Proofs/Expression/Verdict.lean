import TemplateAudit.Proofs.Expression.Descent

/-! # Verdicts

A verdict says whether an expression applies at a scope and, if so, whether it passes there. It is
defined by recursion on the expression, without building evaluations: no scope is unwrapped, and
what is not applicable is told apart from what passes. Evaluation refines it at every scope and
for every way of narrowing scopes.
-/

namespace TemplateAudit

inductive Verdict where
  | notApplicable
  | pass
  | fail
  deriving DecidableEq, Repr

def Verdict.ofBool : Bool → Verdict
  | true => .pass
  | false => .fail

/-- Whether the verdicts of the children at one scope let a group pass there. -/
def Quantifier.accepts : Quantifier → List Verdict → Bool
  | .allOf, verdicts => verdicts.all fun v => v = .notApplicable ∨ v = .pass
  | .anyOf, verdicts => verdicts.any fun v => v = .pass

namespace Expression

mutual

/-- The verdict on an expression at a scope. The scopes that it is about are the resources of its
type, or the scope itself, then what its path leads to from each of them, and of these the ones
where its condition passes. -/
def verdict (r : Resolver) : Expression → Scope → Verdict
  | .narrowed resourceType path condition body, s =>
    let starts := match resourceType with
      | some t => r.resourcesOfType s t
      | none => [s]
    let reached := match path with
      | some p => starts.flatMap fun start => r.resolve start p
      | none => starts
    bodyVerdict r body (reached.filter (satisfies r condition))

/-- Whether a condition passes at a scope. -/
def satisfies (r : Resolver) : Option Expression → Scope → Bool
  | none, _ => true
  | some condition, s => verdict r condition s = .pass

def bodyVerdict (r : Resolver) : Body → List Scope → Verdict
  | _, [] => .notApplicable
  | .operator op, scopes => .ofBool (scopes.all fun s => op.holds s.value)
  | .group quantifier children, scopes =>
    .ofBool (scopes.all fun s => quantifier.accepts (verdicts r children s))

def verdicts (r : Resolver) : List Expression → Scope → List Verdict
  | [], _ => []
  | child :: rest, s => verdict r child s :: verdicts r rest s

end

theorem verdicts_eq_map (r : Resolver) (children : List Expression) (s : Scope) :
    verdicts r children s = children.map fun child => verdict r child s := by
  induction children with
  | nil => rw [verdicts, List.map_nil]
  | cons child rest ih => rw [verdicts, ih, List.map_cons]

end Expression

namespace Evaluation

/-- What an evaluation says about applicability and passing. -/
def verdict (e : Evaluation) : Verdict :=
  if e.noScopesFound then .notApplicable else .ofBool e.passed

theorem verdict_eq_notApplicable_iff {e : Evaluation} :
    e.verdict = .notApplicable ↔ e.noScopesFound = true := by
  unfold verdict
  cases e.noScopesFound <;> cases e.passed <;> simp [Verdict.ofBool]

theorem verdict_eq_pass_iff {e : Evaluation} :
    e.verdict = .pass ↔ e.noScopesFound = false ∧ e.passed = true := by
  unfold verdict
  cases e.noScopesFound <;> cases e.passed <;> simp [Verdict.ofBool]

theorem verdict_combined (passed : Bool) (es : List Evaluation) :
    (combined passed es).verdict = .ofBool passed := rfl

theorem passed_combine (quantifier : Quantifier) (es : List Evaluation) :
    (combine quantifier es).passed = quantifier.accepts (es.map verdict) := by
  cases quantifier with
  | allOf =>
    simp only [combine, passed_combined, Quantifier.combine, Quantifier.accepts, List.all_map,
      List.all_filter]
    congr 1
    funext e
    cases h : e.noScopesFound <;> cases h' : e.passed <;>
      simp [verdict, h, h', Verdict.ofBool]
  | anyOf =>
    simp only [combine, passed_combined, Quantifier.combine, Quantifier.accepts, List.any_map,
      List.any_filter]
    congr 1
    funext e
    cases h : e.noScopesFound <;> cases h' : e.passed <;>
      simp [verdict, h, h', Verdict.ofBool]

theorem verdict_overScopes_combine (quantifier : Quantifier) {ess : List (List Evaluation)}
    (h : ess ≠ []) :
    (overScopes (ess.map (combine quantifier))).verdict =
      .ofBool (ess.all fun es => quantifier.accepts (es.map verdict)) := by
  match ess with
  | [] => exact absurd rfl h
  | [es] =>
    rw [List.all_cons, List.all_nil, Bool.and_true, ← passed_combine]
    rfl
  | es :: es' :: rest =>
    rw [List.map_cons, List.map_cons, overScopes, verdict_combined]
    · simp only [← passed_combine, List.all_cons, List.all_map, Function.comp_def]
    · simp

end Evaluation

namespace Expression

variable {r : Resolver}

/-- Narrowing during evaluation finds the scopes that a verdict is about. -/
theorem verdict_narrowed (resourceType : Option String) (path : Option Path)
    (condition : Option Expression) (b : Body) (s : Scope) :
    verdict r (.narrowed resourceType path condition b) s =
      bodyVerdict r b ((narrowByPath r path (narrowByType r resourceType s)).filter
        (satisfies r condition)) := by
  cases resourceType with
  | none => cases path <;> simp only [verdict, narrowByType, narrowByPath]
  | some t => cases path <;> simp only [verdict, narrowByType, narrowByPath]

theorem bodyVerdict_nil (b : Body) : bodyVerdict r b [] = .notApplicable := by
  cases b <;> rw [bodyVerdict]

theorem verdict_judge_operator (op : Operator) {scopes : List Scope} (hs : scopes ≠ []) :
    (judge r (.operator op) scopes).verdict = bodyVerdict r (.operator op) scopes := by
  rw [judge_operator hs, bodyVerdict]
  · simp only [Evaluation.verdict, Evaluation.noScopesFound, Evaluation.passed_leaf, List.all_map,
      Function.comp_def, Bool.false_eq_true, if_false]
  · exact hs

theorem verdict_judge_group (quantifier : Quantifier) {children : List Expression}
    {scopes : List Scope} (hs : scopes ≠ [])
    (h : ∀ e ∈ children, ∀ s, (e.evaluate r s).verdict = e.verdict r s) :
    (judge r (.group quantifier children) scopes).verdict =
      bodyVerdict r (.group quantifier children) scopes := by
  have hc : ∀ s, (children.map (evaluate r · s)).map Evaluation.verdict =
      verdicts r children s := by
    intro s
    rw [verdicts_eq_map, List.map_map]
    exact List.map_congr_left fun e he => h e he s
  have hm : (scopes.map fun s => children.map (evaluate r · s)) ≠ [] := by
    simpa using hs
  have hv := Evaluation.verdict_overScopes_combine quantifier hm
  rw [List.map_map, List.all_map] at hv
  rw [judge_group hs, bodyVerdict]
  · simp only [Function.comp_def, hc] at hv
    exact hv
  · exact hs

/-- Evaluating an expression refines its verdict. -/
theorem verdict_evaluate (e : Expression) (s : Scope) :
    (e.evaluate r s).verdict = e.verdict r s := by
  induction e using descend generalizing s with
  | narrowed resourceType path condition b hcondition hchildren =>
    have hadmits : ∀ s, admits r condition s = satisfies r condition s := by
      intro s
      cases condition with
      | none => simp only [admits, satisfies]
      | some c =>
        rw [admits_some, satisfies, ← hcondition c rfl, Bool.eq_iff_iff]
        simp [Evaluation.verdict_eq_pass_iff]
    rw [evaluate_eq_judge, verdict_narrowed, survivors, List.filter_congr fun s _ => hadmits s]
    generalize List.filter _ _ = scopes
    by_cases hs : scopes = []
    · subst hs
      rw [judge_nil, bodyVerdict_nil]
      rfl
    · cases b with
      | operator op => exact verdict_judge_operator op hs
      | group quantifier children => exact verdict_judge_group quantifier hs hchildren

/-- An evaluation at a scope is there; it found no scopes exactly if the verdict is that the
expression is not applicable, and otherwise it passed exactly if the verdict is to pass. -/
theorem evaluate?_refines_verdict (r : Resolver) (e : Expression) (s : Scope) :
    ∃ evaluation, e.evaluate? r (some s) = .ok evaluation ∧
      (evaluation.noScopesFound = true ↔ e.verdict r s = .notApplicable) ∧
      (evaluation.noScopesFound = false → (evaluation.passed = true ↔ e.verdict r s = .pass)) := by
  refine ⟨e.evaluate r s, rfl, ?_, ?_⟩
  · rw [← verdict_evaluate, Evaluation.verdict_eq_notApplicable_iff]
  · intro h
    rw [← verdict_evaluate, Evaluation.verdict_eq_pass_iff]
    simp [h]

end Expression

end TemplateAudit
