import Mathlib.Data.List.Basic
import TemplateAudit.Proofs.Evaluation.Findings
import TemplateAudit.Proofs.Evaluation.Nodes
import TemplateAudit.Proofs.Expression.Descent

/-! # What the leaves of an evaluation judge

A leaf of an evaluation comes from an operator and the scopes that are left for it. Reading an
expression in the order of its evaluation lists them, and the results of the leaves are those of
the operators, scope by scope.
-/

namespace TemplateAudit

namespace Evaluation

def leaves (e : Evaluation) : List (List RuleResult) :=
  (e.nodes.map results).filter fun rs => !rs.isEmpty

theorem mem_leaves {e n : Evaluation} (hn : n ∈ e.nodes) {result : RuleResult}
    (hr : result ∈ n.results) : n.results ∈ e.leaves := by
  rw [leaves, List.mem_filter, List.mem_map]
  refine ⟨⟨n, hn, rfl⟩, ?_⟩
  simpa using List.ne_nil_of_mem hr

theorem leaves_notApplicable : notApplicable.leaves = [] := rfl

theorem leaves_leaf {rs : List RuleResult} (h : rs ≠ []) : (leaf rs).leaves = [rs] := by
  simp [leaves, nodes, h]

theorem leaves_combined (passed : Bool) (es : List Evaluation) :
    (combined passed es).leaves = es.flatMap leaves := by
  rw [leaves, nodes_eq_cons, List.map_cons, List.filter_cons_of_neg (by simp),
    evaluations_combined, List.map_flatMap, List.filter_flatMap]
  rfl

theorem leaves_combine (quantifier : Quantifier) (es : List Evaluation) :
    (combine quantifier es).leaves = es.flatMap leaves := by
  rw [combine, leaves_combined, flatMap_applicable leaves_notApplicable]

theorem leaves_overScopes (es : List Evaluation) : (overScopes es).leaves = es.flatMap leaves := by
  unfold overScopes
  split
  · rw [List.flatMap_cons, List.flatMap_nil, List.append_nil]
  · exact leaves_combined _ _

end Evaluation

namespace Expression

mutual

/-- The operators that are judged, each with the scopes that are left for it. -/
def judged (r : Resolver) : Expression → Scope → List (Operator × List Scope)
  | .narrowed resourceType path condition body, s =>
    judgedBy r body ((narrowed resourceType path condition body).survivors r s)

def judgedBy (r : Resolver) : Body → List Scope → List (Operator × List Scope)
  | .operator op, scopes => if scopes = [] then [] else [(op, scopes)]
  | .group _ children, scopes => scopes.flatMap fun s => judgedAmong r children s

def judgedAmong (r : Resolver) : List Expression → Scope → List (Operator × List Scope)
  | [], _ => []
  | child :: rest, s => judged r child s ++ judgedAmong r rest s

end

variable {r : Resolver}

theorem judged_eq (e : Expression) (s : Scope) :
    e.judged r s = judgedBy r e.body (e.survivors r s) := by
  cases e with
  | narrowed _ _ _ _ => simp only [judged, body, survivors]

theorem judgedAmong_eq_flatMap (children : List Expression) (s : Scope) :
    judgedAmong r children s = children.flatMap fun child => child.judged r s := by
  induction children with
  | nil => rw [judgedAmong, List.flatMap_nil]
  | cons child rest ih => rw [judgedAmong, ih, List.flatMap_cons]

theorem exists_survivors_of_mem_judged {motive : Scope → Prop}
    (keeps : ∀ (e : Expression) s, motive s → ∀ t ∈ e.survivors r s, motive t) (e : Expression)
    {s : Scope} (hs : motive s) {j : Operator × List Scope} (hj : j ∈ e.judged r s) :
    ∃ (inner : Expression) (t : Scope), motive t ∧ j.2 = inner.survivors r t := by
  induction e using descend generalizing s with
  | narrowed resourceType path condition b _ hchildren =>
    rw [judged_eq] at hj
    cases b with
    | operator op =>
      rw [body, judgedBy] at hj
      split at hj
      · exact absurd hj List.not_mem_nil
      · obtain rfl := List.mem_singleton.mp hj
        exact ⟨.narrowed resourceType path condition (.operator op), s, hs, rfl⟩
    | group quantifier children =>
      rw [body, judgedBy] at hj
      obtain ⟨t, ht, hj⟩ := List.mem_flatMap.mp hj
      rw [judgedAmong_eq_flatMap] at hj
      obtain ⟨child, hc, hj⟩ := List.mem_flatMap.mp hj
      exact hchildren child hc (keeps _ s hs t ht) hj

def resultsOf (r : Resolver) (j : Operator × List Scope) : List RuleResult :=
  j.2.map fun s => ⟨j.1.holds s.value, r.lineOf s⟩

theorem leaves_judge (b : Body) (scopes : List Scope)
    (h : ∀ e ∈ b.children, ∀ s, (e.evaluate r s).leaves = (e.judged r s).map (resultsOf r)) :
    (judge r b scopes).leaves = (judgedBy r b scopes).map (resultsOf r) := by
  by_cases hs : scopes = []
  · subst hs
    rw [judge_nil, Evaluation.leaves_notApplicable]
    cases b <;> simp [judgedBy]
  · cases b with
    | operator op =>
      rw [judge_operator hs, Evaluation.leaves_leaf (by simpa using hs), judgedBy, if_neg hs]
      rfl
    | group quantifier children =>
      rw [judge_group hs, Evaluation.leaves_overScopes, judgedBy, List.flatMap_map,
        List.map_flatMap]
      congr 1
      funext s
      rw [Evaluation.leaves_combine, judgedAmong_eq_flatMap, List.flatMap_map, List.map_flatMap]
      exact List.flatMap_congr fun e he => h e he s

/-- The leaves of an evaluation have the results of the operators that are judged. -/
theorem leaves_evaluate (e : Expression) (s : Scope) :
    (e.evaluate r s).leaves = (e.judged r s).map (resultsOf r) := by
  induction e using descend generalizing s with
  | narrowed resourceType path condition b _ hchildren =>
    rw [evaluate_eq_judge, judged_eq]
    exact leaves_judge b _ hchildren

end Expression

end TemplateAudit
