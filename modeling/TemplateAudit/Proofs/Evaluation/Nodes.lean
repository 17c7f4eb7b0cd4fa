import TemplateAudit.Evaluation

/-! # The nodes of an evaluation

An evaluation is a tree, and its nodes are itself and the nodes of what it combines, in the order
in which the tree is read. An evaluation has results exactly if one of its nodes carries some.
-/

namespace TemplateAudit.Evaluation

@[simp] theorem results_leaf (rs : List RuleResult) : (leaf rs).results = rs := rfl

@[simp] theorem results_combined (passed : Bool) (es : List Evaluation) :
    (combined passed es).results = [] := rfl

@[simp] theorem evaluations_leaf (rs : List RuleResult) : (leaf rs).evaluations = [] := rfl

@[simp] theorem evaluations_combined (passed : Bool) (es : List Evaluation) :
    (combined passed es).evaluations = es := rfl

@[elab_as_elim]
theorem descend {motive : Evaluation → Prop} (notApplicable : motive .notApplicable)
    (leaf : ∀ results, motive (.leaf results))
    (combined : ∀ passed es, (∀ e ∈ es, motive e) → motive (.combined passed es))
    (e : Evaluation) : motive e :=
  @Evaluation.rec motive (fun es => ∀ e ∈ es, motive e)
    notApplicable leaf combined
    (List.forall_mem_nil _) (fun _ _ ih ihs => List.forall_mem_cons.mpr ⟨ih, ihs⟩) e

mutual

def nodes : Evaluation → List Evaluation
  | .notApplicable => [.notApplicable]
  | .leaf results => [.leaf results]
  | .combined passed evaluations => .combined passed evaluations :: nodesAmong evaluations

def nodesAmong : List Evaluation → List Evaluation
  | [] => []
  | e :: rest => nodes e ++ nodesAmong rest

end

theorem nodesAmong_eq_flatMap (es : List Evaluation) : nodesAmong es = es.flatMap nodes := by
  induction es with
  | nil => rfl
  | cons e rest ih => rw [nodesAmong, ih, List.flatMap_cons]

theorem nodes_eq_cons (e : Evaluation) : e.nodes = e :: e.evaluations.flatMap nodes := by
  cases e with
  | notApplicable => rfl
  | leaf results => rfl
  | combined passed es => rw [nodes, nodesAmong_eq_flatMap, evaluations_combined]

theorem mem_nodes_iff {e n : Evaluation} :
    n ∈ e.nodes ↔ n = e ∨ ∃ child ∈ e.evaluations, n ∈ child.nodes := by
  rw [nodes_eq_cons, List.mem_cons, List.mem_flatMap]

theorem mem_nodes_of_child {e child n : Evaluation} (hc : child ∈ e.evaluations)
    (hn : n ∈ child.nodes) : n ∈ e.nodes :=
  mem_nodes_iff.mpr (.inr ⟨child, hc, hn⟩)

theorem hasResults_iff {e : Evaluation} :
    e.hasResults = true ↔ ∃ n ∈ e.nodes, n.results ≠ [] := by
  induction e using descend with
  | notApplicable => simp [hasResults, nodes, results]
  | leaf rs => simp [hasResults, nodes, results]
  | combined passed es ih =>
    rw [hasResults, anyHasResults_eq_any, List.any_eq_true]
    constructor
    · rintro ⟨child, hc, h⟩
      obtain ⟨n, hn, hr⟩ := (ih child hc).mp h
      exact ⟨n, mem_nodes_of_child hc hn, hr⟩
    · rintro ⟨n, hn, hr⟩
      rcases mem_nodes_iff.mp hn with rfl | ⟨child, hc, hn⟩
      · exact absurd rfl hr
      · exact ⟨child, hc, (ih child hc).mpr ⟨n, hn, hr⟩⟩

end TemplateAudit.Evaluation
