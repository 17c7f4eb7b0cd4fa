import TemplateAudit.Proofs.Evaluation.Findings
import TemplateAudit.Proofs.Expression.Vacuous

/-! # The nodes that lead to a result

Whether a failed result is worth pointing at depends on all nodes that lead to it. Walking down
from a node to its failed results looks at the outcome of every node below it, and leaves its own
outcome to the caller: from a node that failed it finds the results that failed nodes alone lead
to, and from one that passes it may find results too.
-/

namespace TemplateAudit

namespace Evaluation

/-- A result of a tree, with the nodes that lead to it from the root of the tree on. -/
structure Trace where
  nodes : List Evaluation
  result : RuleResult

namespace Trace

def under (n : Evaluation) (t : Trace) : Trace := ⟨n :: t.nodes, t.result⟩

def fails (t : Trace) : Bool := t.nodes.all (!·.passed) && !t.result.passed

def failsBelow (t : Trace) : Bool := t.nodes.tail.all (!·.passed) && !t.result.passed

end Trace

mutual

/-- The traces of all results, in the order of the tree. -/
def traces : Evaluation → List Trace
  | .notApplicable => []
  | .leaf results => results.map fun result => ⟨[.leaf results], result⟩
  | .combined passed evaluations =>
    (tracesAmong evaluations).map (.under (.combined passed evaluations))

def tracesAmong : List Evaluation → List Trace
  | [] => []
  | e :: rest => traces e ++ tracesAmong rest

end

theorem tracesAmong_eq_flatMap (es : List Evaluation) : tracesAmong es = es.flatMap traces := by
  induction es with
  | nil => rfl
  | cons e rest ih => rw [tracesAmong, ih, List.flatMap_cons]

variable {e n : Evaluation} {es : List Evaluation}

/-- The results that failed nodes alone lead to, from the root of the tree on. -/
def resultsOfFailed (e : Evaluation) : List RuleResult :=
  (e.traces.filter (·.fails)).map (·.result)

def resultsOfFailedBelow (e : Evaluation) : List RuleResult :=
  (e.traces.filter (·.failsBelow)).map (·.result)

theorem map_result_traces (e : Evaluation) : e.traces.map (·.result) = e.leaves.flatten := by
  induction e using descend with
  | notApplicable => rfl
  | leaf rs =>
    by_cases h : rs = []
    · simp [h, traces, leaves, nodes]
    · simp [traces, leaves_leaf h, Function.comp_def]
  | combined passed es ih =>
    calc (combined passed es).traces.map (·.result)
      _ = es.flatMap fun e => e.traces.map (·.result) := by
          simp only [traces, tracesAmong_eq_flatMap, List.map_map, List.map_flatMap]
          rfl
      _ = es.flatMap fun e => e.leaves.flatten := List.flatMap_congr ih
      _ = (combined passed es).leaves.flatten := by
          simp only [leaves_combined, List.flatMap_def, List.flatten_flatten, List.map_map]
          rfl

theorem resultsOfFailed_leaf (rs : List RuleResult) :
    (leaf rs).resultsOfFailed = (leaf rs).findings := by
  have hfails : ∀ result, Trace.fails ⟨[leaf rs], result⟩ = (!(leaf rs).passed && !result.passed) :=
    fun result => by simp [Trace.fails]
  cases h : (leaf rs).passed with
  | true =>
    simp [resultsOfFailed, traces, List.filter_map, Function.comp_def, hfails, h,
      findings_of_passed h]
  | false =>
    simp [resultsOfFailed, traces, List.filter_map, Function.comp_def, hfails, h,
      findings_of_failed h, failingResults]

theorem resultsOfFailed_combined (passed : Bool) (es : List Evaluation) :
    (combined passed es).resultsOfFailed =
      if passed then [] else es.flatMap resultsOfFailed := by
  simp only [resultsOfFailed, traces, tracesAmong_eq_flatMap, List.filter_map, List.map_map]
  cases passed with
  | true => simp [Function.comp_def, Trace.fails, Trace.under]
  | false =>
    have hfails : (Trace.fails ∘ Trace.under (combined false es)) = Trace.fails := rfl
    rw [hfails, List.filter_flatMap, List.map_flatMap]
    rfl

theorem resultsOfFailedBelow_combined (passed : Bool) (es : List Evaluation) :
    (combined passed es).resultsOfFailedBelow = es.flatMap resultsOfFailed := by
  simp only [resultsOfFailedBelow, traces, tracesAmong_eq_flatMap, List.filter_map, List.map_map,
    List.filter_flatMap, List.map_flatMap]
  rfl

/-- What an evaluation reports as a part of another one is what failed nodes alone lead to. -/
theorem resultsOfFailed_eq_findings (e : Evaluation) : e.resultsOfFailed = e.findings := by
  induction e using descend with
  | notApplicable => rfl
  | leaf rs => exact resultsOfFailed_leaf rs
  | combined passed es ih =>
    rw [resultsOfFailed_combined, List.flatMap_congr ih, findings, failingResults,
      failingAmong_eq_flatMap_findings]
    rfl

/-- The walk down to the failed results looks at all nodes but the one that it starts from. -/
theorem failingResults_eq_resultsOfFailedBelow (e : Evaluation) :
    e.failingResults = e.resultsOfFailedBelow := by
  cases e with
  | notApplicable => rfl
  | leaf rs =>
    simp [resultsOfFailedBelow, traces, List.filter_map, Function.comp_def, Trace.failsBelow,
      failingResults]
  | combined passed es =>
    rw [resultsOfFailedBelow_combined, failingResults, failingAmong_eq_flatMap_findings]
    exact List.flatMap_congr fun e _ => (resultsOfFailed_eq_findings e).symm

theorem failingResults_eq_resultsOfFailed (h : e.passed = false) :
    e.failingResults = e.resultsOfFailed := by
  rw [resultsOfFailed_eq_findings, findings_of_failed h]

theorem resultsOfFailed_of_passed (h : e.passed = true) : e.resultsOfFailed = [] := by
  rw [resultsOfFailed_eq_findings, findings_of_passed h]

theorem Strict.of_mem_nodes (h : e.Strict) (hn : n ∈ e.nodes) : n.Strict := by
  induction h with
  | notApplicable =>
    obtain rfl : n = .notApplicable := by simpa [nodes] using hn
    exact .notApplicable
  | leaf rs =>
    obtain rfl : n = .leaf rs := by simpa [nodes] using hn
    exact .leaf rs
  | combined hpass hes ih =>
    rcases mem_nodes_iff.mp hn with rfl | ⟨child, hc, hn⟩
    · exact .combined hpass hes
    · exact ih child hc hn

theorem Strict.failingResults_of_passed (h : e.Strict) (hpassed : e.passed = true) :
    e.failingResults = [] := by
  rw [h.failingResults_eq, h.failedResults_of_passed hpassed]

end Evaluation

namespace Expression

open Evaluation

/-- At every node of the evaluation of an expression, the failed results are those that failed
nodes below it lead to, in the order of the tree. From a node that failed they are those that
failed nodes alone lead to, and without `anyOf` there are none from a node that passes. -/
theorem failingResults_of_mem_nodes (r : Resolver) (e : Expression) (scope : Option Scope)
    (evaluation : Evaluation) (h : e.evaluate? r scope = .ok evaluation) :
    ∀ n ∈ evaluation.nodes,
      n.traces.map (·.result) = n.leaves.flatten ∧
      n.failingResults = n.resultsOfFailedBelow ∧
      (n.passed = false → n.failingResults = n.resultsOfFailed) ∧
      (n.passed = true → n.resultsOfFailed = [] ∧ (e.NoAnyOf → n.failingResults = [])) := by
  intro n hn
  refine ⟨map_result_traces n, failingResults_eq_resultsOfFailedBelow n,
    failingResults_eq_resultsOfFailed, ?_⟩
  intro hpassed
  refine ⟨resultsOfFailed_of_passed hpassed, fun hno => ?_⟩
  cases scope with
  | none => exact nomatch h
  | some s =>
    obtain rfl : e.evaluate r s = evaluation := Except.ok.inj h
    exact ((hno.strict_evaluate s).of_mem_nodes hn).failingResults_of_passed hpassed

/-- In a conjunction that fails, one failed result is hidden below a disjunction that passes. The
other one is found from the conjunction, and the hidden one only from the disjunction itself. -/
theorem failingResults_of_mem_nodes_hidden :
    let r : Resolver := Template.resolver (.build "\x7b\n\"a\": true,\n\"b\": true\x7d")
    let s : Scope := .root (.object [("a", .bool true), ("b", .bool true)])
    let at? (name : String) (present : Bool) : Expression :=
      .narrowed none (some ⟨name, [.property name]⟩) none (.operator (.isPresent present))
    let either : Expression :=
      .narrowed none none none (.group .anyOf [at? "a" false, at? "a" true])
    let both : Expression := .narrowed none none none (.group .allOf [either, at? "b" false])
    let hidden : Evaluation := .combined true [.leaf [⟨false, 2⟩], .leaf [⟨true, 2⟩]]
    let found : Evaluation := .combined false [hidden, .leaf [⟨false, 3⟩]]
    both.evaluate? r (some s) = .ok found ∧
      found.failingResults = found.resultsOfFailed ∧ found.resultsOfFailed = [⟨false, 3⟩] ∧
      hidden.failingResults = hidden.resultsOfFailedBelow ∧
      hidden.failingResults = [⟨false, 2⟩] ∧ hidden.resultsOfFailed = [] := by
  intro r s at? either both hidden found
  have h : both.evaluate? r (some s) = .ok found := by rfl
  have hmem : hidden ∈ found.nodes :=
    mem_nodes_of_child List.mem_cons_self (mem_nodes_iff.mpr (.inl rfl))
  have hroot : found ∈ found.nodes := mem_nodes_iff.mpr (.inl rfl)
  obtain ⟨-, -, hfailed, -⟩ := failingResults_of_mem_nodes r both (some s) found h found hroot
  obtain ⟨-, hbelow, -, hpassed⟩ := failingResults_of_mem_nodes r both (some s) found h hidden hmem
  exact ⟨h, hfailed rfl, rfl, hbelow, rfl, (hpassed rfl).1⟩

/-- A disjunction of a check that fails and one that passes has a failed result to show. -/
theorem not_failingResults_eq_resultsOfFailed :
    ¬ ∀ (r : Resolver) (e : Expression) (s : Scope), ∀ n ∈ (e.evaluate r s).nodes,
      n.failingResults = n.resultsOfFailed := by
  intro h
  let r : Resolver := Template.resolver (.build "\x7b\"a\": true\x7d")
  let s : Scope := .root (.object [("a", .bool true)])
  let at? (present : Bool) : Expression :=
    .narrowed none (some ⟨"a", [.property "a"]⟩) none (.operator (.isPresent present))
  let either : Expression := .narrowed none none none (.group .anyOf [at? false, at? true])
  have hpassed : (either.evaluate r s).passed = true := by rfl
  have hfound : (either.evaluate r s).failingResults = [⟨false, 1⟩] := by rfl
  have hequal := h r either s _ (mem_nodes_iff.mpr (.inl rfl))
  rw [hfound, resultsOfFailed_of_passed hpassed] at hequal
  exact nomatch hequal

end Expression

end TemplateAudit
