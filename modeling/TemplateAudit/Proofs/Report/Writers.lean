import Mathlib.Data.List.Perm.Basic
import TemplateAudit.Run

/-! # What the writers make of evaluations

A block of the console report comes from one pass over the evaluations of a template, and a log
collects a result for every failed result of a finding. Both are seen here as lists made from the
findings alone, and so are the totals and the results after several templates.
-/

namespace TemplateAudit

theorem RuleEvaluation.isFinding_iff {e : RuleEvaluation} :
    e.isFinding = true ↔ e.passed = false ∧ e.evaluation.failingResults ≠ [] := by
  rw [isFinding, Bool.and_eq_true, Bool.not_eq_true', Bool.not_eq_true', List.isEmpty_eq_false_iff]

namespace Analysis

def passing (a : Analysis) : List RuleEvaluation := a.evaluations.filter RuleEvaluation.passed

/-- The evaluations that fail without being findings. -/
def suppressed (a : Analysis) : List RuleEvaluation :=
  a.evaluations.filter fun e => !e.isFinding && !e.passed

theorem perm_evaluations (a : Analysis) :
    (a.passing ++ (a.findings ++ a.suppressed)).Perm a.evaluations := by
  have hfindings : (a.evaluations.filter fun e => !e.passed).filter RuleEvaluation.isFinding =
      a.findings := by
    rw [List.filter_filter, findings]
    refine List.filter_congr fun e _ => ?_
    rw [Bool.and_eq_left_iff_imp]
    intro h
    simpa using (RuleEvaluation.isFinding_iff.mp h).1
  have hsuppressed : (a.evaluations.filter fun e => !e.passed).filter
      (fun e => !e.isFinding) = a.suppressed := List.filter_filter
  have hfailed : (a.findings ++ a.suppressed).Perm
      (a.evaluations.filter fun e => !e.passed) := by
    rw [← hfindings, ← hsuppressed]
    exact List.filter_append_perm _ _
  exact (hfailed.append_left _).trans (List.filter_append_perm _ _)

end Analysis

namespace Console

theorem Block.foldl_add (evaluations : List RuleEvaluation) (b : Block) :
    evaluations.foldl Block.add b =
      ⟨b.path, b.entries ++ (evaluations.filter RuleEvaluation.isFinding).map Entry.ofFinding,
        b.passed + (evaluations.filter RuleEvaluation.passed).length⟩ := by
  induction evaluations generalizing b with
  | nil => simp
  | cons e rest ih =>
    rw [List.foldl_cons, ih, Block.add]
    by_cases hp : e.passed = true
    · have hf : e.isFinding = false := by simp [RuleEvaluation.isFinding, hp]
      simp [hp, hf, Nat.add_assoc, Nat.add_comm 1]
    · by_cases hf : e.isFinding = true <;> simp [hp, hf]

theorem Block.ofAnalysis_eq (a : Analysis) :
    ofAnalysis a = ⟨a.path, a.findings.map Entry.ofFinding, a.passing.length⟩ := by
  rw [ofAnalysis, foldl_add, List.nil_append, Nat.zero_add, Analysis.findings, Analysis.passing]

theorem Totals.foldl_add (analyses : List Analysis) (t : Totals) :
    analyses.foldl (fun t a => t.add (.ofAnalysis a)) t =
      ⟨t.files + analyses.length, t.violations + Run.findingCount analyses⟩ := by
  induction analyses generalizing t with
  | nil => simp [Run.findingCount]
  | cons a rest ih =>
    have hentries : (Block.ofAnalysis a).entries.length = a.findings.length := by
      rw [Block.ofAnalysis_eq, List.length_map]
    rw [List.foldl_cons, ih, add, hentries, Run.findingCount, List.length_cons]
    refine congrArg₂ Totals.mk ?_ ?_
    · exact Nat.add_right_comm _ _ _
    · exact Nat.add_assoc _ _ _

end Console

namespace ReportWriter

/-- The console report has a block for each analysis and ends with the totals. -/
theorem report_console (totals : Console.Totals) (analyses : List Analysis) :
    (console totals).report analyses =
      String.join (analyses.map fun a => (Console.Block.ofAnalysis a).text) ++
        (analyses.foldl (fun t a => t.add (.ofAnalysis a)) totals).text := by
  induction analyses generalizing totals with
  | nil =>
    rw [report, finalText, List.map_nil, String.join_nil, String.empty_append, List.foldl_nil]
  | cons a rest ih =>
    rw [report, add, ih, textOf, List.map_cons, String.join_cons, String.append_assoc,
      List.foldl_cons]

theorem report_sarif (log : Sarif.Log) (analyses : List Analysis) :
    (sarif log).report analyses = (analyses.foldl Sarif.Log.add log).text := by
  induction analyses generalizing log with
  | nil => rfl
  | cons a rest ih => rw [report, add, ih, textOf, String.empty_append, List.foldl_cons]

end ReportWriter

namespace Sarif

theorem results_foldl_addFinding (artifact : Artifact) (findings : List RuleEvaluation) (l : Log) :
    (findings.foldl (Log.addFinding artifact) l).results =
      l.results ++ findings.flatMap (resultsOf artifact) := by
  induction findings generalizing l with
  | nil => simp
  | cons e rest ih =>
    rw [List.foldl_cons, ih, Log.addFinding, List.flatMap_cons, List.append_assoc]

namespace Log

def collected (l : Log) : List Analysis → List (List Result)
  | [] => []
  | a :: rest => (l.add a).results.drop l.results.length :: (l.add a).collected rest

theorem results_add (l : Log) (a : Analysis) :
    (l.add a).results =
      l.results ++ a.findings.flatMap (resultsOf (.ofPath (l.rootFor a.path) a.path)) :=
  results_foldl_addFinding _ _ _

theorem collected_cons (l : Log) (a : Analysis) (rest : List Analysis) :
    l.collected (a :: rest) =
      a.findings.flatMap (resultsOf (.ofPath (l.rootFor a.path) a.path)) ::
        (l.add a).collected rest := by
  rw [collected, results_add, List.drop_left]

theorem results_foldl_add (l : Log) (analyses : List Analysis) :
    (analyses.foldl add l).results = l.results ++ (l.collected analyses).flatten := by
  induction analyses generalizing l with
  | nil => simp [collected]
  | cons a rest ih =>
    rw [List.foldl_cons, ih, collected_cons, results_add, List.flatten_cons, List.append_assoc]

end Log

end Sarif

end TemplateAudit
