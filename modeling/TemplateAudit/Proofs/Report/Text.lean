import Mathlib.Data.Finset.Sort
import TemplateAudit.Proofs.Document.Printing
import TemplateAudit.Proofs.Report.Writers

/-! # The texts of reports

The console report is given here line by line from the evaluations alone: a block for each template
with its path, its findings and the number of its rules that pass, and the totals of all templates.
The other report is the document of the log. The writers come to exactly these texts.
-/

namespace TemplateAudit

/-- Lines of a text, each of which ends with a line break. -/
def unlines (lines : List String) : String := String.join (lines.map (· ++ "\n"))

theorem unlines_nil : unlines [] = "" := rfl

theorem unlines_cons (first : String) (rest : List String) :
    unlines (first :: rest) = first ++ "\n" ++ unlines rest := by
  rw [unlines, List.map_cons, String.join_cons, unlines]

theorem unlines_append (lines more : List String) :
    unlines (lines ++ more) = unlines lines ++ unlines more := by
  rw [unlines, List.map_append, String.join_append, unlines, unlines]

theorem unlines_flatMap {α : Type} (f : α → List String) (items : List α) :
    unlines (items.flatMap f) = String.join (items.map fun item => unlines (f item)) := by
  induction items with
  | nil => rfl
  | cons item rest ih =>
    rw [List.flatMap_cons, unlines_append, ih, List.map_cons, String.join_cons]

def knownLine (line : Nat) : Option Nat := if line = 0 then none else some line

namespace Console

def numbers (e : RuleEvaluation) : List Nat :=
  (e.evaluation.failingResults.map RuleResult.line).toFinset.sort

def listedLines (e : RuleEvaluation) : List (Option Nat) := (numbers e).map knownLine

/-- The identifiers of the rules that the report lists for a template, with their lines. -/
def listed (a : Analysis) : List (String × Option Nat) :=
  a.findings.flatMap fun e => (listedLines e).map fun line => (e.rule.id, line)

def findingText (e : RuleEvaluation) : List String :=
  ["", s!"\t{e.rule.id}: {e.rule.description}", s!"\tSeverity: {e.rule.severity.name}"]
    ++ (if e.rule.recommendation = "" then []
      else [s!"\tRecommendation: {e.rule.recommendation}"])
    ++ e.rule.helpUri.toList.map (fun uri => s!"\tMore information: {uri}")
    ++ ["\tLines: " ++
      ", ".intercalate ((listedLines e).map fun line => line.elim "unknown" toString)]

def contentText (a : Analysis) : List String :=
  a.findings.flatMap findingText ++ ["", s!"\tRules passed: {a.passing.length}"]

def blockText (path : FilePath) (a : Analysis) : List String :=
  "" :: s!"File: {path.text}" :: contentText a

def totalsText (files violations : Nat) : List String :=
  ["", s!"Analyzed {files} file(s): {violations} violation(s) found"]

variable {e : RuleEvaluation}

theorem mem_numbers {line : Nat} :
    line ∈ numbers e ↔ ∃ r ∈ e.evaluation.failingResults, r.line = line := by
  rw [numbers, Finset.mem_sort, List.mem_toFinset, List.mem_map]

theorem pairwise_numbers (e : RuleEvaluation) : (numbers e).Pairwise (· < ·) :=
  (Finset.sortedLT_sort _).pairwise

theorem lines_ofFinding (e : RuleEvaluation) : (Entry.ofFinding e).lines = numbers e := by
  refine (pairwise_lines_ofFinding e).eq_of_mem_iff (pairwise_numbers e) fun line => ?_
  rw [mem_lines_ofFinding, mem_numbers, RuleEvaluation.findingLines, List.mem_map]

theorem lineText_eq (line : Nat) : lineText line = (knownLine line).elim "unknown" toString := by
  rw [lineText, knownLine]
  split
  · rfl
  · rfl

theorem unlines_recommendation : (Entry.ofFinding e).recommendationLine =
    unlines (if e.rule.recommendation = "" then []
      else [s!"\tRecommendation: {e.rule.recommendation}"]) := by
  rw [Entry.recommendationLine, Entry.ofFinding]
  split
  · rfl
  · rw [unlines_cons, unlines_nil, String.append_empty, line]

theorem unlines_help : (Entry.ofFinding e).helpLine =
    unlines (e.rule.helpUri.toList.map fun uri => s!"\tMore information: {uri}") := by
  rw [Entry.helpLine, Entry.ofFinding]
  cases e.rule.helpUri with
  | none => rfl
  | some uri =>
    rw [Option.toList_some, List.map_singleton, unlines_cons, unlines_nil, String.append_empty]
    rfl

theorem text_ofFinding (e : RuleEvaluation) :
    (Entry.ofFinding e).text = unlines (findingText e) := by
  have hlines : (Entry.ofFinding e).lines.map lineText =
      (listedLines e).map fun line => line.elim "unknown" toString := by
    rw [lines_ofFinding, listedLines, List.map_map]
    exact List.map_congr_left fun line _ => lineText_eq line
  rw [Entry.text, hlines, unlines_recommendation, unlines_help, findingText]
  simp only [unlines_append, unlines_cons, unlines_nil, line, String.append_empty]
  rfl

theorem text_ofAnalysis (a : Analysis) :
    (Block.ofAnalysis a).text = unlines (blockText a.path a) := by
  rw [Block.ofAnalysis_eq, Block.text, blockText, contentText]
  simp only [unlines_append, unlines_cons, unlines_nil, unlines_flatMap, line, String.append_empty,
    List.map_map, Function.comp_def, text_ofFinding, String.append_assoc]

theorem text_totals (files violations : Nat) :
    Totals.text ⟨files, violations⟩ = unlines (totalsText files violations) := by
  rw [Totals.text, totalsText]
  simp only [unlines_cons, unlines_nil, line, String.append_empty]

/-- The lines of the console report. -/
def reportText (analyses : List Analysis) : List String :=
  analyses.flatMap (fun a => blockText a.path a)
    ++ totalsText analyses.length (Run.findingCount analyses)

end Console

namespace Sarif

open Json (Plain)

variable {levels : Nat}

theorem plain_artifact (a : Artifact) : Plain (levels + 1) a.toJson := by
  rw [Artifact.toJson]
  cases a.belowRoot <;> simp

theorem plain_result (r : Result) : Plain (levels + 5) r.toJson := by
  rw [Result.toJson, Result.regionMembers]
  by_cases h : r.line = 0 <;> simp [h, plain_artifact]

theorem plain_rule (rule : RuleMetadata) : Plain (levels + 3) (ruleJson rule) := by
  rw [ruleJson]
  cases rule.name <;> cases rule.helpUri <;> simp [textJson]

theorem plain_log (l : Log) : Plain Json.maxLevels l.toJson := by
  change Plain (118 + 9) l.toJson
  rw [Log.toJson, Log.runJson, Log.rootMembers, Log.driverJson]
  cases l.root <;> simp [plain_result, plain_rule]

end Sarif

/-- The text of a report on some analyses. -/
def reportText (root : Option FilePath) (analyses : List Analysis) : ReportFormat → String
  | .console => unlines (Console.reportText analyses)
  | .sarif => (analyses.foldl Sarif.Log.add (.start root)).toJson.printIndented 0 ++ "\n"

/-- The writers write the texts of the reports. -/
theorem report_start (root : Option FilePath) (analyses : List Analysis) (format : ReportFormat) :
    (ReportWriter.start root format).report analyses = reportText root analyses format := by
  cases format with
  | console =>
    rw [ReportWriter.start, ReportWriter.report_console, Console.Totals.foldl_add, reportText,
      Console.reportText, unlines_append, unlines_flatMap, Console.Totals.zero, Console.text_totals,
      Nat.zero_add, Nat.zero_add]
    simp only [Console.text_ofAnalysis]
  | sarif => rw [ReportWriter.start, ReportWriter.report_sarif, reportText, Sarif.Log.text]

end TemplateAudit
