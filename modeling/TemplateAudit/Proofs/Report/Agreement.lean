import Mathlib.Data.List.Forall2
import TemplateAudit.Files.System
import TemplateAudit.Proofs.Document.Walk
import TemplateAudit.Proofs.Report.Text

/-! # Reports agree

The exit code, the console report and the SARIF log decide on their own what a violation is. They
come to the same totals, and for each template the block and the results collected from it point
at the same lines for the same rules, where line zero is one that is not known.
-/

namespace TemplateAudit

namespace Sarif

def Result.pointsAt (r : Result) : String × Option Nat := (r.ruleId, knownLine r.line)

/-- An item of a document is a result for a rule, and its region starts at a line. Without a line it
has no region. -/
structure ShowsResult (item : Json) (ruleId : String) (line : Option Nat) : Prop where
  ruleId : item.at? [.key "ruleId"] = some (.string ruleId)
  region : item.at? [.key "locations", .index 0, .key "physicalLocation", .key "region"] =
    line.map fun n => .object [("startLine", .number (.ofNat n))]

theorem ruleId_toJson (r : Result) : r.toJson.at? [.key "ruleId"] = some (.string r.ruleId) := rfl

theorem region_toJson (r : Result) :
    r.toJson.at? [.key "locations", .index 0, .key "physicalLocation", .key "region"] =
      if 0 < r.line then some (.object [("startLine", .number (.ofNat r.line))]) else none := by
  by_cases h : r.line = 0
  · simp only [Result.toJson, Result.regionMembers, h, if_true, Nat.lt_irrefl, if_false]
    rfl
  · simp only [Result.toJson, Result.regionMembers, h, Nat.pos_of_ne_zero h, if_true, if_false]
    rfl

theorem showsResult_sorted (r : Result) :
    ShowsResult r.toJson.sorted r.pointsAt.1 r.pointsAt.2 := by
  have hplain : Json.Plain (0 + 5) r.toJson := plain_result r
  constructor
  case ruleId =>
    rw [hplain.at?_sorted, ruleId_toJson]
    rfl
  case region =>
    rw [hplain.at?_sorted, region_toJson, Result.pointsAt, knownLine]
    by_cases h : r.line = 0
    · simp [h]
    · simp only [h, Nat.pos_of_ne_zero h, if_true, if_false]
      rfl

theorem results_toJson (l : Log) :
    l.toJson.at? [.key "runs", .index 0, .key "results"] =
      some (.array (l.results.map Result.toJson)) := by
  rw [Log.toJson, Log.runJson, Log.rootMembers]
  cases l.root with
  | none => rfl
  | some root => rfl

/-- Reading the text of a log finds its results. -/
theorem exists_document (l : Log) :
    ∃ document items, Json.parse (l.toJson.printIndented 0 ++ "\n") = .ok document ∧
      document.at? [.key "runs", .index 0, .key "results"] = some (.array items) ∧
      List.Forall₂ (fun item pair => ShowsResult item pair.1 pair.2) items
        (l.results.map Result.pointsAt) := by
  refine ⟨_, l.results.map fun r => r.toJson.sorted, Json.parse_printed (plain_log l), ?_, ?_⟩
  · rw [(plain_log l).at?_sorted, results_toJson, Option.map_some, Json.sorted,
      Json.sortedItems_eq_map, List.map_map]
    rfl
  · rw [List.forall₂_map_left_iff, List.forall₂_map_right_iff, List.forall₂_same]
    exact fun r _ => showsResult_sorted r

end Sarif

/-- The report lists the lines that the results collected from the same analysis point at. -/
theorem mem_listed_iff {a : Analysis} {artifact : Sarif.Artifact} {pair : String × Option Nat} :
    pair ∈ Console.listed a ↔
      pair ∈ (a.findings.flatMap (Sarif.resultsOf artifact)).map Sarif.Result.pointsAt := by
  have hentry : ∀ e : RuleEvaluation,
      pair ∈ (Console.listedLines e).map (fun line => (e.rule.id, line)) ↔
        pair ∈ (Sarif.resultsOf artifact e).map Sarif.Result.pointsAt := by
    intro e
    simp [Console.listedLines, Console.mem_numbers, Sarif.resultsOf, Sarif.Result.pointsAt]
  rw [Console.listed, List.map_flatMap, List.mem_flatMap, List.mem_flatMap]
  exact exists_congr fun e => and_congr_right fun _ => hentry e

theorem forall₂_collected (l : Sarif.Log) (analyses : List Analysis) :
    List.Forall₂ (fun a results => ∀ pair,
      pair ∈ Console.listed a ↔ pair ∈ results.map Sarif.Result.pointsAt)
      analyses (l.collected analyses) := by
  induction analyses generalizing l with
  | nil => exact .nil
  | cons a rest ih =>
    rw [Sarif.Log.collected_cons]
    exact .cons (fun _ => mem_listed_iff) (ih _)

theorem resultsOf_ne_nil {artifact : Sarif.Artifact} {e : RuleEvaluation}
    (h : e.isFinding = true) : Sarif.resultsOf artifact e ≠ [] := by
  intro hnil
  exact (RuleEvaluation.isFinding_iff.mp h).2 (List.map_eq_nil_iff.mp hnil)

theorem flatten_collected_eq_nil_iff (l : Sarif.Log) (analyses : List Analysis) :
    (l.collected analyses).flatten = [] ↔ Run.findingCount analyses = 0 := by
  induction analyses generalizing l with
  | nil => exact iff_of_true rfl rfl
  | cons a rest ih =>
    rw [Sarif.Log.collected_cons, List.flatten_cons, List.append_eq_nil_iff, ih,
      Run.findingCount, Nat.add_eq_zero_iff, List.flatMap_eq_nil_iff]
    refine and_congr_left fun _ => ?_
    constructor
    · intro hnone
      rw [List.length_eq_zero_iff, List.eq_nil_iff_forall_not_mem]
      intro e he
      exact resultsOf_ne_nil (List.mem_filter.mp he).2 (hnone e he)
    · intro hzero e he
      rw [List.length_eq_zero_iff.mp hzero] at he
      cases he

namespace Run

theorem findingCount_eq (analyses : List Analysis) : findingCount analyses =
    ((analyses.flatMap Analysis.evaluations).filter RuleEvaluation.isFinding).length := by
  induction analyses with
  | nil => rfl
  | cons a rest ih =>
    rw [findingCount, ih, List.flatMap_cons, List.filter_append, List.length_append,
      Analysis.findings]

variable {fs : FileSystem}

theorem run_deliver_print (code : Nat) (report : String) :
    (deliver none code report : StateM FileSystem Outcome).run fs = (⟨code, report, ""⟩, fs) := rfl

theorem run_deliver_file {path : FilePath} {report : String} {new : FileSystem}
    (h : fs.writeText path report = .ok new) (code : Nat) :
    (deliver (some path) code report : StateM FileSystem Outcome).run fs =
      (⟨code, "", ""⟩, new) := by
  rw [deliver, StateT.run_bind]
  simp only [FileAccess.writeText, StateT.run, h]
  rfl

theorem run_deliver_refused {path : FilePath} {report : String} {e : FileError}
    (h : fs.writeText path report = .error e) (code : Nat) :
    (deliver (some path) code report : StateM FileSystem Outcome).run fs =
      (.failure s!"could not create {path.text}: {e.message}", fs) := by
  rw [deliver, StateT.run_bind]
  simp only [FileAccess.writeText, StateT.run, h]
  rfl

/-- Delivering ends with the code for findings exactly if there are some and the report could be
written. -/
theorem exitCode_deliver (outputFile : Option FilePath) (findings : Nat) (report : String) :
    ((deliver outputFile (Outcome.codeFor findings) report : StateM FileSystem Outcome).run
        fs).1.exitCode = 20 ↔
      0 < findings ∧
        ∀ path, outputFile = some path → ∃ new, fs.writeText path report = .ok new := by
  have hcode : Outcome.codeFor findings = 20 ↔ 0 < findings := by
    rw [Outcome.codeFor]
    split <;> omega
  cases outputFile with
  | none =>
    rw [run_deliver_print]
    simpa using hcode
  | some path =>
    cases hwrite : fs.writeText path report with
    | ok new =>
      rw [run_deliver_file hwrite]
      simpa [hwrite] using hcode
    | error e =>
      rw [run_deliver_refused hwrite]
      simp [hwrite, Outcome.failure]

theorem run_analyze {s : Settings} {rules : RuleSet} {fs' : FileSystem}
    (h : (s.loadRules : StateM FileSystem _).run fs = (.ok rules, fs')) (root : Option FilePath)
    (templates : List Template) :
    let analyses := templates.map (analysisOf rules)
    (analyze s root templates : StateM FileSystem Outcome).run fs =
      (deliver s.outputFile (Outcome.codeFor (findingCount analyses))
        ((ReportWriter.start root s.reportFormat).report analyses) : StateM FileSystem _).run
          fs' := by
  rw [analyze, StateT.run_bind, h]
  rfl

end Run

open Sarif (Log)

/-- What the reports on some analyses have to do with each other and with the exit code. -/
structure ReportsAgree (root : Option FilePath) (analyses : List Analysis) : Prop where
  /-- The text of every block with its entries, and of the totals. -/
  console_text : (ReportWriter.start root .console).report analyses =
    unlines (Console.reportText analyses)
  /-- The results in the document of the other report are those collected from the templates. -/
  log_text : ∃ document items,
    Json.parse ((ReportWriter.start root .sarif).report analyses) = .ok document ∧
    document.at? [.key "runs", .index 0, .key "results"] = some (.array items) ∧
    List.Forall₂ (fun item pair => Sarif.ShowsResult item pair.1 pair.2) items
      (((Log.start root).collected analyses).flatten.map Sarif.Result.pointsAt)
  log_printed : (ReportWriter.start root .sarif).report analyses =
    (analyses.foldl Log.add (.start root)).toJson.printIndented 0 ++ "\n"
  total : Run.findingCount analyses =
    ((analyses.flatMap Analysis.evaluations).filter RuleEvaluation.isFinding).length
  /-- The code is 20 if there are violations and the report can be written. -/
  exitCode (outputFile : Option FilePath) (report : String) (fs : FileSystem) :
    ((Run.deliver outputFile (Outcome.codeFor (Run.findingCount analyses)) report :
        StateM FileSystem Outcome).run fs).1.exitCode = 20 ↔
      0 < Run.findingCount analyses ∧
        ∀ path, outputFile = some path → ∃ new, fs.writeText path report = .ok new
  /-- A run on templates with these analyses ends by delivering the report with that code. -/
  run (s : Settings) (rules : RuleSet) (templates : List Template) (fs fs' : FileSystem) :
    (s.loadRules : StateM FileSystem _).run fs = (.ok rules, fs') →
    templates.map (Run.analysisOf rules) = analyses →
    (Run.analyze s root templates : StateM FileSystem Outcome).run fs =
      (Run.deliver s.outputFile (Outcome.codeFor (Run.findingCount analyses))
        ((ReportWriter.start root s.reportFormat).report analyses) : StateM FileSystem _).run fs'
  violations_iff : 0 < Run.findingCount analyses ↔
    ((Log.start root).collected analyses).flatten ≠ []
  listed : List.Forall₂ (fun a results => ∀ pair,
      pair ∈ Console.listed a ↔ pair ∈ results.map Sarif.Result.pointsAt)
    analyses ((Log.start root).collected analyses)
  lines_increase : ∀ a ∈ analyses, ∀ e ∈ a.findings, (Console.numbers e).Pairwise (· < ·)
  /-- Rules that pass, rules that are listed and suppressed failures are all evaluations. -/
  accounted : ∀ a ∈ analyses, (a.passing ++ (a.findings ++ a.suppressed)).Perm a.evaluations

/-- The exit code, the console report and the SARIF log agree on every sequence of analyses. -/
theorem reports_agree (root : Option FilePath) (analyses : List Analysis) :
    ReportsAgree root analyses where
  console_text := report_start root analyses .console
  log_text := by
    rw [report_start, reportText]
    obtain ⟨document, items, hparse, hresults, hitems⟩ :=
      Sarif.exists_document (analyses.foldl Log.add (.start root))
    rw [Log.results_foldl_add] at hitems
    exact ⟨document, items, hparse, hresults, hitems⟩
  log_printed := report_start root analyses .sarif
  total := Run.findingCount_eq analyses
  exitCode outputFile report _ := Run.exitCode_deliver outputFile _ report
  run s rules templates fs fs' h := by
    rintro rfl
    exact Run.run_analyze h root templates
  violations_iff := by
    rw [ne_eq, flatten_collected_eq_nil_iff, Nat.pos_iff_ne_zero]
  listed := forall₂_collected _ analyses
  lines_increase _ _ e _ := Console.pairwise_numbers e
  accounted a _ := a.perm_evaluations

end TemplateAudit
