import TemplateAudit.Report.Console
import TemplateAudit.Report.Sarif

/-! # Writing reports

A writer is given one analysis after the other. The console report is written as they come, the
SARIF log at the end.
-/

namespace TemplateAudit

inductive ReportWriter where
  | console (totals : Console.Totals)
  | sarif (log : Sarif.Log)

namespace ReportWriter

/-- A writer before the first analysis; only the SARIF log makes use of a root directory. -/
def start (root : Option FilePath) : ReportFormat → ReportWriter
  | .console => .console .zero
  | .sarif => .sarif (.start root)

/-- The writer after one more analysis. -/
def add : ReportWriter → Analysis → ReportWriter
  | .console totals, a => .console (totals.add (.ofAnalysis a))
  | .sarif log, a => .sarif (log.add a)

/-- The text that is written when an analysis is added. -/
def textOf : ReportWriter → Analysis → String
  | .console _, a => (Console.Block.ofAnalysis a).text
  | .sarif _, _ => ""

/-- The text that is written at the end. -/
def finalText : ReportWriter → String
  | .console totals => totals.text
  | .sarif log => log.text

/-- Adds an analysis and writes what there is to write. -/
def write (w : ReportWriter) (sink : Sink) (a : Analysis) :
    ReportWriter × Except ReportError String :=
  (w.add a, match w with
    | .console _ => (sink.take (w.textOf a)).mapError .unwritable
    | .sarif _ => .ok "")

/-- Writes the end of the report. -/
def finish (w : ReportWriter) (sink : Sink) : Except ReportError String :=
  match w with
  | .console _ => (sink.take w.finalText).mapError .unwritable
  | .sarif _ => (sink.take w.finalText).mapError .unserializable

/-- The whole report on some analyses. -/
def report (w : ReportWriter) : List Analysis → String
  | [] => w.finalText
  | a :: rest => w.textOf a ++ (w.add a).report rest

end ReportWriter

end TemplateAudit
