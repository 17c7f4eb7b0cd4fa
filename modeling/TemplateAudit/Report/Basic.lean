import TemplateAudit.Engine
import TemplateAudit.FilePath

/-! # Reports

A report covers the analyses of several templates. It is written to a sink piece by piece, one
piece for each analysis and one at the end.
-/

namespace TemplateAudit

inductive ReportFormat where
  | console
  | sarif
  deriving DecidableEq, Repr

namespace ReportFormat

def name : ReportFormat → String
  | console => "console"
  | sarif => "sarif"

def ofName? (s : String) : Option ReportFormat :=
  if s = "console" then some .console
  else if s = "sarif" then some .sarif
  else none

end ReportFormat

/-- The evaluations of the rules that are applicable to a template. -/
structure Analysis where
  path : FilePath
  evaluations : List RuleEvaluation

namespace Analysis

def findings (a : Analysis) : List RuleEvaluation := a.evaluations.filter RuleEvaluation.isFinding

end Analysis

/-- Where a report is written: a sink takes every text, or refuses all of them for a reason. -/
inductive Sink where
  | accepting
  | refusing (reason : String)

def Sink.take : Sink → String → Except String String
  | accepting, text => .ok text
  | refusing reason, _ => .error reason

/-- Why a report could not be written: text is refused while it is being written, a log while it
is being put into its notation. -/
inductive ReportError where
  | unwritable (reason : String)
  | unserializable (reason : String)
  deriving DecidableEq, Repr

def ReportError.message : ReportError → String
  | unwritable reason => s!"failed to write report: {reason}"
  | unserializable reason => s!"failed to serialize report: {reason}"

end TemplateAudit
