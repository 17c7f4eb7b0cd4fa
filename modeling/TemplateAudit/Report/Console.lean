import TemplateAudit.Ascending
import TemplateAudit.Report.Basic

/-! # The console report

One block for each template with an entry for every finding, and a line of totals at the end. An
entry lists the lines of its failed results, each once and in order.
-/

namespace TemplateAudit.Console

/-- A finding, as a block lists it. -/
structure Entry where
  rule : RuleMetadata
  lines : List Nat
  deriving DecidableEq, Repr

def Entry.ofFinding (e : RuleEvaluation) : Entry := ⟨e.rule, ascending e.findingLines⟩

@[simp] theorem mem_lines_ofFinding {e : RuleEvaluation} {line : Nat} :
    line ∈ (Entry.ofFinding e).lines ↔ line ∈ e.findingLines := mem_ascending

theorem pairwise_lines_ofFinding (e : RuleEvaluation) :
    (Entry.ofFinding e).lines.Pairwise (· < ·) :=
  pairwise_ascending Nat.lt_trans
    (fun h hne => Nat.lt_of_le_of_ne (Nat.le_of_not_lt h) (Ne.symm hne)) _

/-- Zero stands for a line that is not known. -/
def lineText (line : Nat) : String := if line = 0 then "unknown" else toString line

def line (text : String) : String := text ++ "\n"

namespace Entry

def recommendationLine (e : Entry) : String :=
  if e.rule.recommendation = "" then ""
  else line s!"\tRecommendation: {e.rule.recommendation}"

def helpLine (e : Entry) : String :=
  match e.rule.helpUri with
  | some uri => line s!"\tMore information: {uri}"
  | none => ""

def text (e : Entry) : String :=
  line "" ++ line s!"\t{e.rule.id}: {e.rule.description}"
    ++ line s!"\tSeverity: {e.rule.severity.name}" ++ e.recommendationLine ++ e.helpLine
    ++ line ("\tLines: " ++ ", ".intercalate (e.lines.map lineText))

end Entry

/-- What the report says of one template. -/
structure Block where
  path : FilePath
  entries : List Entry
  passed : Nat

namespace Block

/-- An evaluation that passes is counted, and a finding gets an entry. -/
def add (b : Block) (e : RuleEvaluation) : Block :=
  if e.passed then { b with passed := b.passed + 1 }
  else if e.isFinding then { b with entries := b.entries ++ [.ofFinding e] }
  else b

def ofAnalysis (a : Analysis) : Block := a.evaluations.foldl add ⟨a.path, [], 0⟩

def text (b : Block) : String :=
  line "" ++ line s!"File: {b.path.text}" ++ String.join (b.entries.map Entry.text)
    ++ line "" ++ line s!"\tRules passed: {b.passed}"

end Block

/-- The numbers of templates and of listed findings. -/
structure Totals where
  files : Nat
  violations : Nat
  deriving DecidableEq, Repr

namespace Totals

def zero : Totals := ⟨0, 0⟩

def add (t : Totals) (b : Block) : Totals := ⟨t.files + 1, t.violations + b.entries.length⟩

def text (t : Totals) : String :=
  line "" ++ line s!"Analyzed {t.files} file(s): {t.violations} violation(s) found"

end Totals

end TemplateAudit.Console
