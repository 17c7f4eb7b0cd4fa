import TemplateAudit.Json.Printer
import TemplateAudit.Report.Basic

/-! # The SARIF log

All findings go into a single run, which describes every rule that has one. Templates below a root
directory are named relative to it; without a given root, the directory of the first template
that has one becomes the root.
-/

namespace TemplateAudit.Sarif

/-- A text that ends in a period, unless it is empty. -/
def sentence (s : String) : String :=
  if s = "" ∨ s.toList.getLast? = some '.' then s else s ++ "."

/-- Names a template; `belowRoot` says that the name starts from the root directory. -/
structure Artifact where
  uri : String
  belowRoot : Bool
  deriving DecidableEq, Repr

def Artifact.ofPath (root : Option FilePath) (path : FilePath) : Artifact :=
  match root.bind fun r => r.relativeTo path with
  | some rest => ⟨rest.toUri, true⟩
  | none => ⟨path.toUri, false⟩

/-- A failed result of a rule; the line is zero where it is not known. -/
structure Result where
  ruleId : String
  artifact : Artifact
  line : Nat
  deriving DecidableEq, Repr

def resultsOf (artifact : Artifact) (e : RuleEvaluation) : List Result :=
  e.evaluation.failingResults.map fun r => ⟨e.rule.id, artifact, r.line⟩

/-- Adds the description of a rule, by increasing identifier; the first of an identifier stays. -/
def describe (rule : RuleMetadata) : List RuleMetadata → List RuleMetadata
  | [] => [rule]
  | other :: rest =>
    if rule.id < other.id then rule :: other :: rest
    else if rule.id = other.id then other :: rest
    else other :: describe rule rest

theorem mem_describe {rule other : RuleMetadata} {rules : List RuleMetadata}
    (h : other ∈ describe rule rules) : other = rule ∨ other ∈ rules := by
  induction rules with
  | nil => exact .inl (by simpa [describe] using h)
  | cons first rest ih =>
    by_cases hlt : rule.id < first.id
    · simpa [describe, hlt] using h
    · by_cases heq : rule.id = first.id
      · exact .inr (by simpa [describe, hlt, heq] using h)
      · simp only [describe, hlt, heq, if_false, List.mem_cons] at h ⊢
        exact h.elim (.inr ∘ .inl) fun h => (ih h).imp_right .inr

/-- Every identifier is described once, and the identifiers increase. -/
theorem pairwise_describe (rule : RuleMetadata) {rules : List RuleMetadata}
    (h : rules.Pairwise fun a b => a.id < b.id) :
    (describe rule rules).Pairwise fun a b => a.id < b.id := by
  induction rules with
  | nil => simp [describe]
  | cons first rest ih =>
    obtain ⟨hfirst, hrest⟩ := List.pairwise_cons.mp h
    by_cases hlt : rule.id < first.id
    · simp only [describe, hlt, if_true, List.pairwise_cons, List.mem_cons]
      exact ⟨fun a ha => ha.elim (· ▸ hlt) fun ha => String.lt_trans hlt (hfirst a ha),
        hfirst, hrest⟩
    · by_cases heq : rule.id = first.id
      · simpa [describe, hlt, heq] using h
      · simp only [describe, hlt, heq, if_false, List.pairwise_cons]
        refine ⟨fun a ha => ?_, ih hrest⟩
        rcases mem_describe ha with rfl | ha
        · exact Std.lt_of_le_of_ne (Std.not_lt.mp hlt) (Ne.symm heq)
        · exact hfirst a ha

/-- What has been collected. -/
structure Log where
  root : Option FilePath
  rules : List RuleMetadata
  results : List Result

namespace Log

/-- Nothing has been collected, and the root may be given. -/
def start (root : Option FilePath) : Log := ⟨root, [], []⟩

/-- The directory of a template becomes the root if there is none yet. -/
def rootFor (l : Log) (path : FilePath) : Option FilePath :=
  match l.root with
  | some root => some root
  | none => path.parent?.filter fun directory => directory.text ≠ ""

def addFinding (artifact : Artifact) (l : Log) (e : RuleEvaluation) : Log :=
  { l with rules := describe e.rule l.rules, results := l.results ++ resultsOf artifact e }

def add (l : Log) (a : Analysis) : Log :=
  let root := l.rootFor a.path
  a.findings.foldl (addFinding (.ofPath root a.path)) { l with root }

end Log

def rootId : String := "ROOTPATH"

def textJson (s : String) : Json := .object [("text", .string s)]

def ruleJson (rule : RuleMetadata) : Json :=
  let named (key : String) (value : Option String) : List (String × Json) :=
    value.toList.map fun s => (key, .string s)
  .object ([("id", .string rule.id)] ++ named "name" rule.name
    ++ [("fullDescription", textJson (sentence rule.description)),
      ("help", textJson (sentence rule.recommendation))]
    ++ named "helpUri" rule.helpUri
    ++ [("messageStrings", .object [("default", textJson (sentence rule.description))]),
      ("defaultConfiguration", .object [("level", .string "error")])])

namespace Artifact

def toJson (a : Artifact) : Json :=
  .object (("uri", .string a.uri) ::
    if a.belowRoot then [("uriBaseId", .string rootId)] else [])

end Artifact

namespace Result

/-- A region is given only if the line is known. -/
def regionMembers (r : Result) : List (String × Json) :=
  if r.line = 0 then []
  else [("region", .object [("startLine", .number (.ofNat r.line))])]

def toJson (r : Result) : Json :=
  .object [("ruleId", .string r.ruleId), ("level", .string "error"),
    ("message", .object [("id", .string "default")]),
    ("locations", .array [.object [("physicalLocation",
      .object (("artifactLocation", r.artifact.toJson) :: r.regionMembers))]])]

end Result

namespace Log

def rootMembers (l : Log) : List (String × Json) :=
  l.root.toList.map fun root => ("originalUriBaseIds",
    .object [(rootId, .object [("uri", .string root.toDirectoryUri)])])

def driverJson (l : Log) : Json :=
  .object [("name", .string "tarmac"),
    ("fullName", .string "tarmac deployment template analyzer"),
    ("version", .string "0.1.0"),
    ("informationUri", .string "https://github.com/tarmac-rs/tarmac"),
    ("rules", .array (l.rules.map ruleJson))]

def runJson (l : Log) : Json :=
  .object ([("tool", .object [("driver", l.driverJson)])] ++ l.rootMembers
    ++ [("results", .array (l.results.map Result.toJson))])

/-- The log as a document, whose members stand in the order of the format. -/
def toJson (l : Log) : Json :=
  .object [("version", .string "2.1.0"),
    ("$schema", .string "https://json.schemastore.org/sarif-2.1.0.json"),
    ("runs", .array [l.runJson])]

def text (l : Log) : String := l.toJson.printIndented 0 ++ "\n"

end Log

end TemplateAudit.Sarif
