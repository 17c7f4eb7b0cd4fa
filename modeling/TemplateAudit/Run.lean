import TemplateAudit.Ascending
import TemplateAudit.CommandLine
import TemplateAudit.Report.Writer
import TemplateAudit.Rule.Validate

/-! # Runs

A run carries out a command and ends with an exit code and what it prints. It writes at most one
file, the output file of an analysis, and only after nothing else can fail.
-/

namespace TemplateAudit

/-- How a run ends. -/
structure Outcome where
  exitCode : Nat
  stdout : String
  stderr : String
  deriving DecidableEq, Repr

namespace Outcome

def success (text : String) : Outcome := ⟨0, text, ""⟩

def failure (message : String) : Outcome := ⟨1, "", s!"error: {message}\n"⟩

/-- The exit code of an analysis: 20 if there are findings. -/
def codeFor (findings : Nat) : Nat := if findings = 0 then 0 else 20

def usage : String :=
  "Usage: tarmac [OPTIONS] <COMMAND>\n\nCommands:\n"
    ++ "  analyze-template   Analyze a single template\n"
    ++ "  analyze-directory  Analyze every deployment template under a directory\n"
    ++ "  validate-rules     Check a rules file against the rule schema and the rule parser\n"

def misuse : Outcome := ⟨2, "", "error: the command line is not understood\n\n" ++ usage⟩

end Outcome

namespace Run

variable {m : Type → Type} [Monad m] [FileAccess m]

def findingCount : List Analysis → Nat
  | [] => 0
  | a :: rest => a.findings.length + findingCount rest

/-- Prints a report or writes it to the output file. -/
def deliver (outputFile : Option FilePath) (code : Nat) (report : String) : m Outcome := do
  match outputFile with
  | none => return ⟨code, report, ""⟩
  | some path =>
    match ← FileAccess.writeText path report with
    | .ok () => return ⟨code, "", ""⟩
    | .error e => return .failure s!"could not create {path.text}: {e.message}"

/-- The analysis of a template by some rules. -/
def analysisOf (rules : RuleSet) (t : Template) : Analysis :=
  ⟨⟨Template.displayPath t.path⟩, rules.evaluate t⟩

/-- Analyzes some templates by the rules that the settings choose. -/
def analyze (s : Settings) (root : Option FilePath) (templates : List Template) : m Outcome := do
  match ← s.loadRules with
  | .error e => return .failure e.message
  | .ok rules =>
    let analyses := templates.map (analysisOf rules)
    let report := (ReportWriter.start root s.reportFormat).report analyses
    deliver s.outputFile (Outcome.codeFor (findingCount analyses)) report

def analyzeTemplate (path : FilePath) (s : Settings) : m Outcome := do
  match Template.ofFile path (← FileAccess.readText path) with
  | .error e => return .failure e.message
  | .ok t => analyze s none [t]

/-- A template may have the extension `json` in any case. -/
def isTemplateFile (place : List String) : Bool :=
  match place.getLast? >>= FilePath.extension? with
  | some extension => Text.sameIgnoringCase extension "json"
  | none => false

/-- The template files among the files below a directory, by their names. -/
def templateFiles (directory : FilePath) (places : List (List String)) : List FilePath :=
  (ascending (places.filter isTemplateFile)).map fun place =>
    place.foldl (fun path name => path.append ⟨name⟩) directory

/-- The deployment template in a file, if there is one. -/
def deploymentTemplate? (path : FilePath) (content : Except FileError String) : Option Template :=
  (Template.ofFile path content).toOption.filter Template.isDeploymentTemplate

def readDeploymentTemplate (path : FilePath) : m (Option Template) := do
  return deploymentTemplate? path (← FileAccess.readText path)

def analyzeDirectory (directory : FilePath) (s : Settings) : m Outcome := do
  if (← FileAccess.kind? directory) = some .directory then
    match ← FileAccess.filePlaces directory with
    | .error e => return .failure s!"failed to read {directory.text}: {e.message}"
    | .ok places =>
      let templates ← (templateFiles directory places).mapM readDeploymentTemplate
      analyze s (some directory) (templates.filterMap id)
  else return .failure s!"directory not found: {directory.text}"

/-- Lists problems below the name of the file. -/
def problemText (file : FilePath) (problems : List RuleProblem) : String :=
  s!"invalid rules: {file.text}\n"
    ++ String.join (problems.map fun p => s!"  - {p.message}\n")

def validateRules (file : FilePath) : m Outcome := do
  match ← FileAccess.readText file with
  | .error _ => return .failure s!"rules file not found: {file.text}"
  | .ok text =>
    match RuleSet.problems text with
    | [] => return .success "valid\n"
    | problems => return ⟨1, "", problemText file problems⟩

/-- Goes on with the settings of a configuration file and the flags. -/
def withSettings (config : Option FilePath) (flags : Flags) (next : Settings → m Outcome) :
    m Outcome := do
  match ← Config.discover config with
  | .error e => return .failure e.message
  | .ok c => next (.merge c flags)

def execute : Command → m Outcome
  | .analyzeTemplate path flags config => withSettings config flags (analyzeTemplate path)
  | .analyzeDirectory directory flags config =>
    withSettings config flags (analyzeDirectory directory)
  | .validateRules file => validateRules file
  | .help => return .success Outcome.usage
  | .version => return .success "tarmac 0.1.0\n"

/-- Runs the program with some arguments. -/
def program (args : List String) : m Outcome :=
  match Command.parse? args with
  | some command => execute command
  | none => return .misuse

end Run

end TemplateAudit
