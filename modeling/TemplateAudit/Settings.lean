import TemplateAudit.Config
import TemplateAudit.Files.Rules
import TemplateAudit.Rule.Builtin

/-! # Settings

What an analysis is run with: flags win over the configuration file, and the configuration file
over the defaults, which are the built-in rules and a report on the console.
-/

namespace TemplateAudit

/-- What can be set on the command line. -/
structure Flags where
  rules : Option FilePath
  reportFormat : Option ReportFormat
  outputFile : Option FilePath
  deriving DecidableEq, Repr

structure Settings where
  rules : Option FilePath
  excludeRules : List String
  includeRules : List String
  reportFormat : ReportFormat
  outputFile : Option FilePath
  deriving DecidableEq, Repr

namespace Settings

def merge (c : Config) (f : Flags) : Settings where
  rules := f.rules <|> c.rules
  excludeRules := c.excludeRules
  includeRules := c.includeRules
  reportFormat := (f.reportFormat <|> c.reportFormat).getD .console
  outputFile := f.outputFile <|> c.outputFile

/-- The rules among some that are to be used. -/
def selectRules (s : Settings) (rules : RuleSet) : RuleSet :=
  rules.select s.includeRules s.excludeRules

variable {m : Type → Type} [Monad m] [FileAccess m]

/-- The rules to be used. -/
def loadRules (s : Settings) : m (Except RuleLoadError RuleSet) := do
  match s.rules with
  | none => return (RuleSet.parse Builtin.text).map s.selectRules
  | some path => return (← RuleSet.load path).map s.selectRules

end Settings

end TemplateAudit
