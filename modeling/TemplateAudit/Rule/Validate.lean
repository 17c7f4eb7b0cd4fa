import TemplateAudit.Json.Printer
import TemplateAudit.Rule.RuleSet
import TemplateAudit.Rule.Schema

/-! # Validating rules

A rules text is checked against the schema and then read; a text that is no document has no other
problem. The schema leaves the syntax of paths and repeated identifiers to the reading.
-/

namespace TemplateAudit

/-- What is wrong with a rules text. -/
inductive RuleProblem where
  | invalidJson (error : Json.Error)
  | schemaMismatch (document : Json)
  | unloadable (error : RuleLoadError)

def RuleProblem.message : RuleProblem → String
  | invalidJson error => s!"invalid JSON: {error.message}"
  | schemaMismatch document =>
    s!"{document.print} is not valid under any of the schemas listed in the 'oneOf' keyword"
  | unloadable error => error.message

namespace RuleSet

/-- The problems of a rules text, that with the schema first. -/
def problems (text : String) : List RuleProblem :=
  match Json.parse text with
  | .error e => [.invalidJson e]
  | .ok document =>
    (if Schema.isRulesDocument document then [] else [.schemaMismatch document]) ++
      match parse text with
      | .error e => [.unloadable e]
      | .ok _ => []

end RuleSet

end TemplateAudit
