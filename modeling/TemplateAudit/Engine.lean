import TemplateAudit.Expression.Evaluate
import TemplateAudit.Resolver
import TemplateAudit.Rule.RuleSet

/-! # Evaluating rules

The rules of a set are evaluated one by one against the whole document. Those that are not
applicable leave no evaluation behind.
-/

namespace TemplateAudit

/-- The evaluation of a rule. -/
structure RuleEvaluation where
  rule : RuleMetadata
  evaluation : Evaluation
  deriving Repr

namespace RuleEvaluation

def passed (e : RuleEvaluation) : Bool := e.evaluation.passed

/-- A failed evaluation with some result to point at. -/
def isFinding (e : RuleEvaluation) : Bool := !e.passed && !e.evaluation.failingResults.isEmpty

def findingLines (e : RuleEvaluation) : List Nat := e.evaluation.failingResults.map (·.line)

end RuleEvaluation

namespace RuleSet

def evaluateRule (r : Resolver) (s : Scope) (rule : Rule) : Option RuleEvaluation :=
  let e := rule.expression.evaluate r s
  if e.noScopesFound then none else some ⟨rule.metadata, e⟩

/-- The evaluations of the applicable rules at a scope. -/
def evaluateAt (rules : RuleSet) (r : Resolver) (s : Scope) : List RuleEvaluation :=
  rules.rules.filterMap (evaluateRule r s)

/-- The evaluations of the applicable rules for a template. -/
def evaluate (rules : RuleSet) (t : Template) : List RuleEvaluation :=
  rules.evaluateAt (Template.resolver t.lines) (.root t.document)

def evaluate? (rules : RuleSet) (template : Option Template) :
    Except EvalError (List RuleEvaluation) :=
  match template with
  | some t => .ok (rules.evaluate t)
  | none => .error .missingScope

end RuleSet

end TemplateAudit
