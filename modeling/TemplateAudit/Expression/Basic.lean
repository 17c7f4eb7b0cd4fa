import TemplateAudit.Operator
import TemplateAudit.Path
import TemplateAudit.Text.Quoted

/-! # Expressions

An expression narrows the scope it is given by a resource type, then by a path, then by a
condition, and judges every scope that is left by an operator or by other expressions.
-/

namespace TemplateAudit

/-- How the outcomes of several expressions are combined. -/
inductive Quantifier where
  | allOf
  | anyOf
  deriving DecidableEq, Repr

namespace Quantifier

def key : Quantifier → String
  | .allOf => "allOf"
  | .anyOf => "anyOf"

/-- Whether the combination passes. -/
def combine : Quantifier → List Bool → Bool
  | .allOf, outcomes => outcomes.all id
  | .anyOf, outcomes => outcomes.any id

end Quantifier

mutual

inductive Expression where
  | narrowed (resourceType : Option String) (path : Option Path)
      (condition : Option Expression) (body : Body)

/-- What an expression asks of each scope that is left. -/
inductive Body where
  | operator (op : Operator)
  | group (quantifier : Quantifier) (children : List Expression)

end

/-- Why a value is no expression. -/
inductive ExpressionError where
  | missingExpressions (quantifier : Quantifier)
  | notAnObject
  | missingOperator
  | ambiguous (keys : List String)
  | unknownProperty (key : String)
  | invalidOperand (operator : String) (expected : Expectation)
  | invalidPath (path : String) (cause : PathError)
  | invalidRegex (pattern : String)
  deriving DecidableEq, Repr

namespace ExpressionError

def ofOperatorError : OperatorError → ExpressionError
  | .unknownKey key => .unknownProperty key
  | .invalidOperand key expected => .invalidOperand key expected
  | .invalidRegex pattern => .invalidRegex pattern

def message : ExpressionError → String
  | missingExpressions quantifier => s!"'{quantifier.key}' requires a list of expressions"
  | notAnObject => "expression must be a JSON object"
  | missingOperator => "expression has no operator, 'allOf' or 'anyOf'"
  | ambiguous keys =>
    s!"expression mixes {Text.quotedList keys}; use exactly one operator, 'allOf' or 'anyOf'"
  | unknownProperty key => s!"unknown expression property '{key}'"
  | invalidOperand operator expected =>
    s!"invalid operand for '{operator}': {expected.message}"
  | invalidPath path _ => s!"invalid path '{path}'"
  | invalidRegex pattern => s!"invalid regex '{pattern}'"

end ExpressionError

end TemplateAudit
