import TemplateAudit.Expression.Basic
import TemplateAudit.Evaluation
import TemplateAudit.Scope

/-! # Evaluating expressions

Where narrowing leaves no scope, an expression is not applicable. An operator has a result for
every scope. A combination is judged at every scope; expressions that are not applicable there do
not count, and several scopes pass together if each of them does.
-/

namespace TemplateAudit

/-- An evaluation was asked for without a document. -/
inductive EvalError where
  | missingScope
  deriving DecidableEq, Repr

def EvalError.message : EvalError → String
  | missingScope => "evaluation target is missing"

namespace Evaluation

/-- One scope keeps its evaluation; several are combined, and pass if each of them does. -/
def overScopes : List Evaluation → Evaluation
  | [e] => e
  | es => .combined (es.all passed) es

/-- Combines the applicable ones among some evaluations. -/
def combine (quantifier : Quantifier) (es : List Evaluation) : Evaluation :=
  let applicable := es.filter fun e => !e.noScopesFound
  .combined (quantifier.combine (applicable.map passed)) applicable

end Evaluation

namespace Expression

def narrowByType (r : Resolver) (resourceType : Option String) (s : Scope) : List Scope :=
  match resourceType with
  | some t => r.resourcesOfType s t
  | none => [s]

def narrowByPath (r : Resolver) (path : Option Path) (scopes : List Scope) : List Scope :=
  match path with
  | some p => scopes.flatMap fun s => r.resolve s p
  | none => scopes

mutual

/-- The evaluation at a scope. -/
def evaluate (r : Resolver) : Expression → Scope → Evaluation
  | .narrowed resourceType path condition body, s =>
    let scopes := narrowByPath r path (narrowByType r resourceType s)
    judge r body (scopes.filter (admits r condition))

/-- Whether a condition is applicable at a scope and passes there. -/
def admits (r : Resolver) : Option Expression → Scope → Bool
  | none, _ => true
  | some condition, s =>
    let e := evaluate r condition s
    !e.noScopesFound && e.passed

/-- The evaluation of a body over the scopes that are left. -/
def judge (r : Resolver) : Body → List Scope → Evaluation
  | _, [] => .notApplicable
  | .operator op, scopes => .leaf (scopes.map fun s => ⟨op.holds s.value, r.lineOf s⟩)
  | .group quantifier children, scopes =>
    .overScopes (scopes.map fun s => .combine quantifier (evaluateAll r children s))

def evaluateAll (r : Resolver) : List Expression → Scope → List Evaluation
  | [], _ => []
  | child :: rest, s => evaluate r child s :: evaluateAll r rest s

end

theorem evaluateAll_eq_map (r : Resolver) (children : List Expression) (s : Scope) :
    evaluateAll r children s = children.map fun child => evaluate r child s := by
  induction children with
  | nil => rfl
  | cons child rest ih => rw [evaluateAll, ih, List.map_cons]

/-- The evaluation at a scope that has to be given. -/
def evaluate? (r : Resolver) (e : Expression) (scope : Option Scope) :
    Except EvalError Evaluation :=
  match scope with
  | some s => .ok (e.evaluate r s)
  | none => .error .missingScope

end Expression

end TemplateAudit
