/-! # Evaluations

The tree of outcomes of a rule. A node has the results of an operator, one for each scope, or
combines other evaluations, or is not applicable because there was nothing to look at. Findings
are the failed results that are reached through failed evaluations alone.
-/

namespace TemplateAudit

/-- The outcome at one scope, and the line of that scope, or zero. -/
structure RuleResult where
  passed : Bool
  line : Nat
  deriving DecidableEq, Repr

inductive Evaluation where
  | notApplicable
  | leaf (results : List RuleResult)
  | combined (passed : Bool) (evaluations : List Evaluation)
  deriving Repr

namespace Evaluation

/-- Nothing was found to evaluate. -/
def noScopesFound : Evaluation → Bool
  | .notApplicable => true
  | _ => false

/-- A leaf passes if all its results do; what is not applicable passes. -/
def passed : Evaluation → Bool
  | .notApplicable => true
  | .leaf results => results.all (·.passed)
  | .combined passed _ => passed

@[simp] theorem passed_notApplicable : notApplicable.passed = true := rfl

@[simp] theorem passed_leaf (results : List RuleResult) :
    (leaf results).passed = results.all (·.passed) := rfl

@[simp] theorem passed_combined (passed : Bool) (evaluations : List Evaluation) :
    (combined passed evaluations).passed = passed := rfl

theorem noScopesFound_iff {e : Evaluation} : e.noScopesFound = true ↔ e = notApplicable := by
  cases e <;> simp [noScopesFound]

def results : Evaluation → List RuleResult
  | .leaf results => results
  | _ => []

def evaluations : Evaluation → List Evaluation
  | .combined _ evaluations => evaluations
  | _ => []

mutual

/-- Whether some node of the tree has a result. -/
def hasResults : Evaluation → Bool
  | .notApplicable => false
  | .leaf results => !results.isEmpty
  | .combined _ evaluations => anyHasResults evaluations

def anyHasResults : List Evaluation → Bool
  | [] => false
  | e :: rest => hasResults e || anyHasResults rest

end

mutual

/-- The failed results reached through failed evaluations, in tree order. -/
def failingResults : Evaluation → List RuleResult
  | .notApplicable => []
  | .leaf results => results.filter fun r => !r.passed
  | .combined _ evaluations => failingAmong evaluations

def failingAmong : List Evaluation → List RuleResult
  | [] => []
  | e :: rest => (if e.passed then [] else failingResults e) ++ failingAmong rest

end

theorem anyHasResults_eq_any (es : List Evaluation) : anyHasResults es = es.any hasResults := by
  induction es with
  | nil => rfl
  | cons e rest ih => rw [anyHasResults, ih, List.any_cons]

theorem failingAmong_eq_flatMap (es : List Evaluation) :
    failingAmong es = (es.filter fun e => !e.passed).flatMap failingResults := by
  induction es with
  | nil => rfl
  | cons e rest ih => cases h : e.passed <;> simp [failingAmong, ih, h]

end Evaluation

end TemplateAudit
