import TemplateAudit.Json.Agreement
import TemplateAudit.Pattern.Parser

/-! # Operators

An operator judges the value of a scope, which may be absent. Every operator has an outcome for
every value; what does not fit it fails.
-/

namespace TemplateAudit

inductive Comparison where
  | less
  | lessOrEquals
  | greater
  | greaterOrEquals
  deriving DecidableEq, Repr

namespace Comparison

def holds : Comparison → Ordering → Bool
  | .less, o => o == .lt
  | .lessOrEquals, o => o != .gt
  | .greater, o => o == .gt
  | .greaterOrEquals, o => o != .lt

def name : Comparison → String
  | .less => "less"
  | .lessOrEquals => "lessOrEquals"
  | .greater => "greater"
  | .greaterOrEquals => "greaterOrEquals"

end Comparison

inductive Operator where
  | isPresent (expected : Bool)
  | hasValue (expected : Bool)
  | equals (operand : Json)
  | notEquals (operand : Json)
  | oneOf (candidates : List Json)
  | contains (part : Json)
  | regex (source : String) (pattern : Pattern)
  | compare (comparison : Comparison) (operand : Number)

/-- What the operand of an operator has to be. -/
inductive Expectation where
  | boolean
  | array
  | patternString
  | number
  | string
  | expressions
  deriving DecidableEq, Repr

def Expectation.message : Expectation → String
  | boolean => "expected a boolean"
  | array => "expected an array"
  | patternString => "expected a pattern string"
  | number => "expected a number"
  | string => "expected a string"
  | expressions => "expected an array of expressions"

/-- Why an operator cannot be built from its key and operand. -/
inductive OperatorError where
  | unknownKey (key : String)
  | invalidOperand (key : String) (expected : Expectation)
  | invalidRegex (pattern : String)
  deriving DecidableEq, Repr

namespace Operator

/-- The keys that name an operator. -/
def keys : List String := ["exists", "hasValue", "equals", "notEquals", "in", "contains", "regex",
  "less", "lessOrEquals", "greater", "greaterOrEquals"]

def comparison? (key : String) : Option Comparison :=
  if key = "less" then some .less
  else if key = "lessOrEquals" then some .lessOrEquals
  else if key = "greater" then some .greater
  else if key = "greaterOrEquals" then some .greaterOrEquals
  else none

/-- The operator of a key with an operand. -/
def ofJson (key : String) (operand : Json) : Except OperatorError Operator :=
  if key = "exists" ∨ key = "hasValue" then
    match operand with
    | .bool b => .ok (if key = "exists" then .isPresent b else .hasValue b)
    | _ => .error (.invalidOperand key .boolean)
  else if key = "equals" then .ok (.equals operand)
  else if key = "notEquals" then .ok (.notEquals operand)
  else if key = "in" then
    match operand with
    | .array items => .ok (.oneOf items)
    | _ => .error (.invalidOperand key .array)
  else if key = "contains" then .ok (.contains operand)
  else if key = "regex" then
    match operand with
    | .string source =>
      match Pattern.parse? source with
      | some pattern => .ok (.regex source pattern)
      | none => .error (.invalidRegex source)
    | _ => .error (.invalidOperand key .patternString)
  else match comparison? key with
    | some comparison =>
      match operand with
      | .number n => .ok (.compare comparison n)
      | _ => .error (.invalidOperand key .number)
    | none => .error (.unknownKey key)

def name : Operator → String
  | .isPresent _ => "exists"
  | .hasValue _ => "hasValue"
  | .equals _ => "equals"
  | .notEquals _ => "notEquals"
  | .oneOf _ => "in"
  | .contains _ => "contains"
  | .regex _ _ => "regex"
  | .compare comparison _ => comparison.name

def operand : Operator → Json
  | .isPresent b => .bool b
  | .hasValue b => .bool b
  | .equals v => v
  | .notEquals v => v
  | .oneOf items => .array items
  | .contains v => v
  | .regex source _ => .string source
  | .compare _ n => .number n

/-- A value that is neither absent nor null nor the empty text. -/
def isFilled : Option Json → Bool
  | none => false
  | some .null => false
  | some (.string s) => s ≠ ""
  | some _ => true

/-- Whether an operator holds of a value that may be absent. -/
def holds : Operator → Option Json → Bool
  | .isPresent expected, value => value.isSome == expected
  | .hasValue expected, value => isFilled value == expected
  | .equals operand, value => value.any fun v => v.agrees operand
  | .notEquals operand, value => !value.any fun v => v.agrees operand
  | .oneOf candidates, value => value.any fun v => candidates.any fun c => v.agrees c
  | .contains part, value => value.any fun v => v.contains part
  | .regex _ pattern, some (.string s) => pattern.occursIn s
  | .regex _ _, _ => false
  | .compare comparison operand, some (.number n) => (n.compare? operand).any comparison.holds
  | .compare _ _, _ => false

end Operator

end TemplateAudit
