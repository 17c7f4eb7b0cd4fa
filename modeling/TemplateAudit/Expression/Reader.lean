import TemplateAudit.Expression.Basic

/-! # Reading expressions

An expression is an object with exactly one operator or combination besides the members that
narrow the scope. The narrowing members are read first, then unknown members are refused, then the
operator is read.
-/

namespace TemplateAudit.Expression

/-- The members that narrow the scope. -/
def narrowingKeys : List String := ["resourceType", "path", "where"]

def isKindKey (key : String) : Bool :=
  key = "allOf" || key = "anyOf" || Operator.keys.contains key

/-- The keys that say what an expression asks, unless some key is unknown. -/
def kindKeys : List (String × Json) → Except ExpressionError (List String)
  | [] => .ok []
  | (key, _) :: rest =>
    if narrowingKeys.contains key then kindKeys rest
    else if isKindKey key then do return key :: (← kindKeys rest)
    else .error (.unknownProperty key)

/-- A text that may be missing or null. -/
def optionalText (key : String) (members : List (String × Json)) :
    Except ExpressionError (Option String) :=
  match Json.lookup key members with
  | none => .ok none
  | some .null => .ok none
  | some (.string s) => .ok (some s)
  | some _ => .error (.invalidOperand key .string)

def optionalPath (members : List (String × Json)) : Except ExpressionError (Option Path) := do
  match ← optionalText "path" members with
  | none => return none
  | some text =>
    match Path.parse text with
    | .ok path => return some path
    | .error cause => .error (.invalidPath text cause)

def isNull : Json → Bool
  | .null => true
  | _ => false

def operatorBody (key : String) (members : List (String × Json)) : Except ExpressionError Body :=
  match Operator.ofJson key ((Json.lookup key members).getD .null) with
  | .ok op => .ok (.operator op)
  | .error e => .error (.ofOperatorError e)

mutual

/-- The expression that a value stands for. -/
def ofJson : Json → Except ExpressionError Expression
  | .object members => do
    let resourceType ← optionalText "resourceType" members
    let path ← optionalPath members
    let condition ← conditionIn members
    match ← kindKeys members with
    | [] => .error .missingOperator
    | [key] =>
      let body ←
        if key = "allOf" then groupIn .allOf members
        else if key = "anyOf" then groupIn .anyOf members
        else operatorBody key members
      return .narrowed resourceType path condition body
    | keys => .error (.ambiguous keys)
  | _ => .error .notAnObject

/-- The condition among the members, which may be missing or null. -/
def conditionIn : List (String × Json) → Except ExpressionError (Option Expression)
  | [] => .ok none
  | (key, value) :: rest =>
    if key = "where" then
      if isNull value then .ok none else (ofJson value).map some
    else conditionIn rest

/-- The combination among the members; its list must not be null. -/
def groupIn (quantifier : Quantifier) : List (String × Json) → Except ExpressionError Body
  | [] => .error (.missingExpressions quantifier)
  | (key, value) :: rest =>
    if key = quantifier.key then
      match value with
      | .null => .error (.missingExpressions quantifier)
      | .array items => (ofItems items).map (.group quantifier)
      | _ => .error (.invalidOperand "allOf/anyOf" .expressions)
    else groupIn quantifier rest

def ofItems : List Json → Except ExpressionError (List Expression)
  | [] => .ok []
  | item :: rest => do
    let first ← ofJson item
    return first :: (← ofItems rest)

end

end TemplateAudit.Expression
