import TemplateAudit.Json.Basic

/-! # The schema of rules

What rules files look like, apart from what only reading the rules can tell. Every definition of
the schema asks for an object with known members or for a list.
-/

namespace TemplateAudit.Schema

inductive ValueType where
  | object
  | array
  | string
  | boolean
  | number
  deriving DecidableEq, Repr

def ValueType.holds : ValueType → Json → Bool
  | .object, .object _ => true
  | .array, .array _ => true
  | .string, .string _ => true
  | .boolean, .bool _ => true
  | .number, .number _ => true
  | _, _ => false

inductive Definition where
  | rule
  | ruleList
  | expression
  | expressionList
  deriving DecidableEq, Repr

/-- What a member or an item has to be. -/
inductive Requirement where
  | anything
  | ofType (type : ValueType)
  | text (minimum : Nat)
  | oneOf (values : List Number)
  | defined (name : Definition)
  deriving DecidableEq, Repr

/-- The members that an object may have, those that it must have, and their least number. -/
structure ObjectSchema where
  members : List (String × Requirement)
  required : List String
  minimum : Nat

inductive Shape where
  | object (schema : ObjectSchema)
  | list (items : Requirement)

def ruleSchema : ObjectSchema where
  members := [("id", .text 1), ("name", .text 0), ("description", .text 0),
    ("recommendation", .text 0), ("helpUri", .text 0),
    ("severity", .oneOf [.ofNat 1, .ofNat 2, .ofNat 3]), ("evaluation", .defined .expression)]
  required := ["id", "evaluation"]
  minimum := 0

def expressionSchema : ObjectSchema where
  members := [("resourceType", .text 0), ("path", .text 1), ("where", .defined .expression),
    ("allOf", .defined .expressionList), ("anyOf", .defined .expressionList),
    ("exists", .ofType .boolean), ("hasValue", .ofType .boolean), ("equals", .anything),
    ("notEquals", .anything), ("in", .ofType .array), ("contains", .anything),
    ("regex", .text 0), ("less", .ofType .number), ("lessOrEquals", .ofType .number),
    ("greater", .ofType .number), ("greaterOrEquals", .ofType .number)]
  required := []
  minimum := 1

def Definition.shape : Definition → Shape
  | .rule => .object ruleSchema
  | .ruleList => .list (.defined .rule)
  | .expression => .object expressionSchema
  | .expressionList => .list (.defined .expression)

/-- Numbers match by value, so that `1.0` is one of the severities. -/
def isOneOf (values : List Number) : Json → Bool
  | .number n => values.any fun v => n.compare v = .eq
  | _ => false

/-- The length of a text counts its characters. -/
def hasLength (minimum : Nat) : Json → Bool
  | .string s => minimum ≤ s.length
  | _ => false

namespace ObjectSchema

def requirement? (o : ObjectSchema) (name : String) : Option Requirement :=
  (o.members.find? fun m => m.1 = name).map (·.2)

/-- Whether the members are enough, and the required ones among them. -/
def hasEnough (o : ObjectSchema) (members : List (String × Json)) : Bool :=
  o.minimum ≤ members.length && o.required.all fun name => members.any fun m => m.1 = name

end ObjectSchema

mutual

/-- Whether a value meets a requirement. -/
def meets (r : Requirement) : Json → Bool
  | .array items =>
    match r with
    | .anything => true
    | .ofType type => type = .array
    | .defined name =>
      match name.shape with
      | .list required => allMeet required items
      | .object _ => false
    | _ => false
  | .object members =>
    match r with
    | .anything => true
    | .ofType type => type = .object
    | .defined name =>
      match name.shape with
      | .object schema => schema.hasEnough members && membersMeet schema members
      | .list _ => false
    | _ => false
  | value =>
    match r with
    | .anything => true
    | .ofType type => type.holds value
    | .text minimum => hasLength minimum value
    | .oneOf values => isOneOf values value
    | .defined _ => false

def allMeet (r : Requirement) : List Json → Bool
  | [] => true
  | item :: rest => meets r item && allMeet r rest

/-- Whether every member is known and meets what is required of it. -/
def membersMeet (o : ObjectSchema) : List (String × Json) → Bool
  | [] => true
  | (name, value) :: rest =>
    (match o.requirement? name with
      | some r => meets r value
      | none => false) && membersMeet o rest

end

theorem meets_anything (v : Json) : meets .anything v = true := by cases v <;> simp [meets]

theorem allMeet_eq_all (r : Requirement) (items : List Json) :
    allMeet r items = items.all (meets r) := by
  induction items with
  | nil => rfl
  | cons item rest ih => rw [allMeet, ih, List.all_cons]

/-- A rules document is a rule or a list of rules. -/
def alternatives : List Definition := [.rule, .ruleList]

/-- Whether a document is exactly one of the alternatives. -/
def isRulesDocument (document : Json) : Bool :=
  (alternatives.filter fun d => meets (.defined d) document).length = 1

end TemplateAudit.Schema
