import TemplateAudit.Expression.Reader
import TemplateAudit.Json.Parser
import TemplateAudit.Rule.Metadata

/-! # Rule sets

A rules document is a list of rules or a single rule. A rule set holds its rules in their order
and no identifier twice; rules are selected by identifiers up to ASCII case, but looked up by
their exact identifier.
-/

namespace TemplateAudit

structure Rule where
  metadata : RuleMetadata
  expression : Expression

def Rule.id (r : Rule) : String := r.metadata.id

structure RuleSet where
  rules : List Rule

/-- Why rules cannot be loaded. -/
inductive RuleLoadError where
  | missingPath (path : String)
  | unreadable (path : String)
  | invalidJson (path : String) (error : Json.Error)
  | malformed (path : String) (index : Nat) (error : MetadataError)
  | invalidEvaluation (id : String) (error : ExpressionError)
  | invalidDocument
  | duplicateRule (id : String)
  deriving Repr

def RuleLoadError.message : RuleLoadError → String
  | missingPath path => s!"rules path does not exist: {path}"
  | unreadable path => s!"failed to read rules from {path}"
  | invalidJson path error => s!"invalid JSON in rules from {path}: {error.message}"
  | malformed path index error =>
    s!"rule definition #{index} in {path} is malformed: {error.message}"
  | invalidEvaluation id error => s!"rule '{id}' has an invalid evaluation: {error.message}"
  | invalidDocument => "rules document must be an object or an array of objects"
  | duplicateRule id => s!"duplicate rule identifier detected: {id}"

namespace Rule

/-- The metadata and the expression of a rule; a missing expression is reported first. -/
def split : Json → Except MetadataError (RuleMetadata × Json)
  | .object members =>
    match Json.lookup "evaluation" members with
    | none => .error (.missingField "evaluation")
    | some evaluation => do
      let metadata ← RuleMetadata.ofMembers members
      return (metadata, evaluation)
  | found => .error (.invalidType found "struct RuleDefinition")

/-- The rule at a place of a rules document. -/
def ofJson (path : String) (index : Nat) (value : Json) : Except RuleLoadError Rule :=
  match split value with
  | .error e => .error (.malformed path index e)
  | .ok (metadata, evaluation) =>
    match Expression.ofJson evaluation with
    | .error e => .error (.invalidEvaluation metadata.id e)
    | .ok expression => .ok ⟨metadata, expression⟩

/-- The rules of a list whose first item has the given index. -/
def ofItems (path : String) (index : Nat) : List Json → Except RuleLoadError (List Rule)
  | [] => .ok []
  | value :: rest => do
    let rule ← ofJson path index value
    return rule :: (← ofItems path (index + 1) rest)

def ofDocument (path : String) : Json → Except RuleLoadError (List Rule)
  | .array items => ofItems path 0 items
  | .object members => ofItems path 0 [.object members]
  | _ => .error .invalidDocument

/-- The rules of a text. -/
def parseAll (path : String) (text : String) : Except RuleLoadError (List Rule) :=
  match Json.parse text with
  | .ok document => ofDocument path document
  | .error e => .error (.invalidJson path e)

end Rule

namespace RuleSet

def empty : RuleSet := ⟨[]⟩

/-- The first identifier that occurred before. -/
def firstDuplicate? (seen : List String) : List Rule → Option String
  | [] => none
  | rule :: rest =>
    if seen.contains rule.id then some rule.id else firstDuplicate? (rule.id :: seen) rest

def ofRules (rules : List Rule) : Except RuleLoadError RuleSet :=
  match firstDuplicate? [] rules with
  | some id => .error (.duplicateRule id)
  | none => .ok ⟨rules⟩

/-- The rule set of a text. -/
def parse (text : String) : Except RuleLoadError RuleSet := do
  ofRules (← Rule.parseAll "<inline>" text)

def isListed (ids : List String) (rule : Rule) : Bool :=
  ids.any fun id => Text.sameIgnoringCase id rule.id

/-- Without the rules that are listed. -/
def exclude (s : RuleSet) (ids : List String) : RuleSet :=
  ⟨s.rules.filter fun rule => !isListed ids rule⟩

/-- Only the rules that are listed. -/
def only (s : RuleSet) (ids : List String) : RuleSet := ⟨s.rules.filter (isListed ids)⟩

/-- Only the rules to include, or all if none is named, without those to exclude. -/
def select (s : RuleSet) (included excluded : List String) : RuleSet :=
  (if included = [] then s else s.only included).exclude excluded

def get? (s : RuleSet) (id : String) : Option Rule := s.rules.find? fun rule => rule.id = id

def ids (s : RuleSet) : List String := s.rules.map Rule.id

end RuleSet

end TemplateAudit
