import TemplateAudit.Json.Basic
import TemplateAudit.Text.Quoted

/-! # Rule metadata

The descriptive part of a rule, and how it is read from the members of an object. Members are read
in order of their names and unknown ones are ignored, so the fault that is reported is the first
in that order; a missing identifier comes last.
-/

namespace TemplateAudit

inductive Severity where
  | high
  | medium
  | low
  deriving DecidableEq, Repr

namespace Severity

def name : Severity → String
  | .high => "high"
  | .medium => "medium"
  | .low => "low"

/-- Severities are numbered from one. -/
def number : Severity → Nat
  | .high => 1
  | .medium => 2
  | .low => 3

def ofNumber? (n : Nat) : Option Severity :=
  if n = 1 then some .high
  else if n = 2 then some .medium
  else if n = 3 then some .low
  else none

end Severity

structure RuleMetadata where
  id : String
  name : Option String
  description : String
  recommendation : String
  helpUri : Option String
  severity : Severity
  deriving DecidableEq, Repr

/-- Why metadata cannot be read. -/
inductive MetadataError where
  | missingField (name : String)
  | invalidType (found : Json) (expected : String)
  | invalidInteger (value : Int)
  | invalidSeverity (value : Int)
  | invalidLength (length : Nat) (expected : String)
  deriving Repr

namespace MetadataError

/-- What messages call a value. -/
def describe : Json → String
  | .null => "null"
  | .bool b => s!"boolean \x60{b}\x60"
  | .number n =>
    match n with
    | .integer value _ => s!"integer \x60{value}\x60"
    | .float _ => "floating point \x60" ++ n.display ++ "\x60"
  | .string s => "string " ++ Text.quoted s
  | .array _ => "sequence"
  | .object _ => "map"

def message : MetadataError → String
  | missingField name => s!"missing field \x60{name}\x60"
  | invalidType found expected => s!"invalid type: {describe found}, expected {expected}"
  | invalidInteger value => s!"invalid value: integer \x60{value}\x60, expected u8"
  | invalidSeverity value => s!"severity must be 1, 2 or 3, got {value}"
  | invalidLength length expected => s!"invalid length {length}, expected {expected}"

end MetadataError

namespace RuleMetadata

/-- The fields read so far; only the identifier has no default. -/
structure Draft where
  id : Option String
  name : Option String
  description : String
  recommendation : String
  helpUri : Option String
  severity : Severity

def Draft.blank : Draft := ⟨none, none, "", "", none, .medium⟩

def readText : Json → Except MetadataError String
  | .string s => .ok s
  | found => .error (.invalidType found "a string")

def readOptionalText : Json → Except MetadataError (Option String)
  | .null => .ok none
  | found => (readText found).map some

/-- A severity is an integer from one to three. -/
def readSeverity : Json → Except MetadataError Severity
  | .number (.integer value _) =>
    if value < 0 ∨ 255 < value then .error (.invalidInteger value)
    else match Severity.ofNumber? value.toNat with
      | some severity => .ok severity
      | none => .error (.invalidSeverity value)
  | found => .error (.invalidType found "u8")

namespace Draft

/-- The fields by the names they have in documents, in the order in which a list gives them. -/
def fieldNames : List String :=
  ["id", "name", "description", "recommendation", "helpUri", "severity"]

def set (d : Draft) (name : String) (value : Json) : Except MetadataError Draft :=
  if name = "id" then (readText value).map fun s => { d with id := some s }
  else if name = "name" then (readOptionalText value).map fun s => { d with name := s }
  else if name = "description" then (readText value).map fun s => { d with description := s }
  else if name = "recommendation" then
    (readText value).map fun s => { d with recommendation := s }
  else if name = "helpUri" then (readOptionalText value).map fun s => { d with helpUri := s }
  else if name = "severity" then (readSeverity value).map fun s => { d with severity := s }
  else .ok d

def setAll (d : Draft) : List (String × Json) → Except MetadataError Draft
  | [] => .ok d
  | (name, value) :: rest => do
    let next ← d.set name value
    next.setAll rest

def finish (d : Draft) (missing : MetadataError) : Except MetadataError RuleMetadata :=
  match d.id with
  | some id => .ok ⟨id, d.name, d.description, d.recommendation, d.helpUri, d.severity⟩
  | none => .error missing

end Draft

/-- The metadata among the members of an object. -/
def ofMembers (members : List (String × Json)) : Except MetadataError RuleMetadata := do
  let draft ← Draft.blank.setAll members
  draft.finish (.missingField "id")

/-- The metadata whose fields are the items of a list. -/
def ofItems (items : List Json) : Except MetadataError RuleMetadata := do
  let draft ← Draft.blank.setAll (Draft.fieldNames.zip items)
  let metadata ← draft.finish (.invalidLength 0 "struct RuleMetadata with 6 elements")
  if items.length ≤ Draft.fieldNames.length then return metadata
  else .error (.invalidLength items.length "fewer elements in array")

def ofJson : Json → Except MetadataError RuleMetadata
  | .object members => ofMembers members
  | .array items => ofItems items
  | found => .error (.invalidType found "struct RuleMetadata")

end RuleMetadata

end TemplateAudit
