import TemplateAudit.Scope
import TemplateAudit.Template

/-! # Resolving scopes

Member names match up to ASCII case and an exact match wins; the location keeps the spelling of
the document. A path without wildcards gives one scope, and a wildcard one for each child.
Resources are found in the `resources` arrays of resources, at any depth.
-/

namespace TemplateAudit

namespace Json

/-- The member of a name: the one spelled so, or else the first that agrees up to ASCII case. -/
def findMember (members : List (String × Json)) (name : String) : Option (String × Json) :=
  match lookup name members with
  | some value => some (name, value)
  | none => members.find? fun m => Text.sameIgnoringCase m.1 name

end Json

namespace Scope

def property (s : Scope) (name : String) : Scope :=
  match s.value with
  | some (.object members) =>
    match Json.findMember members name with
    | some (key, value) => ⟨s.location.key key, some value⟩
    | none => ⟨s.location.key name, none⟩
  | _ => ⟨s.location.key name, none⟩

def element (s : Scope) (position : Nat) : Scope :=
  match s.value with
  | some (.array items) => ⟨s.location.index position, items[position]?⟩
  | _ => ⟨s.location.index position, none⟩

/-- The scopes of array items, the first at the given position. -/
def elementsFrom (l : Location) (position : Nat) : List Json → List Scope
  | [] => []
  | item :: rest => ⟨l.index position, some item⟩ :: elementsFrom l (position + 1) rest

def children (s : Scope) : List Scope :=
  match s.value with
  | some (.array items) => elementsFrom s.location 0 items
  | some (.object members) => members.map fun m => ⟨s.location.key m.1, some m.2⟩
  | _ => []

/-- One step of a path. -/
def step (s : Scope) : Segment → List Scope
  | .property name => [s.property name]
  | .index position => [s.element position]
  | .wildcard => s.children

/-- The scopes that steps lead to, level by level. -/
def follow (scopes : List Scope) : List Segment → List Scope
  | [] => scopes
  | segment :: rest => follow (scopes.flatMap fun s => s.step segment) rest

def resolve (s : Scope) (p : Path) : List Scope := follow [s] p.segments

/-- The declared type of a resource. -/
def declaredType? : Json → Option String
  | .object members =>
    match Json.findMember members "type" with
    | some (_, .string declared) => some declared
    | _ => none
  | _ => none

/-- A declared type without a slash is one below the type of the enclosing resource. -/
def fullType (parent : Option String) (declared : String) : String :=
  match parent with
  | some parent => if declared.toList.contains '/' then declared else parent ++ "/" ++ declared
  | none => declared

mutual

/-- The resources of a type in the `resources` array of a value, each before those inside it. -/
def resourcesIn (target : String) (parent : Option String) (l : Location) : Json → List Scope
  | .object members =>
    match Json.findMember members "resources" with
    | some (key, _) => resourcesUnder target parent l key members
    | none => []
  | _ => []

/-- The resources in the array that is the member of exactly this name. -/
def resourcesUnder (target : String) (parent : Option String) (l : Location) (key : String) :
    List (String × Json) → List Scope
  | [] => []
  | (name, value) :: rest =>
    if name = key then
      match value with
      | .array items => resourcesAmong target parent (l.key key) 0 items
      | _ => []
    else resourcesUnder target parent l key rest

/-- The resources among array items, the first at the given position. -/
def resourcesAmong (target : String) (parent : Option String) (l : Location) (position : Nat) :
    List Json → List Scope
  | [] => []
  | item :: rest =>
    let here := l.index position
    let found := match declaredType? item with
      | some declared =>
        let full := fullType parent declared
        let inside := resourcesIn target (some full) here item
        if Text.sameIgnoringCase full target then ⟨here, some item⟩ :: inside else inside
      | none => []
    found ++ resourcesAmong target parent l (position + 1) rest

end

/-- The resources of a type below a scope, in document order. -/
def resourcesOfType (s : Scope) (target : String) : List Scope :=
  match s.value with
  | some value => resourcesIn target none s.location value
  | none => []

end Scope

namespace Template

/-- Narrowing by the document itself, and the lines of its text. -/
def resolver (lines : LineIndex) : Resolver where
  resolve := Scope.resolve
  resourcesOfType := Scope.resourcesOfType
  lineOf := fun s => lines.lineOf s.location

end Template

end TemplateAudit
