import TemplateAudit.Location
import TemplateAudit.Path
import TemplateAudit.Json.Basic

/-! # Scopes

A scope is a place in a document together with the value there, which is absent when a path names
something that does not exist. Narrowing a scope is left to a resolver, so that evaluation is
stated for every way of doing it.
-/

namespace TemplateAudit

structure Scope where
  location : Location
  value : Option Json
  deriving Repr

namespace Scope

/-- The scope of a whole document. -/
def root (document : Json) : Scope := ⟨.root, some document⟩

end Scope

/-- How a scope is narrowed by a path or by a resource type, and the line of a scope. -/
structure Resolver where
  resolve : Scope → Path → List Scope
  resourcesOfType : Scope → String → List Scope
  lineOf : Scope → Nat

end TemplateAudit
