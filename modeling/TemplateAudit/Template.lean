import TemplateAudit.Files.Access
import TemplateAudit.LineIndex
import TemplateAudit.Text.Case

/-! # Templates

A template is a document with the lines of its text. It is a deployment template if its `$schema`
member says so.
-/

namespace TemplateAudit

inductive TemplateError where
  | unreadable (path : String)
  | invalidJson (path : String) (error : Json.Error)
  deriving DecidableEq, Repr

def TemplateError.message : TemplateError → String
  | unreadable path => s!"failed to read template {path}"
  | invalidJson path error => s!"invalid JSON in template {path}: {error.message}"

structure Template where
  document : Json
  lines : LineIndex
  path : Option FilePath

namespace Template

/-- What messages call a template. -/
def displayPath : Option FilePath → String
  | some path => path.text
  | none => "<inline>"

/-- The template that a text holds. -/
def parse (text : String) (path : Option FilePath) : Except TemplateError Template :=
  match Json.parse text with
  | .ok document => .ok { document, lines := .build text, path }
  | .error e => .error (.invalidJson (displayPath path) e)

/-- The template of a file that was read, or could not be. -/
def ofFile (path : FilePath) : Except FileError String → Except TemplateError Template
  | .ok text => parse text (some path)
  | .error _ => .error (.unreadable path.text)

def schemaMark : String := "deploymenttemplate"

/-- Whether a document declares the schema of deployment templates. -/
def declaresDeployment : Json → Bool
  | .object members =>
    match Json.lookup "$schema" members with
    | some (.string schema) =>
      Text.occursIn schemaMark.toList (schema.toList.map Text.asciiLower)
    | _ => false
  | _ => false

def isDeploymentTemplate (t : Template) : Bool := declaresDeployment t.document

end Template

end TemplateAudit
