import TemplateAudit.Files.Access
import TemplateAudit.Report.Basic
import TemplateAudit.Toml.Parser

/-! # Configuration files

A configuration file may set which rules are used and where the report goes. Its paths are seen
from the directory of the file itself.
-/

namespace TemplateAudit

structure Config where
  rules : Option FilePath
  excludeRules : List String
  includeRules : List String
  reportFormat : Option ReportFormat
  outputFile : Option FilePath
  deriving DecidableEq, Repr

inductive ConfigError where
  | unreadable (path : String) (cause : FileError)
  | malformed (path : String)
  deriving DecidableEq, Repr

def ConfigError.message : ConfigError → String
  | unreadable path cause => s!"could not read '{path}': {cause.message}"
  | malformed path => s!"could not parse '{path}'"

namespace Config

def blank : Config := ⟨none, [], [], none, none⟩

def textOf : Toml.Value → Option String
  | .text s => some s
  | _ => none

def textsOf : Toml.Value → Option (List String)
  | .list items => items.mapM textOf
  | _ => none

def isEmpty : Toml.Value → Bool
  | .list [] => true
  | .table _ [] => true
  | _ => false

/-- A format is named by a text, or by the one member of a table, which is empty. -/
def formatOf : Toml.Value → Option ReportFormat
  | .text s => ReportFormat.ofName? s
  | .table _ [(name, value)] => if isEmpty value then ReportFormat.ofName? name else none
  | _ => none

/-- Sets what a key stands for; other keys are refused. -/
def set (c : Config) (key : String) (value : Toml.Value) : Option Config :=
  if key = "rules" then (textOf value).map fun s => { c with rules := some ⟨s⟩ }
  else if key = "exclude_rules" then (textsOf value).map fun ids => { c with excludeRules := ids }
  else if key = "include_rules" then (textsOf value).map fun ids => { c with includeRules := ids }
  else if key = "report_format" then
    (formatOf value).map fun f => { c with reportFormat := some f }
  else if key = "output_file" then (textOf value).map fun s => { c with outputFile := some ⟨s⟩ }
  else none

def ofMembers (members : Toml.Members) : Option Config :=
  members.foldlM (fun c m => c.set m.1 m.2) blank

/-- The configuration with its paths seen from a directory. -/
def seenFrom (c : Config) (directory : FilePath) : Config :=
  { c with rules := c.rules.map directory.append, outputFile := c.outputFile.map directory.append }

/-- The configuration of a text in the file at a path. -/
def parse (path : FilePath) (text : String) : Except ConfigError Config :=
  match Toml.parse text >>= ofMembers with
  | none => .error (.malformed path.text)
  | some c =>
    match path.parent? with
    | some directory => .ok (c.seenFrom directory)
    | none => .ok c

/-- The configuration of a file that was read, or could not be. -/
def ofFile (path : FilePath) : Except FileError String → Except ConfigError Config
  | .ok text => parse path text
  | .error cause => .error (.unreadable path.text cause)

/-- The file that is used if no other is named. -/
def defaultFile : FilePath := ⟨"tarmac.toml"⟩

variable {m : Type → Type} [Monad m] [FileAccess m]

def load (path : FilePath) : m (Except ConfigError Config) := do
  return ofFile path (← FileAccess.readText path)

/-- The configuration of a named file, or of the default file if there is one. -/
def discover (named : Option FilePath) : m (Except ConfigError Config) := do
  match named with
  | some path => load path
  | none =>
    if (← FileAccess.kind? defaultFile) = some .file then load defaultFile
    else return .ok blank

end Config

end TemplateAudit
