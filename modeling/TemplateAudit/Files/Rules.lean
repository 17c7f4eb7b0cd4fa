import TemplateAudit.Ascending
import TemplateAudit.Files.Access
import TemplateAudit.Rule.RuleSet

/-! # Rules from files

Rules come from a file, or from all files of a directory whose names end in `.json`, in the order of
their names. No identifier may occur twice in all of these files together.
-/

namespace TemplateAudit

namespace Rule

/-- The rules of a file that was read, or could not be. -/
def ofFile (path : FilePath) : Except FileError String → Except RuleLoadError (List Rule)
  | .ok text => parseAll path.text text
  | .error _ => .error (.unreadable path.text)

/-- The rules of several files; the first file at fault is reported. -/
def ofFiles : List (FilePath × Except FileError String) → Except RuleLoadError (List Rule)
  | [] => .ok []
  | (path, content) :: rest => do
    let rules ← ofFile path content
    return rules ++ (← ofFiles rest)

def isRulesFile (name : String) : Bool := FilePath.extension? name = some "json"

end Rule

namespace RuleSet

def ofFiles (files : List (FilePath × Except FileError String)) : Except RuleLoadError RuleSet := do
  ofRules (← Rule.ofFiles files)

variable {m : Type → Type} [Monad m] [FileAccess m]

def readFile (path : FilePath) : m (FilePath × Except FileError String) := do
  return (path, ← FileAccess.readText path)

/-- The rules files among the files of a directory, by increasing name. -/
def rulesFiles (directory : FilePath) (names : List String) : List FilePath :=
  (ascending (names.filter Rule.isRulesFile)).map fun name => directory.append ⟨name⟩

/-- Loads the rules of a file or a directory. -/
def load (path : FilePath) : m (Except RuleLoadError RuleSet) := do
  match ← FileAccess.kind? path with
  | none => return .error (.missingPath path.text)
  | some .file => return ofFiles [← readFile path]
  | some .directory =>
    match ← FileAccess.fileNames path with
    | .error _ => return .error (.unreadable path.text)
    | .ok names => return ofFiles (← (rulesFiles path names).mapM readFile)

end RuleSet

end TemplateAudit
