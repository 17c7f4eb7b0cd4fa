import TemplateAudit.FilePath

/-! # Access to files

What a run needs to know of the files around it, and the one way in which it changes them.
Everything that reads rules, settings or templates is written against this interface.
-/

namespace TemplateAudit

/-- Why a file cannot be read or written. -/
inductive FileError where
  | notFound
  | notDirectory
  | isDirectory
  | notText
  | other (text : String)
  deriving DecidableEq, Repr

def FileError.message : FileError → String
  | notFound => "No such file or directory (os error 2)"
  | notDirectory => "Not a directory (os error 20)"
  | isDirectory => "Is a directory (os error 21)"
  | notText => "stream did not contain valid UTF-8"
  | other text => text

inductive FileKind where
  | file
  | directory
  deriving DecidableEq, Repr

class FileAccess (m : Type → Type) where
  /-- What there is at a path, if anything. -/
  kind? : FilePath → m (Option FileKind)
  /-- The text of a file. -/
  readText : FilePath → m (Except FileError String)
  /-- The names of the files directly in a directory, in any order. -/
  fileNames : FilePath → m (Except FileError (List String))
  /-- The names that lead to each file below a directory, in any order. -/
  filePlaces : FilePath → m (Except FileError (List (List String)))
  /-- Makes a file with a text, or replaces its content. -/
  writeText : FilePath → String → m (Except FileError Unit)

end TemplateAudit
