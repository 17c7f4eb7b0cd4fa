import TemplateAudit.Run

/-! # The program

Carries out a command on the files of the machine.
-/

namespace TemplateAudit.Main

/-- The words of the machine for what went wrong. -/
def machineText (code : UInt32) (details : String) : FileError :=
  .other s!"{details} (os error {code})"

def fileError : IO.Error → FileError
  | .noFileOrDirectory .. => .notFound
  | .inappropriateType _ code details =>
    if code = 20 then .notDirectory
    else if code = 21 then .isDirectory
    else machineText code details
  | .permissionDenied _ code details => machineText code details
  | .resourceExhausted _ code details => machineText code details
  | .resourceBusy code details => machineText code details
  | .invalidArgument _ code details => machineText code details
  | .otherError code details => machineText code details
  | e => .other (toString e)

def attempt {α : Type} (action : IO α) : IO (Except FileError α) := do
  match ← action.toBaseIO with
  | .ok a => return .ok a
  | .error e => return .error (fileError e)

def kindOf (type : IO.FS.FileType) : FileKind := if type == .dir then .directory else .file

def readText (path : FilePath) : IO (Except FileError String) := do
  match ← attempt (IO.FS.readBinFile path.text) with
  | .error e => return .error e
  | .ok bytes =>
    match String.fromUTF8? bytes with
    | some text => return .ok text
    | none => return .error .notText

/-- The entries of a directory with their kinds. -/
def entries (path : FilePath) : IO (List (String × FileKind)) := do
  let directory := (← IO.currentDir) / path.text
  let found ← directory.readDir
  found.toList.mapM fun entry => do
    return (entry.fileName, kindOf (← entry.path.symlinkMetadata).type)

partial def filePlaces (path : FilePath) : IO (List (List String)) := do
  let places ← (← entries path).mapM fun (name, kind) => do
    match kind with
    | .file => return [[name]]
    | .directory => return (← filePlaces (path.append ⟨name⟩)).map (name :: ·)
  return places.flatten

instance : FileAccess IO where
  kind? path := do
    if path.text = "" then return none
    match ← attempt ((← IO.currentDir) / path.text).metadata with
    | .ok found => return some (kindOf found.type)
    | .error _ => return none
  readText := readText
  fileNames path := attempt do
    return ((← entries path).filter fun e => e.2 = .file).map (·.1)
  filePlaces path := attempt (filePlaces path)
  writeText path text := attempt (IO.FS.writeFile path.text text)

end TemplateAudit.Main

def main (args : List String) : IO UInt32 := do
  let outcome : TemplateAudit.Outcome ← TemplateAudit.Run.program args
  IO.print outcome.stdout
  IO.eprint outcome.stderr
  return outcome.exitCode.toUInt32
