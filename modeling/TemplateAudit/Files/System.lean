import TemplateAudit.Files.Access
import TemplateAudit.Files.Tree

/-! # File systems

A file system is a tree with a working directory, and gives access to files without effects. A
path leads from the root or the working directory through its parts; every part but the last has
to be a directory, and two dots lead up again, though not above the root.
-/

namespace TemplateAudit

structure FileSystem where
  root : FileTree
  workingDirectory : List String
  deriving Repr

namespace FileSystem

def isParent (piece : List Char) : Bool := piece = ['.', '.']

/-- The place that a part of a path leads to from another place. -/
def step (fs : FileSystem) (place : List String) (piece : List Char) :
    Except FileError (List String) :=
  match fs.root.find? place with
  | none => .error .notFound
  | some (.file _) => .error .notDirectory
  | some (.directory entries) =>
    if FilePath.isSilent piece then .ok place
    else if isParent piece then .ok place.dropLast
    else if (FileTree.child? (String.ofList piece) entries).isSome then
      .ok (place ++ [String.ofList piece])
    else .error .notFound

def walk (fs : FileSystem) : List String → List (List Char) → Except FileError (List String)
  | place, [] => .ok place
  | place, piece :: rest => do
    let next ← fs.step place piece
    fs.walk next rest

/-- Where a path starts. -/
def start (fs : FileSystem) (p : FilePath) : List String :=
  if p.isAbsolute then [] else fs.workingDirectory

/-- The place that a path leads to. -/
def locate (fs : FileSystem) (p : FilePath) : Except FileError (List String) :=
  if p.text = "" then .error .notFound
  else fs.walk (fs.start p) (FilePath.split p.text.toList)

def look (fs : FileSystem) (p : FilePath) : Except FileError FileTree := do
  match fs.root.find? (← fs.locate p) with
  | some tree => return tree
  | none => .error .notFound

def kind? (fs : FileSystem) (p : FilePath) : Option FileKind :=
  match fs.look p with
  | .ok (.file _) => some .file
  | .ok (.directory _) => some .directory
  | .error _ => none

def readText (fs : FileSystem) (p : FilePath) : Except FileError String := do
  match ← fs.look p with
  | .file (.text content) => return content
  | .file (.binary _) => .error .notText
  | .directory _ => .error .isDirectory

def fileNames (fs : FileSystem) (p : FilePath) : Except FileError (List String) := do
  match ← fs.look p with
  | .file _ => .error .notDirectory
  | .directory entries => return FileTree.fileNames (.directory entries)

def filePlaces (fs : FileSystem) (p : FilePath) : Except FileError (List (List String)) := do
  match ← fs.look p with
  | .file _ => .error .notDirectory
  | .directory entries => return FileTree.filePlaces (.directory entries)

/-- The place of the file that writing to a path makes or replaces: its directory has to be there,
and the last part has to name a file. -/
def target (fs : FileSystem) (p : FilePath) : Except FileError (List String) :=
  if p.text = "" then .error .notFound
  else
    let pieces := (FilePath.split p.text.toList).reverse.dropWhile (· = [])
    match pieces with
    | [] => .error .isDirectory
    | last :: before => do
      let directory ← fs.walk (fs.start p) before.reverse
      match fs.root.find? directory with
      | none => .error .notFound
      | some (.file _) => .error .notDirectory
      | some (.directory entries) =>
        if last = ['.'] ∨ isParent last ∨ (FilePath.split p.text.toList).getLast? = some [] then
          .error .isDirectory
        else match FileTree.child? (String.ofList last) entries with
          | some (.directory _) => .error .isDirectory
          | _ => .ok (directory ++ [String.ofList last])

def writeText (fs : FileSystem) (p : FilePath) (text : String) :
    Except FileError FileSystem := do
  let place ← fs.target p
  return { fs with root := FileTree.insert (.file (.text text)) place fs.root }

instance : FileAccess (StateM FileSystem) where
  kind? p := fun fs => (fs.kind? p, fs)
  readText p := fun fs => (fs.readText p, fs)
  fileNames p := fun fs => (fs.fileNames p, fs)
  filePlaces p := fun fs => (fs.filePlaces p, fs)
  writeText p text := fun fs =>
    match fs.writeText p text with
    | .ok new => (.ok (), new)
    | .error e => (.error e, fs)

end FileSystem

end TemplateAudit
