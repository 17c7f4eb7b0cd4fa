/-! # File trees

A file holds a text or bytes that are none; a directory holds named trees. Places in a tree are
given by the names that lead to them.
-/

namespace TemplateAudit

inductive FileContent where
  | text (content : String)
  | binary (bytes : List UInt8)
  deriving DecidableEq, Repr

inductive FileTree where
  | file (content : FileContent)
  | directory (entries : List (String × FileTree))
  deriving Repr

namespace FileTree

def empty : FileTree := .directory []

def isDirectory : FileTree → Bool
  | .file _ => false
  | .directory _ => true

/-- The entry of a directory with this name. -/
def child? (name : String) : List (String × FileTree) → Option FileTree
  | [] => none
  | (other, tree) :: rest => if other = name then some tree else child? name rest

/-- The tree at a place. -/
def find? : FileTree → List String → Option FileTree
  | tree, [] => some tree
  | .file _, _ :: _ => none
  | .directory entries, name :: names =>
    match child? name entries with
    | some tree => tree.find? names
    | none => none

/-- The entries with one of them replaced, or a new one at the end. -/
def setEntry (name : String) (tree : FileTree) :
    List (String × FileTree) → List (String × FileTree)
  | [] => [(name, tree)]
  | (other, old) :: rest =>
    if other = name then (name, tree) :: rest else (other, old) :: setEntry name tree rest

/-- The tree with another one at a place; directories on the way are made where there are none,
and files on the way give way to them. -/
def insert (new : FileTree) : List String → FileTree → FileTree
  | [], _ => new
  | name :: names, .file _ => .directory [(name, insert new names empty)]
  | name :: names, .directory entries =>
    .directory (setEntry name (insert new names ((child? name entries).getD empty)) entries)

theorem child?_setEntry_self (name : String) (tree : FileTree)
    (entries : List (String × FileTree)) :
    child? name (setEntry name tree entries) = some tree := by
  induction entries with
  | nil => simp [setEntry, child?]
  | cons e rest ih =>
    obtain ⟨other, old⟩ := e
    by_cases h : other = name <;> simp [setEntry, child?, h, ih]

theorem child?_setEntry_of_ne {name other : String} (h : other ≠ name) (tree : FileTree)
    (entries : List (String × FileTree)) :
    child? other (setEntry name tree entries) = child? other entries := by
  induction entries with
  | nil => simp [setEntry, child?, Ne.symm h]
  | cons e rest ih =>
    obtain ⟨key, old⟩ := e
    by_cases hk : key = name
    · subst hk
      simp [setEntry, child?, Ne.symm h]
    · simp [setEntry, child?, hk, ih]

theorem find?_insert (new : FileTree) (place : List String) (tree : FileTree) :
    (insert new place tree).find? place = some new := by
  induction place generalizing tree with
  | nil => rfl
  | cons name names ih =>
    cases tree with
    | file content => simp [insert, find?, child?, ih]
    | directory entries => simp [insert, find?, child?_setEntry_self, ih]

/-- The names of the entries that are no directories. -/
def fileNames : FileTree → List String
  | .file _ => []
  | .directory entries =>
    (entries.filter fun e => !e.2.isDirectory).map (·.1)

mutual

/-- The files of a tree with their places. -/
def files : FileTree → List (List String × FileContent)
  | .file content => [([], content)]
  | .directory entries => filesOfEntries entries

def filesOfEntries : List (String × FileTree) → List (List String × FileContent)
  | [] => []
  | (name, tree) :: rest =>
    (files tree).map (fun (place, content) => (name :: place, content)) ++ filesOfEntries rest

end

/-- The places of the files below a directory. -/
def filePlaces (t : FileTree) : List (List String) := t.files.map (·.1)

end FileTree

end TemplateAudit
