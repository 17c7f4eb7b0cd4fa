/-! # File paths

A path is kept as it was written. Comparing and stripping work on components, so doubled and
trailing slashes and inner dots do not count; what is left of a path keeps its own spelling.
-/

namespace TemplateAudit

structure FilePath where
  text : String
  deriving DecidableEq, Repr

namespace FilePath

/-- Where the first component of a path starts. -/
inductive Anchor where
  | root
  | current
  | none
  deriving DecidableEq, Repr

/-- The parts between slashes, empty ones included. -/
def split : List Char → List (List Char)
  | [] => [[]]
  | c :: rest =>
    if c = '/' then
      [] :: split rest
    else match split rest with
      | [] => [[c]]
      | piece :: pieces => (c :: piece) :: pieces

def join : List (List Char) → List Char
  | [] => []
  | [piece] => piece
  | piece :: pieces => piece ++ '/' :: join pieces

theorem split_ne_nil (chars : List Char) : split chars ≠ [] := by
  cases chars with
  | nil => simp [split]
  | cons c rest =>
    rw [split]
    split
    · simp
    · cases split rest <;> simp

/-- A part that names nothing: between two slashes, or a lone dot. -/
def isSilent (piece : List Char) : Bool := piece = [] || piece = ['.']

def anchorOf : List (List Char) → Anchor
  | [] :: _ :: _ => .root
  | ['.'] :: _ => .current
  | _ => .none

def anchor (p : FilePath) : Anchor := anchorOf (split p.text.toList)

/-- The parts after the anchor, as written. -/
def body (p : FilePath) : List (List Char) :=
  let pieces := split p.text.toList
  if anchorOf pieces = .none then pieces else pieces.tail

/-- The components after the anchor. -/
def names (p : FilePath) : List (List Char) := p.body.filter fun piece => !isSilent piece

def trimBody (pieces : List (List Char)) : List (List Char) :=
  (pieces.reverse.dropWhile isSilent).reverse

def ofParts (anchor : Anchor) (pieces : List (List Char)) : FilePath :=
  let rest := join pieces
  match anchor with
  | .root => ⟨String.ofList ('/' :: rest)⟩
  | .current => ⟨String.ofList (if pieces = [] then ['.'] else '.' :: '/' :: rest)⟩
  | .none => ⟨String.ofList rest⟩

def isAbsolute (p : FilePath) : Bool := p.anchor = .root

/-- The parts after the given components, if a path starts with these. -/
def stripNames : List (List Char) → List (List Char) → Option (List (List Char))
  | [], pieces => some pieces
  | _ :: _, [] => none
  | name :: names, piece :: pieces =>
    if isSilent piece then stripNames (name :: names) pieces
    else if piece = name then stripNames names pieces
    else none

/-- What remains of `child` below `base`, possibly empty. -/
def stripBase (base child : FilePath) : Option FilePath :=
  if base.anchor = .none ∧ base.names = [] then
    some (ofParts child.anchor (trimBody child.body))
  else if base.anchor = child.anchor then
    (stripNames base.names child.body).map fun pieces =>
      ofParts .none (trimBody (pieces.dropWhile isSilent))
  else
    none

/-- `child` relative to `base`, when it lies strictly below it. -/
def relativeTo (base child : FilePath) : Option FilePath :=
  match stripBase base child with
  | some rest => if rest.text = "" then none else some rest
  | none => none

/-- The enclosing directory; the root and the empty path have none. -/
def parent? (p : FilePath) : Option FilePath :=
  match trimBody p.body with
  | [] => if p.anchor = .current then some ⟨""⟩ else none
  | pieces => some (ofParts p.anchor (trimBody pieces.dropLast))

/-- `other` seen from the directory `base`; an absolute path stays as it is. -/
def append (base other : FilePath) : FilePath :=
  if other.isAbsolute then other
  else if base.text = "" ∨ base.text.toList.getLast? = some '/' then ⟨base.text ++ other.text⟩
  else ⟨base.text ++ "/" ++ other.text⟩

/-- The part of a file name after its last dot, unless that dot comes first. -/
def extension? (name : String) : Option String :=
  let reversed := name.toList.reverse
  let suffix := reversed.takeWhile (· ≠ '.')
  match reversed.drop suffix.length with
  | _ :: _ :: _ => some (String.ofList suffix.reverse)
  | _ => none

/-- The path as the part of a URI: slashes only, and absolute paths below the file scheme. -/
def toUri (p : FilePath) : String :=
  let text := p.text.map fun c => if c = '\\' then '/' else c
  if p.isAbsolute then "file://" ++ text else text

/-- The URI of a directory ends in a slash. -/
def toDirectoryUri (p : FilePath) : String :=
  let uri := p.toUri
  if uri.toList.getLast? = some '/' then uri else uri ++ "/"

end FilePath

end TemplateAudit
