/-! # Locations

The place of a value in a document: the member names and element indexes on the way from the
root. Locations are ordered step by step, a name before an index and a location before those
below it.
-/

namespace TemplateAudit

inductive Step where
  | key (name : String)
  | index (position : Nat)
  deriving DecidableEq, Repr

namespace Step

/-- Names come before indexes and are compared by code points. -/
def compare : Step → Step → Ordering
  | .key a, .key b => Ord.compare a b
  | .key _, .index _ => .lt
  | .index _, .key _ => .gt
  | .index a, .index b => Ord.compare a b

instance : Ord Step := ⟨compare⟩

end Step

structure Location where
  steps : List Step
  deriving DecidableEq, Repr

namespace Location

def root : Location := ⟨[]⟩

def isRoot (l : Location) : Bool := l.steps.isEmpty

def key (l : Location) (name : String) : Location := ⟨l.steps ++ [.key name]⟩

def index (l : Location) (position : Nat) : Location := ⟨l.steps ++ [.index position]⟩

/-- The enclosing location; the root has none. -/
def parent? (l : Location) : Option Location :=
  if l.steps = [] then none else some ⟨l.steps.dropLast⟩

/-- The enclosing locations, nearest first. -/
def ancestors (l : Location) : List Location :=
  (List.range l.steps.length).reverse.map fun n => ⟨l.steps.take n⟩

@[simp] theorem steps_key (l : Location) (name : String) :
    (l.key name).steps = l.steps ++ [.key name] := rfl

@[simp] theorem steps_index (l : Location) (i : Nat) :
    (l.index i).steps = l.steps ++ [.index i] := rfl

@[simp] theorem parent?_root : root.parent? = none := rfl

@[simp] theorem parent?_key (l : Location) (name : String) : (l.key name).parent? = some l := by
  simp [parent?]

@[simp] theorem parent?_index (l : Location) (i : Nat) : (l.index i).parent? = some l := by
  simp [parent?]

@[simp] theorem isRoot_iff {l : Location} : l.isRoot = true ↔ l = root := by
  cases l
  simp [isRoot, root]

theorem mem_ancestors {l a : Location} :
    a ∈ l.ancestors ↔ ∃ rest, rest ≠ [] ∧ l.steps = a.steps ++ rest := by
  cases a with
  | mk steps =>
    simp only [ancestors, List.mem_map, List.mem_reverse, List.mem_range, mk.injEq]
    constructor
    · rintro ⟨n, hn, rfl⟩
      exact ⟨l.steps.drop n, by simp [hn], (List.take_append_drop n l.steps).symm⟩
    · rintro ⟨rest, hne, h⟩
      refine ⟨steps.length, ?_, by simp [h]⟩
      simp [h, List.length_pos_iff.mpr hne]

def displaySteps : List Step → String
  | [] => ""
  | .key name :: rest => "." ++ name ++ displaySteps rest
  | .index i :: rest => "[" ++ toString i ++ "]" ++ displaySteps rest

/-- The location in the notation of paths; the root is a dollar sign. -/
def display (l : Location) : String :=
  match l.steps with
  | [] => "$"
  | .key name :: rest => name ++ displaySteps rest
  | steps => displaySteps steps

def compareSteps : List Step → List Step → Ordering
  | [], [] => .eq
  | [], _ :: _ => .lt
  | _ :: _, [] => .gt
  | a :: as, b :: bs => (a.compare b).then (compareSteps as bs)

def compare (a b : Location) : Ordering := compareSteps a.steps b.steps

instance : Ord Location := ⟨compare⟩

end Location

end TemplateAudit
