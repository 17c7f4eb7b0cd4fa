import TemplateAudit.Number.Basic

/-! # Document values

The values of a document. Reading one lists the members of an object by increasing name, names
being compared by code points, and no name occurs twice; writing a member again replaces its value.
-/

namespace TemplateAudit

inductive Json where
  | null
  | bool (value : Bool)
  | number (value : Number)
  | string (value : String)
  | array (items : List Json)
  | object (members : List (String × Json))
  deriving Repr, Inhabited

namespace Json

/-- The members with one more, in order; a member of the same name is replaced. -/
def insertMember (name : String) (value : Json) : List (String × Json) → List (String × Json)
  | [] => [(name, value)]
  | (other, old) :: rest =>
    if name < other then (name, value) :: (other, old) :: rest
    else if name = other then (name, value) :: rest
    else (other, old) :: insertMember name value rest

/-- The object whose members were written in the given order. -/
def ofMembers (written : List (String × Json)) : Json :=
  .object (written.foldl (fun members m => insertMember m.1 m.2 members) [])

/-- The value of the member with exactly this name. -/
def lookup (name : String) : List (String × Json) → Option Json
  | [] => none
  | (other, value) :: rest => if other = name then some value else lookup name rest

theorem lookup_insertMember_self (name : String) (value : Json) (members : List (String × Json)) :
    lookup name (insertMember name value members) = some value := by
  induction members with
  | nil => simp [insertMember, lookup]
  | cons m rest ih =>
    obtain ⟨other, old⟩ := m
    by_cases hlt : name < other
    · simp [insertMember, lookup, hlt]
    · by_cases heq : name = other
      · subst heq
        simp [insertMember, lookup]
      · simp [insertMember, lookup, hlt, heq, Ne.symm heq, ih]

theorem lookup_insertMember_of_ne {name key : String} (h : key ≠ name) (value : Json)
    (members : List (String × Json)) :
    lookup key (insertMember name value members) = lookup key members := by
  induction members with
  | nil => simp [insertMember, lookup, Ne.symm h]
  | cons m rest ih =>
    obtain ⟨other, old⟩ := m
    by_cases hlt : name < other
    · simp [insertMember, lookup, hlt, Ne.symm h]
    · by_cases heq : name = other
      · subst heq
        simp [insertMember, lookup, Ne.symm h]
      · simp [insertMember, lookup, hlt, heq, ih]

def asArray? : Json → Option (List Json)
  | .array items => some items
  | _ => none

def asObject? : Json → Option (List (String × Json))
  | .object members => some members
  | _ => none

end Json

end TemplateAudit
