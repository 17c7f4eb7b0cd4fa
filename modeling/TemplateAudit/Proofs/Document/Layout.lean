import TemplateAudit.Json.Parser
import TemplateAudit.Proofs.Document.Walk

/-! # The layout of a text

The layout of a text is the document that it holds with every place where something begins, a
place being given by the characters from there to the end of the text. Objects list their members
as they are written, repeated names included. A layout is tied to its text by the rules by which
single tokens are read.
-/

namespace TemplateAudit

inductive Json.ScalarAt : Json → List Char → List Char → Prop where
  | null (rest : List Char) : ScalarAt .null ('n' :: 'u' :: 'l' :: 'l' :: rest) rest
  | true (rest : List Char) : ScalarAt (.bool true) ('t' :: 'r' :: 'u' :: 'e' :: rest) rest
  | false (rest : List Char) :
    ScalarAt (.bool false) ('f' :: 'a' :: 'l' :: 's' :: 'e' :: rest) rest
  | negative {chars rest : List Char} {n : Number} :
    readNumber true chars = .ok (n, rest) → ScalarAt (.number n) ('-' :: chars) rest
  | number {c : Char} {chars rest : List Char} {n : Number} : c.isDigit = true →
    readNumber false (c :: chars) = .ok (n, rest) → ScalarAt (.number n) (c :: chars) rest
  | string {chars s rest : List Char} :
    readString chars = .ok (s, rest) → ScalarAt (.string (.ofList s)) ('"' :: chars) rest

theorem Json.ScalarAt.isScalar {chars rest : List Char} {v : Json} (h : v.ScalarAt chars rest) :
    v.isScalar = Bool.true := by
  cases h <;> rfl

/-- A value with the beginnings of array items and of the quoted names of members. -/
inductive Layout where
  | scalar (value : Json) (plain : value.isScalar = true)
  | array (items : List (List Char × Layout))
  | object (members : List (String × List Char × Layout))

namespace Layout

open Json (skipSpace nextItem nextMember readString readColon)

@[elab_as_elim]
theorem descend {motive : Layout → Prop} (scalar : ∀ v plain, motive (.scalar v plain))
    (array : ∀ items, (∀ item ∈ items, motive item.2) → motive (.array items))
    (object : ∀ members, (∀ m ∈ members, motive m.2.2) → motive (.object members))
    (y : Layout) : motive y :=
  @Layout.rec motive
    (fun items => ∀ item ∈ items, motive item.2) (fun members => ∀ m ∈ members, motive m.2.2)
    (fun item => motive item.2) (fun m => motive m.2.2)
    scalar array object
    (List.forall_mem_nil _) (fun _ _ ih ihs => List.forall_mem_cons.mpr ⟨ih, ihs⟩)
    (List.forall_mem_nil _) (fun _ _ ih ihs => List.forall_mem_cons.mpr ⟨ih, ihs⟩)
    (fun _ _ ih => ih) (fun _ _ ih => ih) y

mutual

/-- The document without its places; of a repeated name the last value stays. -/
def value : Layout → Json
  | .scalar v _ => v
  | .array items => .array (itemValues items)
  | .object members => .ofMembers (memberValues members)

def itemValues : List (List Char × Layout) → List Json
  | [] => []
  | (_, y) :: rest => value y :: itemValues rest

def memberValues : List (String × List Char × Layout) → List (String × Json)
  | [] => []
  | (name, _, y) :: rest => (name, value y) :: memberValues rest

end

mutual

/-- The characters begin with a text of this layout, and the rest comes after it. -/
def ReadAt : Layout → List Char → List Char → Prop
  | .scalar v _, chars, rest => v.ScalarAt chars rest
  | .array items, chars, rest =>
    ∃ inside, chars = '[' :: inside ∧ ItemsReadAt items true inside rest
  | .object members, chars, rest =>
    ∃ inside, chars = '\x7b' :: inside ∧ MembersReadAt members true inside rest

def ItemsReadAt : List (List Char × Layout) → Bool → List Char → List Char → Prop
  | [], first, chars, rest => nextItem first chars = .ok (false, rest)
  | (start, y) :: items, first, chars, rest =>
    nextItem first chars = .ok (true, start) ∧
      ∃ after, ReadAt y start after ∧ ItemsReadAt items false after rest

def MembersReadAt : List (String × List Char × Layout) → Bool → List Char → List Char → Prop
  | [], first, chars, rest => nextMember first chars = .ok (false, rest)
  | (name, quote, y) :: members, first, chars, rest =>
    ∃ inside afterName afterColon after,
      nextMember first chars = .ok (true, inside) ∧ quote = '"' :: inside ∧
      readString inside = .ok (name.toList, afterName) ∧
      readColon afterName = .ok ((), afterColon) ∧
      ReadAt y (skipSpace afterColon) after ∧ MembersReadAt members false after rest

end

def IsOf (y : Layout) (text : List Char) : Prop :=
  ∃ rest, ReadAt y (skipSpace text) rest ∧ skipSpace rest = []

/-- A part of a value, and where it begins: an item at its first character, and a member at the
quote before its name. Of a repeated name it is the last member. -/
def child? : Layout → Step → Option (List Char × Layout)
  | .array items, .index position => items[position]?
  | .object members, .key name => lastFor? name members
  | _, _ => none

def place? (start : List Char) (y : Layout) : List Step → Option (List Char × Layout)
  | [] => some (start, y)
  | step :: rest => (y.child? step).bind fun part => place? part.1 part.2 rest

inductive NoRepeats : Layout → Prop where
  | scalar (v : Json) (plain : v.isScalar = true) : NoRepeats (.scalar v plain)
  | array {items : List (List Char × Layout)} :
    (∀ item ∈ items, NoRepeats item.2) → NoRepeats (.array items)
  | object {members : List (String × List Char × Layout)} : (members.map (·.1)).Nodup →
    (∀ m ∈ members, NoRepeats m.2.2) → NoRepeats (.object members)

theorem itemValues_eq_map (items : List (List Char × Layout)) :
    itemValues items = items.map fun item => item.2.value := by
  induction items with
  | nil => rfl
  | cons item rest ih => rw [itemValues, ih, List.map_cons]

theorem memberValues_eq_map (members : List (String × List Char × Layout)) :
    memberValues members = members.map fun m => (m.1, m.2.2.value) := by
  induction members with
  | nil => rfl
  | cons m rest ih => rw [memberValues, ih, List.map_cons]

theorem child?_value (y : Layout) (step : Step) :
    y.value.child? step = (y.child? step).map fun part => part.2.value := by
  cases y with
  | scalar v plain => rw [value, Json.child?_of_isScalar plain, child?] <;> simp
  | array items =>
    cases step with
    | key name => rfl
    | index position =>
      rw [value, Json.child?, child?, itemValues_eq_map, List.getElem?_map]
  | object members =>
    cases step with
    | key name =>
      rw [value, Json.ofMembers, Json.child?, Json.lookup_foldl_insertMember, child?,
        memberValues_eq_map, Json.lookup, Option.or_none, ← lastFor?_map]
    | index position => rfl

/-- A location exists in a document exactly if the layout has a place for it. -/
theorem at?_value (start : List Char) (y : Layout) (steps : List Step) :
    y.value.at? steps = (y.place? start steps).map fun p => p.2.value := by
  induction steps generalizing start y with
  | nil => simp [place?]
  | cons step rest ih =>
    rw [Json.at?_cons, child?_value, place?]
    cases y.child? step with
    | none => rfl
    | some part => exact ih part.1 part.2

end Layout

end TemplateAudit
