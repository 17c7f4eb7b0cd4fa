import TemplateAudit.Location
import TemplateAudit.Proofs.Document.LastWritten

/-! # Walking a document

The steps of a location are walked from the root with exact names and indexes. A location exists
in a document if that succeeds. In a document that was read the members of every object are
ordered by name, so that every member is found under its own name.
-/

namespace TemplateAudit.Json

def isScalar : Json → Bool
  | .array _ => false
  | .object _ => false
  | _ => true

/-- What follows for a value from its parts holds of all values. -/
@[elab_as_elim]
theorem descend {motive : Json → Prop} (scalar : ∀ v, v.isScalar = true → motive v)
    (array : ∀ items, (∀ item ∈ items, motive item) → motive (.array items))
    (object : ∀ members, (∀ m ∈ members, motive m.2) → motive (.object members))
    (v : Json) : motive v :=
  @Json.rec motive (fun items => ∀ item ∈ items, motive item)
    (fun members => ∀ m ∈ members, motive m.2) (fun m => motive m.2)
    (scalar .null rfl) (fun b => scalar (.bool b) rfl) (fun n => scalar (.number n) rfl)
    (fun s => scalar (.string s) rfl) array object
    (List.forall_mem_nil _) (fun _ _ ih ihs => List.forall_mem_cons.mpr ⟨ih, ihs⟩)
    (List.forall_mem_nil _) (fun _ _ ih ihs => List.forall_mem_cons.mpr ⟨ih, ihs⟩)
    (fun _ _ ih => ih) v

def child? : Json → Step → Option Json
  | .object members, .key name => lookup name members
  | .array items, .index position => items[position]?
  | _, _ => none

def at? (v : Json) : List Step → Option Json
  | [] => some v
  | step :: rest => (v.child? step).bind fun child => child.at? rest

theorem child?_of_isScalar {v : Json} (h : v.isScalar = true) (step : Step) :
    v.child? step = none := by
  cases v <;> first | rfl | exact nomatch h

@[simp] theorem at?_nil (v : Json) : v.at? [] = some v := by rw [at?]

theorem at?_cons (v : Json) (step : Step) (rest : List Step) :
    v.at? (step :: rest) = (v.child? step).bind fun child => child.at? rest := by rw [at?]

theorem at?_append (v : Json) (steps rest : List Step) :
    v.at? (steps ++ rest) = (v.at? steps).bind fun child => child.at? rest := by
  induction steps generalizing v with
  | nil => rfl
  | cons step steps ih =>
    rw [List.cons_append, at?_cons, at?_cons, Option.bind_assoc]
    simp only [ih]

theorem at?_concat (v : Json) (steps : List Step) (step : Step) :
    v.at? (steps ++ [step]) = (v.at? steps).bind fun child => child.child? step := by
  rw [at?_append]
  congr 1
  funext child
  rw [at?_cons]
  cases child.child? step <;> rfl

def Has (document : Json) (l : Location) : Prop := (document.at? l.steps).isSome = true

/-- A document in which the members of every object are ordered by name. -/
inductive Ordered : Json → Prop where
  | null : Ordered .null
  | bool (value : Bool) : Ordered (.bool value)
  | number (value : Number) : Ordered (.number value)
  | string (value : String) : Ordered (.string value)
  | array {items : List Json} : (∀ item ∈ items, Ordered item) → Ordered (.array items)
  | object {members : List (String × Json)} : (members.map (·.1)).Pairwise (· < ·) →
      (∀ m ∈ members, Ordered m.2) → Ordered (.object members)

theorem ordered_of_isScalar {v : Json} (h : v.isScalar = true) : v.Ordered := by
  cases v with
  | null => exact .null
  | bool b => exact .bool b
  | number n => exact .number n
  | string s => exact .string s
  | array items => exact nomatch h
  | object members => exact nomatch h

theorem Ordered.names {members : List (String × Json)} (h : (Json.object members).Ordered) :
    (members.map (·.1)).Pairwise (· < ·) := by
  cases h
  assumption

theorem lookup_of_mem {members : List (String × Json)}
    (ho : (members.map (·.1)).Pairwise (· < ·)) {name : String} {value : Json}
    (hm : (name, value) ∈ members) : lookup name members = some value := by
  induction members with
  | nil => exact absurd hm List.not_mem_nil
  | cons m rest ih =>
    rw [List.map_cons, List.pairwise_cons] at ho
    rcases List.mem_cons.mp hm with rfl | hm
    · rw [lookup, if_pos rfl]
    · have hlt : m.1 < name := ho.1 name (List.mem_map.mpr ⟨_, hm, rfl⟩)
      rw [lookup, if_neg (fun he => String.lt_irrefl _ (he ▸ hlt)), ih ho.2 hm]

end TemplateAudit.Json
