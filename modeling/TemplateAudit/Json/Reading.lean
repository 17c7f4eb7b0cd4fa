import TemplateAudit.Json.Error

/-! # Readings

Reading a part of a text gives its value and the characters after it, or the first fault. Readings
are chained by handing those characters on.
-/

namespace TemplateAudit.Json

abbrev Reading (α : Type) := Except Failure (α × List Char)

/-- The fault of the character looked at, if there is one. -/
def failAt {α : Type} (fault : Fault) (rest : List Char) : Reading α := .error ⟨fault, rest, 1⟩

namespace Reading

variable {α β : Type}

/-- Goes on with the value read and the characters after it. -/
def andThen (r : Reading α) (next : α → List Char → Reading β) : Reading β :=
  match r with
  | .ok (value, rest) => next value rest
  | .error f => .error f

def mapValue (f : α → β) (r : Reading α) : Reading β :=
  r.andThen fun value rest => .ok (f value, rest)

@[simp] theorem andThen_ok (value : α) (rest : List Char) (next : α → List Char → Reading β) :
    andThen (.ok (value, rest)) next = next value rest := rfl

@[simp] theorem andThen_error (f : Failure) (next : α → List Char → Reading β) :
    andThen (.error f) next = .error f := rfl

@[simp] theorem mapValue_ok (f : α → β) (value : α) (rest : List Char) :
    mapValue f (.ok (value, rest)) = .ok (f value, rest) := rfl

@[simp] theorem mapValue_error (f : α → β) (e : Failure) :
    mapValue f (.error e) = .error e := rfl

theorem andThen_eq_ok_iff {r : Reading α} {next : α → List Char → Reading β}
    {result : β × List Char} :
    r.andThen next = .ok result ↔
      ∃ value rest, r = .ok (value, rest) ∧ next value rest = .ok result := by
  rcases r with f | ⟨value, rest⟩
  · simp
  · constructor
    · intro h
      exact ⟨value, rest, rfl, h⟩
    · rintro ⟨_, _, he, h⟩
      cases he
      exact h

end Reading

end TemplateAudit.Json
