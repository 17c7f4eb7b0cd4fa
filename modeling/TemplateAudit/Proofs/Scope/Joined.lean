import TemplateAudit.Proofs.Path.Reading
import TemplateAudit.Resolver

/-! # Resolving joined paths

A path leads on from every scope by itself, so going level by level from several scopes at once
gives what each of them gives alone, in order. Hence a path that is joined from two, by a dot or by
the bracket that the second one begins with, leads where the second one leads from each of the
scopes that the first one leads to.
-/

namespace TemplateAudit.Scope

variable {s : Scope} {p q : Path}

theorem follow_append (scopes : List Scope) (segments more : List Segment) :
    follow scopes (segments ++ more) = follow (follow scopes segments) more := by
  induction segments generalizing scopes with
  | nil => rfl
  | cons segment rest ih => rw [List.cons_append, follow, follow, ih]

theorem follow_eq_flatMap (scopes : List Scope) (segments : List Segment) :
    follow scopes segments = scopes.flatMap fun s => follow [s] segments := by
  induction segments generalizing scopes with
  | nil => simp [follow]
  | cons segment rest ih =>
    simp only [follow, List.flatMap_singleton]
    rw [ih, List.flatMap_assoc]
    apply List.flatMap_congr
    intro s _
    exact (ih (s.step segment)).symm

theorem resolve_append (raw : String) :
    s.resolve ⟨raw, p.segments ++ q.segments⟩ = (s.resolve p).flatMap fun t => t.resolve q := by
  rw [resolve, follow_append, follow_eq_flatMap]
  rfl

/-- A text that joins two paths, by a dot or right before a bracket, is a path that takes the steps
of both, and from every scope it leads where the second one leads from each scope of the first. -/
theorem resolve_joined {text other : String} (hp : Path.parse text = .ok p)
    (hq : Path.parse other = .ok q) (htext : Text.trim text.toList = text.toList)
    (hother : Text.trim other.toList = other.toList) (joined : String)
    (hjoined : joined = text ++ "." ++ other ∨
      joined = text ++ other ∧ other.toList.head? = some '[') :
    ∃ path, Path.parse joined = .ok path ∧ path.segments = p.segments ++ q.segments ∧
      ∀ s : Scope, s.resolve path = (s.resolve p).flatMap fun t => t.resolve q := by
  refine ⟨⟨joined, p.segments ++ q.segments⟩, ?_, rfl, fun s => resolve_append joined⟩
  obtain rfl | ⟨rfl, hbracket⟩ := hjoined
  · exact Path.parse_joined hp hq htext hother
  · exact Path.parse_followed hp hq htext hother hbracket

/-- The first elements of two lists, one of which is empty. -/
theorem resolve_joined_elements :
    let p : Path := ⟨"lists[*]", [.property "lists", .wildcard]⟩
    let q : Path := ⟨"[0]", [.index 0]⟩
    let s : Scope := .root (.object [("lists", .array [.array [.bool true], .array []])])
    let element (i : Nat) (value : Option Json) : Scope :=
      ⟨⟨[.key "lists", .index i, .index 0]⟩, value⟩
    Path.parse "lists[*]" = .ok p ∧ Path.parse "[0]" = .ok q ∧
      (s.resolve p).flatMap (fun t => t.resolve q) =
        [element 0 (some (.bool true)), element 1 none] ∧
      ∀ joined ∈ ["lists[*].[0]", "lists[*][0]"], ∃ path, Path.parse joined = .ok path ∧
        s.resolve path = [element 0 (some (.bool true)), element 1 none] := by
  intro p q s element
  have hp : Path.parse "lists[*]" = .ok p := by rfl
  have hq : Path.parse "[0]" = .ok q := by rfl
  have hlead : (s.resolve p).flatMap (fun t => t.resolve q) =
      [element 0 (some (.bool true)), element 1 none] := by rfl
  refine ⟨hp, hq, hlead, fun joined hjoined => ?_⟩
  obtain ⟨path, hpath, -, hresolve⟩ := resolve_joined hp hq (by rfl) (by rfl) joined (by
    rcases List.mem_pair.mp hjoined with rfl | rfl
    · exact .inl rfl
    · exact .inr ⟨rfl, rfl⟩)
  exact ⟨path, hpath, (hresolve s).trans hlead⟩

end TemplateAudit.Scope
