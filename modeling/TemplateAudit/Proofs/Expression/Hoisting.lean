import TemplateAudit.Proofs.Expression.ScopeByScope
import TemplateAudit.Proofs.Scope.Joined

/-! # Hoisting the beginning of a path

Scopes that share the beginning of a path can be reached in two steps: by an expression for that
beginning, with one for the rest of the path inside. The inner one judges the scopes that one step
reaches at once, in groups with a common beginning, and is not applicable at beginnings that the
rest does not lead on from. Neither shows in the outcome or in the findings.
-/

namespace TemplateAudit

namespace Expression

open Evaluation

variable {r : Resolver} {s : Scope}

section Single

variable (r) (child : Expression) (s : Scope)

theorem passed_judge_single :
    (judge r (.group .allOf [child]) [s]).passed = (child.evaluate r s).passed := by
  rw [judge_group_singleton, passed_combine_allOf]
  simp

theorem findings_judge_single :
    (judge r (.group .allOf [child]) [s]).findings = (child.evaluate r s).findings := by
  rw [judge_group_singleton, findings_combine_allOf]
  simp

end Single

section Hoisted

variable (resourceType : Option String) (p q : Path) (condition : Option Expression) (b : Body)
variable (lineOf : Scope → Nat) (raw : String) (s : Scope)

theorem narrowByPath_append (scopes : List Scope) :
    narrowByPath ⟨Scope.resolve, Scope.resourcesOfType, lineOf⟩
        (some ⟨raw, p.segments ++ q.segments⟩) scopes =
      (narrowByPath ⟨Scope.resolve, Scope.resourcesOfType, lineOf⟩ (some p) scopes).flatMap
        fun s => s.resolve q := by
  simp only [narrowByPath, List.flatMap_assoc, Scope.resolve_append]

/-- The scopes left at the end of a path are those that are left by its second part, at each of
the scopes that its first part leads to. -/
theorem survivors_append :
    let r : Resolver := ⟨Scope.resolve, Scope.resourcesOfType, lineOf⟩
    (narrowed resourceType (some ⟨raw, p.segments ++ q.segments⟩) condition b).survivors r s =
      ((narrowed resourceType (some p) none b).survivors r s).flatMap
        fun t => (narrowed none (some q) condition b).survivors r t := by
  intro r
  have hall : ∀ t, admits r none t = true := fun t => by rw [admits]
  have hsingle : ∀ t, narrowByPath r (some q) (narrowByType r none t) = t.resolve q := fun t => by
    simp only [narrowByPath, narrowByType, List.flatMap_singleton, r]
  simp only [survivors, narrowByPath_append, hsingle, List.filter_flatMap,
    List.filter_eq_self.mpr fun t _ => hall t, r]

theorem evaluate_hoisted :
    let r : Resolver := ⟨Scope.resolve, Scope.resourcesOfType, lineOf⟩
    let hoisted : Evaluation := (narrowed resourceType (some p) none
      (.group .allOf [narrowed none (some q) condition b])).evaluate r s
    let flat : Evaluation := (narrowed resourceType (some ⟨raw, p.segments ++ q.segments⟩)
      condition b).evaluate r s
    hoisted.passed = flat.passed ∧ hoisted.findings = flat.findings := by
  intro r hoisted flat
  have happend := survivors_append resourceType p q condition b lineOf raw s
  constructor
  · calc hoisted.passed
      _ = ((narrowed resourceType (some p) none b).survivors r s).all fun t =>
            ((narrowed none (some q) condition b).survivors r t).all fun u =>
              (judge r b [u]).passed := by
          rw [passed_evaluate]
          simp only [body, passed_judge_single,
            passed_evaluate (narrowed none (some q) condition b)]
          -- The scopes that are left do not depend on the body.
          rfl
      _ = flat.passed := by rw [← List.all_flatMap, ← happend, passed_evaluate, body]
  · calc hoisted.findings
      _ = ((narrowed resourceType (some p) none b).survivors r s).flatMap fun t =>
            ((narrowed none (some q) condition b).survivors r t).flatMap fun u =>
              (judge r b [u]).findings := by
          rw [findings_evaluate]
          simp only [body, findings_judge_single,
            findings_evaluate (narrowed none (some q) condition b)]
          rfl
      _ = flat.findings := by rw [← List.flatMap_assoc, ← happend, findings_evaluate, body]

end Hoisted

/-- An expression for a path that is joined from two has the outcome, and the failed results of a
failure in their order, that it has with the second path in a conjunction below the first one. -/
theorem failingResults_hoisted {text other : String} {p q : Path} (hp : Path.parse text = .ok p)
    (hq : Path.parse other = .ok q) (htext : Text.trim text.toList = text.toList)
    (hother : Text.trim other.toList = other.toList) :
    ∃ joined, Path.parse (text ++ "." ++ other) = .ok joined ∧
      ∀ (lineOf : Scope → Nat) (resourceType : Option String) (condition : Option Expression)
        (b : Body) (s : Scope),
        let r : Resolver := ⟨Scope.resolve, Scope.resourcesOfType, lineOf⟩
        let hoisted : Evaluation := (narrowed resourceType (some p) none
          (.group .allOf [narrowed none (some q) condition b])).evaluate r s
        let flat : Evaluation := (narrowed resourceType (some joined) condition b).evaluate r s
        hoisted.passed = flat.passed ∧
          (flat.passed = false → hoisted.failingResults = flat.failingResults) := by
  refine ⟨_, Path.parse_joined hp hq htext hother, ?_⟩
  intro lineOf resourceType condition b s r hoisted flat
  obtain ⟨hpassed, hfindings⟩ :=
    evaluate_hoisted resourceType p q condition b lineOf (text ++ "." ++ other) s
  refine ⟨hpassed, fun hfailed => ?_⟩
  calc hoisted.failingResults
    _ = hoisted.findings := (findings_of_failed (hpassed.trans hfailed)).symm
    _ = flat.findings := hfindings
    _ = flat.failingResults := findings_of_failed hfailed

/-- Two accounts with two rules each: of the two rules that are open to everyone, each is found
either way. -/
theorem failingResults_hoisted_rules :
    let p : Path := ⟨"accounts[*]", [.property "accounts", .wildcard]⟩
    let q : Path := ⟨"rules[*].from", [.property "rules", .wildcard, .property "from"]⟩
    let r : Resolver := ⟨Scope.resolve, Scope.resourcesOfType, fun s => s.location.steps.length⟩
    let rules (first second : String) : Json := .object [("rules", .array
      [.object [("from", .string first)], .object [("from", .string second)]])]
    let s : Scope := .root (.object [("accounts", .array [rules "any" "here", rules "here" "any"])])
    let closed : Body := .operator (.notEquals (.string "any"))
    let hoisted : Evaluation := (narrowed none (some p) none
      (.group .allOf [narrowed none (some q) none closed])).evaluate r s
    ∃ joined, Path.parse "accounts[*].rules[*].from" = .ok joined ∧
      ((narrowed none (some joined) none closed).evaluate r s).passed = false ∧
      hoisted.failingResults = [⟨false, 5⟩, ⟨false, 5⟩] ∧
      ((narrowed none (some joined) none closed).evaluate r s).failingResults =
        [⟨false, 5⟩, ⟨false, 5⟩] := by
  intro p q r rules s closed hoisted
  have hp : Path.parse "accounts[*]" = .ok p := by rfl
  have hq : Path.parse "rules[*].from" = .ok q := by rfl
  have hp' : Text.trim "accounts[*]".toList = "accounts[*]".toList := by rfl
  have hq' : Text.trim "rules[*].from".toList = "rules[*].from".toList := by rfl
  obtain ⟨joined, hjoined, hhoisted⟩ := failingResults_hoisted hp hq hp' hq'
  obtain ⟨hpassed, hresults⟩ := hhoisted r.lineOf none none closed s
  have hfound : hoisted.failingResults = [⟨false, 5⟩, ⟨false, 5⟩] := by rfl
  have hfailed : hoisted.passed = false := by rfl
  have hflat := hpassed.symm.trans hfailed
  exact ⟨joined, hjoined, hflat, hfound, (hresults hflat).symm.trans hfound⟩

end Expression

end TemplateAudit
