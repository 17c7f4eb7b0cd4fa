import TemplateAudit.Expression.Evaluate

/-! # Descending into expressions

An expression is reached through conditions and through groups, so properties of all expressions
are proved by one induction over both. Evaluation is seen here as judging the body at the scopes
that survive the narrowing.
-/

namespace TemplateAudit

def Body.children : Body → List Expression
  | .operator _ => []
  | .group _ children => children

namespace Expression

/-- What follows for an expression from its condition and its children holds of all expressions. -/
@[elab_as_elim]
theorem descend {motive : Expression → Prop}
    (narrowed : ∀ resourceType path condition body,
      (∀ e, condition = some e → motive e) → (∀ e ∈ body.children, motive e) →
        motive (.narrowed resourceType path condition body))
    (e : Expression) : motive e :=
  @Expression.rec motive
    (fun body => ∀ e ∈ body.children, motive e)
    (fun condition => ∀ e, condition = some e → motive e)
    (fun children => ∀ e ∈ children, motive e)
    narrowed (fun _ => List.forall_mem_nil _) (fun _ _ ih => ih)
    (fun _ he => nomatch he) (fun _ ih _ he => Option.some.inj he ▸ ih)
    (List.forall_mem_nil _) (fun _ _ ih ihs => List.forall_mem_cons.mpr ⟨ih, ihs⟩) e

def body : Expression → Body
  | .narrowed _ _ _ body => body

/-- The scopes that narrowing by type, path and condition leaves, in their order. -/
def survivors (r : Resolver) : Expression → Scope → List Scope
  | .narrowed resourceType path condition _, s =>
    (narrowByPath r path (narrowByType r resourceType s)).filter (admits r condition)

variable {r : Resolver} {s : Scope}

theorem evaluate_eq_judge (e : Expression) :
    e.evaluate r s = judge r e.body (e.survivors r s) := by
  cases e with
  | narrowed _ _ _ _ => simp only [evaluate, body, survivors]

theorem of_mem_survivors {motive : Scope → Prop}
    (byType : ∀ s target, motive s → ∀ t ∈ r.resourcesOfType s target, motive t)
    (byPath : ∀ s p, motive s → ∀ t ∈ r.resolve s p, motive t) (hs : motive s) (e : Expression)
    {t : Scope} (ht : t ∈ e.survivors r s) : motive t := by
  cases e with
  | narrowed resourceType path condition b =>
    have htype : ∀ t ∈ narrowByType r resourceType s, motive t := by
      intro t ht
      cases resourceType with
      | none => exact List.mem_singleton.mp ht ▸ hs
      | some target => exact byType s target hs t ht
    have hnarrow := (List.mem_filter.mp ht).1
    cases path with
    | none => exact htype t hnarrow
    | some p =>
      obtain ⟨u, hu, ht⟩ := List.mem_flatMap.mp hnarrow
      exact byPath u p (htype u hu) t ht

theorem judge_nil (b : Body) : judge r b [] = .notApplicable := by
  cases b <;> rw [judge]

theorem judge_operator {op : Operator} {scopes : List Scope} (h : scopes ≠ []) :
    judge r (.operator op) scopes =
      .leaf (scopes.map fun s => ⟨op.holds s.value, r.lineOf s⟩) := by
  cases scopes with
  | nil => exact absurd rfl h
  | cons _ _ =>
    rw [judge]
    simp

theorem judge_group {quantifier : Quantifier} {children : List Expression}
    {scopes : List Scope} (h : scopes ≠ []) :
    judge r (.group quantifier children) scopes =
      .overScopes (scopes.map fun s => .combine quantifier (children.map (evaluate r · s))) := by
  cases scopes with
  | nil => exact absurd rfl h
  | cons _ _ =>
    rw [judge]
    · simp only [evaluateAll_eq_map]
    · simp

section Body

variable {e : Expression}

theorem evaluate_of_no_survivors (hs : e.survivors r s = []) :
    e.evaluate r s = .notApplicable := by
  rw [evaluate_eq_judge, hs, judge_nil]

theorem evaluate_of_operator {op : Operator} (hbody : e.body = .operator op)
    (hs : e.survivors r s ≠ []) :
    e.evaluate r s = .leaf ((e.survivors r s).map fun t => ⟨op.holds t.value, r.lineOf t⟩) := by
  rw [evaluate_eq_judge, hbody, judge_operator hs]

theorem evaluate_of_group {quantifier : Quantifier} {children : List Expression}
    (hbody : e.body = .group quantifier children) (hs : e.survivors r s ≠ []) :
    e.evaluate r s = .overScopes
      ((e.survivors r s).map fun t => .combine quantifier (children.map (evaluate r · t))) := by
  rw [evaluate_eq_judge, hbody, judge_group hs]

end Body

theorem admits_some {condition : Expression} :
    admits r (some condition) s =
      (!(condition.evaluate r s).noScopesFound && (condition.evaluate r s).passed) := by
  simp only [admits]

end Expression

end TemplateAudit
