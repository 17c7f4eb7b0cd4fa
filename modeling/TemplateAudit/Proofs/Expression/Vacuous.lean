import TemplateAudit.Engine
import TemplateAudit.Proofs.Evaluation.Chains
import TemplateAudit.Proofs.Expression.Descent

/-! # Failures without findings

A failed evaluation is suppressed if it has no failed result to point at. Every chain of failed
nodes in the evaluation of an expression ends at a failed result, or at an `anyOf` none of whose
children was applicable at its scope. Only failures of the second kind alone are suppressed, and
there are none without `anyOf`.
-/

namespace TemplateAudit

/-- Where members stand among the children of a node that is there only if there are several. -/
inductive Placed {α : Type} : List α → List Nat → α → Prop where
  | alone (a : α) : Placed [a] [] a
  | several {as : List α} {position : Nat} {a : α} : 2 ≤ as.length → as[position]? = some a →
      Placed as [position] a

theorem Placed.of_map {α β : Type} {f : α → β} {as : List α} {path : List Nat} {b : β}
    (h : Placed (as.map f) path b) : ∃ a, Placed as path a ∧ f a = b := by
  generalize hbs : as.map f = bs at h
  cases h with
  | alone b =>
    obtain ⟨a, rfl, rfl⟩ := List.map_eq_singleton_iff.mp hbs
    exact ⟨a, .alone a, rfl⟩
  | several hlength hposition =>
    subst hbs
    rw [List.length_map] at hlength
    rw [List.getElem?_map, Option.map_eq_some_iff] at hposition
    obtain ⟨a, ha, rfl⟩ := hposition
    exact ⟨a, .several hlength ha, rfl⟩

theorem Placed.map {α β : Type} (f : α → β) {as : List α} {path : List Nat} {a : α}
    (h : Placed as path a) : Placed (as.map f) path (f a) := by
  cases h with
  | alone a => exact .alone (f a)
  | several hlength hposition =>
    refine .several (by rwa [List.length_map]) ?_
    rw [List.getElem?_map, hposition, Option.map_some]

namespace Evaluation

variable {e last : Evaluation} {es : List Evaluation} {path rest : List Nat}

def at? : Evaluation → List Nat → Option Evaluation
  | e, [] => some e
  | e, position :: rest => e.evaluations[position]?.bind (at? · rest)

theorem FailedChain.at? (h : e.FailedChain path last) : e.at? path = some last := by
  induction h with
  | last _ _ => rfl
  | step _ hposition _ ih => rw [Evaluation.at?, hposition, Option.bind_some, ih]

theorem FailedChain.last_failed (h : e.FailedChain path last) : last.passed = false := by
  induction h with
  | last hfailed _ => exact hfailed
  | step _ _ _ ih => exact ih

theorem FailedChain.exists_failed_result {results : List RuleResult}
    (h : e.FailedChain path (leaf results)) : ∃ result ∈ results, result.passed = false := by
  obtain ⟨result, hresult, hfailed⟩ := List.all_eq_false.mp h.last_failed
  exact ⟨result, hresult, Bool.eq_false_iff.mpr hfailed⟩

theorem at?_append {path' : List Nat} (h : e.at? path = some last) :
    e.at? (path ++ path') = last.at? path' := by
  induction path generalizing e with
  | nil =>
    obtain rfl : e = last := Option.some.inj h
    rfl
  | cons position rest ih =>
    obtain ⟨child, hchild, h⟩ := Option.bind_eq_some_iff.mp h
    rw [List.cons_append, at?, hchild, Option.bind_some, ih h]

theorem at?_overScopes (h : Placed es path e) : (overScopes es).at? path = some e := by
  cases h with
  | alone e => rfl
  | several hlength hposition =>
    match es, hlength with
    | _ :: _ :: _, _ =>
      rw [overScopes, at?, evaluations_combined, hposition]
      · rfl
      · simp

theorem FailedChain.of_overScopes (h : (overScopes es).FailedChain path last) :
    ∃ position rest e, path = position ++ rest ∧ Placed es position e ∧
      e.FailedChain rest last := by
  match es, h with
  | [e], h => exact ⟨[], path, e, rfl, .alone e, h⟩
  | [], h => exact absurd h.failed (by decide)
  | e :: e' :: rest, h =>
    cases h with
    | last hfailed hall => exact absurd (List.all_eq_true.mpr hall) (Bool.eq_false_iff.mp hfailed)
    | step _ hposition hchain =>
      exact ⟨[_], _, _, rfl, .several (by simp) hposition, hchain⟩

/-- A combination without failed children fails only if it needs a child that passes and none is
applicable. -/
theorem FailedChain.of_combine {quantifier : Quantifier}
    (h : (combine quantifier es).FailedChain path last) :
    (path = [] ∧ last = .combined false [] ∧ quantifier = .anyOf ∧
      ∀ e ∈ es, e.noScopesFound = true) ∨
    ∃ position rest e, path = position :: rest ∧
      (es.filter fun e => !e.noScopesFound)[position]? = some e ∧ e.FailedChain rest last := by
  cases h with
  | step _ hposition hchain => exact .inr ⟨_, _, _, rfl, hposition, hchain⟩
  | last hfailed hall =>
    left
    cases quantifier with
    | allOf =>
      have hpassed : (combine .allOf es).passed = true := by
        rw [combine, passed_combined, Quantifier.combine, List.all_map]
        exact List.all_eq_true.mpr hall
      exact absurd hpassed (Bool.eq_false_iff.mp hfailed)
    | anyOf =>
      have hnone : (es.filter fun e => !e.noScopesFound) = [] := by
        rw [List.eq_nil_iff_forall_not_mem]
        intro e he
        have hpassed : (combine .anyOf es).passed = true := by
          rw [combine, passed_combined, Quantifier.combine, List.any_map]
          exact List.any_eq_true.mpr ⟨e, he, hall e he⟩
        exact absurd hpassed (Bool.eq_false_iff.mp hfailed)
      refine ⟨rfl, ?_, rfl, by simpa using hnone⟩
      rw [combine, hnone]
      rfl

theorem Strict.overScopes (hes : ∀ e ∈ es, e.Strict) : (overScopes es).Strict := by
  unfold Evaluation.overScopes
  split
  · exact hes _ (List.mem_singleton.mpr rfl)
  · exact .combined (fun hpassed e he => List.all_eq_true.mp hpassed e he) hes

theorem Strict.combine_allOf (hes : ∀ e ∈ es, e.Strict) : (combine .allOf es).Strict := by
  refine .combined (fun hpassed e he => ?_) fun e he => hes e (List.mem_of_mem_filter he)
  rw [Quantifier.combine, List.all_map] at hpassed
  exact List.all_eq_true.mp hpassed e he

end Evaluation

namespace Expression

variable {r : Resolver}

/-- At a position of the evaluation of an expression at a scope stands what a group of children
says about one scope; positions count the applicable children only. -/
inductive GroupAt (r : Resolver) :
    Expression → Scope → List Nat → Quantifier → List Expression → Scope → Prop where
  | here {e : Expression} {s t : Scope} {path : List Nat} {quantifier : Quantifier}
      {children : List Expression} : e.body = .group quantifier children →
      Placed (e.survivors r s) path t → GroupAt r e s path quantifier children t
  | inside {e child : Expression} {s t u : Scope} {position : Nat} {path rest : List Nat}
      {quantifier quantifier' : Quantifier} {children children' : List Expression} :
      GroupAt r e s path quantifier children t →
      (children.filter fun c => !(c.evaluate r t).noScopesFound)[position]? = some child →
      GroupAt r child t rest quantifier' children' u →
      GroupAt r e s (path ++ position :: rest) quantifier' children' u

variable {e : Expression} {s t : Scope} {path : List Nat} {last : Evaluation}
  {quantifier : Quantifier} {children : List Expression}

theorem survivors_ne_nil_of_placed (h : Placed (e.survivors r s) path t) :
    e.survivors r s ≠ [] := by
  intro hnil
  rw [hnil] at h
  cases h with
  | several _ hposition => exact nomatch hposition

theorem at?_evaluate_of_placed (hbody : e.body = .group quantifier children)
    (h : Placed (e.survivors r s) path t) :
    (e.evaluate r s).at? path = some (.combine quantifier (children.map (evaluate r · t))) := by
  rw [evaluate_of_group hbody (survivors_ne_nil_of_placed h)]
  exact Evaluation.at?_overScopes (h.map _)

theorem GroupAt.at? (h : GroupAt r e s path quantifier children t) :
    (e.evaluate r s).at? path = some (.combine quantifier (children.map (evaluate r · t))) := by
  induction h with
  | here hbody hplaced => exact at?_evaluate_of_placed hbody hplaced
  | @inside _ child _ t _ position _ _ _ _ children _ _ hposition _ ih ih' =>
    have happlicable : ((children.map (evaluate r · t)).filter
        fun e => !e.noScopesFound)[position]? = some (child.evaluate r t) := by
      rw [List.filter_map, List.getElem?_map]
      exact congrArg (Option.map _) hposition
    rw [Evaluation.at?_append ih, Evaluation.at?, Evaluation.combine,
      Evaluation.evaluations_combined, happlicable, Option.bind_some, ih']

/-- An `anyOf` that fails at the end of a chain because none of its children was applicable. -/
def EndsVacuously (r : Resolver) (e : Expression) (s : Scope) (path : List Nat)
    (last : Evaluation) : Prop :=
  last = .combined false [] ∧ ∃ children t, GroupAt r e s path .anyOf children t ∧
    last = .combine .anyOf (children.map (evaluate r · t)) ∧
    ∀ child ∈ children, (child.evaluate r t).noScopesFound = true

theorem EndsVacuously.inside {child : Expression} {position : Nat} {rest : List Nat}
    (hgroup : GroupAt r e s path quantifier children t)
    (hposition : (children.filter fun c => !(c.evaluate r t).noScopesFound)[position]? = some child)
    (h : EndsVacuously r child t rest last) :
    EndsVacuously r e s (path ++ position :: rest) last := by
  obtain ⟨hlast, children', u, hgroup', hcombine, hall⟩ := h
  exact ⟨hlast, children', u, .inside hgroup hposition hgroup', hcombine, hall⟩

theorem endsVacuously_or_child (hbody : e.body = .group quantifier children)
    (hs : e.survivors r s ≠ []) (hchain : (e.evaluate r s).FailedChain path last) :
    EndsVacuously r e s path last ∨
    ∃ before position rest child t, path = before ++ position :: rest ∧
      GroupAt r e s before quantifier children t ∧
      (children.filter fun c => !(c.evaluate r t).noScopesFound)[position]? = some child ∧
      (child.evaluate r t).FailedChain rest last := by
  have hlast := hchain.at?
  rw [evaluate_of_group hbody hs] at hchain
  obtain ⟨before, rest, _, rfl, hplaced, h⟩ := hchain.of_overScopes
  obtain ⟨t, ht, rfl⟩ := hplaced.of_map
  have hgroup : GroupAt r e s before quantifier children t := .here hbody ht
  obtain ⟨rfl, rfl, rfl, hall⟩ | ⟨position, rest, _, rfl, hposition, h⟩ := h.of_combine
  · left
    rw [List.append_nil] at hlast ⊢
    exact ⟨rfl, children, t, hgroup, Option.some.inj (hlast.symm.trans hgroup.at?),
      List.forall_mem_map.mp hall⟩
  · right
    rw [List.filter_map, List.getElem?_map, Option.map_eq_some_iff] at hposition
    obtain ⟨child, hchild, rfl⟩ := hposition
    exact ⟨before, position, rest, child, t, rfl, hgroup, hchild, h⟩

/-- Every chain in the evaluation of an expression ends at a leaf or vacuously. -/
theorem leaf_or_endsVacuously (e : Expression) (s : Scope)
    (h : (e.evaluate r s).FailedChain path last) :
    (∃ results, last = .leaf results) ∨ EndsVacuously r e s path last := by
  induction e using descend generalizing s path with
  | narrowed resourceType pattern condition b _ hchildren =>
    by_cases hs : (narrowed resourceType pattern condition b).survivors r s = []
    · rw [evaluate_of_no_survivors hs] at h
      exact absurd h.failed (by decide)
    · cases b with
      | operator op =>
        rw [evaluate_of_operator rfl hs] at h
        cases h with
        | last _ _ => exact .inl ⟨_, rfl⟩
        | step _ hposition _ => cases hposition
      | group quantifier children =>
        obtain hends | ⟨before, position, rest, child, t, rfl, hgroup, hposition, h⟩ :=
          endsVacuously_or_child rfl hs h
        · exact .inr hends
        · have hc : child ∈ children := List.mem_of_mem_filter (List.mem_of_getElem? hposition)
          exact (hchildren child hc t h).imp_right (.inside hgroup hposition)

/-- No group of the tree is an `anyOf`; the conditions are not part of the tree. -/
inductive NoAnyOf : Expression → Prop where
  | operator {e : Expression} {op : Operator} : e.body = .operator op → NoAnyOf e
  | allOf {e : Expression} {children : List Expression} : e.body = .group .allOf children →
      (∀ child ∈ children, NoAnyOf child) → NoAnyOf e

theorem NoAnyOf.of_group (h : e.NoAnyOf) (hbody : e.body = .group quantifier children) :
    quantifier = .allOf ∧ ∀ child ∈ children, child.NoAnyOf := by
  cases h with
  | operator hoperator => exact nomatch hoperator.symm.trans hbody
  | allOf hallOf hchildren =>
    obtain ⟨rfl, rfl⟩ := Body.group.inj (hallOf.symm.trans hbody)
    exact ⟨rfl, hchildren⟩

theorem NoAnyOf.of_groupAt (h : e.NoAnyOf) (hgroup : GroupAt r e s path quantifier children t) :
    quantifier = .allOf ∧ ∀ child ∈ children, child.NoAnyOf := by
  induction hgroup with
  | here hbody _ => exact h.of_group hbody
  | inside _ hposition _ ih ih' =>
    exact ih' ((ih h).2 _ (List.mem_of_mem_filter (List.mem_of_getElem? hposition)))

theorem NoAnyOf.strict_evaluate (h : e.NoAnyOf) (s : Scope) : (e.evaluate r s).Strict := by
  induction h generalizing s with
  | @operator e op hbody =>
    by_cases hs : e.survivors r s = []
    · rw [evaluate_of_no_survivors hs]
      exact .notApplicable
    · rw [evaluate_of_operator hbody hs]
      exact .leaf _
  | @allOf e children hbody _ ih =>
    by_cases hs : e.survivors r s = []
    · rw [evaluate_of_no_survivors hs]
      exact .notApplicable
    · rw [evaluate_of_group hbody hs]
      refine .overScopes (List.forall_mem_map.mpr fun t _ => .combine_allOf ?_)
      exact List.forall_mem_map.mpr fun child hc => ih child hc t

theorem isFinding_eq_false_iff {rule : RuleMetadata} {evaluation : Evaluation}
    (h : evaluation.passed = false) :
    (⟨rule, evaluation⟩ : RuleEvaluation).isFinding = false ↔ evaluation.failingResults = [] := by
  simp [RuleEvaluation.isFinding, RuleEvaluation.passed, h]

/-- A failed evaluation is suppressed exactly if all its chains end vacuously. -/
theorem failingResults_eq_nil_iff (h : (e.evaluate r s).passed = false) :
    (e.evaluate r s).failingResults = [] ↔
      ∀ path last, (e.evaluate r s).FailedChain path last → EndsVacuously r e s path last := by
  rw [List.eq_nil_iff_forall_not_mem]
  constructor
  · intro hnone path last hchain
    obtain ⟨results, rfl⟩ | hends := leaf_or_endsVacuously e s hchain
    · obtain ⟨result, hresult⟩ := hchain.exists_failed_result
      have hmem : result ∈ (e.evaluate r s).failingResults :=
        (Evaluation.mem_failingResults_iff h).mpr ⟨path, .leaf results, hchain, hresult⟩
      exact absurd hmem (hnone result)
    · exact hends
  · intro hall result hmem
    obtain ⟨path, last, hchain, hresult, -⟩ := (Evaluation.mem_failingResults_iff h).mp hmem
    obtain ⟨rfl, -⟩ := hall path last hchain
    exact nomatch hresult

theorem NoAnyOf.failingResults_ne_nil (hno : e.NoAnyOf) (h : (e.evaluate r s).passed = false) :
    (e.evaluate r s).failingResults ≠ [] := by
  intro hnone
  obtain ⟨path, last, hchain⟩ := Evaluation.exists_failedChain h
  obtain ⟨-, _, _, hgroup, -⟩ := (failingResults_eq_nil_iff h).mp hnone path last hchain
  exact nomatch (hno.of_groupAt hgroup).1

/-- A failed evaluation of an expression is a finding unless it fails vacuously: every chain of
failed nodes ends at a leaf with a failed result or at an `anyOf` none of whose children was
applicable, the evaluation is suppressed if and only if all chains end in the second way, and
without `anyOf` it is a finding that reports every failed result of the tree in order. -/
theorem isFinding_or_endsVacuously (r : Resolver) (e : Expression) (s : Scope)
    (rule : RuleMetadata) (evaluation : Evaluation)
    (h : e.evaluate? r (some s) = .ok evaluation) (hfailed : evaluation.passed = false) :
    (∀ path last, evaluation.FailedChain path last →
      (∃ results, last = .leaf results ∧ ∃ result ∈ results, result.passed = false) ∨
        EndsVacuously r e s path last) ∧
    ((⟨rule, evaluation⟩ : RuleEvaluation).isFinding = false ↔
      ∀ path last, evaluation.FailedChain path last → EndsVacuously r e s path last) ∧
    (e.NoAnyOf → (⟨rule, evaluation⟩ : RuleEvaluation).isFinding = true ∧
      evaluation.failingResults = evaluation.failedResults) := by
  obtain rfl : e.evaluate r s = evaluation := Except.ok.inj h
  refine ⟨?_, ?_, ?_⟩
  · intro path last hchain
    obtain ⟨results, rfl⟩ | hends := leaf_or_endsVacuously e s hchain
    · exact .inl ⟨results, rfl, hchain.exists_failed_result⟩
    · exact .inr hends
  · rw [isFinding_eq_false_iff hfailed]
    exact failingResults_eq_nil_iff hfailed
  · intro hno
    refine ⟨?_, (hno.strict_evaluate s).failingResults_eq⟩
    by_contra hsuppressed
    exact hno.failingResults_ne_nil hfailed
      ((isFinding_eq_false_iff hfailed).mp (Bool.eq_false_iff.mpr hsuppressed))

/-- At each of two scopes the `anyOf` has no applicable child and fails alone, and the `allOf`
beside it fails at a result. -/
theorem isFinding_or_endsVacuously_twoScopes :
    let r : Resolver := ⟨fun s _ => [s, s], fun _ _ => [], fun _ => 7⟩
    let s : Scope := .root .null
    let rule : RuleMetadata := ⟨"R", none, "", "", none, .low⟩
    let absent (resourceType : Option String) : Expression :=
      .narrowed resourceType none none (.operator (.isPresent false))
    let each (quantifier : Quantifier) (child : Expression) : Expression :=
      .narrowed none (some ⟨"*", [.wildcard]⟩) none (.group quantifier [child])
    let both (evaluation : Evaluation) : Evaluation := .combined false [evaluation, evaluation]
    let vacuous : Evaluation := both (.combined false [])
    let failing : Evaluation := both (.combined false [.leaf [⟨false, 7⟩]])
    (each .anyOf (absent (some "t"))).evaluate? r (some s) = .ok vacuous ∧
      EndsVacuously r (each .anyOf (absent (some "t"))) s [1] (.combined false []) ∧
      (each .allOf (absent none)).evaluate? r (some s) = .ok failing ∧
      (each .allOf (absent none)).NoAnyOf ∧
      (⟨rule, failing⟩ : RuleEvaluation).isFinding = true ∧
      failing.failingResults = failing.failedResults := by
  intro r s rule absent each both vacuous failing
  have hvacuous : (each .anyOf (absent (some "t"))).evaluate? r (some s) = .ok vacuous := rfl
  have hfailing : (each .allOf (absent none)).evaluate? r (some s) = .ok failing := rfl
  have hchain : vacuous.FailedChain [1] (.combined false []) :=
    .step rfl rfl (.last rfl (List.forall_mem_nil _))
  have hno : (each .allOf (absent none)).NoAnyOf :=
    .allOf rfl (List.forall_mem_singleton.mpr (.operator rfl))
  obtain ⟨hends, -, -⟩ := isFinding_or_endsVacuously r _ s rule vacuous hvacuous rfl
  obtain ⟨-, -, hfinding⟩ := isFinding_or_endsVacuously r _ s rule failing hfailing rfl
  refine ⟨hvacuous, ?_, hfailing, hno, hfinding hno⟩
  exact (hends _ _ hchain).resolve_left (by rintro ⟨results, hresults, -⟩; exact nomatch hresults)

end Expression

end TemplateAudit
