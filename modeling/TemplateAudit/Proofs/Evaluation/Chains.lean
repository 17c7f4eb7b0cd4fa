import TemplateAudit.Proofs.Expression.Judged

/-! # Chains of failed nodes

A failed evaluation is explained by going from a failed node to a failed child as long as there is
one. Findings are the failed results at the ends of these chains. Where a node passes only if all
of its children do, no failed result is hidden below a node that passes, so all failed results of
the tree are findings.
-/

namespace TemplateAudit.Evaluation

/-- Positions among the children lead through failed nodes alone to one without failed children. -/
inductive FailedChain : Evaluation → List Nat → Evaluation → Prop where
  | last {e : Evaluation} : e.passed = false → (∀ child ∈ e.evaluations, child.passed = true) →
      FailedChain e [] e
  | step {e child last : Evaluation} {position : Nat} {path : List Nat} : e.passed = false →
      e.evaluations[position]? = some child → FailedChain child path last →
      FailedChain e (position :: path) last

variable {e last : Evaluation} {path : List Nat} {result : RuleResult}

theorem FailedChain.failed (h : e.FailedChain path last) : e.passed = false := by
  cases h with
  | last hfailed _ => exact hfailed
  | step hfailed _ _ => exact hfailed

theorem exists_failedChain (h : e.passed = false) : ∃ path last, e.FailedChain path last := by
  induction e using descend with
  | notApplicable => exact absurd h (by decide)
  | leaf rs => exact ⟨[], leaf rs, .last h (List.forall_mem_nil _)⟩
  | combined passed es ih =>
    by_cases hall : ∀ child ∈ es, child.passed = true
    · exact ⟨[], combined passed es, .last h hall⟩
    · push Not at hall
      obtain ⟨child, hc, hne⟩ := hall
      have hfailed : child.passed = false := Bool.eq_false_iff.mpr hne
      obtain ⟨path, last, hchain⟩ := ih child hc hfailed
      obtain ⟨position, hposition⟩ := List.mem_iff_getElem?.mp hc
      exact ⟨position :: path, last, .step h hposition hchain⟩

theorem mem_failingResults_leaf {rs : List RuleResult} :
    result ∈ (leaf rs).failingResults ↔ result ∈ rs ∧ result.passed = false := by
  rw [failingResults, List.mem_filter, Bool.not_eq_true']

theorem mem_failingResults_combined {passed : Bool} {es : List Evaluation} :
    result ∈ (combined passed es).failingResults ↔
      ∃ child ∈ es, child.passed = false ∧ result ∈ child.failingResults := by
  rw [failingResults, failingAmong_eq_flatMap, List.mem_flatMap]
  simp only [List.mem_filter, Bool.not_eq_true', and_assoc]

/-- The findings of a failed node are the failed results at the ends of its chains. -/
theorem mem_failingResults_iff (h : e.passed = false) :
    result ∈ e.failingResults ↔
      ∃ path last, e.FailedChain path last ∧ result ∈ last.results ∧ result.passed = false := by
  induction e using descend with
  | notApplicable => exact absurd h (by decide)
  | leaf rs =>
    rw [mem_failingResults_leaf]
    constructor
    · intro hresult
      exact ⟨[], leaf rs, .last h (List.forall_mem_nil _), hresult⟩
    · rintro ⟨path, last, hchain, hresult⟩
      cases hchain with
      | last _ _ => exact hresult
      | step _ hposition _ => exact nomatch hposition
  | combined passed es ih =>
    rw [mem_failingResults_combined]
    constructor
    · rintro ⟨child, hc, hfailed, hresult⟩
      obtain ⟨path, last, hchain, hresult⟩ := (ih child hc hfailed).mp hresult
      obtain ⟨position, hposition⟩ := List.mem_iff_getElem?.mp hc
      exact ⟨position :: path, last, .step h hposition hchain, hresult⟩
    · rintro ⟨path, last, hchain, hresult⟩
      cases hchain with
      | last _ _ => exact absurd hresult.1 List.not_mem_nil
      | step _ hposition hchain =>
        have hc := List.mem_of_getElem? hposition
        exact ⟨_, hc, hchain.failed, (ih _ hc hchain.failed).mpr ⟨_, _, hchain, hresult⟩⟩

inductive Strict : Evaluation → Prop where
  | notApplicable : Strict notApplicable
  | leaf (results : List RuleResult) : Strict (leaf results)
  | combined {passed : Bool} {es : List Evaluation} :
      (passed = true → ∀ child ∈ es, child.passed = true) → (∀ child ∈ es, Strict child) →
      Strict (combined passed es)

def failedResults (e : Evaluation) : List RuleResult :=
  e.leaves.flatten.filter fun result => !result.passed

theorem failedResults_leaf (rs : List RuleResult) :
    (leaf rs).failedResults = rs.filter fun result => !result.passed := by
  by_cases h : rs = []
  · subst h
    rfl
  · rw [failedResults, leaves_leaf h, List.flatten_singleton]

theorem failedResults_combined (passed : Bool) (es : List Evaluation) :
    (combined passed es).failedResults = es.flatMap failedResults := by
  rw [failedResults, leaves_combined, List.flatMap_def, List.flatten_flatten, List.filter_flatten,
    List.map_map, List.map_map, List.flatMap_def]
  rfl

theorem Strict.failedResults_of_passed (hs : e.Strict) (h : e.passed = true) :
    e.failedResults = [] := by
  induction hs with
  | notApplicable => rfl
  | leaf rs =>
    rw [failedResults_leaf, List.filter_eq_nil_iff]
    intro result hresult
    have hpassed := List.all_eq_true.mp h result hresult
    simp [hpassed]
  | @combined passed es hpass _ ih =>
    rw [failedResults_combined, List.flatMap_eq_nil_iff]
    intro child hc
    exact ih child hc (hpass h child hc)

theorem Strict.failingResults_eq (hs : e.Strict) : e.failingResults = e.failedResults := by
  induction hs with
  | notApplicable => rfl
  | leaf rs => rw [failedResults_leaf, failingResults]
  | @combined passed es hpass hes ih =>
    rw [failedResults_combined, failingResults]
    clear hpass
    induction es with
    | nil => rfl
    | cons child rest ihs =>
      obtain ⟨hchild, hrest⟩ := List.forall_mem_cons.mp ih
      obtain ⟨hstrict, hstricts⟩ := List.forall_mem_cons.mp hes
      rw [failingAmong, List.flatMap_cons, ihs hstricts hrest]
      split
      · next hpassed => rw [hstrict.failedResults_of_passed hpassed]
      · rw [hchild]

end TemplateAudit.Evaluation
