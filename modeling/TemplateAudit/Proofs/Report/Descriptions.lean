import TemplateAudit.Proofs.Report.Agreement

/-! # The rules that a log describes

The descriptions of rules are shared by all templates and the results are collected beside them.
They stay together: whenever a finding is added, the log describes exactly the rules of the
findings so far, each as the first finding of its identifier has it, and since every finding has a
failed result, these are the rules that the results refer to.
-/

namespace TemplateAudit.Sarif

def firstRule? (findings : List RuleEvaluation) (id : String) : Option RuleMetadata :=
  (findings.find? fun e => e.rule.id = id).map RuleEvaluation.rule

variable {findings : List RuleEvaluation} {rules : List RuleMetadata} {rule other : RuleMetadata}
  {id : String}

theorem firstRule?_append_singleton (findings : List RuleEvaluation) (e : RuleEvaluation)
    (id : String) :
    firstRule? (findings ++ [e]) id =
      (firstRule? findings id).or (if e.rule.id = id then some e.rule else none) := by
  rw [firstRule?, List.find?_append, Option.map_or, firstRule?]
  by_cases h : e.rule.id = id <;> simp [h]

theorem id_of_firstRule? (h : firstRule? findings id = some rule) : rule.id = id := by
  obtain ⟨e, he, rfl⟩ := Option.map_eq_some_iff.mp h
  simpa using List.find?_some he

theorem mem_describe_iff (h : rules.Pairwise fun a b => a.id < b.id) :
    other ∈ describe rule rules ↔
      other ∈ rules ∨ (other = rule ∧ ∀ r ∈ rules, r.id ≠ rule.id) := by
  induction rules with
  | nil => simp [describe]
  | cons first rest ih =>
    obtain ⟨hfirst, hrest⟩ := List.pairwise_cons.mp h
    by_cases hlt : rule.id < first.id
    · have hnew : ∀ r ∈ first :: rest, r.id ≠ rule.id := by
        rintro r hr heq
        rcases List.mem_cons.mp hr with rfl | hr
        · exact String.lt_irrefl _ (heq ▸ hlt)
        · exact String.lt_irrefl _ (heq ▸ String.lt_trans hlt (hfirst r hr))
      simp only [describe, hlt, if_true, List.mem_cons (a := other) (b := rule)]
      constructor
      · rintro (rfl | hmem)
        · exact .inr ⟨rfl, hnew⟩
        · exact .inl hmem
      · rintro (hmem | ⟨rfl, -⟩)
        · exact .inr hmem
        · exact .inl rfl
    · by_cases heq : rule.id = first.id
      · simp [describe, heq]
      · simp [describe, hlt, heq, ih hrest, Ne.symm heq, or_assoc]

/-- The rules are those of the findings, increasing by their identifiers, and each of them is what
the first finding of its identifier has. -/
structure Describes (rules : List RuleMetadata) (findings : List RuleEvaluation) : Prop where
  increasing : rules.Pairwise fun a b => a.id < b.id
  mem_iff (rule : RuleMetadata) : rule ∈ rules ↔ firstRule? findings rule.id = some rule

/-- One more finding is described unless an earlier one has its identifier. -/
theorem Describes.add (h : Describes rules findings) (e : RuleEvaluation) :
    Describes (describe e.rule rules) (findings ++ [e]) where
  increasing := pairwise_describe e.rule h.increasing
  mem_iff rule := by
    rw [mem_describe_iff h.increasing, h.mem_iff, firstRule?_append_singleton]
    cases hfirst : firstRule? findings rule.id with
    | some found =>
      simp only [Option.some_or, Option.some.injEq]
      constructor
      · rintro (hfound | ⟨rfl, hnew⟩)
        · exact hfound
        · have hid := id_of_firstRule? hfirst
          exact absurd hid (hnew found ((h.mem_iff found).mpr (hid.symm ▸ hfirst)))
      · exact .inl
    | none =>
      simp only [reduceCtorEq, false_or, Option.none_or]
      constructor
      · rintro ⟨rfl, -⟩
        simp
      · intro hrule
        split at hrule
        · next hid =>
          obtain rfl := Option.some.inj hrule
          refine ⟨rfl, fun r hr heq => ?_⟩
          have hr := (h.mem_iff r).mp hr
          rw [heq, hfirst] at hr
          exact nomatch hr
        · exact nomatch hrule

namespace Log

end Log

end TemplateAudit.Sarif
