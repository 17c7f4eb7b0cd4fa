/-! # Ascending lists

The distinct items of a list in their order, the least first. What is in the list does not change,
and if the order is a strict linear one, every item is less than those after it.
-/

namespace TemplateAudit

variable {α : Type} [LT α] [DecidableLT α] [DecidableEq α]

/-- Puts an item into an ascending list, unless it is in it. -/
def insertAscending (x : α) : List α → List α
  | [] => [x]
  | y :: rest =>
    if x < y then x :: y :: rest
    else if x = y then y :: rest
    else y :: insertAscending x rest

def ascending (items : List α) : List α := items.foldr insertAscending []

theorem mem_insertAscending {x y : α} {items : List α} :
    y ∈ insertAscending x items ↔ y = x ∨ y ∈ items := by
  induction items with
  | nil => simp [insertAscending]
  | cons z rest ih =>
    by_cases hlt : x < z
    · simp [insertAscending, hlt]
    · by_cases heq : x = z
      · subst heq
        simp [insertAscending, hlt]
      · simp only [insertAscending, hlt, heq, if_false, List.mem_cons, ih]
        exact or_left_comm

@[simp]
theorem mem_ascending {y : α} {items : List α} : y ∈ ascending items ↔ y ∈ items := by
  induction items with
  | nil => simp [ascending]
  | cons x rest ih =>
    rw [ascending, List.foldr_cons, mem_insertAscending, List.mem_cons]
    exact or_congr_right ih

theorem pairwise_insertAscending (trans : ∀ {a b c : α}, a < b → b < c → a < c)
    (total : ∀ {a b : α}, ¬ a < b → a ≠ b → b < a) {x : α} {items : List α}
    (h : items.Pairwise (· < ·)) : (insertAscending x items).Pairwise (· < ·) := by
  induction items with
  | nil => simp [insertAscending]
  | cons z rest ih =>
    obtain ⟨hz, hrest⟩ := List.pairwise_cons.mp h
    by_cases hlt : x < z
    · simp only [insertAscending, hlt, if_true, List.pairwise_cons, List.mem_cons]
      exact ⟨fun y hy => hy.elim (fun e => e ▸ hlt) fun hy => trans hlt (hz y hy), hz, hrest⟩
    · by_cases heq : x = z
      · subst heq
        simpa [insertAscending, hlt] using h
      · simp only [insertAscending, hlt, heq, if_false, List.pairwise_cons]
        refine ⟨fun y hy => ?_, ih hrest⟩
        rcases mem_insertAscending.mp hy with rfl | hy
        · exact total hlt heq
        · exact hz y hy

theorem pairwise_ascending (trans : ∀ {a b c : α}, a < b → b < c → a < c)
    (total : ∀ {a b : α}, ¬ a < b → a ≠ b → b < a) (items : List α) :
    (ascending items).Pairwise (· < ·) := by
  induction items with
  | nil => exact .nil
  | cons x rest ih => exact pairwise_insertAscending trans total ih

end TemplateAudit
