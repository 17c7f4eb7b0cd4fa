import TemplateAudit.Proofs.Lines.Pass
import TemplateAudit.Proofs.Lines.Suffixes

/-! # Notes

The lines of places, and an index in which such lines are noted one after the other. What the
index finds for a location is what was noted last for it.
-/

namespace TemplateAudit.LineIndex

variable {text chars rest : List Char}

def lineAt (text chars : List Char) : Nat := 1 + (text.count '\n' - chars.count '\n')

theorem lineAt_append (before chars : List Char) :
    lineAt (before ++ chars) chars = 1 + before.count '\n' := by
  rw [lineAt, List.count_append, Nat.add_sub_cancel]

theorem lineAt_newline (h : '\n' :: rest <:+ text) :
    lineAt text rest = lineAt text ('\n' :: rest) + 1 := by
  have hcount := h.sublist.count_le '\n'
  rw [List.count_cons_self] at hcount
  rw [lineAt, lineAt, List.count_cons_self]
  omega

theorem lineAt_of_passes (h : Passes staysOnLine chars rest) :
    lineAt text chars = lineAt text rest := by
  obtain ⟨word, rfl, hw⟩ := h
  have hcount : word.count '\n' = 0 :=
    List.count_eq_zero.mpr fun hm => absurd (hw _ hm) (by decide)
  rw [lineAt, lineAt, List.count_append, hcount, Nat.zero_add]

theorem lineAt_cons {c : Char} (hc : staysOnLine c = true) :
    lineAt text (c :: rest) = lineAt text rest := lineAt_of_passes (.cons hc (.refl _ _))

def noteAll (line : List Char → Nat) (l : Location) (ps : List (List Step × List Char))
    (index : LineIndex) : LineIndex :=
  ps.foldl (fun index p => index.insert ⟨l.steps ++ p.1⟩ (line p.2)) index

section NoteAll

variable (line : List Char → Nat) (l : Location) (index : LineIndex)

@[simp] theorem noteAll_nil : noteAll line l [] index = index := rfl

theorem noteAll_cons (p : List Step × List Char) (ps : List (List Step × List Char)) :
    noteAll line l (p :: ps) index =
      noteAll line l ps (index.insert ⟨l.steps ++ p.1⟩ (line p.2)) := rfl

theorem noteAll_append (ps qs : List (List Step × List Char)) :
    noteAll line l (ps ++ qs) index = noteAll line l qs (noteAll line l ps index) :=
  List.foldl_append

theorem noteAll_places (start : List Char) (y : Layout) :
    noteAll line l (y.places start) index =
      noteAll line l y.inner (index.insert l (line start)) := by
  rw [Layout.places, noteAll_cons, List.append_nil]

theorem noteAll_map_under (step : Step) (ps : List (List Step × List Char)) :
    noteAll line l (ps.map (Layout.under step)) index =
      noteAll line ⟨l.steps ++ [step]⟩ ps index := by
  rw [noteAll, List.foldl_map, noteAll]
  simp only [Layout.under, List.append_assoc, List.singleton_append]

end NoteAll

theorem find?_insert (index : LineIndex) (l k : Location) (line : Nat) :
    (index.insert l line).find? k = if k = l then some line else index.find? k := by
  split
  · next h => rw [h, find?_insert_self]
  · next h => exact find?_insert_of_ne index (Ne.symm h) line

/-- The line noted last for a location is the one that is found. -/
theorem find?_noteAll (line : List Char → Nat) (l : Location) (ps : List (List Step × List Char))
    (index : LineIndex) (steps : List Step) :
    (noteAll line l ps index).find? ⟨l.steps ++ steps⟩ =
      ((lastFor? steps ps).map line).or (index.find? ⟨l.steps ++ steps⟩) := by
  induction ps generalizing index with
  | nil => rfl
  | cons p ps ih =>
    rw [noteAll_cons, ih, find?_insert, lastFor?_cons, Option.map_or, Option.or_assoc]
    by_cases h : steps = p.1 <;> simp [h]

theorem isSome_find?_iff {index : LineIndex} {l : Location} :
    (index.find? l).isSome = true ↔ l ∈ index.entries.map (·.1) := by
  simp only [find?, Option.isSome_map, List.find?_isSome, decide_eq_true_eq, List.mem_map]

end TemplateAudit.LineIndex
