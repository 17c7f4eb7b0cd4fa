import TemplateAudit.Text.Blank
import TemplateAudit.Unicode.CaseMap
import TemplateAudit.Unicode.Property
import TemplateAudit.Unicode.Script

/-! # Sets of characters

The sets that a pattern can name, and their unions, intersections and complements. A set is kept as
the ranges of its code points, as few as possible and in order, for the size of an automaton depends
on them.
-/

namespace TemplateAudit

/-- Ranges in increasing order that neither overlap nor touch. -/
structure Separated (ranges : List (Nat × Nat)) : Prop where
  proper : ∀ r ∈ ranges, r.1 ≤ r.2
  apart : ranges.Pairwise fun r s => r.2 + 1 < s.1

structure CharSet where
  ranges : List (Nat × Nat)
  isSeparated : Separated ranges

namespace CharSet

variable {ranges : List (Nat × Nat)} {r s : Nat × Nat} {n bound : Nat}

/-- Adds a range to separated ones; it is joined with those that it overlaps or touches. -/
def insertRange : Nat × Nat → List (Nat × Nat) → List (Nat × Nat)
  | r, [] => [r]
  | r, s :: rest =>
    if r.2 + 1 < s.1 then r :: s :: rest
    else if s.2 + 1 < r.1 then s :: insertRange r rest
    else insertRange (min r.1 s.1, max r.2 s.2) rest

theorem lt_of_mem_insertRange (hr : bound < r.1) (hranges : ∀ s ∈ ranges, bound < s.1)
    (h : s ∈ insertRange r ranges) : bound < s.1 := by
  induction ranges generalizing r with
  | nil =>
    rw [insertRange, List.mem_singleton] at h
    exact h ▸ hr
  | cons q rest ih =>
    obtain ⟨hq, hrest⟩ := List.forall_mem_cons.mp hranges
    rw [insertRange] at h
    split at h
    · rcases List.mem_cons.mp h with rfl | h
      · exact hr
      · exact hranges s h
    · split at h
      · rcases List.mem_cons.mp h with rfl | h
        · exact hq
        · exact ih hr hrest h
      · exact ih (Nat.lt_min.mpr ⟨hr, hq⟩) hrest h

theorem separated_nil : Separated [] := ⟨by simp, .nil⟩

theorem separated_cons_iff :
    Separated (r :: ranges) ↔
      r.1 ≤ r.2 ∧ (∀ s ∈ ranges, r.2 + 1 < s.1) ∧ Separated ranges := by
  constructor
  · rintro ⟨hproper, hapart⟩
    obtain ⟨hr, hranges⟩ := List.forall_mem_cons.mp hproper
    obtain ⟨hbefore, hapart⟩ := List.pairwise_cons.mp hapart
    exact ⟨hr, hbefore, hranges, hapart⟩
  · rintro ⟨hr, hbefore, hranges, hapart⟩
    exact ⟨List.forall_mem_cons.mpr ⟨hr, hranges⟩, List.pairwise_cons.mpr ⟨hbefore, hapart⟩⟩

theorem separated_insertRange (hr : r.1 ≤ r.2) (h : Separated ranges) :
    Separated (insertRange r ranges) := by
  induction ranges generalizing r with
  | nil => exact separated_cons_iff.mpr ⟨hr, by simp, separated_nil⟩
  | cons q rest ih =>
    obtain ⟨hq, hbefore, hrest⟩ := separated_cons_iff.mp h
    rw [insertRange]
    split
    · next hlt =>
      refine separated_cons_iff.mpr ⟨hr, fun s hs => ?_, h⟩
      rcases List.mem_cons.mp hs with rfl | hs
      · exact hlt
      · have := hbefore s hs
        omega
    · split
      · next hlt =>
        exact separated_cons_iff.mpr
          ⟨hq, fun s hs => lt_of_mem_insertRange hlt hbefore hs, ih hr hrest⟩
      · exact ih (by simp only; omega) hrest

/-- The separated ranges of the code points in some ranges. -/
def joined : List (Nat × Nat) → List (Nat × Nat)
  | [] => []
  | r :: rest => if r.1 ≤ r.2 then insertRange r (joined rest) else joined rest

theorem separated_joined (ranges : List (Nat × Nat)) : Separated (joined ranges) := by
  induction ranges with
  | nil => exact separated_nil
  | cons r rest ih =>
    rw [joined]
    split
    · next hr => exact separated_insertRange hr ih
    · exact ih

def ofRanges (ranges : List (Nat × Nat)) : CharSet := ⟨joined ranges, separated_joined ranges⟩

def contains (a : CharSet) (n : Nat) : Bool := a.ranges.any fun r => r.1 ≤ n && n ≤ r.2

theorem contains_iff {a : CharSet} :
    a.contains n = true ↔ ∃ r ∈ a.ranges, r.1 ≤ n ∧ n ≤ r.2 := by
  simp [contains]

theorem covered_insertRange (hr : r.1 ≤ r.2) (h : ∀ s ∈ ranges, s.1 ≤ s.2) :
    (∃ s ∈ insertRange r ranges, s.1 ≤ n ∧ n ≤ s.2) ↔
      (r.1 ≤ n ∧ n ≤ r.2) ∨ ∃ s ∈ ranges, s.1 ≤ n ∧ n ≤ s.2 := by
  induction ranges generalizing r with
  | nil => simp [insertRange]
  | cons q rest ih =>
    obtain ⟨hq, hrest⟩ := List.forall_mem_cons.mp h
    rw [insertRange]
    split
    · simp
    · split
      · simp only [List.mem_cons, exists_eq_or_imp, ih hr hrest]
        exact or_left_comm
      · rw [ih (by simp only; omega) hrest]
        simp only [List.mem_cons, exists_eq_or_imp, ← or_assoc]
        refine or_congr_left ?_
        -- The two ranges overlap or touch, so nothing lies between them.
        omega

theorem covered_joined :
    (∃ s ∈ joined ranges, s.1 ≤ n ∧ n ≤ s.2) ↔ ∃ r ∈ ranges, r.1 ≤ n ∧ n ≤ r.2 := by
  induction ranges with
  | nil => simp [joined]
  | cons r rest ih =>
    rw [joined]
    simp only [List.mem_cons, exists_eq_or_imp, ← ih]
    split
    · next hr => exact covered_insertRange hr (separated_joined rest).proper
    · next hr => exact (or_iff_right fun h => hr (Nat.le_trans h.1 h.2)).symm

theorem contains_ofRanges :
    (ofRanges ranges).contains n = true ↔ ∃ r ∈ ranges, r.1 ≤ n ∧ n ≤ r.2 :=
  contains_iff.trans covered_joined

def none : CharSet := ofRanges []

def range (first last : Nat) : CharSet := ofRanges [(first, last)]

def single (c : Char) : CharSet := range c.toNat c.toNat

def union (a b : CharSet) : CharSet := ofRanges (a.ranges ++ b.ranges)

theorem contains_union (a b : CharSet) (n : Nat) :
    (a.union b).contains n = (a.contains n || b.contains n) := by
  rw [Bool.eq_iff_iff, Bool.or_eq_true, union, contains_ofRanges, contains_iff, contains_iff]
  simp only [List.mem_append, or_and_right, exists_or]

def lastPoint : Nat := 0x10FFFF

/-- The ranges from a code point on between some ranges. -/
def gapsFrom (start : Nat) : List (Nat × Nat) → List (Nat × Nat)
  | [] => [(start, lastPoint)]
  | r :: rest =>
    if start < r.1 then (start, r.1 - 1) :: gapsFrom (r.2 + 1) rest else gapsFrom (r.2 + 1) rest

theorem covered_gapsFrom {start : Nat} (h : Separated ranges) (hstart : ∀ r ∈ ranges, start ≤ r.1)
    (hn : n ≤ lastPoint) :
    (∃ s ∈ gapsFrom start ranges, s.1 ≤ n ∧ n ≤ s.2) ↔
      start ≤ n ∧ ∀ r ∈ ranges, ¬ (r.1 ≤ n ∧ n ≤ r.2) := by
  induction ranges generalizing start with
  | nil => simp [gapsFrom, hn]
  | cons r rest ih =>
    obtain ⟨hr, hbefore, hrest⟩ := separated_cons_iff.mp h
    have hr' := hstart r List.mem_cons_self
    have hlater := ih hrest fun s hs => Nat.le_of_lt (hbefore s hs)
    have hbelow : n < r.1 → ∀ s ∈ rest, ¬ (s.1 ≤ n ∧ n ≤ s.2) := by
      intro hlt s hs hcovered
      have := hbefore s hs
      omega
    rw [gapsFrom, List.forall_mem_cons]
    split
    · simp only [List.mem_cons, exists_eq_or_imp, hlater]
      constructor
      · rintro (hgap | ⟨hnext, hrest⟩)
        · have hlt : n < r.1 := by omega
          exact ⟨hgap.1, by omega, hbelow hlt⟩
        · exact ⟨by omega, by omega, hrest⟩
      · rintro ⟨hle, hout, hrest⟩
        rcases Nat.lt_or_ge n r.1 with hlt | hge
        · exact .inl ⟨hle, by omega⟩
        · exact .inr ⟨by omega, hrest⟩
    · rw [hlater]
      constructor
      · rintro ⟨hnext, hrest⟩
        exact ⟨by omega, by omega, hrest⟩
      · rintro ⟨hle, hout, hrest⟩
        exact ⟨by omega, hrest⟩

def compl (a : CharSet) : CharSet := ofRanges (gapsFrom 0 a.ranges)

theorem contains_compl (a : CharSet) (hn : n ≤ lastPoint) : a.compl.contains n = !a.contains n := by
  rw [Bool.eq_iff_iff, Bool.not_eq_true', ← Bool.not_eq_true, compl, contains_ofRanges,
    covered_gapsFrom a.isSeparated (fun _ _ => Nat.zero_le _) hn, contains_iff]
  simp

def inter (a b : CharSet) : CharSet := (a.compl.union b.compl).compl

theorem contains_inter (a b : CharSet) (hn : n ≤ lastPoint) :
    (a.inter b).contains n = (a.contains n && b.contains n) := by
  rw [inter, contains_compl _ hn, contains_union, contains_compl a hn, contains_compl b hn,
    Bool.not_or, Bool.not_not, Bool.not_not]

def diff (a b : CharSet) : CharSet := a.inter b.compl

def symmDiff (a b : CharSet) : CharSet := (a.diff b).union (b.diff a)

def category (names : List String) : CharSet := ofRanges (Unicode.categoryRanges names)

def script (code : String) : CharSet := ofRanges (Unicode.scriptRanges code)

/-- The characters that some scripts use; those of a single script belong to it. -/
def usedBy (code : String) : CharSet :=
  let shared := ofRanges (Unicode.sharedRanges.map fun (first, last, _) => (first, last))
  let entries := Unicode.sharedRanges.filter fun (_, _, scripts) => scripts.contains code
  ((script code).diff shared).union (ofRanges (entries.map fun (first, last, _) => (first, last)))

def property (p : Unicode.Property) : CharSet :=
  (ofRanges (Unicode.rangesFrom 0 p.added)).union
    ((category p.categories).diff (ofRanges (Unicode.rangesFrom 0 p.removed)))

/-- The property White_Space. -/
def blank : CharSet := ((Unicode.property? "whitespace").map property).getD none

/-- Letters, marks, decimal digits, connectors and joiners: what words are made of. -/
def word : CharSet :=
  ((Unicode.properties.filter fun p =>
    p.names.contains "alphabetic" || p.names.contains "joincontrol").map property).foldr union
      (category ["Mn", "Mc", "Me", "Nd", "Pc"])

def ofPoints (points : List Nat) : CharSet := ofRanges (points.map fun n => (n, n))

/-- With the code points that differ in case from those of the set. -/
def anyCase (a : CharSet) : CharSet :=
  a.union (ofPoints ((Unicode.foldedPoints.filter fun n =>
    a.contains n || a.contains (Unicode.fold n)).flatMap Unicode.caseVariants))

/-- With the code points that differ from those of the set in the case of an ASCII letter. -/
def anyAsciiCase (a : CharSet) : CharSet :=
  a.union (ofPoints (((List.range' 65 26).filter fun n =>
    a.contains n || a.contains (n + 32)).flatMap fun n => [n, n + 32]))

end CharSet

end TemplateAudit
