import TemplateAudit.Proofs.Document.Walk
import TemplateAudit.Proofs.Path.Grammar
import TemplateAudit.Resolver

/-! # Printed locations

A location is printed in the notation of paths. If none of its names has a meaning of its own
there, the text is read as a path that takes the steps of the location, one segment for each. Each
segment finds the value that its step leads to, since a name is first looked up as it is spelled.
So a printed location leads from the root back to the place that it was printed for.
-/

namespace TemplateAudit

namespace Step

def segment : Step → Segment
  | .key name => .property name
  | .index position => .index position

/-- A step that a path can take: a name that stands for itself on a path, or a position that fits
into a machine word. -/
def Writable : Step → Prop
  | .key name => name ≠ "" ∧ name ≠ "*" ∧ ∀ c ∈ name.toList, Path.IsPlain c
  | .index position => position < 2 ^ 64

end Step

variable {chars : List Char} {segments : List Segment} {name : String} {position : Nat}
  {steps : List Step} {document v : Json} {l : Location}

theorem Text.trim_of_digits (h : ∀ d ∈ chars, d.isDigit = true) : trim chars = chars := by
  have hblank : ∀ d ∈ chars, isBlank d = false := by
    intro d hd
    have hdigit : 48 ≤ d.toNat ∧ d.toNat ≤ 57 := Char.isDigit_iff_toNat.mp (h d hd)
    simp [isBlank]
    omega
  have hkeep : ∀ {cs : List Char}, (∀ d ∈ cs, isBlank d = false) → cs.dropWhile isBlank = cs := by
    intro cs hcs
    cases cs with
    | nil => rfl
    | cons c rest => simp [hcs c]
  have hreverse : ∀ d ∈ chars.reverse, isBlank d = false := by simpa using hblank
  rw [trim, trimStart, hkeep hblank, trimEnd, hkeep hreverse, List.reverse_reverse]

namespace Path

open Grammar

theorem areDigitsOf_toDigits (h : position < 2 ^ 64) :
    AreDigitsOf (Nat.toDigits 10 position) position := by
  refine ⟨Nat.toDigits_ne_nil, ?_, ?_, h⟩
  · intro d hd
    exact Nat.isDigit_of_mem_toDigits (by decide) (by decide) hd
  · rw [digitsValue, ← Nat.ofDigitChars_eq_foldl, Nat.ofDigitChars_ten_toDigits]

theorem readsAs_key (h : Step.Writable (.key name)) :
    ReadsAs .start name.toList [.property name] := by
  obtain ⟨hne, hstar, hplain⟩ := h
  have hmeans : NameMeans name.toList (.property (String.ofList name.toList)) := by
    apply NameMeans.property
    intro heq
    exact hstar (String.toList_inj.mp heq)
  rw [String.ofList_toList] at hmeans
  exact readsAs_name ⟨name.toList, _, by simpa using hne, hplain, hmeans⟩

theorem readsAs_index (h : Step.Writable (.index position)) :
    ReadsAs .start ('[' :: ((toString position).toList ++ [']'])) [.index position] := by
  have hdigits := areDigitsOf_toDigits h
  have hclose : ']' ∉ Nat.toDigits 10 position := by
    intro hmem
    exact absurd (hdigits.2.1 _ hmem) (by decide)
  have hmeans : BodyMeans (Text.trim (Nat.toDigits 10 position)) (.index position) := by
    rw [Text.trim_of_digits hdigits.2.1, bodyMeans_index_iff]
    exact ⟨[], _, rfl, .inl rfl, hdigits⟩
  rw [Nat.toString_eq_ofList_toDigits, String.toList_ofList]
  exact readsAs_bracket ⟨_, _, hclose, hmeans⟩

theorem ReadsAs.written (h : ReadsAs .start chars segments) (hne : chars ≠ [])
    (hsteps : ∀ step ∈ steps, step.Writable) :
    ReadsAs .start (chars ++ (Location.displaySteps steps).toList)
      (segments ++ steps.map Step.segment) := by
  induction steps generalizing chars segments with
  | nil => simpa [Location.displaySteps] using h
  | cons step rest ih =>
    obtain ⟨hstep, hrest⟩ := List.forall_mem_cons.mp hsteps
    cases step with
    | key name =>
      have hname : name.toList ≠ [] := by simpa using hstep.1
      have hnext := ih (h.joined (readsAs_key hstep) hname (.inr hne)) (by simp) hrest
      simpa [Location.displaySteps, Step.segment] using hnext
    | index position =>
      have hnext := ih (h.followed (readsAs_index hstep)) (by simp) hrest
      simpa [Location.displaySteps, Step.segment] using hnext

/-- The text of a location is read as a path that takes its steps. -/
theorem readsAs_display (hl : l ≠ .root) (hsteps : ∀ step ∈ l.steps, step.Writable) :
    l.display.toList ≠ [] ∧ ReadsAs .start l.display.toList (l.steps.map Step.segment) := by
  obtain ⟨steps⟩ := l
  cases steps with
  | nil => exact absurd rfl hl
  | cons step rest =>
    obtain ⟨hstep, hrest⟩ := List.forall_mem_cons.mp hsteps
    cases step with
    | key name =>
      have hname : name.toList ≠ [] := by simpa using hstep.1
      have hreads := (readsAs_key hstep).written hname hrest
      constructor
      · simp [Location.display, hname]
      · simpa [Location.display, Step.segment] using hreads
    | index position =>
      have hreads := (readsAs_index hstep).written (List.cons_ne_nil _ _) hrest
      constructor
      · simp [Location.display, Location.displaySteps]
      · simpa [Location.display, Location.displaySteps, Step.segment] using hreads

end Path

namespace Scope

/-- A segment that takes a step finds what the step leads to: a name is first looked up as it is
spelled. -/
theorem step_segment {s : Scope} {step : Step} {child : Json} (hs : s.value = some v)
    (hc : v.child? step = some child) :
    s.step step.segment = [⟨⟨s.location.steps ++ [step]⟩, some child⟩] := by
  cases step with
  | key name =>
    cases v with
    | object members =>
      have hfind : Json.findMember members name = some (name, child) := by
        rw [Json.findMember, show Json.lookup name members = some child from hc]
      simp [Step.segment, Scope.step, property, hs, hfind, Location.key]
    | _ => exact nomatch hc
  | index position =>
    cases v with
    | array items =>
      have hitem : items[position]? = some child := hc
      simp [Step.segment, Scope.step, element, hs, hitem, Location.index]
    | _ => exact nomatch hc

theorem follow_segments {s : Scope} {last : Json} (hs : s.value = some v)
    (hat : v.at? steps = some last) :
    follow [s] (steps.map Step.segment) = [⟨⟨s.location.steps ++ steps⟩, some last⟩] := by
  induction steps generalizing s v with
  | nil =>
    obtain ⟨location, value⟩ := s
    obtain rfl : some v = value := hs.symm
    simpa [follow] using hat
  | cons step rest ih =>
    rw [Json.at?_cons, Option.bind_eq_some_iff] at hat
    obtain ⟨child, hc, hat⟩ := hat
    have hnext := ih (s := ⟨⟨s.location.steps ++ [step]⟩, some child⟩) rfl hat
    simp only [List.map_cons, follow, List.flatMap_singleton, step_segment hs hc]
    rw [hnext]
    simp

/-- A location that exists in a document, other than the root, is printed as a path that leads
from the root to this location and the value there, and nowhere else. This holds if its steps are
writable and no blanks stand around the text, whatever other members the objects on the way have. -/
theorem resolve_display (hl : l ≠ .root) (hhas : document.Has l)
    (hsteps : ∀ step ∈ l.steps, step.Writable)
    (htrim : Text.trim l.display.toList = l.display.toList) :
    ∃ p v, Path.parse l.display = .ok p ∧ document.at? l.steps = some v ∧
      (root document).resolve p = [⟨l, some v⟩] := by
  obtain ⟨v, hat⟩ := Option.isSome_iff_exists.mp hhas
  obtain ⟨hne, hreads⟩ := Path.readsAs_display hl hsteps
  have hparse := Path.parse_ofList hne htrim hreads
  rw [String.ofList_toList] at hparse
  refine ⟨_, v, hparse, hat, ?_⟩
  have hfollow := follow_segments (s := root document) rfl hat
  simpa [resolve, root, Location.root] using hfollow

/-- A name with a blank inside, below an element, where both names on the way come after one that
differs from it by case only. -/
theorem resolve_display_caseVariants :
    let inner : Json := .object [("A b", .bool false), ("a b", .bool true)]
    let document : Json := .object [("Tags", .null), ("tags", .array [.null, inner])]
    let l : Location := ⟨[.key "tags", .index 1, .key "a b"]⟩
    l ≠ .root ∧ document.Has l ∧ (∀ step ∈ l.steps, step.Writable) ∧
      Text.trim l.display.toList = l.display.toList ∧
      ∃ p, Path.parse "tags[1].a b" = .ok p ∧
        (root document).resolve p = [⟨l, some (.bool true)⟩] := by
  intro inner document l
  have hl : l ≠ .root := by decide
  have hhas : document.Has l := by
    rw [Json.Has]
    rfl
  have hsteps : ∀ step ∈ l.steps, step.Writable := by
    simp [l, Step.Writable, Path.IsPlain]
  have htrim : Text.trim l.display.toList = l.display.toList := by
    dsimp only [l]
    decide +kernel
  obtain ⟨p, v, hparse, hat, hresolve⟩ := resolve_display hl hhas hsteps htrim
  obtain rfl : Json.bool true = v := Option.some.inj hat
  exact ⟨hl, hhas, hsteps, htrim, p, hparse, hresolve⟩

end Scope

end TemplateAudit
