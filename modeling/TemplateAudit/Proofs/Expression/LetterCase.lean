import TemplateAudit.Engine
import TemplateAudit.Proofs.Document.Reading
import TemplateAudit.Proofs.Expression.Descent
import TemplateAudit.Proofs.Scope.Alike
import TemplateAudit.Proofs.Text.AsciiCase

/-! # The letter case of rules

Rules spell the names on their paths and the resource types as they like. A spelling is kept in the
location of what is absent, which decides no outcome and no line, provided that the template does
not tell members apart by case. Rules that are the same once the case of these names is dropped
therefore have the same evaluations.
-/

namespace TemplateAudit

def Text.fold (s : String) : String := .ofList (folded s)

theorem Text.sameIgnoringCase_fold (s : String) : sameIgnoringCase s (fold s) = true := by
  rw [sameIgnoringCase_iff, fold, folded, folded, String.toList_ofList, List.map_map]
  refine List.map_congr_left fun c _ => ?_
  exact (asciiLower_asciiLower c).symm

def Segment.folded : Segment → Segment
  | .property name => .property (Text.fold name)
  | .index position => .index position
  | .wildcard => .wildcard

def Path.folded (p : Path) : Path := ⟨Text.fold p.raw, p.segments.map Segment.folded⟩

mutual

/-- An expression without the case of its resource types and of the names on its paths, at any
depth. -/
def Expression.folded : Expression → Expression
  | .narrowed resourceType path condition body =>
    .narrowed (resourceType.map Text.fold) (path.map Path.folded)
      (Expression.conditionFolded condition) body.folded

def Expression.conditionFolded : Option Expression → Option Expression
  | none => none
  | some condition => some condition.folded

def Body.folded : Body → Body
  | .operator op => .operator op
  | .group quantifier children => .group quantifier (Expression.allFolded children)

def Expression.allFolded : List Expression → List Expression
  | [] => []
  | child :: rest => child.folded :: Expression.allFolded rest

end

theorem Expression.allFolded_eq_map (children : List Expression) :
    allFolded children = children.map folded := by
  induction children with
  | nil => rfl
  | cons child rest ih => rw [allFolded, ih, List.map_cons]

def Rule.folded (rule : Rule) : Rule := ⟨rule.metadata, rule.expression.folded⟩

def RuleSet.folded (rules : RuleSet) : RuleSet := ⟨rules.rules.map Rule.folded⟩

variable {document : Json} {index : LineIndex} {s t : Scope}

namespace Scope

section Paths

variable (hfound : ∀ l, (index.find? l).isSome = true → document.Has l)
  (ho : document.Ordered) (ha : document.NamesApart)

include hfound ho ha

theorem Alike.step (h : Alike document index s t) (segment : Segment) :
    List.Forall₂ (Alike document index) (s.step segment) (t.step segment.folded) := by
  cases segment with
  | property name =>
    exact .cons (h.property hfound ha (Text.sameIgnoringCase_fold name)) .nil
  | index position => exact .cons (h.element hfound position) .nil
  | wildcard => exact h.children ho

theorem forall₂_follow {scopes scopes' : List Scope} (segments : List Segment)
    (h : List.Forall₂ (Alike document index) scopes scopes') :
    List.Forall₂ (Alike document index) (follow scopes segments)
      (follow scopes' (segments.map Segment.folded)) := by
  induction segments generalizing scopes scopes' with
  | nil => exact h
  | cons segment rest ih =>
    exact ih (List.rel_flatMap h fun _ _ hst => hst.step hfound ho ha segment)

theorem Alike.resolve (h : Alike document index s t) (p : Path) :
    List.Forall₂ (Alike document index) (s.resolve p) (t.resolve p.folded) :=
  forall₂_follow hfound ho ha p.segments (.cons h .nil)

end Paths

end Scope

namespace Expression

open Scope (Alike)

def EvaluatesAs (document : Json) (index : LineIndex) (e e' : Expression) : Prop :=
  ∀ {s t}, Alike document index s t →
    e.evaluate (Template.resolver index) s = e'.evaluate (Template.resolver index) t

theorem forall₂_narrowByType (resourceType : Option String) (h : Alike document index s t) :
    List.Forall₂ (Alike document index) (narrowByType (Template.resolver index) resourceType s)
      (narrowByType (Template.resolver index) (resourceType.map Text.fold) t) := by
  cases resourceType with
  | none => exact .cons h .nil
  | some target => exact h.resourcesOfType (Text.sameIgnoringCase_fold target)

theorem admits_folded {condition : Option Expression}
    (hcondition : ∀ e, condition = some e → EvaluatesAs document index e e.folded)
    (h : Alike document index s t) :
    admits (Template.resolver index) condition s =
      admits (Template.resolver index) (conditionFolded condition) t := by
  cases condition with
  | none => rfl
  | some condition => rw [conditionFolded, admits_some, admits_some, hcondition condition rfl h]

theorem judge_folded {b : Body}
    (hchildren : ∀ e ∈ b.children, EvaluatesAs document index e e.folded)
    {scopes scopes' : List Scope} (h : List.Forall₂ (Alike document index) scopes scopes') :
    judge (Template.resolver index) b scopes =
      judge (Template.resolver index) b.folded scopes' := by
  have hmap : ∀ {α : Type} {f g : Scope → α},
      (∀ s t, Alike document index s t → f s = g t) → scopes.map f = scopes'.map g := by
    intro α f g hfg
    rw [← List.forall₂_eq_eq_eq]
    exact List.rel_map (fun s t hst => hfg s t hst) h
  by_cases hs : scopes = []
  · subst hs
    obtain rfl := List.forall₂_nil_left_iff.mp h
    rw [judge_nil, judge_nil]
  · have hs' : scopes' ≠ [] := by
      rintro rfl
      exact hs (List.forall₂_nil_right_iff.mp h)
    cases b with
    | operator op =>
      rw [Body.folded, judge_operator hs, judge_operator hs']
      congr 1
      refine hmap fun s t hst => ?_
      rw [hst.value]
      exact congrArg _ hst.line
    | group quantifier children =>
      rw [Body.folded, judge_group hs, judge_group hs', allFolded_eq_map]
      congr 1
      refine hmap fun s t hst => ?_
      rw [List.map_map]
      congr 1
      exact List.map_congr_left fun child hchild => hchildren child hchild hst

section Template

variable (hfound : ∀ l, (index.find? l).isSome = true → document.Has l)
  (ho : document.Ordered) (ha : document.NamesApart)

include hfound ho ha

theorem forall₂_narrowByPath (p : Option Path) {scopes scopes' : List Scope}
    (h : List.Forall₂ (Alike document index) scopes scopes') :
    List.Forall₂ (Alike document index) (narrowByPath (Template.resolver index) p scopes)
      (narrowByPath (Template.resolver index) (p.map Path.folded) scopes') := by
  cases p with
  | none => exact h
  | some p => exact List.rel_flatMap h fun _ _ hst => hst.resolve hfound ho ha p

theorem evaluatesAs_folded (e : Expression) : EvaluatesAs document index e e.folded := by
  induction e using descend with
  | narrowed resourceType p condition body hcondition hchildren =>
    intro s t h
    rw [folded, evaluate, evaluate]
    refine judge_folded hchildren (List.rel_filter ?_ ?_)
    · exact fun s t hst => Bool.eq_iff_iff.mp (admits_folded hcondition hst)
    · exact forall₂_narrowByPath hfound ho ha p (forall₂_narrowByType resourceType h)

end Template

end Expression

namespace RuleSet

variable {text : String} {path : Option FilePath} {template : Template} {y : Layout}

theorem evaluate_folded (ht : Template.parse text path = .ok template) (hy : y.IsOf text.toList)
    (ha : y.NamesApart) (rules : RuleSet) :
    rules.evaluate template = rules.folded.evaluate template := by
  rw [Template.parse] at ht
  split at ht
  · next document hparse =>
    obtain rfl := Except.ok.inj ht
    obtain ⟨z, hz, rfl⟩ := Layout.exists_isOf hparse
    obtain rfl := Layout.isOf_unique hz hy
    have hfound : ∀ l, ((LineIndex.build text).find? l).isSome = true → z.value.Has l :=
      fun l => (LineIndex.isSome_find?_build hz ha.noRepeats l).mp
    have hrule : ∀ rule : Rule,
        evaluateRule (Template.resolver (.build text)) (.root z.value) rule =
          evaluateRule (Template.resolver (.build text)) (.root z.value) rule.folded := by
      intro rule
      rw [evaluateRule, Expression.evaluatesAs_folded hfound z.ordered_value ha.value
        rule.expression ((Scope.exact_root _).alike _)]
      rfl
    rw [evaluate, evaluate, evaluateAt, evaluateAt, folded, List.filterMap_map]
    exact List.filterMap_congr fun rule _ => hrule rule
  · cases ht

/-- The evaluations of the rules for a template do not depend on the case in which they spell the
names on paths and the resource types. -/
theorem evaluate?_eq_of_folded_eq (ht : Template.parse text path = .ok template)
    (hy : y.IsOf text.toList) (ha : y.NamesApart) {rules rules' : RuleSet}
    (h : rules.folded = rules'.folded) :
    rules.evaluate? (some template) = rules'.evaluate? (some template) := by
  rw [evaluate?, evaluate?, evaluate_folded ht hy ha rules, evaluate_folded ht hy ha rules', h]

/-- By both spellings the condition holds of the member, and what is absent from its value has the
line of the member. -/
theorem evaluate?_eq_of_folded_eq_absent :
    let text : String := "\x7b\n\"Tags\":\x7b\x7d\x7d"
    let p : Path := ⟨"TAGS.owner", [.property "TAGS", .property "owner"]⟩
    let q : Path := ⟨"tags.Owner", [.property "tags", .property "Owner"]⟩
    let metadata : RuleMetadata := ⟨"R", none, "", "", none, .low⟩
    let rules (p : Path) : RuleSet :=
      ⟨[⟨metadata, .narrowed none (some p) none (.operator (.isPresent true))⟩]⟩
    ∃ template, Template.parse text none = .ok template ∧
      (rules p).evaluate? (some template) = .ok [⟨metadata, .leaf [⟨false, 2⟩]⟩] ∧
      (rules q).evaluate? (some template) = .ok [⟨metadata, .leaf [⟨false, 2⟩]⟩] := by
  intro text p q metadata rules
  let template : Template := ⟨.object [("Tags", .object [])], .build text, none⟩
  have ht : Template.parse text none = .ok template := by
    dsimp only [text, template]
    rfl
  let after (n : Nat) : List Char := text.toList.drop n
  let y : Layout := .object [("Tags", after 2, .object [])]
  have hy : y.IsOf text.toList := by
    obtain ⟨hopen, hmember, hquote, hname, hcolon, hinner, hend, hclose⟩ :
        Json.skipSpace text.toList = '\x7b' :: after 1 ∧
          Json.nextMember true (after 1) = .ok (true, after 3) ∧
          after 2 = '"' :: after 3 ∧
          Json.readString (after 3) = .ok ("Tags".toList, after 8) ∧
          Json.readColon (after 8) = .ok ((), after 9) ∧
          Json.skipSpace (after 9) = '\x7b' :: after 10 ∧
          Json.nextMember true (after 10) = .ok (false, after 11) ∧
          Json.nextMember false (after 11) = .ok (false, []) := by
      decide +kernel
    exact ⟨[], ⟨_, hopen, _, _, _, _, hmember, hquote, hname, hcolon, ⟨_, hinner, hend⟩, hclose⟩,
      rfl⟩
  have ha : y.NamesApart := .object (by decide) (by simpa using .object (by decide) (by simp))
  have hpath : p.folded = q.folded := by decide +kernel
  have hsame : (rules p).folded = (rules q).folded := by
    simp only [rules, RuleSet.folded, List.map_singleton, Rule.folded, Expression.folded,
      Option.map_some, hpath]
  have hrules : (rules p).evaluate? (some template) = .ok [⟨metadata, .leaf [⟨false, 2⟩]⟩] := by
    dsimp only [rules, template, text, p]
    rfl
  exact ⟨template, ht, hrules, (evaluate?_eq_of_folded_eq ht hy ha hsame).symm.trans hrules⟩

end RuleSet

end TemplateAudit
