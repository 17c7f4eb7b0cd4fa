import Mathlib.Data.List.Nodup
import TemplateAudit.Engine
import TemplateAudit.Proofs.Files.Effects
import TemplateAudit.Proofs.Path.Reading

/-! # Selecting rules

Loading refuses rules with repeated identifiers, and selecting keeps or drops each rule by its
identifier alone. So whatever is selected from a loaded set has no repeated identifiers either, the
order of selections does not matter, and evaluating what is selected is selecting from what is
evaluated.
-/

namespace TemplateAudit

namespace RuleSet

variable {s loaded : RuleSet} {rules : List Rule}

/-- A rule set as it comes from a load: of a text, as the built-in one is, or of files. -/
inductive IsLoaded : RuleSet → Prop where
  | text {text : String} {s : RuleSet} : parse text = .ok s → IsLoaded s
  | path {path : FilePath} {fs fs' : FileSystem} {s : RuleSet} :
    (load path : StateM FileSystem _).run fs = (.ok s, fs') → IsLoaded s

inductive Selection where
  | only (ids : List String)
  | exclude (ids : List String)
  deriving DecidableEq, Repr

def narrow (s : RuleSet) : Selection → RuleSet
  | .only ids => s.only ids
  | .exclude ids => s.exclude ids

def narrowAll (s : RuleSet) (selections : List Selection) : RuleSet := selections.foldl narrow s

/-- An identifier is selected if it agrees up to ASCII case with one to include, unless none is
named, and with none to exclude. -/
def Selects (included excluded : List String) (id : String) : Prop :=
  (included = [] ∨ ∃ name ∈ included, Text.folded name = Text.folded id) ∧
    ∀ name ∈ excluded, Text.folded name ≠ Text.folded id

instance (included excluded : List String) : DecidablePred (Selects included excluded) :=
  fun _ => inferInstanceAs (Decidable (_ ∧ _))

section Identifiers

theorem firstDuplicate?_eq_none_iff {seen : List String} :
    firstDuplicate? seen rules = none ↔
      (rules.map Rule.id).Nodup ∧ ∀ id ∈ rules.map Rule.id, id ∉ seen := by
  induction rules generalizing seen with
  | nil => simp [firstDuplicate?]
  | cons rule rest ih =>
    rw [firstDuplicate?, List.map_cons, List.nodup_cons, List.forall_mem_cons]
    by_cases h : rule.id ∈ seen
    · simp [h]
    · rw [if_neg (by simpa using h), ih]
      simp only [List.mem_cons, not_or]
      constructor
      · rintro ⟨hnodup, hfresh⟩
        exact ⟨⟨fun hmem => (hfresh _ hmem).1 rfl, hnodup⟩, h, fun id hid => (hfresh id hid).2⟩
      · rintro ⟨⟨hrule, hnodup⟩, -, hfresh⟩
        exact ⟨hnodup, fun id hid => ⟨fun he => hrule (he ▸ hid), hfresh id hid⟩⟩

theorem ofRules_eq_ok_iff : ofRules rules = .ok s ↔ s = ⟨rules⟩ ∧ (rules.map Rule.id).Nodup := by
  rw [ofRules]
  have hnone : firstDuplicate? [] rules = none ↔ _ := firstDuplicate?_eq_none_iff
  cases h : firstDuplicate? [] rules with
  | none => simp [hnone.mp h, eq_comm]
  | some id =>
    have hrepeats : ¬ (rules.map Rule.id).Nodup := by
      intro hnodup
      rw [hnone.mpr ⟨hnodup, by simp⟩] at h
      exact nomatch h
    simp [hrepeats]

theorem nodup_of_rulesAt {fs : FileSystem} {path : FilePath} (h : fs.rulesAt path = .ok s) :
    s.ids.Nodup := by
  have hfiles : ∀ {files}, ofFiles files = .ok s → s.ids.Nodup := by
    intro files hs
    obtain ⟨rules, -, hs⟩ := bind_eq_ok_iff.mp hs
    obtain ⟨rfl, hnodup⟩ := ofRules_eq_ok_iff.mp hs
    exact hnodup
  rw [FileSystem.rulesAt] at h
  split at h
  · cases h
  · exact hfiles h
  · split at h
    · cases h
    · exact hfiles h

theorem IsLoaded.nodup (h : IsLoaded s) : s.ids.Nodup := by
  cases h with
  | text h =>
    obtain ⟨rules, -, hs⟩ := bind_eq_ok_iff.mp h
    obtain ⟨rfl, hnodup⟩ := ofRules_eq_ok_iff.mp hs
    exact hnodup
  | path h =>
    rw [reads_load] at h
    exact nodup_of_rulesAt (Prod.mk.inj h).1

theorem narrow_sublist (s : RuleSet) (selection : Selection) :
    (s.narrow selection).rules.Sublist s.rules := by
  cases selection with
  | only ids => exact List.filter_sublist
  | exclude ids => exact List.filter_sublist

theorem narrowAll_sublist (s : RuleSet) (selections : List Selection) :
    (s.narrowAll selections).rules.Sublist s.rules := by
  induction selections generalizing s with
  | nil => exact .refl _
  | cons selection rest ih => exact (ih (s.narrow selection)).trans (s.narrow_sublist selection)

theorem nodup_of_sublist (h : s.rules.Sublist loaded.rules) (hloaded : loaded.ids.Nodup) :
    s.ids.Nodup :=
  (h.map Rule.id).nodup hloaded

theorem get?_eq_some_iff (h : s.ids.Nodup) {id : String} {rule : Rule} :
    s.get? id = some rule ↔ rule ∈ s.rules ∧ rule.id = id := by
  obtain ⟨rules⟩ := s
  simp only [get?, ids] at h ⊢
  induction rules with
  | nil => simp
  | cons first rest ih =>
    obtain ⟨hfirst, hrest⟩ := List.nodup_cons.mp h
    rw [List.find?_cons]
    by_cases hid : first.id = id
    · simp only [hid, decide_true, Option.some.injEq, List.mem_cons]
      constructor
      · rintro rfl
        exact ⟨.inl rfl, hid⟩
      · rintro ⟨rfl | hmem, hrule⟩
        · rfl
        · exact absurd (List.mem_map.mpr ⟨rule, hmem, hrule.trans hid.symm⟩) hfirst
    · simp only [hid, decide_false, ih hrest, List.mem_cons]
      refine and_congr_left fun hrule => ⟨.inr, fun hmem => hmem.resolve_left ?_⟩
      rintro rfl
      exact hid hrule

theorem exists_get?_iff (h : s.ids.Nodup) {id : String} :
    (∃ rule, s.get? id = some rule) ↔ id ∈ s.ids := by
  simp only [get?_eq_some_iff h, ids, List.mem_map]

end Identifiers

section Evaluation

theorem isListed_iff {names : List String} {rule : Rule} :
    isListed names rule = true ↔ ∃ name ∈ names, Text.folded name = Text.folded rule.id := by
  simp only [isListed, List.any_eq_true, Text.sameIgnoringCase_iff]

/-- Selecting is dropping the rules whose identifiers are not selected. -/
theorem rules_select (s : RuleSet) (included excluded : List String) :
    (s.select included excluded).rules =
      s.rules.filter fun rule => Selects included excluded rule.id := by
  have hexcluded : ∀ rule : Rule, (!isListed excluded rule) = true ↔
      ∀ name ∈ excluded, Text.folded name ≠ Text.folded rule.id := by
    intro rule
    rw [Bool.not_eq_true', ← Bool.not_eq_true, isListed_iff]
    simp
  rw [select, exclude]
  by_cases h : included = []
  · rw [if_pos h]
    refine List.filter_congr fun rule _ => Bool.eq_iff_iff.mpr ?_
    rw [hexcluded, decide_eq_true_iff, Selects, and_iff_right (.inl h)]
  · rw [if_neg h, only, List.filter_filter]
    refine List.filter_congr fun rule _ => Bool.eq_iff_iff.mpr ?_
    rw [Bool.and_eq_true, hexcluded, isListed_iff, decide_eq_true_iff, Selects, or_iff_right h,
      and_comm]

theorem narrow_comm (s : RuleSet) (included excluded : List String) :
    (s.narrow (.only included)).narrow (.exclude excluded) =
      (s.narrow (.exclude excluded)).narrow (.only included) := by
  simp only [narrow, only, exclude, List.filter_filter, Bool.and_comm]

theorem select_eq (s : RuleSet) (included excluded : List String) :
    s.select included excluded =
      if included = [] then s.exclude excluded else (s.exclude excluded).only included := by
  rw [select]
  split
  · rfl
  · exact narrow_comm s included excluded

theorem id_of_evaluateRule {r : Resolver} {scope : Scope} {rule : Rule} {e : RuleEvaluation}
    (h : evaluateRule r scope rule = some e) : e.rule.id = rule.id := by
  rw [evaluateRule] at h
  split at h
  · exact nomatch h
  · obtain rfl := Option.some.inj h
    rfl

/-- The evaluation of a rule has its identifier, so selecting rules before evaluating them is
selecting among the evaluations. -/
theorem evaluate_select (s : RuleSet) (included excluded : List String) (t : Template) :
    (s.select included excluded).evaluate t =
      (s.evaluate t).filter fun e => Selects included excluded e.rule.id := by
  rw [evaluate, evaluate, evaluateAt, evaluateAt, rules_select, List.filterMap_filter,
    List.filter_filterMap]
  refine List.filterMap_congr fun rule _ => ?_
  cases he : evaluateRule (Template.resolver t.lines) (.root t.document) rule with
  | none => simp
  | some e => rw [Option.filter_some, id_of_evaluateRule he]

end Evaluation

/-- Whatever is selected from a loaded rule set has distinct identifiers, is a part of that set in
its order, and finds exactly its own rules by their identifiers. When settings select from it in
turn, the evaluations are those of the selected rules among the evaluations before, and it does not
matter whether rules are included or excluded first. -/
theorem evaluate_selectRules (h : IsLoaded loaded) (selections : List Selection) :
    let s := loaded.narrowAll selections
    s.ids.Nodup ∧ s.rules.Sublist loaded.rules ∧
      (∀ id, (∃ rule, s.get? id = some rule) ↔ id ∈ s.ids) ∧
      (∀ id rule, s.get? id = some rule → rule ∈ s.rules ∧ rule.id = id) ∧
      ∀ settings : Settings,
        (∀ t, (settings.selectRules s).evaluate? (some t) = .ok ((s.evaluate t).filter fun e =>
          Selects settings.includeRules settings.excludeRules e.rule.id)) ∧
        settings.selectRules s =
          if settings.includeRules = [] then s.exclude settings.excludeRules
          else (s.exclude settings.excludeRules).only settings.includeRules := by
  intro s
  have hsublist : s.rules.Sublist loaded.rules := narrowAll_sublist loaded selections
  have hnodup : s.ids.Nodup := nodup_of_sublist hsublist h.nodup
  refine ⟨hnodup, hsublist, fun id => exists_get?_iff hnodup,
    fun id rule => (get?_eq_some_iff hnodup).mp, fun settings => ⟨fun t => ?_, ?_⟩⟩
  · rw [evaluate?, Settings.selectRules, evaluate_select]
  · exact select_eq s settings.includeRules settings.excludeRules

/-- Two of the loaded identifiers differ only by case: each finds its own rule, and they are
selected together. -/
theorem evaluate_selectRules_caseVariants :
    let text : String := "[\x7b\"id\":\"r\",\"evaluation\":\x7b\"exists\":true\x7d\x7d,
      \x7b\"id\":\"R\",\"evaluation\":\x7b\"exists\":false\x7d\x7d]"
    let settings : Settings := ⟨none, ["none"], ["R"], .console, none⟩
    let t : Template := ⟨.null, .build "null", none⟩
    ∃ loaded, parse text = .ok loaded ∧ loaded.ids = ["r", "R"] ∧
      (∃ rule, (loaded.narrowAll [.exclude ["s"]]).get? "R" = some rule) ∧
      (settings.selectRules (loaded.narrowAll [.exclude ["s"]])).evaluate? (some t) =
        .ok [⟨⟨"r", none, "", "", none, .medium⟩, .leaf [⟨true, 1⟩]⟩,
          ⟨⟨"R", none, "", "", none, .medium⟩, .leaf [⟨false, 1⟩]⟩] := by
  intro text settings t
  let item (id : String) (expected : Bool) : Json :=
    .object [("evaluation", .object [("exists", .bool expected)]), ("id", .string id)]
  let rule (id : String) (expected : Bool) : Rule :=
    ⟨⟨id, none, "", "", none, .medium⟩, .narrowed none none none (.operator (.isPresent expected))⟩
  let loaded : RuleSet := ⟨[rule "r" true, rule "R" false]⟩
  have hdocument : Json.parse text = .ok (.array [item "r" true, item "R" false]) := by
    dsimp only [text, item]
    rfl
  have hrules : Rule.parseAll "<inline>" text = .ok loaded.rules := by
    rw [Rule.parseAll, hdocument]
    rfl
  have hparse : parse text = .ok loaded :=
    bind_eq_ok_iff.mpr ⟨_, hrules, ofRules_eq_ok_iff.mpr ⟨rfl, by decide⟩⟩
  have hevaluate : (loaded.narrowAll [.exclude ["s"]]).evaluate t =
      [⟨(rule "r" true).metadata, .leaf [⟨true, 1⟩]⟩, ⟨(rule "R" false).metadata,
        .leaf [⟨false, 1⟩]⟩] := by
    dsimp only [loaded, rule, t]
    rfl
  obtain ⟨-, -, hget, -, hselect⟩ := evaluate_selectRules (.text hparse) [.exclude ["s"]]
  refine ⟨loaded, hparse, rfl, (hget "R").mpr (by decide), ?_⟩
  rw [(hselect settings).1 t, hevaluate, List.filter_eq_self.mpr]
  decide

end RuleSet

end TemplateAudit
