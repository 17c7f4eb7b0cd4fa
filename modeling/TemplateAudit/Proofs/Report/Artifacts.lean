import TemplateAudit.Proofs.Files.Normal
import TemplateAudit.Proofs.Report.Agreement

/-! # Where the artifacts of a log are

A log names its root directory once, at the end, while every result has got the name of its
template before, relative to the root if that was known and the template is below it. A root never
changes after it is known, and nothing is below a root that could still be unknown, so for paths in
normal form the names lead back to the templates.
-/

namespace TemplateAudit.Sarif

open FilePath (IsNormal LiesBelow)

namespace Result

def uri? (r : Result) : Option Json :=
  r.toJson.at? [.key "locations", .index 0, .key "physicalLocation", .key "artifactLocation",
    .key "uri"]

def uriBaseId? (r : Result) : Option Json :=
  r.toJson.at? [.key "locations", .index 0, .key "physicalLocation", .key "artifactLocation",
    .key "uriBaseId"]

theorem uri?_eq (r : Result) : r.uri? = some (.string r.artifact.uri) := rfl

theorem uriBaseId?_eq (r : Result) :
    r.uriBaseId? = if r.artifact.belowRoot then some (.string rootId) else none := by
  obtain ⟨ruleId, ⟨uri, belowRoot⟩, line⟩ := r
  cases belowRoot <;> rfl

end Result

namespace Log

def baseUri? (l : Log) : Option Json :=
  l.toJson.at? [.key "runs", .index 0, .key "originalUriBaseIds", .key rootId, .key "uri"]

theorem baseUri?_eq (l : Log) :
    l.baseUri? = l.root.map fun base => .string base.toDirectoryUri := by
  obtain ⟨root, rules, results⟩ := l
  cases root <;> rfl

end Log

def IsRoot (base : FilePath) : Prop := base.IsNormal ∧ base.text ≠ ""

namespace Artifact

variable {root : Option FilePath} {base path : FilePath}

theorem belowRoot_ofPath : (ofPath root path).belowRoot =
    (root.bind fun base => base.relativeTo path).isSome := by
  unfold ofPath
  split
  · next h => rw [h, Option.isSome_some]
  · next h => rw [h, Option.isSome_none]

theorem belowRoot_ofPath_iff (hbase : IsRoot base) (hpath : path.IsNormal) :
    (ofPath (some base) path).belowRoot = true ↔ path.LiesBelow base := by
  rw [belowRoot_ofPath, Option.bind_some]
  exact FilePath.isSome_relativeTo_iff hbase.1 hbase.2 hpath

theorem uri_ofPath_alone (h : (ofPath root path).belowRoot = false) :
    (ofPath root path).uri = path.toUri := by
  unfold ofPath at h ⊢
  split at h
  · exact nomatch h
  · rfl

theorem uri_ofPath_below (hroot : ∀ base, root = some base → IsRoot base) (hpath : path.IsNormal)
    (h : (ofPath root path).belowRoot = true) :
    ∃ base, root = some base ∧ base.toDirectoryUri ++ (ofPath root path).uri = path.toUri := by
  rw [belowRoot_ofPath, Option.isSome_iff_exists] at h
  obtain ⟨rest, hrest⟩ := h
  obtain ⟨base, rfl, hrelative⟩ := Option.bind_eq_some_iff.mp hrest
  obtain ⟨hnormal, hne⟩ := hroot base rfl
  refine ⟨base, rfl, ?_⟩
  rw [ofPath, hrest]
  exact FilePath.toDirectoryUri_append_relativeTo hnormal hne hpath hrelative

end Artifact

namespace Log

variable {l : Log} {base path : FilePath}

theorem root_foldl_addFinding (artifact : Artifact) (findings : List RuleEvaluation) (l : Log) :
    (findings.foldl (addFinding artifact) l).root = l.root := by
  induction findings generalizing l with
  | nil => rfl
  | cons e rest ih => rw [List.foldl_cons, ih, addFinding]

theorem root_add (l : Log) (a : Analysis) : (l.add a).root = l.rootFor a.path := by
  rw [add, root_foldl_addFinding]

theorem root_foldl_add (analyses : List Analysis) (h : l.root = some base) :
    (analyses.foldl add l).root = some base := by
  induction analyses generalizing l with
  | nil => exact h
  | cons a rest ih =>
    apply ih
    rw [root_add, rootFor, h]

theorem isRoot_rootFor (hroot : ∀ base, l.root = some base → IsRoot base) (hpath : path.IsNormal) :
    ∀ base, l.rootFor path = some base → IsRoot base := by
  intro base h
  unfold rootFor at h
  split at h
  · next root hl =>
    obtain rfl := Option.some.inj h
    exact hroot _ hl
  · rw [Option.filter_eq_some_iff] at h
    exact ⟨FilePath.isNormal_parent? hpath h.1, by simpa using h.2⟩

theorem isRoot_foldl_add (analyses : List Analysis)
    (hroot : ∀ base, l.root = some base → IsRoot base)
    (hpaths : ∀ a ∈ analyses, a.path.IsNormal) :
    ∀ base, (analyses.foldl add l).root = some base → IsRoot base := by
  induction analyses generalizing l with
  | nil => exact hroot
  | cons a rest ih =>
    obtain ⟨ha, hrest⟩ := List.forall_mem_cons.mp hpaths
    refine ih ?_ hrest
    rw [root_add]
    exact isRoot_rootFor hroot ha

theorem not_liesBelow_of_rootFor_eq_none (hbase : IsRoot base) (hpath : path.IsNormal)
    (h : l.rootFor path = none) : ¬ path.LiesBelow base := by
  intro hbelow
  obtain ⟨directory, hparent, hne⟩ :=
    FilePath.exists_parent?_of_liesBelow hbase.1 hbase.2 hpath hbelow
  unfold rootFor at h
  split at h
  · exact nomatch h
  · simp [hparent, hne] at h

end Log

/-- What a finished log says about where a result is that was collected from a template. -/
structure LeadsTo (l : Log) (path : FilePath) (r : Result) : Prop where
  below_root (id : Json) : r.uriBaseId? = some id → id = .string rootId ∧
    ∃ base uri, l.baseUri? = some (.string base) ∧ r.uri? = some (.string uri) ∧
      base ++ uri = path.toUri
  alone : r.uriBaseId? = none → r.uri? = some (.string path.toUri)
  named_below (base : FilePath) : l.root = some base → path.LiesBelow base →
    r.uriBaseId? = some (.string rootId)

/-- The results of a template lead to it if the root of that time is the one of the log. -/
theorem leadsTo_of_artifact {root : Option FilePath} {l : Log} {path : FilePath} {r : Result}
    (hr : r.artifact = .ofPath root path) (hpath : path.IsNormal)
    (hroot : ∀ base, root = some base → IsRoot base)
    (hkept : ∀ base, root = some base → l.root = some base)
    (hunknown : ∀ base, root = none → l.root = some base → ¬ path.LiesBelow base) :
    LeadsTo l path r where
  below_root id h := by
    rw [Result.uriBaseId?_eq, hr] at h
    split at h
    · next hbelow =>
      obtain ⟨base, hbase, huri⟩ := Artifact.uri_ofPath_below hroot hpath hbelow
      refine ⟨(Option.some.inj h).symm, base.toDirectoryUri, r.artifact.uri, ?_, rfl, hr ▸ huri⟩
      rw [Log.baseUri?_eq, hkept base hbase, Option.map_some]
    · exact nomatch h
  alone h := by
    rw [Result.uriBaseId?_eq, hr] at h
    split at h
    · exact nomatch h
    · next halone =>
      rw [Result.uri?_eq, hr, Artifact.uri_ofPath_alone (Bool.eq_false_iff.mpr halone)]
  named_below base hbase hbelow := by
    cases root with
    | none => exact absurd hbelow (hunknown base rfl hbase)
    | some first =>
      obtain rfl := Option.some.inj ((hkept first rfl).symm.trans hbase)
      rw [Result.uriBaseId?_eq, hr, if_pos]
      exact (Artifact.belowRoot_ofPath_iff (hroot first rfl) hpath).mpr hbelow

theorem forall₂_leadsTo {l : Log} (analyses : List Analysis)
    (hroot : ∀ base, l.root = some base → IsRoot base)
    (hpaths : ∀ a ∈ analyses, a.path.IsNormal) :
    List.Forall₂ (fun a results => ∀ r ∈ results, LeadsTo (analyses.foldl Log.add l) a.path r)
      analyses (l.collected analyses) := by
  induction analyses generalizing l with
  | nil => exact .nil
  | cons a rest ih =>
    obtain ⟨ha, hrest⟩ := List.forall_mem_cons.mp hpaths
    have hfirst := Log.isRoot_rootFor hroot ha
    have hlast := Log.isRoot_foldl_add (a :: rest) hroot hpaths
    rw [Log.collected_cons]
    refine .cons ?_ (ih (by rwa [Log.root_add]) hrest)
    intro r hr
    obtain ⟨e, -, hr⟩ := List.mem_flatMap.mp hr
    obtain ⟨result, -, rfl⟩ := List.mem_map.mp hr
    refine leadsTo_of_artifact rfl ha hfirst ?_ ?_
    · intro base hbase
      rw [List.foldl_cons]
      exact Log.root_foldl_add rest ((Log.root_add l a).trans hbase)
    · intro base hnone hbase
      exact Log.not_liesBelow_of_rootFor_eq_none (hlast base hbase) ha hnone

/-- If the given root and all templates are written in normal form, every result of the finished
log leads to the template it was collected from: the URI of the root and that of the result join to
the URI of the template, or the result has that URI itself, and all results of templates below the
root are named relative to it. -/
theorem leadsTo_collected (root : Option FilePath) (analyses : List Analysis)
    (hroot : ∀ base, root = some base → base.IsNormal ∧ base.text ≠ "")
    (hpaths : ∀ a ∈ analyses, a.path.IsNormal) :
    let log := analyses.foldl Log.add (.start root)
    log.results = ((Log.start root).collected analyses).flatten ∧
      List.Forall₂ (fun a results => ∀ r ∈ results, LeadsTo log a.path r)
        analyses ((Log.start root).collected analyses) := by
  intro log
  exact ⟨Log.results_foldl_add (.start root) analyses, forall₂_leadsTo analyses hroot hpaths⟩

/-- The second template makes its directory the root. The first one could not, and the last one is
not below that directory. -/
theorem leadsTo_collected_lateRoot :
    let finding : RuleEvaluation := ⟨⟨"r", none, "", "", none, .high⟩, .leaf [⟨false, 3⟩]⟩
    let analyses : List Analysis := [⟨⟨"a.json"⟩, [finding]⟩, ⟨⟨"/w/b.json"⟩, [finding]⟩,
      ⟨⟨"/w/sub/c.json"⟩, [finding]⟩, ⟨⟨"/d.json"⟩, [finding]⟩]
    let log := analyses.foldl Log.add (.start none)
    (∀ a ∈ analyses, a.path.IsNormal) ∧
      log.results.map (·.artifact) =
        [⟨"a.json", false⟩, ⟨"b.json", true⟩, ⟨"sub/c.json", true⟩, ⟨"file:///d.json", false⟩] ∧
      log.baseUri? = some (.string "file:///w/") ∧
      List.Forall₂ (fun a results => ∀ r ∈ results, LeadsTo log a.path r)
        analyses ((Log.start none).collected analyses) := by
  intro finding analyses log
  have hpaths : ∀ a ∈ analyses, a.path.IsNormal := by
    simp only [analyses, List.forall_mem_cons, List.not_mem_nil, false_implies, implies_true,
      and_true]
    refine ⟨⟨false, ["a.json".toList], by decide, rfl⟩,
      ⟨true, ["w".toList, "b.json".toList], by decide, rfl⟩,
      ⟨true, ["w".toList, "sub".toList, "c.json".toList], by decide, rfl⟩,
      ⟨true, ["d.json".toList], by decide, rfl⟩⟩
  have hartifacts : log.results.map (·.artifact) =
      [⟨"a.json", false⟩, ⟨"b.json", true⟩, ⟨"sub/c.json", true⟩, ⟨"file:///d.json", false⟩] := by
    simp only [log, analyses, finding]
    decide +kernel
  have hroot : log.root = some ⟨"/w"⟩ := by
    simp only [log, analyses, finding]
    decide +kernel
  have hbase : log.baseUri? = some (.string "file:///w/") := by
    have huri : FilePath.toDirectoryUri ⟨"/w"⟩ = "file:///w/" := by decide +kernel
    rw [Log.baseUri?_eq, hroot, Option.map_some, huri]
  exact ⟨hpaths, hartifacts, hbase, (leadsTo_collected none analyses nofun hpaths).2⟩

end TemplateAudit.Sarif
