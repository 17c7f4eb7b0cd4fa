import TemplateAudit.Proofs.Files.Deletion
import TemplateAudit.Proofs.Rule.Selection
import TemplateAudit.Proofs.Run.Writing

/-! # Analyzing a directory

The templates below a directory are the files that are named as templates and declare the schema of
deployment templates. The report of the directory has a block for each of them, in the order of
their places, and all other files of the directory could as well not be there.
-/

namespace TemplateAudit

open FileSystem

def FilePath.below (directory : FilePath) (place : List String) : FilePath :=
  place.foldl (fun path name => path.append ⟨name⟩) directory

/-- At a place below a base there is a file whose extension is `json` in any case, and its text
holds a document that declares the schema of deployment templates. -/
structure HoldsTemplate (fs : FileSystem) (base place : List String) (text : String)
    (document : Json) : Prop where
  extension : ∃ name extension, place.getLast? = some name ∧
    FilePath.extension? name = some extension ∧ Text.sameIgnoringCase extension "json" = true
  file : fs.root.nodeAt? (base ++ place) = some (.file (.text text))
  parsed : Json.parse text = .ok document
  declares : Template.declaresDeployment document = true

variable {fs fs' : FileSystem} {directory : FilePath} {base place : List String}
  {places : List (List String)}

section Templates

def templateAt? (fs : FileSystem) (directory : FilePath) (base place : List String) :
    Option Template :=
  if Run.isTemplateFile place then
    Run.deploymentTemplate? (directory.below place) (textOf (fs.root.nodeAt? (base ++ place)))
  else none

theorem isTemplateFile_iff : Run.isTemplateFile place = true ↔
    ∃ name extension, place.getLast? = some name ∧ FilePath.extension? name = some extension ∧
      Text.sameIgnoringCase extension "json" = true := by
  rw [Run.isTemplateFile]
  cases hname : place.getLast? with
  | none => simp
  | some name =>
    rw [Option.bind_eq_bind, Option.bind_some]
    cases hextension : FilePath.extension? name with
    | none => simp [hextension]
    | some extension => simp [hextension]

theorem deploymentTemplate?_eq_some_iff {path : FilePath} {content : Except FileError String}
    {t : Template} : Run.deploymentTemplate? path content = some t ↔
      ∃ text document, content = .ok text ∧ Json.parse text = .ok document ∧
        Template.declaresDeployment document = true ∧
          t = { document, lines := .build text, path := some path } := by
  rw [Run.deploymentTemplate?, Option.filter_eq_some_iff]
  cases content with
  | error e => simp [Template.ofFile, Except.toOption]
  | ok text =>
    simp only [Template.ofFile, Template.parse, Except.ok.injEq, exists_and_left, exists_eq_left']
    cases hparse : Json.parse text with
    | error e => simp [Except.toOption]
    | ok document =>
      simp only [Except.toOption, Option.some.injEq, Except.ok.injEq, exists_eq_left']
      constructor
      · rintro ⟨rfl, hdeclares⟩
        exact ⟨hdeclares, rfl⟩
      · rintro ⟨hdeclares, rfl⟩
        exact ⟨rfl, hdeclares⟩

theorem templateAt?_eq_some_iff {t : Template} : templateAt? fs directory base place = some t ↔
    ∃ text document, HoldsTemplate fs base place text document ∧
      t = { document, lines := .build text, path := some (directory.below place) } := by
  have htext : ∀ text, textOf (fs.root.nodeAt? (base ++ place)) = .ok text ↔
      fs.root.nodeAt? (base ++ place) = some (.file (.text text)) := fun _ => textOf_eq_ok_iff
  rw [templateAt?, Option.ite_none_right_eq_some, isTemplateFile_iff,
    deploymentTemplate?_eq_some_iff]
  simp only [htext]
  constructor
  · rintro ⟨hname, text, document, hfile, hparse, hdeclares, rfl⟩
    exact ⟨text, document, ⟨hname, hfile, hparse, hdeclares⟩, rfl⟩
  · rintro ⟨text, document, ⟨hname, hfile, hparse, hdeclares⟩, rfl⟩
    exact ⟨hname, text, document, hfile, hparse, hdeclares, rfl⟩

theorem isSome_templateAt?_iff : (templateAt? fs directory base place).isSome = true ↔
    ∃ text document, HoldsTemplate fs base place text document := by
  simp only [Option.isSome_iff_exists, templateAt?_eq_some_iff]
  constructor
  · rintro ⟨_, text, document, h, -⟩
    exact ⟨text, document, h⟩
  · rintro ⟨text, document, h⟩
    exact ⟨_, text, document, h, rfl⟩

/-- The places of the templates below a base, in their order. -/
def TemplatePlaces (fs : FileSystem) (base : List String) (places : List (List String)) : Prop :=
  places.Pairwise (· < ·) ∧
    ∀ place, place ∈ places ↔ ∃ text document, HoldsTemplate fs base place text document

section Listing

variable (hnamed : fs.root.WellNamed) (hdirectory : fs.locate directory = .ok base)
  (hbase : fs.root.nodeAt? base = some .directory)

include hnamed hdirectory hbase

theorem exists_templatePlaces : ∃ places, TemplatePlaces fs base places := by
  obtain ⟨listed, -, hmem⟩ := exists_filePlaces hnamed hdirectory hbase
  refine ⟨ascending (listed.filter fun place => (templateAt? fs directory base place).isSome),
    pairwise_lt_ascending _, fun place => ?_⟩
  rw [mem_ascending, List.mem_filter, hmem, isSome_templateAt?_iff, and_iff_right_iff_imp]
  rintro ⟨text, document, h⟩
  exact ⟨_, h.file⟩

theorem templates_directory (hplaces : TemplatePlaces fs base places) :
    ∃ listed, fs.filePlaces directory = .ok listed ∧
      (Run.templateFiles directory listed).filterMap
          (fun path => Run.deploymentTemplate? path (fs.readText path)) =
        places.filterMap (templateAt? fs directory base) := by
  obtain ⟨hsorted, hholds⟩ := hplaces
  obtain ⟨listed, hlisted, hmem⟩ := exists_filePlaces hnamed hdirectory hbase
  refine ⟨listed, hlisted, ?_⟩
  have hfound : (ascending (listed.filter Run.isTemplateFile)).filter
      (fun place => (templateAt? fs directory base place).isSome) = places := by
    refine ((pairwise_lt_ascending _).filter _).eq_of_mem_iff hsorted fun place => ?_
    rw [List.mem_filter, mem_ascending, List.mem_filter, hmem, isSome_templateAt?_iff, hholds,
      and_iff_right_iff_imp]
    rintro ⟨text, document, h⟩
    exact ⟨⟨_, h.file⟩, isTemplateFile_iff.mpr h.extension⟩
  have hread : ∀ place ∈ ascending (listed.filter Run.isTemplateFile),
      Run.deploymentTemplate? (directory.below place) (fs.readText (directory.below place)) =
        templateAt? fs directory base place := by
    intro place hplace
    obtain ⟨hplace, htemplate⟩ := List.mem_filter.mp (mem_ascending.mp hplace)
    obtain ⟨content, hfile⟩ := (hmem place).mp hplace
    have hsome : (fs.root.nodeAt? (base ++ place)).isSome = true := by
      rw [hfile]
      rfl
    have hentries : ∀ name ∈ place, FileTree.IsEntryName name := fun name hname =>
      hnamed.isEntryName hsome name (List.mem_append_right _ hname)
    rw [templateAt?, if_pos htemplate, FilePath.below,
      readText_eq (locate_foldl_append hdirectory hentries hsome)]
  rw [Run.templateFiles, List.filterMap_map, ← hfound, List.filterMap_filter]
  refine List.filterMap_congr fun place hplace => ?_
  rw [Function.comp_apply, ← FilePath.below, hread place hplace]
  cases templateAt? fs directory base place <;> rfl

end Listing

end Templates

section Deleting

variable {kept : List (List String)} (hnamed : fs.root.WellNamed)
  (hbase : fs.root.nodeAt? base = some .directory) (hplaces : TemplatePlaces fs base places)
  (hkept : ∀ place ∈ places, place ∈ kept)

include hnamed hbase hplaces hkept

theorem templatePlaces_keepOnly : TemplatePlaces (fs.keepOnly base kept) base places := by
  refine ⟨hplaces.1, fun place => ?_⟩
  rw [hplaces.2]
  refine exists_congr fun text => exists_congr fun document => ?_
  constructor
  · intro h
    have hmem := hkept place ((hplaces.2 place).mpr ⟨text, document, h⟩)
    exact ⟨h.extension, (nodeAt?_keepOnly_file hnamed hbase).mpr ⟨h.file, hmem⟩, h.parsed,
      h.declares⟩
  · intro h
    exact ⟨h.extension, ((nodeAt?_keepOnly_file hnamed hbase).mp h.file).1, h.parsed, h.declares⟩

theorem templates_keepOnly : places.filterMap (templateAt? (fs.keepOnly base kept) directory base) =
    places.filterMap (templateAt? fs directory base) := by
  refine List.filterMap_congr fun place hplace => ?_
  obtain ⟨text, document, h⟩ := (hplaces.2 place).mp hplace
  have hfile := (nodeAt?_keepOnly_file hnamed hbase).mpr ⟨h.file, hkept place hplace⟩
  rw [templateAt?, templateAt?, hfile, h.file]

end Deleting

/-- A run ends with the exit code for some analyses and the report on them, which is printed or
stands in the output file. -/
def ShowsReport (directory : FilePath) (s : Settings) (analyses : List Analysis)
    (ending : Outcome × FileSystem) : Prop :=
  let report := reportText (some directory) analyses s.reportFormat
  ending.1.exitCode = Outcome.codeFor (Run.findingCount analyses) ∧
    match s.outputFile with
    | none => ending.1.stdout = report
    | some path => ending.1.stdout = "" ∧ ending.2.readText path = .ok report

def CanWrite (fs : FileSystem) (outputFile : Option FilePath) : Prop :=
  ∀ path, outputFile = some path → ∃ place, fs.target path = .ok place

def directoryEnding (directory : FilePath) (flags : Flags) (config : Option FilePath)
    (fs : FileSystem) : Outcome × FileSystem :=
  (Run.execute (.analyzeDirectory directory flags config) : StateM FileSystem Outcome).run fs

section Delivering

variable {s : Settings}

theorem showsReport_deliver (analyses : List Analysis) (h : CanWrite fs s.outputFile) :
    ShowsReport directory s analyses
      ((Run.deliver s.outputFile (Outcome.codeFor (Run.findingCount analyses))
        (reportText (some directory) analyses s.reportFormat) :
          StateM FileSystem Outcome).run fs) := by
  rw [ShowsReport]
  cases houtput : s.outputFile with
  | none =>
    rw [Run.run_deliver_print]
    exact ⟨rfl, rfl⟩
  | some path =>
    obtain ⟨place, htarget⟩ := h path houtput
    have hwrite := writeText_of_target htarget
      (reportText (some directory) analyses s.reportFormat)
    rw [Run.run_deliver_file hwrite]
    exact ⟨rfl, rfl, readText_of_writeText hwrite⟩

theorem exitCode_deliver_of_not_canWrite {outputFile : Option FilePath}
    (h : ¬ CanWrite fs outputFile) (code : Nat) (report : String) :
    ((Run.deliver outputFile code report : StateM FileSystem Outcome).run fs).1.exitCode = 1 := by
  cases outputFile with
  | none => exact absurd (fun path hpath => nomatch hpath) h
  | some path =>
    cases hwrite : fs.writeText path report with
    | error e =>
      rw [Run.run_deliver_refused hwrite]
      rfl
    | ok new =>
      obtain ⟨place, htarget, -⟩ := exists_place_of_writeText hwrite
      refine absurd (fun other hother => ?_) h
      obtain rfl := Option.some.inj hother
      exact ⟨place, htarget⟩

end Delivering

/-- A directory is analyzed with the settings and the rules that are found, and neither the
configuration file nor the rules lie below it. -/
structure DirectoryRun (fs : FileSystem) (directory : FilePath) (flags : Flags)
    (config : Option FilePath) (base : List String) (s : Settings) (rules : RuleSet) : Prop where
  wellNamed : fs.root.WellNamed
  located : fs.locate directory = .ok base
  isDirectory : fs.root.nodeAt? base = some .directory
  settings : ∃ c, (Config.discover config : StateM FileSystem _).run fs = (.ok c, fs) ∧
    s = .merge c flags
  rules : (s.loadRules : StateM FileSystem _).run fs = (.ok rules, fs)
  config_outside : ∀ file place, fs.configFile? config = some file →
    fs.locate file = .ok place → ¬ base <+: place
  rules_outside : ∀ path place, s.rules = some path → fs.locate path = .ok place → ¬ base <+: place

variable {flags : Flags} {config : Option FilePath} {s : Settings} {rules : RuleSet}

namespace DirectoryRun

variable (h : DirectoryRun fs directory flags config base s rules)

include h

/-- The run delivers the report on the templates at their places. -/
theorem run_execute (hplaces : TemplatePlaces fs base places) :
    let analyses := (places.filterMap (templateAt? fs directory base)).map (Run.analysisOf rules)
    (Run.execute (.analyzeDirectory directory flags config) : StateM FileSystem Outcome).run fs =
      (Run.deliver s.outputFile (Outcome.codeFor (Run.findingCount analyses))
        (reportText (some directory) analyses s.reportFormat) :
          StateM FileSystem Outcome).run fs := by
  obtain ⟨c, hconfig, rfl⟩ := h.settings
  obtain ⟨listed, hlisted, htemplates⟩ :=
    templates_directory h.wellNamed h.located h.isDirectory hplaces
  have hkind : fs.kind? directory = some .directory :=
    kind?_eq_directory_iff.mpr ⟨base, h.located, h.isDirectory⟩
  intro analyses
  rw [Run.execute, Run.withSettings, StateT.run_bind, hconfig, ← report_start]
  exact (Run.run_analyzeDirectory hkind hlisted _).trans
    (htemplates ▸ Run.run_analyze h.rules (some directory) _)

theorem shows (hplaces : TemplatePlaces fs base places) :
    let analyses := (places.filterMap (templateAt? fs directory base)).map (Run.analysisOf rules)
    let ending := directoryEnding directory flags config fs
    (CanWrite fs s.outputFile → ShowsReport directory s analyses ending) ∧
      (¬ CanWrite fs s.outputFile → ending.1.exitCode = 1) := by
  intro analyses ending
  have hending : ending = _ := h.run_execute hplaces
  rw [hending]
  exact ⟨showsReport_deliver analyses, fun hcan => exitCode_deliver_of_not_canWrite hcan _ _⟩

theorem keepOnly (places : List (List String)) :
    DirectoryRun (fs.keepOnly base places) directory flags config base s rules := by
  have hfewer := fewerFiles_keepOnly h.wellNamed base places
  have hbase := hfewer.directory_iff.mpr h.isDirectory
  refine ⟨hfewer.wellNamed, ?_, hbase, ?_, ?_, ?_, ?_⟩
  · exact (hfewer.locate_iff (hbase.trans h.isDirectory.symm)).mpr h.located
  · obtain ⟨c, hconfig, hs⟩ := h.settings
    have hread := (Prod.mk.inj ((reads_discover config fs).symm.trans hconfig)).1
    exact ⟨c, (reads_discover config _).trans
      (congrArg (·, _) (hfewer.configFor_eq h.config_outside hread)), hs⟩
  · have hread := (Prod.mk.inj ((reads_loadRules s fs).symm.trans h.rules)).1
    exact (reads_loadRules s _).trans (congrArg (·, _)
      (hfewer.rulesFor_eq h.isDirectory h.wellNamed h.rules_outside hread))
  · intro file place hfile hplace
    rw [hfewer.configFile?_eq h.config_outside] at hfile
    exact h.config_outside file place hfile (hfewer.locate_of hplace)
  · intro path place hpath hplace
    exact h.rules_outside path place hpath (hfewer.locate_of hplace)

end DirectoryRun

def AnalysisAt (fs : FileSystem) (directory : FilePath) (base : List String) (rules : RuleSet)
    (place : List String) (a : Analysis) : Prop :=
  ∃ text document, HoldsTemplate fs base place text document ∧
    a = ⟨directory.below place, rules.evaluate
      { document, lines := .build text, path := some (directory.below place) }⟩

theorem forall₂_analysisAt
    (h : ∀ place ∈ places, ∃ text document, HoldsTemplate fs base place text document) :
    List.Forall₂ (AnalysisAt fs directory base rules) places
      ((places.filterMap (templateAt? fs directory base)).map (Run.analysisOf rules)) := by
  induction places with
  | nil => exact .nil
  | cons place rest ih =>
    obtain ⟨⟨text, document, hholds⟩, hrest⟩ := List.forall_mem_cons.mp h
    rw [List.filterMap_cons_some (templateAt?_eq_some_iff.mpr ⟨text, document, hholds, rfl⟩)]
    exact .cons ⟨text, document, hholds, rfl⟩ (ih hrest)

theorem flatMap_blockText {analyses : List Analysis}
    (h : List.Forall₂ (AnalysisAt fs directory base rules) places analyses) :
    analyses.flatMap (fun a => Console.blockText a.path a) =
      (List.zipWith (fun place a =>
        "" :: s!"File: {(directory.below place).text}" :: Console.contentText a) places
          analyses).flatten := by
  induction h with
  | nil => rfl
  | cons ha hrest ih =>
    obtain ⟨text, document, -, rfl⟩ := ha
    rw [List.flatMap_cons, ih, List.zipWith_cons_cons, List.flatten_cons, Console.blockText]

/-- What the report of a directory has to do with the files below it. -/
structure ReportsDirectory (fs : FileSystem) (directory : FilePath) (flags : Flags)
    (config : Option FilePath) (base : List String) (s : Settings) (rules : RuleSet)
    (places : List (List String)) (analyses : List Analysis) : Prop where
  increasing : places.Pairwise (· < ·)
  mem_iff (place : List String) :
    place ∈ places ↔ ∃ text document, HoldsTemplate fs base place text document
  analyzed : List.Forall₂ (AnalysisAt fs directory base rules) places analyses
  /-- The console report has a block for each of the places, which begins with the line of its
  file, and ends with the totals. -/
  console_text : reportText (some directory) analyses .console =
    unlines ((List.zipWith (fun place a =>
      "" :: s!"File: {(directory.below place).text}" :: Console.contentText a) places
        analyses).flatten ++ Console.totalsText places.length (Run.findingCount analyses))
  shown : CanWrite fs s.outputFile →
    ShowsReport directory s analyses (directoryEnding directory flags config fs)
  /-- Other files below the directory can be deleted: the exit code and the report stay. -/
  isolated (kept : List (List String)) : (∀ place ∈ places, place ∈ kept) →
    let ending := directoryEnding directory flags config (fs.keepOnly base kept)
    ending.1.exitCode = (directoryEnding directory flags config fs).1.exitCode ∧
      (CanWrite fs s.outputFile → ShowsReport directory s analyses ending)

/-- The report of a directory covers exactly the templates below it, each once and in the order of
their places, and depends on no other file below the directory. -/
theorem exists_reportsDirectory (h : DirectoryRun fs directory flags config base s rules) :
    ∃ places analyses, ReportsDirectory fs directory flags config base s rules places analyses := by
  obtain ⟨places, hplaces⟩ := exists_templatePlaces h.wellNamed h.located h.isDirectory
  let analyses := (places.filterMap (templateAt? fs directory base)).map (Run.analysisOf rules)
  have hanalyzed : List.Forall₂ (AnalysisAt fs directory base rules) places analyses :=
    forall₂_analysisAt fun place => (hplaces.2 place).mp
  obtain ⟨hshown, hfailed⟩ := h.shows hplaces
  refine ⟨places, analyses, hplaces.1, hplaces.2, hanalyzed, ?_, hshown, fun kept hkept => ?_⟩
  · rw [reportText, Console.reportText, hanalyzed.length_eq, flatMap_blockText hanalyzed]
  · obtain ⟨hshown', hfailed'⟩ := (h.keepOnly kept).shows
      (templatePlaces_keepOnly h.wellNamed h.isDirectory hplaces hkept)
    have hwrite : CanWrite (fs.keepOnly base kept) s.outputFile ↔ CanWrite fs s.outputFile := by
      simp only [CanWrite, (fewerFiles_keepOnly h.wellNamed base kept).target_iff]
    rw [templates_keepOnly h.wellNamed h.isDirectory hplaces hkept, hwrite] at hshown'
    rw [hwrite] at hfailed'
    refine ⟨?_, hshown'⟩
    by_cases hcan : CanWrite fs s.outputFile
    · exact (hshown' hcan).1.trans (hshown hcan).1.symm
    · exact (hfailed' hcan).trans (hfailed hcan).symm

/-- Below this directory there is one template in a nested directory, and a file with the name of a
template that holds no document. -/
theorem exists_reportsDirectory_nested :
    let text : String := "\x7b\"$schema\":\"deploymentTemplate\"\x7d"
    let rulesText : String := "[\x7b\"id\":\"r\",\"evaluation\":\x7b\"exists\":true\x7d\x7d]"
    let tree : FileTree := .directory [("a.json", .file (.text "[")),
      ("n", .directory [("t.JSON", .file (.text text)), ("b.txt", .file (.binary [255]))])]
    let fs : FileSystem := ⟨.directory [("d", tree), ("r.json", .file (.text rulesText))], []⟩
    let flags : Flags := ⟨some ⟨"r.json"⟩, none, some ⟨"out"⟩⟩
    ∃ s rules places analyses, DirectoryRun fs ⟨"d"⟩ flags none ["d"] s rules ∧
      ["n", "t.JSON"] ∈ places ∧ ["a.json"] ∉ places ∧
      ReportsDirectory fs ⟨"d"⟩ flags none ["d"] s rules places analyses := by
  intro text rulesText tree fs flags
  let item : Json := .object [("evaluation", .object [("exists", .bool true)]), ("id", .string "r")]
  let rule : Rule :=
    ⟨⟨"r", none, "", "", none, .medium⟩, .narrowed none none none (.operator (.isPresent true))⟩
  have hdocument : Json.parse text = .ok (.object [("$schema", .string "deploymentTemplate")]) := by
    dsimp only [text]
    rfl
  have hitem : Json.parse rulesText = .ok (.array [item]) := by
    dsimp only [rulesText, item]
    rfl
  have hrules : Rule.parseAll "r.json" rulesText = .ok [rule] := by
    rw [Rule.parseAll, hitem]
    rfl
  have hnamed : fs.root.WellNamed := by
    have htree : tree.WellNamed := by
      refine .directory (by decide) (by simp [FileTree.IsEntryName]) ?_
      simp only [List.forall_mem_cons, List.not_mem_nil, false_imp_iff, implies_true, and_true]
      exact ⟨.file _, .directory (by decide) (by simp [FileTree.IsEntryName])
        (by simp [FileTree.WellNamed.file])⟩
    exact .directory (by decide) (by simp [FileTree.IsEntryName])
      (by simp [htree, FileTree.WellNamed.file])
  have hloaded : fs.rulesAt ⟨"r.json"⟩ = .ok ⟨[rule]⟩ := by
    have hkind : fs.kind? ⟨"r.json"⟩ = some .file := rfl
    have hread : fs.readText ⟨"r.json"⟩ = .ok rulesText := rfl
    rw [rulesAt, hkind, readAll, List.map_singleton, hread]
    refine bind_eq_ok_iff.mpr ⟨[rule], ?_, RuleSet.ofRules_eq_ok_iff.mpr ⟨rfl, by decide⟩⟩
    rw [Rule.ofFiles, Rule.ofFile, hrules]
    rfl
  have hrun : DirectoryRun fs ⟨"d"⟩ flags none ["d"] (.merge .blank flags)
      ((Settings.merge .blank flags).selectRules ⟨[rule]⟩) := by
    refine ⟨hnamed, rfl, rfl, ⟨.blank, rfl, rfl⟩, ?_, ?_, ?_⟩
    · refine (reads_loadRules _ fs).trans (congrArg (·, fs) ?_)
      exact congrArg (Except.map _) hloaded
    · have hnone : fs.configFile? none = none := rfl
      intro file place hfile
      cases hnone.symm.trans hfile
    · rintro path place hpath hplace
      obtain rfl : ⟨"r.json"⟩ = path := Option.some.inj hpath
      have hlocate : fs.locate ⟨"r.json"⟩ = .ok ["r.json"] := rfl
      obtain rfl := Except.ok.inj (hlocate.symm.trans hplace)
      decide
  obtain ⟨places, analyses, h⟩ := exists_reportsDirectory hrun
  refine ⟨_, _, places, analyses, hrun, (h.mem_iff _).mpr ?_, fun hmem => ?_, h⟩
  · exact ⟨text, _, ⟨_, _, rfl, rfl, rfl⟩, rfl, hdocument, by decide⟩
  · obtain ⟨text, document, -, hfile, hparse, -⟩ := (h.mem_iff _).mp hmem
    have hbroken : fs.root.nodeAt? (["d"] ++ ["a.json"]) = some (.file (.text "[")) := rfl
    cases hbroken.symm.trans hfile
    cases hparse

end TemplateAudit
