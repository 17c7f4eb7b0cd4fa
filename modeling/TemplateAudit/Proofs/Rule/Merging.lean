import TemplateAudit.Proofs.Files.Lookup

/-! # Merging rules files

The rules files of a directory stand for one document that lists the values of all of them in the
order of their names. Both give the same rules or fail for the same reason, though an error may name
another place. What else is in the directory does not matter.
-/

namespace TemplateAudit

/-- Two errors have the same reason, wherever the rules stand. -/
inductive RuleLoadError.Alike : RuleLoadError → RuleLoadError → Prop where
  | malformed (path path' : String) (index index' : Nat) (error : MetadataError) :
    Alike (.malformed path index error) (.malformed path' index' error)
  | invalidEvaluation (id : String) (error : ExpressionError) :
    Alike (.invalidEvaluation id error) (.invalidEvaluation id error)
  | duplicateRule (id : String) : Alike (.duplicateRule id) (.duplicateRule id)

inductive LoadsAlike {α : Type} : Except RuleLoadError α → Except RuleLoadError α → Prop where
  | ok (a : α) : LoadsAlike (.ok a) (.ok a)
  | error {e e' : RuleLoadError} : e.Alike e' → LoadsAlike (.error e) (.error e')

theorem LoadsAlike.bind {α β : Type} {x x' : Except RuleLoadError α}
    {next next' : α → Except RuleLoadError β} (h : LoadsAlike x x')
    (hnext : ∀ a, LoadsAlike (next a) (next' a)) : LoadsAlike (x >>= next) (x' >>= next') := by
  cases h with
  | ok a => exact hnext a
  | error he => exact .error he

namespace Rule

/-- The values of a document that are read as rules: the items of an array, or a single object. -/
def valuesOf? : Json → Option (List Json)
  | .array items => some items
  | .object members => some [.object members]
  | _ => none

variable {path path' : String} {index index' : Nat} {values : List Json}

theorem ofDocument_eq {document : Json} (h : valuesOf? document = some values) :
    ofDocument path document = ofItems path 0 values := by
  cases document with
  | array items =>
    obtain rfl := Option.some.inj h
    rfl
  | object members =>
    obtain rfl := Option.some.inj h
    rfl
  | _ => exact nomatch h

theorem loadsAlike_ofJson (value : Json) :
    LoadsAlike (ofJson path index value) (ofJson path' index' value) := by
  rw [ofJson, ofJson]
  rcases split value with e | ⟨metadata, evaluation⟩
  · exact .error (.malformed path path' index index' e)
  · dsimp only
    rcases Expression.ofJson evaluation with e | expression
    · exact .error (.invalidEvaluation metadata.id e)
    · exact .ok _

theorem loadsAlike_ofItems (values : List Json) :
    LoadsAlike (ofItems path index values) (ofItems path' index' values) := by
  induction values generalizing index index' with
  | nil => exact .ok []
  | cons value rest ih =>
    refine (loadsAlike_ofJson value).bind fun rule => ?_
    exact ih.bind fun rules => .ok _

theorem ofItems_append (values more : List Json) : ofItems path index (values ++ more) = do
    let rules ← ofItems path index values
    return rules ++ (← ofItems path (index + values.length) more) := by
  induction values generalizing index with
  | nil =>
    rw [List.nil_append, List.length_nil, Nat.add_zero]
    cases ofItems path index more <;> rfl
  | cons value rest ih =>
    rw [List.cons_append, ofItems, ofItems, ih, List.length_cons, Nat.add_comm rest.length,
      ← Nat.add_assoc]
    cases ofJson path index value with
    | error e => rfl
    | ok rule =>
      cases ofItems path (index + 1) rest with
      | error e => rfl
      | ok rules => cases ofItems path (index + 1 + rest.length) more <;> rfl

def HoldsValues (node : Option Node) (values : List Json) : Prop :=
  ∃ text document, node = some (.file (.text text)) ∧ Json.parse text = .ok document ∧
    valuesOf? document = some values

theorem loadsAlike_ofFile {file : FilePath} {node : Option Node} (h : HoldsValues node values) :
    LoadsAlike (ofFile file (FileSystem.textOf node)) (ofItems path index values) := by
  obtain ⟨text, document, rfl, hparse, hvalues⟩ := h
  rw [FileSystem.textOf, ofFile, parseAll, hparse]
  dsimp only
  rw [ofDocument_eq hvalues]
  exact loadsAlike_ofItems values

/-- Files that hold values are read like the list of all their values. -/
theorem loadsAlike_ofFiles {files : List (String × List Json)} (pathOf : String → FilePath)
    (nodeOf : String → Option Node) (h : ∀ file ∈ files, HoldsValues (nodeOf file.1) file.2) :
    LoadsAlike
      (ofFiles (files.map fun file => (pathOf file.1, FileSystem.textOf (nodeOf file.1))))
      (ofItems path index (files.flatMap (·.2))) := by
  induction files generalizing index with
  | nil => exact .ok []
  | cons file rest ih =>
    obtain ⟨hfile, hrest⟩ := List.forall_mem_cons.mp h
    rw [List.flatMap_cons, ofItems_append, List.map_cons, ofFiles]
    refine (loadsAlike_ofFile hfile).bind fun rules => ?_
    exact (ih hrest).bind fun more => .ok _

end Rule

namespace RuleSet

theorem loadsAlike_ofRules (rules : List Rule) : LoadsAlike (ofRules rules) (ofRules rules) := by
  rw [ofRules]
  cases firstDuplicate? [] rules with
  | none => exact .ok _
  | some id => exact .error (.duplicateRule id)

theorem parse_of_array {text : String} {items : List Json}
    (h : Json.parse text = .ok (.array items)) :
    parse text = Rule.ofItems "<inline>" 0 items >>= ofRules := by
  rw [parse, Rule.parseAll, h]
  rfl

open FileSystem

/-- The rules files directly in a directory with the values that they hold, in the order of their
names. -/
structure RulesFiles (fs : FileSystem) (place : List String) (files : List (String × List Json)) :
    Prop where
  names : RulesNames fs place (files.map (·.1))
  values : ∀ file ∈ files, Rule.HoldsValues (fs.root.nodeAt? (place ++ [file.1])) file.2

variable {fs : FileSystem} {p : FilePath} {place : List String}
  {files : List (String × List Json)} (hnamed : fs.root.WellNamed)
  (hlocate : fs.locate p = .ok place) (hdirectory : fs.root.nodeAt? place = some .directory)

include hnamed hlocate hdirectory

theorem exists_rulesFiles (hvalues : ∀ name content, Rule.isRulesFile name = true →
      fs.root.nodeAt? (place ++ [name]) = some (.file content) →
        ∃ values, Rule.HoldsValues (some (.file content)) values) :
    ∃ files, RulesFiles fs place files := by
  obtain ⟨names, hnames⟩ := exists_rulesNames hnamed hlocate hdirectory
  have hheld : ∀ name ∈ names,
      ∃ values, Rule.HoldsValues (fs.root.nodeAt? (place ++ [name])) values := by
    intro name hname
    obtain ⟨hrules, content, hfile⟩ := (hnames.2 name).mp hname
    exact hfile ▸ hvalues name content hrules hfile
  choose! values hheld using hheld
  refine ⟨names.map fun name => (name, values name), ?_, ?_⟩
  · simpa [Function.comp_def] using hnames
  · intro file hfile
    obtain ⟨name, hname, rfl⟩ := List.mem_map.mp hfile
    exact hheld name hname

theorem loadsAlike_rulesAt (hfiles : RulesFiles fs place files) {text : String}
    (htext : Json.parse text = .ok (.array (files.flatMap (·.2)))) :
    LoadsAlike (fs.rulesAt p) (parse text) := by
  rw [rulesAt_directory hnamed hlocate hdirectory hfiles.names, parse_of_array htext, List.map_map]
  exact (Rule.loadsAlike_ofFiles (fun name => p.append ⟨name⟩)
    (fun name => fs.root.nodeAt? (place ++ [name])) hfiles.values).bind loadsAlike_ofRules

/-- If the rules files of a directory all hold values, loading the directory agrees with reading one
document that lists these values in the order of the names of the files. Nothing else in the
directory matters. -/
theorem load_directory (hvalues : ∀ name content, Rule.isRulesFile name = true →
      fs.root.nodeAt? (place ++ [name]) = some (.file content) →
        ∃ values, Rule.HoldsValues (some (.file content)) values) :
    (∃ files, RulesFiles fs place files) ∧
      (∀ files text, RulesFiles fs place files →
        Json.parse text = .ok (.array (files.flatMap (·.2))) →
          LoadsAlike ((load p : StateM FileSystem _).run fs).1 (parse text)) ∧
      ∀ fs' place', fs'.root.WellNamed → fs'.locate p = .ok place' →
        fs'.root.nodeAt? place' = some .directory →
        (∀ name content, Rule.isRulesFile name = true →
          (fs'.root.nodeAt? (place' ++ [name]) = some (.file content) ↔
            fs.root.nodeAt? (place ++ [name]) = some (.file content))) →
        ((load p : StateM FileSystem _).run fs').1 = ((load p : StateM FileSystem _).run fs).1 := by
  have hload : ∀ fs : FileSystem, ((load p : StateM FileSystem _).run fs).1 = fs.rulesAt p :=
    fun fs => congrArg Prod.fst (reads_load p fs)
  refine ⟨exists_rulesFiles hnamed hlocate hdirectory hvalues, ?_, ?_⟩
  · intro files text hfiles htext
    rw [hload]
    exact loadsAlike_rulesAt hnamed hlocate hdirectory hfiles htext
  · intro fs' place' hnamed' hlocate' hdirectory' hsame
    rw [hload, hload]
    exact rulesAt_congr hnamed hlocate hdirectory hnamed' hlocate' hdirectory' hsame

omit hnamed hlocate hdirectory in
/-- An identifier occurs in two files, one of which holds a single object. The directory also has a
directory that is named like a rules file, and a file that is not. -/
theorem load_directory_repeatedId :
    let rule : String := "\x7b\"id\":\"r\",\"evaluation\":\x7b\"exists\":true\x7d\x7d"
    let list : String := "[\x7b\"id\":\"r\",\"evaluation\":\x7b\"exists\":true\x7d\x7d]"
    let merged : String := "[\x7b\"id\":\"r\",\"evaluation\":\x7b\"exists\":true\x7d\x7d,
      \x7b\"id\":\"r\",\"evaluation\":\x7b\"exists\":true\x7d\x7d]"
    let tree : FileTree := .directory [("b.json", .file (.text rule)), ("c.json", .directory []),
      ("a.json", .file (.text list)), ("d.JSON", .file (.text "["))]
    let fs : FileSystem := ⟨.directory [("rules", tree)], []⟩
    LoadsAlike ((load ⟨"rules"⟩ : StateM FileSystem _).run fs).1 (parse merged) ∧
      ((load ⟨"rules"⟩ : StateM FileSystem _).run fs).1 = .error (.duplicateRule "r") := by
  intro rule list merged tree fs
  let item : Json := .object [("evaluation", .object [("exists", .bool true)]), ("id", .string "r")]
  have hrule : Json.parse rule = .ok item := by
    dsimp only [rule, item]
    rfl
  have hlist : Json.parse list = .ok (.array [item]) := by
    dsimp only [list, item]
    rfl
  have hmerged : Json.parse merged = .ok (.array [item, item]) := by
    dsimp only [merged, item]
    rfl
  have hnamed : fs.root.WellNamed := by
    have htree : tree.WellNamed :=
      .directory (by decide) (by simp [FileTree.IsEntryName])
        (by simp [FileTree.WellNamed.file, FileTree.WellNamed.directory])
    exact .directory (by decide) (by simp [FileTree.IsEntryName]) (by simp [htree])
  have hlocate : fs.locate ⟨"rules"⟩ = .ok ["rules"] := rfl
  have hentry : ∀ {name content}, fs.root.nodeAt? (["rules"] ++ [name]) = some (.file content) →
      Rule.isRulesFile name = true →
        (name = "b.json" ∧ content = .text rule) ∨ (name = "a.json" ∧ content = .text list) := by
    intro name content hfile hrules
    have htree : fs.root.find? ["rules"] = some tree := rfl
    rw [FileTree.nodeAt?_eq_file_iff, FileTree.find?_append, htree, Option.bind_some,
      FileTree.find?_directory_cons] at hfile
    obtain ⟨child, hchild, hchildFile⟩ := Option.bind_eq_some_iff.mp hfile
    rw [FileTree.find?_nil] at hchildFile
    obtain rfl := Option.some.inj hchildFile
    have hmem := (FileTree.child?_eq_some_iff (by decide)).mp hchild
    simp only [List.mem_cons, Prod.mk.injEq, FileTree.file.injEq, reduceCtorEq, and_false,
      List.not_mem_nil, or_false, false_or] at hmem
    rcases hmem with h | h | ⟨rfl, -⟩
    · exact .inl h
    · exact .inr h
    · exact absurd hrules (by decide)
  have hfiles : RulesFiles fs ["rules"] [("a.json", [item]), ("b.json", [item])] := by
    refine ⟨⟨by decide, fun name => ⟨fun hname => ?_, ?_⟩⟩, fun file hfile => ?_⟩
    · rcases List.mem_pair.mp hname with rfl | rfl
      · exact ⟨by decide, .text list, rfl⟩
      · exact ⟨by decide, .text rule, rfl⟩
    · rintro ⟨hrules, content, hfile⟩
      rcases hentry hfile hrules with ⟨rfl, -⟩ | ⟨rfl, -⟩ <;> decide
    · rcases List.mem_pair.mp hfile with rfl | rfl
      · exact ⟨list, .array [item], rfl, hlist, rfl⟩
      · exact ⟨rule, item, rfl, hrule, rfl⟩
  have hvalues : ∀ name content, Rule.isRulesFile name = true →
      fs.root.nodeAt? (["rules"] ++ [name]) = some (.file content) →
        ∃ values, Rule.HoldsValues (some (.file content)) values := by
    intro name content hrules hfile
    rcases hentry hfile hrules with ⟨-, rfl⟩ | ⟨-, rfl⟩
    · exact ⟨[item], rule, item, rfl, hrule, rfl⟩
    · exact ⟨[item], list, .array [item], rfl, hlist, rfl⟩
  have hload := (load_directory hnamed hlocate rfl hvalues).2.1 _ merged hfiles hmerged
  have hparse : parse merged = .error (.duplicateRule "r") := by
    rw [parse_of_array hmerged]
    rfl
  refine ⟨hload, ?_⟩
  rw [hparse] at hload
  generalize ((load ⟨"rules"⟩ : StateM FileSystem _).run fs).1 = loaded at hload
  cases hload with
  | error h =>
    cases h
    rfl

end RuleSet

end TemplateAudit
