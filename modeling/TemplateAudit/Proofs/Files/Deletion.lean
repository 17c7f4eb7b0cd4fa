import TemplateAudit.Proofs.Files.Lookup

/-! # Deleting files

Files are deleted from a tree without touching its directories. What is at the other places stays,
so paths to other places still lead there, and what a run reads there is the same.
-/

namespace TemplateAudit

namespace FileTree

mutual

def retain (keep : List String → Bool) : FileTree → FileTree
  | .file content => .file content
  | .directory entries => .directory (retainEntries keep entries)

def retainEntries (keep : List String → Bool) :
    List (String × FileTree) → List (String × FileTree)
  | [] => []
  | (name, tree) :: rest =>
    if tree.isDirectory || keep [name] then
      (name, retain (fun place => keep (name :: place)) tree) :: retainEntries keep rest
    else retainEntries keep rest

end

variable {t : FileTree} {place : List String} {keep : List String → Bool} {name : String}
  {entries : List (String × FileTree)}

theorem mem_retainEntries_iff {new : FileTree} : (name, new) ∈ retainEntries keep entries ↔
    ∃ tree, (name, tree) ∈ entries ∧ (tree.isDirectory || keep [name]) = true ∧
      (tree.retain fun place => keep (name :: place)) = new := by
  induction entries with
  | nil => simp [retainEntries]
  | cons head rest ih =>
    obtain ⟨other, old⟩ := head
    have hrest : (∃ tree, (name, tree) ∈ (other, old) :: rest ∧
        (tree.isDirectory || keep [name]) = true ∧
          (tree.retain fun place => keep (name :: place)) = new) ↔
        (name = other ∧ (old.isDirectory || keep [name]) = true ∧
          (old.retain fun place => keep (name :: place)) = new) ∨
        (name, new) ∈ retainEntries keep rest := by
      rw [ih]
      constructor
      · rintro ⟨tree, hmem, h⟩
        rcases List.mem_cons.mp hmem with he | hmem
        · obtain ⟨rfl, rfl⟩ := Prod.mk.inj he
          exact .inl ⟨rfl, h⟩
        · exact .inr ⟨tree, hmem, h⟩
      · rintro (⟨rfl, h⟩ | ⟨tree, hmem, h⟩)
        · exact ⟨old, List.mem_cons_self, h⟩
        · exact ⟨tree, List.mem_cons_of_mem _ hmem, h⟩
    rw [hrest, retainEntries]
    split
    · next hkept =>
      rw [List.mem_cons, Prod.mk.injEq]
      refine or_congr_left ⟨?_, ?_⟩
      · rintro ⟨rfl, h⟩
        exact ⟨rfl, hkept, h.symm⟩
      · rintro ⟨rfl, -, h⟩
        exact ⟨rfl, h.symm⟩
    · next hkept =>
      refine (or_iff_right ?_).symm
      rintro ⟨rfl, h, -⟩
      exact hkept h

theorem retainEntries_names_sublist (keep : List String → Bool)
    (entries : List (String × FileTree)) :
    ((retainEntries keep entries).map (·.1)).Sublist (entries.map (·.1)) := by
  induction entries with
  | nil => exact .slnil
  | cons e rest ih =>
    obtain ⟨name, tree⟩ := e
    rw [retainEntries]
    split
    · exact ih.cons_cons name
    · exact ih.cons name

theorem child?_retainEntries (h : (entries.map (·.1)).Nodup) :
    child? name (retainEntries keep entries) =
      ((child? name entries).filter fun tree => tree.isDirectory || keep [name]).map
        (retain fun place => keep (name :: place)) := by
  ext new
  rw [child?_eq_some_iff ((retainEntries_names_sublist keep entries).nodup h),
    mem_retainEntries_iff, Option.map_eq_some_iff]
  simp only [Option.filter_eq_some_iff, child?_eq_some_iff h, and_assoc]

theorem WellNamed.retain (h : t.WellNamed) : (t.retain keep).WellNamed := by
  induction t using descend generalizing keep with
  | file content =>
    rw [FileTree.retain]
    exact h
  | directory entries ih =>
    cases h with
    | directory hnodup hnames htrees =>
      rw [FileTree.retain]
      refine .directory ((retainEntries_names_sublist keep entries).nodup hnodup) ?_ ?_
      · rintro ⟨name, new⟩ hnew
        obtain ⟨tree, hmem, -⟩ := mem_retainEntries_iff.mp hnew
        exact hnames (name, tree) hmem
      · rintro ⟨name, new⟩ hnew
        obtain ⟨tree, hmem, -, rfl⟩ := mem_retainEntries_iff.mp hnew
        exact ih _ hmem (htrees _ hmem)

/-- All directories stay, and the files at the places that are kept. -/
theorem nodeAt?_retain (h : t.WellNamed) : (t.retain keep).nodeAt? place =
    (t.nodeAt? place).filter fun node => node = .directory || place = [] || keep place := by
  induction t using descend generalizing keep place with
  | file content =>
    rw [FileTree.retain]
    cases place with
    | nil => rfl
    | cons name rest => rfl
  | directory entries ih =>
    cases h with
    | directory hnodup hnames htrees =>
      rw [FileTree.retain]
      cases place with
      | nil => rfl
      | cons name rest =>
        rw [nodeAt?, nodeAt?, find?_directory_cons, find?_directory_cons,
          child?_retainEntries hnodup]
        rcases hchild : child? name entries with _ | (content | children)
        · rfl
        · cases rest with
          | nil =>
            by_cases hkeep : keep [name] = true <;>
              simp [Option.filter_some, isDirectory, hkeep, retain, node]
          | cons head rest =>
            by_cases hkeep : keep [name] = true <;>
              simp [Option.filter_some, isDirectory, hkeep, retain]
        · have hmem := (child?_eq_some_iff hnodup).mp hchild
          have hbelow := @ih _ hmem rest (fun place => keep (name :: place)) (htrees _ hmem)
          simp only [Option.filter_some, isDirectory, Bool.true_or, if_true, Option.map_some,
            Option.bind_some]
          refine hbelow.trans ?_
          cases rest with
          | nil => rfl
          | cons head rest => rfl

end FileTree

namespace FileSystem

variable {fs fs' : FileSystem} {base place rest : List String} {places : List (List String)}
  {p : FilePath}

/-- A file system in which files below a place are gone, and nothing else. -/
structure FewerFiles (base : List String) (fs fs' : FileSystem) : Prop where
  workingDirectory : fs'.workingDirectory = fs.workingDirectory
  wellNamed : fs'.root.WellNamed
  same_or_gone (place : List String) : fs'.root.nodeAt? place = fs.root.nodeAt? place ∨
    base <+: place ∧ fs'.root.nodeAt? place = none ∧
      ∃ content, fs.root.nodeAt? place = some (.file content)

/-- The file system with no files below a place but those at some places, seen from there. -/
def keepOnly (base : List String) (places : List (List String)) (fs : FileSystem) : FileSystem :=
  { fs with
    root := fs.root.retain fun place =>
      !base.isPrefixOf place || places.contains (place.drop base.length) }

section KeepOnly

variable (h : fs.root.WellNamed)

include h

theorem nodeAt?_keepOnly_file (hbase : fs.root.nodeAt? base = some .directory)
    {content : FileContent} :
    (fs.keepOnly base places).root.nodeAt? (base ++ rest) = some (.file content) ↔
      fs.root.nodeAt? (base ++ rest) = some (.file content) ∧ rest ∈ places := by
  have hroot : fs.root.nodeAt? (base ++ rest) = some (.file content) → base ++ rest ≠ [] := by
    intro hfile hnil
    obtain ⟨rfl, rfl⟩ := List.append_eq_nil_iff.mp hnil
    exact nomatch hfile.symm.trans hbase
  rw [keepOnly, FileTree.nodeAt?_retain h, Option.filter_eq_some_iff]
  refine and_congr_right fun hfile => ?_
  have hbelow : base.isPrefixOf (base ++ rest) = true := by simp
  simp [hroot hfile, hbelow]

theorem fewerFiles_keepOnly (base : List String) (places : List (List String)) :
    FewerFiles base fs (fs.keepOnly base places) where
  workingDirectory := rfl
  wellNamed := h.retain
  same_or_gone place := by
    rw [keepOnly, FileTree.nodeAt?_retain h]
    rcases fs.root.nodeAt? place with _ | (content | _)
    · exact .inl rfl
    · rw [Option.filter_some]
      split
      · exact .inl rfl
      · next hgone =>
        refine .inr ⟨?_, rfl, content, rfl⟩
        simp only [Bool.or_eq_true, not_or, Bool.not_eq_true, Bool.not_eq_false'] at hgone
        exact List.isPrefixOf_iff_prefix.mp hgone.2.1
    · exact .inl rfl

end KeepOnly

namespace FewerFiles

variable (h : FewerFiles base fs fs')

include h

theorem directory_iff :
    fs'.root.nodeAt? place = some .directory ↔ fs.root.nodeAt? place = some .directory := by
  rcases h.same_or_gone place with hsame | ⟨-, hnone, content, hfile⟩
  · rw [hsame]
  · rw [hnone, hfile]
    exact iff_of_false nofun nofun

theorem nodeAt?_of_some {node : Node} (hnode : fs'.root.nodeAt? place = some node) :
    fs.root.nodeAt? place = some node := by
  rcases h.same_or_gone place with hsame | ⟨-, hnone, -⟩
  · exact hsame ▸ hnode
  · exact nomatch hnone.symm.trans hnode

theorem nodeAt?_outside (hplace : ¬ base <+: place) :
    fs'.root.nodeAt? place = fs.root.nodeAt? place :=
  (h.same_or_gone place).resolve_right fun hgone => hplace hgone.1

theorem walk_iff {start : List String} {pieces : List (List Char)}
    (hplace : fs'.root.nodeAt? place = fs.root.nodeAt? place) :
    fs'.walk start pieces = .ok place ↔ fs.walk start pieces = .ok place := by
  constructor
  · exact walk_transfer (fun _ => h.directory_iff.mp) fun hsome => hplace ▸ hsome
  · exact walk_transfer (fun _ => h.directory_iff.mpr) fun hsome => hplace ▸ hsome

theorem locate_iff (hplace : fs'.root.nodeAt? place = fs.root.nodeAt? place) :
    fs'.locate p = .ok place ↔ fs.locate p = .ok place := by
  rw [locate_eq_ok_iff, locate_eq_ok_iff, start_eq h.workingDirectory, h.walk_iff hplace]

theorem locate_of (hlocate : fs'.locate p = .ok place) : fs.locate p = .ok place := by
  obtain ⟨node, hnode⟩ := Option.isSome_iff_exists.mp (isSome_of_locate hlocate)
  exact (h.locate_iff (hnode.trans (h.nodeAt?_of_some hnode).symm)).mp hlocate

theorem readText_eq (hplace : ¬ base <+: place) (hlocate : fs.locate p = .ok place) :
    fs'.readText p = fs.readText p := by
  have hnode := h.nodeAt?_outside hplace
  rw [FileSystem.readText_eq hlocate, FileSystem.readText_eq ((h.locate_iff hnode).mpr hlocate),
    hnode]

theorem target_iff : fs'.target p = .ok place ↔ fs.target p = .ok place := by
  obtain ⟨pieces, last, hsplit⟩ := exists_split_eq_concat p
  rw [target_eq_ok_iff hsplit, target_eq_ok_iff hsplit, start_eq h.workingDirectory]
  refine and_congr_right fun _ => exists_congr fun directory => ?_
  have hwalk : fs.root.nodeAt? directory = some .directory →
      fs'.root.nodeAt? directory = fs.root.nodeAt? directory := fun hdirectory =>
    (h.directory_iff.mpr hdirectory).trans hdirectory.symm
  rw [ne_eq, h.directory_iff, h.directory_iff]
  constructor
  · rintro ⟨hled, hdirectory, hrest⟩
    exact ⟨(h.walk_iff (hwalk hdirectory)).mp hled, hdirectory, hrest⟩
  · rintro ⟨hled, hdirectory, hrest⟩
    exact ⟨(h.walk_iff (hwalk hdirectory)).mpr hled, hdirectory, hrest⟩

theorem kind?_eq_file (hkind : fs.kind? p = some .file)
    (houtside : ∀ place, fs.locate p = .ok place → ¬ base <+: place) :
    fs'.kind? p = some .file := by
  obtain ⟨place, content, hlocate, hfile⟩ := kind?_eq_file_iff.mp hkind
  have hnode := h.nodeAt?_outside (houtside place hlocate)
  exact kind?_eq_file_iff.mpr ⟨place, content, (h.locate_iff hnode).mpr hlocate, hnode ▸ hfile⟩

theorem kind?_eq_file_of (hkind : fs'.kind? p = some .file) : fs.kind? p = some .file := by
  obtain ⟨place, content, hlocate, hfile⟩ := kind?_eq_file_iff.mp hkind
  exact kind?_eq_file_iff.mpr ⟨place, content, h.locate_of hlocate, h.nodeAt?_of_some hfile⟩

section Configuration

variable {config : Option FilePath} (houtside : ∀ file place, fs.configFile? config = some file →
  fs.locate file = .ok place → ¬ base <+: place)

include houtside

theorem configFile?_eq : fs'.configFile? config = fs.configFile? config := by
  cases config with
  | some file => rfl
  | none =>
    rw [configFile?, configFile?]
    by_cases hkind : fs.kind? Config.defaultFile = some .file
    · have hkept := h.kind?_eq_file hkind fun place =>
        houtside _ place (by rw [configFile?, if_pos hkind]; rfl)
      rw [if_pos hkind, if_pos hkept]
    · rw [if_neg hkind, if_neg (mt h.kind?_eq_file_of hkind)]

theorem configFor_eq {c : Config} (hconfig : fs.configFor config = .ok c) :
    fs'.configFor config = .ok c := by
  rw [configFor, h.configFile?_eq houtside, ← hconfig, configFor]
  cases hnamed : fs.configFile? config with
  | none => rfl
  | some file =>
    dsimp only
    cases htext : fs.readText file with
    | error e =>
      simp only [configFor, hnamed, htext] at hconfig
      cases hconfig
    | ok text =>
      obtain ⟨place, hlocate, -⟩ := readText_eq_ok_iff.mp htext
      rw [h.readText_eq (houtside file place hnamed hlocate) hlocate, htext]

end Configuration

theorem rulesAt_eq (hbase : fs.root.nodeAt? base = some .directory) (hnamed : fs.root.WellNamed)
    (houtside : ∀ place, fs.locate p = .ok place → ¬ base <+: place) {rules : RuleSet}
    (hrules : fs.rulesAt p = .ok rules) : fs'.rulesAt p = .ok rules := by
  rw [rulesAt] at hrules
  rcases hkind : fs.kind? p with _ | _ | _
  · rw [hkind] at hrules
    cases hrules
  · obtain ⟨place, content, hlocate, -⟩ := kind?_eq_file_iff.mp hkind
    have hkept := h.kind?_eq_file hkind houtside
    have hread := h.readText_eq (houtside place hlocate) hlocate
    rw [hkind] at hrules
    rw [rulesAt, hkept, readAll, List.map_cons, hread]
    exact hrules
  · obtain ⟨place, hlocate, hplace⟩ := kind?_eq_directory_iff.mp hkind
    have hplace' := h.directory_iff.mpr hplace
    have hlocate' := (h.locate_iff (hplace'.trans hplace.symm)).mpr hlocate
    have hnode : ∀ name,
        fs'.root.nodeAt? (place ++ [name]) = fs.root.nodeAt? (place ++ [name]) := by
      intro name
      refine (h.same_or_gone _).resolve_right ?_
      rintro ⟨hbelow, -, content, hfile⟩
      rcases List.prefix_concat_iff.mp hbelow with rfl | hbelow
      · cases hfile.symm.trans hbase
      · exact houtside place hlocate hbelow
    rw [rulesAt_congr hnamed hlocate hplace h.wellNamed hlocate' hplace' fun name content _ => by
      rw [hnode], rulesAt]
    exact hrules

theorem rulesFor_eq (hbase : fs.root.nodeAt? base = some .directory) (hnamed : fs.root.WellNamed)
    {s : Settings}
    (houtside : ∀ path place, s.rules = some path → fs.locate path = .ok place → ¬ base <+: place)
    {rules : RuleSet} (hrules : fs.rulesFor s = .ok rules) : fs'.rulesFor s = .ok rules := by
  rw [rulesFor] at hrules ⊢
  cases hpath : s.rules with
  | none =>
    rw [hpath] at hrules
    exact hrules
  | some path =>
    rw [hpath] at hrules
    cases hloaded : fs.rulesAt path with
    | error e =>
      simp only [hloaded] at hrules
      cases hrules
    | ok loaded =>
      dsimp only
      rw [h.rulesAt_eq hbase hnamed (fun place => houtside path place hpath) hloaded, ← hloaded]
      exact hrules

end FewerFiles

end FileSystem

end TemplateAudit
