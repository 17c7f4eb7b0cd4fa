import Mathlib.Data.List.Sort
import TemplateAudit.Proofs.Files.Effects
import TemplateAudit.Proofs.Files.Normal
import TemplateAudit.Proofs.Files.Places
import TemplateAudit.Proofs.Path.Reading

/-! # Where paths lead

Each part of a path leads from a directory to a place that only depends on the part, provided that
there is something. So a path leads to the same place wherever the directories on the way are the
same, what is read is what is at that place, and writing changes what is at the place and nothing
else.
-/

namespace TemplateAudit

section Ascending

variable {α : Type} [LE α] [LT α] [Std.IsLinearOrder α] [Std.LawfulOrderLT α] [DecidableLT α]
  [DecidableEq α]

theorem pairwise_lt_ascending (items : List α) : (ascending items).Pairwise (· < ·) :=
  pairwise_ascending Std.lt_trans
    (fun hnot hne => Std.lt_of_le_of_ne (Std.not_lt.mp hnot) (Ne.symm hne)) items

theorem ascending_eq_of_mem_iff {items sorted : List α} (h : sorted.Pairwise (· < ·))
    (hmem : ∀ x, x ∈ items ↔ x ∈ sorted) : ascending items = sorted :=
  (pairwise_lt_ascending items).eq_of_mem_iff h fun x => mem_ascending.trans (hmem x)

end Ascending

namespace FilePath

variable {rest : List Char} {p : FilePath}

theorem split_append_slash (chars rest : List Char) :
    split (chars ++ '/' :: rest) = split chars ++ split rest := by
  induction chars with
  | nil => rfl
  | cons c chars ih =>
    rw [List.cons_append, split, split, ih]
    split
    · rfl
    · obtain ⟨piece, pieces, hsplit⟩ := List.exists_cons_of_ne_nil (split_ne_nil chars)
      rw [hsplit]
      rfl

theorem isAbsolute_iff : p.isAbsolute = true ↔ ∃ rest, p.text.toList = '/' :: rest := by
  rw [isAbsolute, anchor, decide_eq_true_iff]
  cases h : p.text.toList with
  | nil => simp [split, anchorOf]
  | cons c chars =>
    obtain ⟨piece, pieces, hsplit⟩ := List.exists_cons_of_ne_nil (split_ne_nil chars)
    rw [split, hsplit]
    by_cases hc : c = '/'
    · simp [hc, anchorOf]
    · simp only [hc, if_false, List.cons.injEq, false_and, exists_false, iff_false]
      unfold anchorOf
      split
      · next he => cases (List.cons.inj he).1
      · decide
      · decide

theorem isAbsolute_of_append {q : FilePath} (hp : p.text ≠ "")
    (hq : q.text.toList = p.text.toList ++ rest) : q.isAbsolute = p.isAbsolute := by
  obtain ⟨c, chars, hchars⟩ :=
    List.exists_cons_of_ne_nil (fun hnil => hp (String.toList_eq_nil_iff.mp hnil))
  rw [Bool.eq_iff_iff, isAbsolute_iff, isAbsolute_iff, hq, hchars]
  simp

theorem toList_append_name {name : String} (hname : '/' ∉ name.toList) (hp : p.text ≠ "") :
    (p.append ⟨name⟩).text.toList =
      if p.text.toList.getLast? = some '/' then p.text.toList ++ name.toList
      else p.text.toList ++ '/' :: name.toList := by
  have hrelative : ¬ (FilePath.mk name).isAbsolute = true := by
    rw [isAbsolute_iff]
    rintro ⟨rest, h⟩
    exact hname (h ▸ List.mem_cons_self)
  rw [append, if_neg hrelative]
  by_cases hslash : p.text.toList.getLast? = some '/' <;> simp [hp, hslash]

/-- A name that is seen from a directory comes after the parts of the directory, whose last part is
empty if it ends in a slash. -/
theorem split_append_name {name : String} (hname : '/' ∉ name.toList) (hp : p.text ≠ "") :
    ∃ pieces, (split p.text.toList = pieces ∨ split p.text.toList = pieces ++ [[]]) ∧
      split (p.append ⟨name⟩).text.toList = pieces ++ [name.toList] := by
  rw [toList_append_name hname hp]
  by_cases hslash : p.text.toList.getLast? = some '/'
  · obtain ⟨chars, hchars⟩ := List.getLast?_eq_some_iff.mp hslash
    refine ⟨split chars, .inr ?_, ?_⟩
    · rw [hchars, split_append_slash]
      rfl
    · rw [if_pos hslash, hchars, List.append_assoc, List.singleton_append, split_append_slash,
        split_of_not_mem hname]
  · refine ⟨split p.text.toList, .inl rfl, ?_⟩
    rw [if_neg hslash, split_append_slash, split_of_not_mem hname]

theorem isAbsolute_append_name {name : String} (hname : '/' ∉ name.toList) (hp : p.text ≠ "") :
    (p.append ⟨name⟩).isAbsolute = p.isAbsolute := by
  have h := toList_append_name hname hp
  by_cases hslash : p.text.toList.getLast? = some '/'
  · exact isAbsolute_of_append hp (h.trans (if_pos hslash))
  · exact isAbsolute_of_append hp (h.trans (if_neg hslash))

end FilePath

namespace FileSystem

open FilePath (split isSilent)

variable {fs fs' : FileSystem} {place next other : List String} {piece : List Char}
  {pieces : List (List Char)} {p : FilePath} {name text : String}

def after (place : List String) (piece : List Char) : List String :=
  if isSilent piece then place
  else if isParent piece then place.dropLast
  else place ++ [String.ofList piece]

section Walking

theorem step_eq_ok_iff : fs.step place piece = .ok next ↔
    fs.root.nodeAt? place = some .directory ∧ next = after place piece ∧
      (fs.root.nodeAt? next).isSome = true := by
  rw [step, after, FileTree.nodeAt?_eq_directory_iff]
  rcases hu : fs.root.find? place with _ | (content | entries)
  · simp
  · simp
  · have hplace : fs.root.nodeAt? place = some .directory := by
      rw [FileTree.nodeAt?, hu]
      rfl
    simp only [Option.some.injEq, FileTree.directory.injEq, exists_eq', true_and]
    split
    · simp only [Except.ok.injEq]
      constructor
      · rintro rfl
        exact ⟨rfl, by rw [hplace]; rfl⟩
      · exact fun h => h.1.symm
    · split
      · simp only [Except.ok.injEq]
        constructor
        · rintro rfl
          refine ⟨rfl, ?_⟩
          by_cases he : place.dropLast = place
          · rw [he, hplace]
            rfl
          · have habove := List.dropLast_prefix place
            rw [FileTree.nodeAt?_above (by rw [hplace]; rfl) habove he]
            rfl
        · exact fun h => h.1.symm
      · split
        · next hsome =>
          rw [Except.ok.injEq]
          constructor
          · rintro rfl
            exact ⟨rfl, (FileTree.isSome_child?_iff hu).mp hsome⟩
          · exact fun h => h.1.symm
        · next hnone =>
          simp only [reduceCtorEq, false_iff, not_and]
          rintro rfl hsome
          exact hnone ((FileTree.isSome_child?_iff hu).mpr hsome)

theorem walk_cons_eq_ok_iff : fs.walk place (piece :: pieces) = .ok next ↔
    fs.root.nodeAt? place = some .directory ∧
      (fs.root.nodeAt? (after place piece)).isSome = true ∧
      fs.walk (after place piece) pieces = .ok next := by
  rw [walk, bind_eq_ok_iff]
  simp only [step_eq_ok_iff]
  constructor
  · rintro ⟨_, ⟨hplace, rfl, hsome⟩, h⟩
    exact ⟨hplace, hsome, h⟩
  · rintro ⟨hplace, hsome, h⟩
    exact ⟨_, ⟨hplace, rfl, hsome⟩, h⟩

theorem walk_append_eq_ok_iff {more : List (List Char)} :
    fs.walk place (pieces ++ more) = .ok next ↔
      ∃ between, fs.walk place pieces = .ok between ∧ fs.walk between more = .ok next := by
  induction pieces generalizing place with
  | nil => simp [walk]
  | cons piece pieces ih =>
    simp only [List.cons_append, walk_cons_eq_ok_iff, ih]
    constructor
    · rintro ⟨hplace, hsome, between, h, h'⟩
      exact ⟨between, ⟨hplace, hsome, h⟩, h'⟩
    · rintro ⟨between, ⟨hplace, hsome, h⟩, h'⟩
      exact ⟨hplace, hsome, between, h, h'⟩

/-- Where the directories of a file system are directories as well, a walk leads to the same place
if there is something at its end. -/
theorem walk_transfer (hdirectories : ∀ place, fs.root.nodeAt? place = some .directory →
      fs'.root.nodeAt? place = some .directory)
    (hend : (fs.root.nodeAt? next).isSome = true → (fs'.root.nodeAt? next).isSome = true)
    (h : fs.walk place pieces = .ok next) : fs'.walk place pieces = .ok next := by
  induction pieces generalizing place with
  | nil => exact h
  | cons piece pieces ih =>
    obtain ⟨hplace, hsome, h⟩ := walk_cons_eq_ok_iff.mp h
    refine walk_cons_eq_ok_iff.mpr ⟨hdirectories _ hplace, ?_, ih h⟩
    cases pieces with
    | nil =>
      obtain rfl := Except.ok.inj h
      exact hend hsome
    | cons head pieces =>
      rw [hdirectories _ (walk_cons_eq_ok_iff.mp h).1]
      rfl

theorem locate_eq_ok_iff : fs.locate p = .ok place ↔
    p.text ≠ "" ∧ fs.walk (fs.start p) (split p.text.toList) = .ok place := by
  rw [locate]
  split <;> simp [*]

theorem isSome_of_locate (h : fs.locate p = .ok place) :
    (fs.root.nodeAt? place).isSome = true := by
  obtain ⟨-, h⟩ := locate_eq_ok_iff.mp h
  have hwalk : ∀ {pieces start}, pieces ≠ [] → fs.walk start pieces = .ok place →
      (fs.root.nodeAt? place).isSome = true := by
    intro pieces
    induction pieces with
    | nil => exact fun hne => absurd rfl hne
    | cons piece pieces ih =>
      intro start _ h
      obtain ⟨-, hsome, h⟩ := walk_cons_eq_ok_iff.mp h
      cases pieces with
      | nil =>
        obtain rfl := Except.ok.inj h
        exact hsome
      | cons head pieces => exact ih (List.cons_ne_nil _ _) h
  exact hwalk (FilePath.split_ne_nil _) h

theorem start_eq (hworking : fs'.workingDirectory = fs.workingDirectory) (p : FilePath) :
    fs'.start p = fs.start p := by
  rw [start, start, hworking]

theorem after_of_isEntryName (place : List String) (hname : FileTree.IsEntryName name) :
    after place name.toList = place ++ [name] := by
  obtain ⟨hempty, hdot, hparent, -⟩ := hname
  have hne : ∀ {s : String}, name ≠ s → name.toList ≠ s.toList := fun hne he =>
    hne (String.toList_inj.mp he)
  have hnil := hne hempty
  have hcurrent := hne hdot
  have hup := hne hparent
  simp only [String.toList_empty] at hnil
  rw [after, if_neg, if_neg, String.ofList_toList]
  · simpa [isParent] using hup
  · simpa [isSilent, hnil] using hcurrent

theorem locate_append (h : fs.locate p = .ok place) (hname : FileTree.IsEntryName name)
    (hsome : (fs.root.nodeAt? (place ++ [name])).isSome = true) :
    fs.locate (p.append ⟨name⟩) = .ok (place ++ [name]) := by
  obtain ⟨hp, h⟩ := locate_eq_ok_iff.mp h
  have hslash := hname.2.2.2
  obtain ⟨pieces, hpieces, hsplit⟩ := FilePath.split_append_name hslash hp
  have hbase : fs.walk (fs.start p) pieces = .ok place := by
    rcases hpieces with hpieces | hpieces
    · exact hpieces ▸ h
    · -- the empty part after a slash leads nowhere else
      rw [hpieces] at h
      obtain ⟨between, hbetween, hlast⟩ := walk_append_eq_ok_iff.mp h
      obtain ⟨-, -, hlast⟩ := walk_cons_eq_ok_iff.mp hlast
      obtain rfl : between = place := Except.ok.inj hlast
      exact hbetween
  have hstart : fs.start (p.append ⟨name⟩) = fs.start p := by
    rw [start, start, FilePath.isAbsolute_append_name hslash hp]
  have htext : (p.append ⟨name⟩).text ≠ "" := by
    intro htext
    rw [htext] at hsplit
    have hlast := congrArg List.getLast? hsplit
    simp [split] at hlast
    exact hname.1 hlast
  rw [locate_eq_ok_iff, hstart, hsplit, walk_append_eq_ok_iff]
  refine ⟨htext, place, hbase, walk_cons_eq_ok_iff.mpr
    ⟨FileTree.nodeAt?_of_below hsome (List.cons_ne_nil _ _), ?_, ?_⟩⟩
  · rwa [after_of_isEntryName place hname]
  · rw [after_of_isEntryName place hname]
    rfl

theorem locate_foldl_append {names : List String} (h : fs.locate p = .ok place)
    (hnames : ∀ name ∈ names, FileTree.IsEntryName name)
    (hsome : (fs.root.nodeAt? (place ++ names)).isSome = true) :
    fs.locate (names.foldl (fun path name => path.append ⟨name⟩) p) = .ok (place ++ names) := by
  induction names generalizing p place with
  | nil => simpa using h
  | cons name names ih =>
    obtain ⟨hname, hnames⟩ := List.forall_mem_cons.mp hnames
    rw [List.append_cons] at hsome ⊢
    have hfirst : (fs.root.nodeAt? (place ++ [name])).isSome = true := by
      by_cases he : names = []
      · simpa [he] using hsome
      · rw [FileTree.nodeAt?_of_below hsome he]
        rfl
    exact ih (locate_append h hname hfirst) hnames hsome

end Walking

section Reading

theorem look_eq_ok_iff {u : FileTree} : fs.look p = .ok u ↔
    ∃ place, fs.locate p = .ok place ∧ fs.root.find? place = some u := by
  rw [look, bind_eq_ok_iff]
  refine exists_congr fun place => and_congr_right fun _ => ?_
  cases fs.root.find? place with
  | none => simp
  | some v => exact Except.ok.injEq v u ▸ Option.some.injEq v u ▸ Iff.rfl

theorem kind?_eq_file_iff : fs.kind? p = some .file ↔
    ∃ place content, fs.locate p = .ok place ∧
      fs.root.nodeAt? place = some (.file content) := by
  simp only [FileTree.nodeAt?_eq_file_iff]
  have hlook := @look_eq_ok_iff fs p
  rw [kind?]
  rcases h : fs.look p with e | (content | entries)
  · simp only [reduceCtorEq, false_iff, not_exists, not_and]
    intro place content hplace hu
    exact nomatch h.symm.trans (hlook.mpr ⟨place, hplace, hu⟩)
  · obtain ⟨place, hplace, hu⟩ := hlook.mp h
    exact iff_of_true rfl ⟨place, content, hplace, hu⟩
  · obtain ⟨place, hplace, hu⟩ := hlook.mp h
    simp [hplace, hu]

theorem kind?_eq_directory_iff : fs.kind? p = some .directory ↔
    ∃ place, fs.locate p = .ok place ∧ fs.root.nodeAt? place = some .directory := by
  simp only [FileTree.nodeAt?_eq_directory_iff]
  have hlook := @look_eq_ok_iff fs p
  rw [kind?]
  rcases h : fs.look p with e | (content | entries)
  · simp only [reduceCtorEq, false_iff, not_exists, not_and]
    intro place hplace entries hu
    exact nomatch h.symm.trans (hlook.mpr ⟨place, hplace, hu⟩)
  · obtain ⟨place, hplace, hu⟩ := hlook.mp h
    simp [hplace, hu]
  · obtain ⟨place, hplace, hu⟩ := hlook.mp h
    exact iff_of_true rfl ⟨place, hplace, entries, hu⟩

def textOf : Option Node → Except FileError String
  | none => .error .notFound
  | some .directory => .error .isDirectory
  | some (.file (.binary _)) => .error .notText
  | some (.file (.text text)) => .ok text

theorem textOf_eq_ok_iff {node : Option Node} :
    textOf node = .ok text ↔ node = some (.file (.text text)) := by
  rcases node with _ | ((_ | _) | _) <;> simp [textOf]

theorem readText_eq (h : fs.locate p = .ok place) :
    fs.readText p = textOf (fs.root.nodeAt? place) := by
  rw [readText, look, h, FileTree.nodeAt?]
  simp only [bind, Except.bind]
  rcases fs.root.find? place with _ | ((_ | _) | _) <;> rfl

theorem readText_eq_ok_iff : fs.readText p = .ok text ↔
    ∃ place, fs.locate p = .ok place ∧
      fs.root.nodeAt? place = some (.file (.text text)) := by
  cases h : fs.locate p with
  | ok place => simp [readText_eq h, textOf_eq_ok_iff]
  | error e =>
    simp only [reduceCtorEq, false_and, exists_false, iff_false]
    rw [readText, look, h]
    nofun

section Listing

variable (hnamed : fs.root.WellNamed) (h : fs.locate p = .ok place)
  (hplace : fs.root.nodeAt? place = some .directory)

include hnamed h hplace

theorem exists_fileNames : ∃ names, fs.fileNames p = .ok names ∧ ∀ name, name ∈ names ↔
    ∃ content, fs.root.nodeAt? (place ++ [name]) = some (.file content) := by
  obtain ⟨entries, hu⟩ := FileTree.nodeAt?_eq_directory_iff.mp hplace
  refine ⟨FileTree.fileNames (.directory entries), ?_, fun name => ?_⟩
  · rw [fileNames, look_eq_ok_iff.mpr ⟨place, h, hu⟩]
    rfl
  · simp only [(hnamed.of_find? hu).mem_fileNames_iff, FileTree.nodeAt?, FileTree.find?_append, hu,
      Option.bind_some]

theorem exists_filePlaces : ∃ places, fs.filePlaces p = .ok places ∧ ∀ rest, rest ∈ places ↔
    ∃ content, fs.root.nodeAt? (place ++ rest) = some (.file content) := by
  obtain ⟨entries, hu⟩ := FileTree.nodeAt?_eq_directory_iff.mp hplace
  refine ⟨FileTree.filePlaces (.directory entries), ?_, fun rest => ?_⟩
  · rw [filePlaces, look_eq_ok_iff.mpr ⟨place, h, hu⟩]
    rfl
  · simp only [(hnamed.of_find? hu).mem_filePlaces_iff, FileTree.nodeAt?, FileTree.find?_append, hu,
      Option.bind_some]

/-- The names of the rules files directly in a directory, in order. -/
def RulesNames (fs : FileSystem) (place names : List String) : Prop :=
  names.Pairwise (· < ·) ∧ ∀ name, name ∈ names ↔ Rule.isRulesFile name = true ∧
    ∃ content, fs.root.nodeAt? (place ++ [name]) = some (.file content)

theorem exists_rulesNames : ∃ names, RulesNames fs place names := by
  obtain ⟨names, -, hmem⟩ := exists_fileNames hnamed h hplace
  refine ⟨ascending (names.filter Rule.isRulesFile), pairwise_lt_ascending _, fun name => ?_⟩
  rw [mem_ascending, List.mem_filter, hmem, and_comm]

theorem rulesAt_directory {names : List String} (hnames : RulesNames fs place names) :
    fs.rulesAt p = RuleSet.ofFiles (names.map fun name =>
      (p.append ⟨name⟩, textOf (fs.root.nodeAt? (place ++ [name])))) := by
  obtain ⟨hsorted, hrules⟩ := hnames
  obtain ⟨listed, hlisted, hmem⟩ := exists_fileNames hnamed h hplace
  have hascending : ascending (listed.filter Rule.isRulesFile) = names := by
    refine ascending_eq_of_mem_iff hsorted fun name => ?_
    rw [hrules, List.mem_filter, hmem, and_comm]
  have hread : ∀ name ∈ names, (p.append ⟨name⟩, fs.readText (p.append ⟨name⟩)) =
      (p.append ⟨name⟩, textOf (fs.root.nodeAt? (place ++ [name]))) := by
    intro name hname
    obtain ⟨-, content, hfile⟩ := (hrules name).mp hname
    have hsome : (fs.root.nodeAt? (place ++ [name])).isSome = true := by
      rw [hfile]
      rfl
    have hentry := hnamed.isEntryName hsome name (by simp)
    rw [readText_eq (locate_append h hentry hsome)]
  rw [rulesAt, kind?_eq_directory_iff.mpr ⟨place, h, hplace⟩, hlisted]
  dsimp only
  rw [RuleSet.rulesFiles, hascending, readAll, List.map_map]
  exact congrArg _ (List.map_congr_left hread)

/-- Directories with the same rules files have the same rules. -/
theorem rulesAt_congr {place' : List String} (hnamed' : fs'.root.WellNamed)
    (h' : fs'.locate p = .ok place') (hplace' : fs'.root.nodeAt? place' = some .directory)
    (hsame : ∀ name content, Rule.isRulesFile name = true →
      (fs'.root.nodeAt? (place' ++ [name]) = some (.file content) ↔
        fs.root.nodeAt? (place ++ [name]) = some (.file content))) :
    fs'.rulesAt p = fs.rulesAt p := by
  obtain ⟨names, hnames⟩ := exists_rulesNames hnamed h hplace
  have hnames' : RulesNames fs' place' names := by
    refine ⟨hnames.1, fun name => ?_⟩
    rw [hnames.2]
    exact and_congr_right fun hrules => exists_congr fun content => (hsame name content hrules).symm
  rw [rulesAt_directory hnamed' h' hplace' hnames', rulesAt_directory hnamed h hplace hnames]
  refine congrArg _ (List.map_congr_left fun name hname => ?_)
  obtain ⟨hrules, content, hfile⟩ := (hnames.2 name).mp hname
  rw [hfile, (hsame name content hrules).mpr hfile]

end Listing

end Reading

section Writing

def NamesFile (piece : List Char) : Prop := isSilent piece = false ∧ isParent piece = false

theorem exists_split_eq_concat (p : FilePath) :
    ∃ pieces last, split p.text.toList = pieces ++ [last] :=
  ⟨_, _, (List.dropLast_append_getLast (FilePath.split_ne_nil _)).symm⟩

section Target

variable {last : List Char}

theorem target_ne_ok (hend : (split p.text.toList).getLast? = some []) :
    fs.target p ≠ .ok place := by
  intro h
  rw [target, hend] at h
  simp only [or_true, if_true] at h
  split at h
  · exact nomatch h
  · split at h
    · exact nomatch h
    · obtain ⟨directory, -, h⟩ := bind_eq_ok_iff.mp h
      split at h <;> exact nomatch h

theorem writable_eq_ok_iff {directory : List String} {entries : List (String × FileTree)}
    (hu : fs.root.find? directory = some (.directory entries)) :
    (match FileTree.child? name entries with
      | some (.directory _) => .error .isDirectory
      | _ => .ok (directory ++ [name]) : Except FileError (List String)) = .ok place ↔
      place = directory ++ [name] ∧ fs.root.nodeAt? place ≠ some .directory := by
  have hchild : fs.root.nodeAt? (directory ++ [name]) = _ := FileTree.nodeAt?_concat hu
  split
  · next he =>
    refine iff_of_false nofun ?_
    rintro ⟨rfl, hfree⟩
    rw [hchild, he] at hfree
    exact hfree rfl
  · next hother =>
    rw [Except.ok.injEq]
    constructor
    · rintro rfl
      refine ⟨rfl, fun h => ?_⟩
      rw [hchild, Option.map_eq_some_iff] at h
      obtain ⟨_ | entries, hu, hnode⟩ := h
      · exact nomatch hnode
      · exact hother _ hu
    · exact fun h => h.1.symm

variable (hsplit : split p.text.toList = pieces ++ [last])

include hsplit

/-- A file is written where the last part of a path names it in a directory, unless it names a
directory. -/
theorem target_eq_ok_iff : fs.target p = .ok place ↔ NamesFile last ∧ ∃ directory,
    fs.walk (fs.start p) pieces = .ok directory ∧ fs.root.nodeAt? directory = some .directory ∧
      place = directory ++ [String.ofList last] ∧ fs.root.nodeAt? place ≠ some .directory := by
  have hend : (split p.text.toList).getLast? = some last := by
    rw [hsplit, List.getLast?_concat]
  by_cases hlast : last = []
  · subst hlast
    exact iff_of_false (target_ne_ok hend) fun h => absurd h.1.1 (by decide)
  · have htext : p.text ≠ "" := by
      intro htext
      rw [htext] at hend
      exact hlast (Option.some.inj hend).symm
    have hdrop : (split p.text.toList).reverse.dropWhile (· = []) = last :: pieces.reverse := by
      rw [hsplit, List.reverse_concat, List.dropWhile_cons_of_neg (by simpa using hlast)]
    have hnames : ¬(last = ['.'] ∨ isParent last = true ∨ last = []) ↔ NamesFile last := by
      simp [NamesFile, isSilent, hlast]
    simp only [target, if_neg htext, hdrop, hend, List.reverse_reverse, bind_eq_ok_iff,
      ← exists_and_left, Option.some.injEq]
    refine exists_congr fun directory => ?_
    rw [FileTree.nodeAt?_eq_directory_iff, and_left_comm]
    refine and_congr_right fun _ => ?_
    rcases hu : fs.root.find? directory with _ | (content | entries)
    · simp
    · simp
    · simp only [Option.some.injEq, FileTree.directory.injEq, exists_eq', true_and]
      split
      · next h => exact iff_of_false (by simp) fun h' => hnames.mpr h'.1 h
      · next h =>
        rw [and_iff_right (hnames.mp h)]
        exact writable_eq_ok_iff hu

end Target

theorem writeText_of_target (h : fs.target p = .ok place) (text : String) :
    fs.writeText p text =
      .ok { fs with root := FileTree.insert (.file (.text text)) place fs.root } := by
  rw [writeText, h]
  rfl

/-- What is written is put at one place, and nothing else changes. -/
theorem exists_place_of_writeText {new : FileSystem} (h : fs.writeText p text = .ok new) :
    ∃ place, fs.target p = .ok place ∧ new.workingDirectory = fs.workingDirectory ∧
      ∀ other, new.root.nodeAt? other =
        if other = place then some (.file (.text text)) else fs.root.nodeAt? other := by
  obtain ⟨place, htarget, hnew⟩ := bind_eq_ok_iff.mp h
  obtain rfl := Except.ok.inj hnew
  refine ⟨place, htarget, rfl, ?_⟩
  obtain ⟨pieces, last, hsplit⟩ := exists_split_eq_concat p
  obtain ⟨-, directory, -, hdirectory, rfl, hfree⟩ := (target_eq_ok_iff hsplit).mp htarget
  exact FileTree.nodeAt?_insert_file _ hdirectory hfree

theorem readText_of_writeText {new : FileSystem} (h : fs.writeText p text = .ok new) :
    new.readText p = .ok text := by
  obtain ⟨place, htarget, hworking, hnode⟩ := exists_place_of_writeText h
  obtain ⟨pieces, last, hsplit⟩ := exists_split_eq_concat p
  obtain ⟨⟨hsilent, hparent⟩, directory, hwalk, hdirectory, rfl, hfree⟩ :=
    (target_eq_ok_iff hsplit).mp htarget
  have hkept : ∀ place, fs.root.nodeAt? place = some .directory →
      new.root.nodeAt? place = some .directory := by
    intro other hother
    rw [hnode, if_neg, hother]
    rintro rfl
    exact hfree hother
  have hwritten : new.root.nodeAt? (directory ++ [String.ofList last]) =
      some (.file (.text text)) := by
    rw [hnode, if_pos rfl]
  have hafter : after directory last = directory ++ [String.ofList last] := by
    simp [after, hsilent, hparent]
  have hlocate : new.locate p = .ok (directory ++ [String.ofList last]) := by
    rw [locate_eq_ok_iff, start_eq hworking, hsplit, walk_append_eq_ok_iff]
    refine ⟨?_, directory, ?_, ?_⟩
    · rintro htext
      have hlength := congrArg List.getLast? hsplit
      simp [htext, split] at hlength
      rw [hlength] at hsilent
      exact absurd hsilent (by decide)
    · refine walk_transfer hkept (fun _ => ?_) hwalk
      rw [hkept _ hdirectory]
      rfl
    · rw [walk_cons_eq_ok_iff, hafter, hwritten]
      exact ⟨hkept _ hdirectory, rfl, rfl⟩
  exact readText_eq_ok_iff.mpr ⟨_, hlocate, hwritten⟩

end Writing

end FileSystem

end TemplateAudit
