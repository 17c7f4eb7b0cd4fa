import Mathlib.Data.List.Nodup
import TemplateAudit.Files.System

/-! # What is at the places of a tree

A tree is seen as what is at each of its places: a file with its content, a directory or nothing.
Below a file there is nothing, and putting a file into a directory changes a single place. If
entries have proper names and no name occurs twice in a directory, the files that are listed are
the files that are there.
-/

namespace TemplateAudit

inductive Node where
  | file (content : FileContent)
  | directory
  deriving DecidableEq, Repr

namespace FileTree

variable {t new : FileTree} {place other rest : List String} {name : String}
  {entries : List (String × FileTree)}

def node : FileTree → Node
  | .file content => .file content
  | .directory _ => .directory

def nodeAt? (t : FileTree) (place : List String) : Option Node := (t.find? place).map node

def IsEntryName (name : String) : Prop :=
  name ≠ "" ∧ name ≠ "." ∧ name ≠ ".." ∧ '/' ∉ name.toList

/-- Every entry has a proper name, and no other entry of its directory has the same. -/
inductive WellNamed : FileTree → Prop where
  | file (content : FileContent) : WellNamed (.file content)
  | directory {entries : List (String × FileTree)} : (entries.map (·.1)).Nodup →
    (∀ e ∈ entries, IsEntryName e.1) → (∀ e ∈ entries, WellNamed e.2) →
      WellNamed (.directory entries)

@[elab_as_elim]
theorem descend {motive : FileTree → Prop} (file : ∀ content, motive (.file content))
    (directory : ∀ entries, (∀ e ∈ entries, motive e.2) → motive (.directory entries))
    (t : FileTree) : motive t :=
  @FileTree.rec motive (fun entries => ∀ e ∈ entries, motive e.2) (fun e => motive e.2)
    file directory
    (List.forall_mem_nil _) (fun _ _ ih ihs => List.forall_mem_cons.mpr ⟨ih, ihs⟩)
    (fun _ _ ih => ih) t

section Places

@[simp] theorem find?_nil (t : FileTree) : t.find? [] = some t := by
  cases t <;> rfl

@[simp] theorem find?_file_cons (content : FileContent) (name : String) (rest : List String) :
    (file content).find? (name :: rest) = none := rfl

theorem find?_directory_cons (entries : List (String × FileTree)) (name : String)
    (rest : List String) :
    (directory entries).find? (name :: rest) = (child? name entries).bind (·.find? rest) := by
  rw [find?]
  cases child? name entries <;> rfl

theorem find?_append (t : FileTree) (place rest : List String) :
    t.find? (place ++ rest) = (t.find? place).bind (·.find? rest) := by
  induction place generalizing t with
  | nil => simp
  | cons name place ih =>
    cases t with
    | file content => rfl
    | directory entries =>
      rw [List.cons_append, find?_directory_cons, find?_directory_cons]
      cases child? name entries with
      | none => rfl
      | some tree => exact ih tree

theorem nodeAt?_of_below (h : (t.nodeAt? (place ++ rest)).isSome = true) (hne : rest ≠ []) :
    t.nodeAt? place = some .directory := by
  rw [nodeAt?, Option.isSome_map, find?_append] at h
  obtain ⟨name, rest, rfl⟩ := List.exists_cons_of_ne_nil hne
  rw [nodeAt?]
  rcases hu : t.find? place with _ | (content | entries)
  · simp [hu] at h
  · simp [hu] at h
  · rfl

theorem nodeAt?_above (h : (t.nodeAt? place).isSome = true) (habove : other <+: place)
    (hne : other ≠ place) : t.nodeAt? other = some .directory := by
  obtain ⟨rest, rfl⟩ := habove
  refine nodeAt?_of_below h ?_
  rintro rfl
  exact hne (List.append_nil other).symm

theorem nodeAt?_eq_directory_iff :
    t.nodeAt? place = some .directory ↔ ∃ entries, t.find? place = some (.directory entries) := by
  rw [nodeAt?, Option.map_eq_some_iff]
  constructor
  · rintro ⟨u, hu, hnode⟩
    cases u with
    | file content => exact nomatch hnode
    | directory entries => exact ⟨entries, hu⟩
  · rintro ⟨entries, hu⟩
    exact ⟨_, hu, rfl⟩

theorem nodeAt?_eq_file_iff {content : FileContent} :
    t.nodeAt? place = some (.file content) ↔ t.find? place = some (.file content) := by
  rw [nodeAt?, Option.map_eq_some_iff]
  constructor
  · rintro ⟨u, hu, hnode⟩
    cases u with
    | file content => exact Node.file.inj hnode ▸ hu
    | directory entries => exact nomatch hnode
  · intro hu
    exact ⟨_, hu, rfl⟩

theorem nodeAt?_concat (h : t.find? place = some (.directory entries)) :
    t.nodeAt? (place ++ [name]) = (child? name entries).map node := by
  rw [nodeAt?, find?_append, h, Option.bind_some, find?_directory_cons]
  cases child? name entries <;> rfl

theorem isSome_child?_iff (h : t.find? place = some (.directory entries)) :
    (child? name entries).isSome = true ↔ (t.nodeAt? (place ++ [name])).isSome = true := by
  rw [nodeAt?_concat h, Option.isSome_map]

end Places

section Inserting

theorem find?_insert_append (new : FileTree) (place rest : List String) (t : FileTree) :
    (insert new (place ++ rest) t).find? place =
      some (insert new rest ((t.find? place).getD empty)) := by
  induction place generalizing t with
  | nil => simp
  | cons name place ih =>
    cases t with
    | file content =>
      rw [List.cons_append, insert, find?_directory_cons, child?, if_pos rfl, Option.bind_some, ih]
      cases place <;> simp [empty, find?, child?]
    | directory entries =>
      rw [List.cons_append, insert, find?_directory_cons, child?_setEntry_self, Option.bind_some,
        ih, find?_directory_cons]
      cases child? name entries with
      | some tree => rfl
      | none => cases place <;> simp [empty, find?, child?]

/-- Places to which the place of an inserted tree does not lead, nor they to it, stay as they
are. -/
theorem find?_insert_of_apart (new : FileTree) (t : FileTree) (h : ¬ place <+: other)
    (h' : ¬ other <+: place) : (insert new place t).find? other = t.find? other := by
  induction place generalizing t other with
  | nil => exact absurd List.nil_prefix h
  | cons name place ih =>
    cases other with
    | nil => exact absurd List.nil_prefix h'
    | cons head other =>
      by_cases hname : head = name
      · subst hname
        have hinside : ∀ u : FileTree, (insert new place u).find? other = u.find? other := fun u =>
          ih u (fun hp => h (List.cons_prefix_cons.mpr ⟨rfl, hp⟩))
            (fun hp => h' (List.cons_prefix_cons.mpr ⟨rfl, hp⟩))
        have hother : empty.find? other = none := by
          cases other with
          | nil => exact absurd (List.cons_prefix_cons.mpr ⟨rfl, List.nil_prefix⟩) h'
          | cons _ _ => rfl
        cases t with
        | file content =>
          rw [insert, find?_directory_cons, child?, if_pos rfl, Option.bind_some, hinside, hother]
          rfl
        | directory entries =>
          rw [insert, find?_directory_cons, child?_setEntry_self, Option.bind_some, hinside,
            find?_directory_cons]
          cases child? head entries with
          | none => exact hother
          | some tree => rfl
      · cases t with
        | file content =>
          rw [insert, find?_directory_cons, child?, if_neg (Ne.symm hname)]
          rfl
        | directory entries =>
          rw [insert, find?_directory_cons, child?_setEntry_of_ne hname, find?_directory_cons]

theorem nodeAt?_insert_file (content : FileContent) (hin : t.nodeAt? place = some .directory)
    (hfree : t.nodeAt? (place ++ [name]) ≠ some .directory) (other : List String) :
    (insert (.file content) (place ++ [name]) t).nodeAt? other =
      if other = place ++ [name] then some (.file content) else t.nodeAt? other := by
  by_cases hbelow : place ++ [name] <+: other
  · obtain ⟨rest, rfl⟩ := hbelow
    have hnone : rest ≠ [] → t.nodeAt? (place ++ [name] ++ rest) = none := by
      intro hne
      rw [← Option.not_isSome_iff_eq_none]
      exact fun hsome => hfree (nodeAt?_of_below hsome hne)
    rw [nodeAt?, find?_append, find?_insert, Option.bind_some]
    cases rest with
    | nil => simp [node]
    | cons head rest =>
      rw [hnone (List.cons_ne_nil _ _), if_neg (by simp)]
      rfl
  · by_cases habove : other <+: place ++ [name]
    · have hother : other ≠ place ++ [name] := by
        rintro rfl
        exact hbelow (List.prefix_refl _)
      have hwithin : other <+: place := (List.prefix_concat_iff.mp habove).resolve_left hother
      have hdirectory : t.nodeAt? other = some .directory := by
        by_cases he : other = place
        · rw [he, hin]
        · exact nodeAt?_above (by rw [hin]; rfl) hwithin he
      obtain ⟨rest, hrest⟩ := habove
      have hne : rest ≠ [] := by
        rintro rfl
        exact hother (by rw [← hrest, List.append_nil])
      rw [if_neg hother, hdirectory, nodeAt?, ← hrest, find?_insert_append]
      obtain ⟨head, rest, rfl⟩ := List.exists_cons_of_ne_nil hne
      cases (t.find? other).getD empty <;> rfl
    · rw [nodeAt?, find?_insert_of_apart _ _ hbelow habove, if_neg, nodeAt?]
      rintro rfl
      exact hbelow (List.prefix_refl _)

end Inserting

section Listing

theorem child?_eq_some_iff (h : (entries.map (·.1)).Nodup) {tree : FileTree} :
    child? name entries = some tree ↔ (name, tree) ∈ entries := by
  induction entries with
  | nil => simp [child?]
  | cons e entries ih =>
    obtain ⟨other, old⟩ := e
    obtain ⟨hother, hrest⟩ := List.nodup_cons.mp h
    rw [child?, List.mem_cons, Prod.mk.injEq]
    by_cases he : other = name
    · subst he
      have hnot : (other, tree) ∉ entries := fun hmem =>
        hother (List.mem_map.mpr ⟨_, hmem, rfl⟩)
      simp [hnot, eq_comm]
    · simp [he, Ne.symm he, ih hrest]

theorem WellNamed.isEntryName (h : t.WellNamed) (hp : (t.nodeAt? place).isSome = true) :
    ∀ name ∈ place, IsEntryName name := by
  induction place generalizing t with
  | nil => simp
  | cons name place ih =>
    cases h with
    | file content => exact nomatch hp
    | directory hnodup hnames htrees =>
      rw [nodeAt?, Option.isSome_map, find?_directory_cons] at hp
      obtain ⟨u, hu⟩ := Option.isSome_iff_exists.mp hp
      obtain ⟨tree, htree, hu⟩ := Option.bind_eq_some_iff.mp hu
      have hmem := (child?_eq_some_iff hnodup).mp htree
      refine List.forall_mem_cons.mpr ⟨hnames _ hmem, ih (htrees _ hmem) ?_⟩
      rw [nodeAt?, hu]
      rfl

theorem WellNamed.of_find? (h : t.WellNamed) {u : FileTree} (hu : t.find? place = some u) :
    u.WellNamed := by
  induction place generalizing t with
  | nil =>
    rw [find?_nil] at hu
    exact Option.some.inj hu ▸ h
  | cons name place ih =>
    cases h with
    | file content => exact nomatch hu
    | directory hnodup hnames htrees =>
      rw [find?_directory_cons] at hu
      obtain ⟨tree, htree, hu⟩ := Option.bind_eq_some_iff.mp hu
      exact ih (htrees _ ((child?_eq_some_iff hnodup).mp htree)) hu

theorem mem_filesOfEntries_iff {content : FileContent} :
    (place, content) ∈ filesOfEntries entries ↔
      ∃ e ∈ entries, ∃ rest, place = e.1 :: rest ∧ (rest, content) ∈ e.2.files := by
  induction entries with
  | nil => simp [filesOfEntries]
  | cons e entries ih =>
    obtain ⟨name, tree⟩ := e
    rw [filesOfEntries, List.mem_append, ih, List.exists_mem_cons_iff]
    refine or_congr_left ?_
    rw [List.mem_map]
    constructor
    · rintro ⟨⟨rest, c⟩, hmem, he⟩
      obtain ⟨rfl, rfl⟩ := Prod.mk.inj he
      exact ⟨rest, rfl, hmem⟩
    · rintro ⟨rest, rfl, hmem⟩
      exact ⟨_, hmem, rfl⟩

/-- The files of a tree are listed with the places where they are. -/
theorem WellNamed.mem_files_iff (h : t.WellNamed) {content : FileContent} :
    (place, content) ∈ t.files ↔ t.find? place = some (.file content) := by
  induction t using descend generalizing place with
  | file c =>
    rw [files, List.mem_singleton, Prod.mk.injEq]
    cases place <;> simp [eq_comm]
  | directory entries ih =>
    cases h with
    | directory hnodup hnames htrees =>
      rw [files, mem_filesOfEntries_iff]
      constructor
      · rintro ⟨⟨name, tree⟩, hmem, rest, rfl, hrest⟩
        rw [find?_directory_cons, (child?_eq_some_iff hnodup).mpr hmem, Option.bind_some]
        exact (ih _ hmem (htrees _ hmem)).mp hrest
      · intro hfind
        cases place with
        | nil => exact nomatch hfind
        | cons name rest =>
          rw [find?_directory_cons] at hfind
          obtain ⟨tree, htree, hfind⟩ := Option.bind_eq_some_iff.mp hfind
          have hmem := (child?_eq_some_iff hnodup).mp htree
          exact ⟨_, hmem, rest, rfl, (ih _ hmem (htrees _ hmem)).mpr hfind⟩

theorem WellNamed.mem_filePlaces_iff (h : t.WellNamed) :
    place ∈ t.filePlaces ↔ ∃ content, t.nodeAt? place = some (.file content) := by
  simp only [filePlaces, List.mem_map, Prod.exists, exists_and_right, exists_eq_right,
    h.mem_files_iff, nodeAt?_eq_file_iff]

theorem WellNamed.mem_fileNames_iff (h : t.WellNamed) :
    name ∈ t.fileNames ↔ ∃ content, t.nodeAt? [name] = some (.file content) := by
  cases h with
  | file content => simp [fileNames, nodeAt?]
  | directory hnodup hnames htrees =>
    simp only [fileNames, List.mem_map, List.mem_filter, nodeAt?_eq_file_iff]
    constructor
    · rintro ⟨⟨_, tree⟩, ⟨hmem, hfile⟩, rfl⟩
      cases tree with
      | directory _ => exact nomatch hfile
      | file content =>
        refine ⟨content, ?_⟩
        rw [find?_directory_cons, (child?_eq_some_iff hnodup).mpr hmem]
        rfl
    · rintro ⟨content, hfind⟩
      rw [find?_directory_cons] at hfind
      obtain ⟨tree, htree, hfind⟩ := Option.bind_eq_some_iff.mp hfind
      rw [find?_nil] at hfind
      obtain rfl := Option.some.inj hfind
      exact ⟨_, ⟨(child?_eq_some_iff hnodup).mp htree, rfl⟩, rfl⟩

end Listing

end FileTree

end TemplateAudit
