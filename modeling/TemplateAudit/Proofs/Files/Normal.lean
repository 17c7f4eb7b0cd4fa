import TemplateAudit.FilePath

/-! # Paths in normal form

A path in normal form is written as its components with single slashes between them. For such paths
the operations on components are operations on text: the enclosing directory drops the last
component, a path lies below another if it continues the components of that one, and the URI of a
directory followed by what is left of a path below it is the URI of the path.
-/

namespace TemplateAudit.FilePath

def IsName (name : List Char) : Prop :=
  name ≠ [] ∧ name ≠ ['.'] ∧ '/' ∉ name ∧ '\\' ∉ name

instance (name : List Char) : Decidable (IsName name) :=
  inferInstanceAs (Decidable (_ ∧ _))

def ofNames (absolute : Bool) (names : List (List Char)) : FilePath :=
  ⟨String.ofList ((if absolute then ['/'] else []) ++ join names)⟩

/-- A path is in normal form if single slashes join its components: none of them is empty or a
lone dot, no slash is at the end except for the root, and there is no backslash. -/
def IsNormal (p : FilePath) : Prop :=
  ∃ absolute names, (∀ name ∈ names, IsName name) ∧ p = ofNames absolute names

/-- Both paths start alike, and one continues the components of the other. -/
def LiesBelow (path base : FilePath) : Prop :=
  path.isAbsolute = base.isAbsolute ∧ ∃ rest, rest ≠ [] ∧ path.names = base.names ++ rest

variable {absolute absolute' : Bool} {name : List Char} {names rest : List (List Char)}

section Joining

theorem join_cons (name : List Char) (h : names ≠ []) :
    join (name :: names) = name ++ '/' :: join names := by
  cases names with
  | nil => exact absurd rfl h
  | cons _ _ => rfl

theorem join_append (h : rest ≠ []) :
    join (names ++ rest) = (names.flatMap fun name => name ++ ['/']) ++ join rest := by
  induction names with
  | nil => rfl
  | cons name names ih => simp [join_cons, h, ih]

theorem join_concat_slash (h : names ≠ []) :
    join names ++ ['/'] = names.flatMap fun name => name ++ ['/'] := by
  induction names with
  | nil => exact absurd rfl h
  | cons name names ih =>
    by_cases hnames : names = []
    · simp [hnames, join]
    · simp [join_cons, hnames, ih]

theorem split_append (h : '/' ∉ name) (chars : List Char) :
    split (name ++ '/' :: chars) = name :: split chars := by
  induction name with
  | nil => simp [split]
  | cons c name ih =>
    simp only [List.mem_cons, not_or] at h
    simp [split, Ne.symm h.1, ih h.2]

theorem split_of_not_mem (h : '/' ∉ name) : split name = [name] := by
  induction name with
  | nil => rfl
  | cons c name ih =>
    simp only [List.mem_cons, not_or] at h
    simp [split, Ne.symm h.1, ih h.2]

theorem split_join (h : ∀ name ∈ names, '/' ∉ name) (hne : names ≠ []) :
    split (join names) = names := by
  induction names with
  | nil => exact absurd rfl hne
  | cons name names ih =>
    obtain ⟨hname, hnames⟩ := List.forall_mem_cons.mp h
    by_cases hrest : names = []
    · subst hrest
      exact split_of_not_mem hname
    · rw [join_cons name hrest, split_append hname, ih hnames hrest]

end Joining

section Parts

theorem IsName.not_isSilent (h : IsName name) : isSilent name = false := by
  simp [isSilent, h.1, h.2.1]

/-- The parts that a text of some components has; without components there is an empty part. -/
def parts (names : List (List Char)) : List (List Char) := if names = [] then [[]] else names

theorem split_join_names (h : ∀ name ∈ names, IsName name) : split (join names) = parts names := by
  by_cases hne : names = []
  · simp [hne, parts, join, split]
  · rw [parts, if_neg hne, split_join (fun name hname => (h name hname).2.2.1) hne]

theorem split_ofNames (h : ∀ name ∈ names, IsName name) :
    split (ofNames absolute names).text.toList =
      (if absolute then [[]] else []) ++ parts names := by
  cases absolute <;> simp [ofNames, split, split_join_names h]

theorem anchor_ofNames (h : ∀ name ∈ names, IsName name) :
    (ofNames absolute names).anchor = if absolute then .root else .none := by
  rw [anchor, split_ofNames h]
  cases absolute with
  | true => cases names <;> simp [parts, anchorOf]
  | false =>
    cases names with
    | nil => rfl
    | cons name names =>
      have hname := h name List.mem_cons_self
      simp only [Bool.false_eq_true, if_false, List.nil_append, parts, reduceCtorEq]
      unfold anchorOf
      split
      · next he => exact absurd (List.cons.inj he).1 hname.1
      · next he => exact absurd (List.cons.inj he).1 hname.2.1
      · rfl

theorem isAbsolute_ofNames (h : ∀ name ∈ names, IsName name) :
    (ofNames absolute names).isAbsolute = absolute := by
  rw [isAbsolute, anchor_ofNames h]
  cases absolute <;> rfl

theorem body_ofNames (h : ∀ name ∈ names, IsName name) :
    (ofNames absolute names).body = parts names := by
  have hanchor : anchorOf ((if absolute then [[]] else []) ++ parts names) =
      if absolute then .root else .none := by
    rw [← split_ofNames h]
    exact anchor_ofNames h
  simp only [body, split_ofNames h, hanchor]
  cases absolute <;> simp

theorem names_ofNames (h : ∀ name ∈ names, IsName name) :
    (ofNames absolute names).names = names := by
  rw [FilePath.names, body_ofNames h, parts]
  split
  · next he => simp [he, isSilent]
  · rw [List.filter_eq_self]
    exact fun name hname => by simp [(h name hname).not_isSilent]

theorem dropWhile_isSilent (h : ∀ name ∈ names, IsName name) :
    names.dropWhile isSilent = names := by
  cases names with
  | nil => rfl
  | cons name names => simp [(h name List.mem_cons_self).not_isSilent]

theorem trimBody_names (h : ∀ name ∈ names, IsName name) : trimBody names = names := by
  rw [trimBody, dropWhile_isSilent fun name hname => h name (List.mem_reverse.mp hname),
    List.reverse_reverse]

theorem trimBody_parts (h : ∀ name ∈ names, IsName name) : trimBody (parts names) = names := by
  rw [parts]
  split
  · next he => simp [he, trimBody, isSilent]
  · exact trimBody_names h

theorem ofParts_eq_ofNames : ofParts (if absolute then .root else .none) names =
    ofNames absolute names := by
  cases absolute <;> simp [ofParts, ofNames]

theorem parent?_ofNames (h : ∀ name ∈ names, IsName name) :
    (ofNames absolute names).parent? =
      if names = [] then none else some (ofNames absolute names.dropLast) := by
  have hlast : ∀ name ∈ names.dropLast, IsName name := fun name hname =>
    h name ((List.dropLast_sublist names).mem hname)
  rw [parent?, body_ofNames h, trimBody_parts h, anchor_ofNames h]
  cases names with
  | nil => cases absolute <;> rfl
  | cons name names =>
    simp only [reduceCtorEq, if_false]
    rw [trimBody_names hlast, ofParts_eq_ofNames]

end Parts

section Below

theorem stripNames_eq_some_iff {names pieces rest : List (List Char)}
    (h : ∀ piece ∈ pieces, IsName piece) :
    stripNames names pieces = some rest ↔ pieces = names ++ rest := by
  induction pieces generalizing names with
  | nil => cases names <;> simp [stripNames, eq_comm]
  | cons piece pieces ih =>
    obtain ⟨hpiece, hpieces⟩ := List.forall_mem_cons.mp h
    cases names with
    | nil => simp [stripNames, eq_comm]
    | cons name names =>
      rw [stripNames, hpiece.not_isSilent, if_neg Bool.false_ne_true]
      split
      · next heq => simp [heq, ih hpieces]
      · next heq => simp [heq]

/-- Stripping sees the empty part of a path without components, and passes over it. -/
theorem map_stripNames_parts {more : List (List Char)} (h : ∀ name ∈ more, IsName name)
    {p : FilePath} :
    (stripNames names (parts more)).map
        (fun pieces => ofParts .none (trimBody (pieces.dropWhile isSilent))) = some p ↔
      ∃ rest, more = names ++ rest ∧ p = ofNames false rest := by
  by_cases hmore : more = []
  · subst hmore
    cases names with
    | nil => simp [parts, stripNames, isSilent, trimBody, ofParts, ofNames, join, eq_comm]
    | cons name names => simp [parts, stripNames, isSilent]
  · rw [parts, if_neg hmore, Option.map_eq_some_iff]
    refine exists_congr fun rest => ?_
    rw [stripNames_eq_some_iff h]
    refine and_congr_right fun hrest => ?_
    have hnames : ∀ name ∈ rest, IsName name := fun name hname =>
      h name (hrest ▸ List.mem_append_right names hname)
    rw [dropWhile_isSilent hnames, trimBody_names hnames, eq_comm]
    rfl

theorem stripBase_ofNames {more : List (List Char)} (h : ∀ name ∈ names, IsName name)
    (hmore : ∀ name ∈ more, IsName name) (hne : absolute = true ∨ names ≠ []) {p : FilePath} :
    stripBase (ofNames absolute names) (ofNames absolute' more) = some p ↔
      absolute = absolute' ∧ ∃ rest, more = names ++ rest ∧ p = ofNames false rest := by
  have hbase : ¬ ((if absolute then Anchor.root else .none) = .none ∧ names = []) := by
    rintro ⟨hanchor, rfl⟩
    cases absolute with
    | true => exact nomatch hanchor
    | false => exact hne.elim nofun fun hnil => hnil rfl
  rw [stripBase, anchor_ofNames h, names_ofNames h, anchor_ofNames hmore, body_ofNames hmore,
    if_neg hbase, ← map_stripNames_parts hmore]
  cases absolute <;> cases absolute' <;> simp

theorem text_ofNames_ne_empty_iff (h : ∀ name ∈ names, IsName name) :
    (ofNames absolute names).text ≠ "" ↔ absolute = true ∨ names ≠ [] := by
  have hjoin : join names = [] ↔ names = [] := by
    cases names with
    | nil => simp [join]
    | cons name names =>
      by_cases hnames : names = []
      · simp [hnames, join, (h name List.mem_cons_self).1]
      · simp [join_cons, hnames]
  rw [ne_eq, ofNames, String.ofList_eq_empty_iff, List.append_eq_nil_iff, hjoin]
  cases absolute <;> simp

theorem relativeTo_eq_some_iff {base child p : FilePath} :
    base.relativeTo child = some p ↔ base.stripBase child = some p ∧ p.text ≠ "" := by
  cases h : base.stripBase child with
  | none => simp [relativeTo, h]
  | some rest =>
    simp only [relativeTo, h, Option.some.injEq]
    split
    · next hempty =>
      simp only [reduceCtorEq, false_iff, not_and]
      rintro rfl hne
      exact hne hempty
    · next hempty =>
      simp only [Option.some.injEq, iff_self_and]
      rintro rfl
      exact hempty

/-- Relative to a base a path is what it adds to the components of the base. -/
theorem relativeTo_ofNames {more : List (List Char)} (h : ∀ name ∈ names, IsName name)
    (hmore : ∀ name ∈ more, IsName name) (hne : absolute = true ∨ names ≠ []) {p : FilePath} :
    (ofNames absolute names).relativeTo (ofNames absolute' more) = some p ↔
      absolute = absolute' ∧ ∃ rest, rest ≠ [] ∧ more = names ++ rest ∧ p = ofNames false rest := by
  rw [relativeTo_eq_some_iff, stripBase_ofNames h hmore hne]
  constructor
  · rintro ⟨⟨habsolute, rest, rfl, rfl⟩, htext⟩
    refine ⟨habsolute, rest, ?_, rfl, rfl⟩
    rintro rfl
    exact htext rfl
  · rintro ⟨habsolute, rest, hrest, rfl, rfl⟩
    have hnames : ∀ name ∈ rest, IsName name := fun name hname =>
      hmore name (List.mem_append_right names hname)
    exact ⟨⟨habsolute, rest, rfl, rfl⟩, (text_ofNames_ne_empty_iff hnames).mpr (.inr hrest)⟩

theorem liesBelow_ofNames_iff {more : List (List Char)} (h : ∀ name ∈ names, IsName name)
    (hmore : ∀ name ∈ more, IsName name) :
    (ofNames absolute' more).LiesBelow (ofNames absolute names) ↔
      absolute' = absolute ∧ ∃ rest, rest ≠ [] ∧ more = names ++ rest := by
  rw [LiesBelow, isAbsolute_ofNames h, isAbsolute_ofNames hmore, names_ofNames h,
    names_ofNames hmore]

theorem isSome_relativeTo_iff {base path : FilePath} (hbase : base.IsNormal) (hne : base.text ≠ "")
    (hpath : path.IsNormal) : (base.relativeTo path).isSome = true ↔ path.LiesBelow base := by
  obtain ⟨absolute, names, h, rfl⟩ := hbase
  obtain ⟨absolute', more, hmore, rfl⟩ := hpath
  rw [Option.isSome_iff_exists, liesBelow_ofNames_iff h hmore]
  simp only [relativeTo_ofNames h hmore (text_ofNames_ne_empty_iff h |>.mp hne)]
  constructor
  · rintro ⟨_, habsolute, rest, hrest, hmore, -⟩
    exact ⟨habsolute.symm, rest, hrest, hmore⟩
  · rintro ⟨habsolute, rest, hrest, hmore⟩
    exact ⟨_, habsolute.symm, rest, hrest, hmore, rfl⟩

end Below

section Uri

theorem backslash_not_mem_join (h : ∀ name ∈ names, IsName name) : '\\' ∉ join names := by
  induction names with
  | nil => simp [join]
  | cons name names ih =>
    obtain ⟨hname, hnames⟩ := List.forall_mem_cons.mp h
    by_cases hrest : names = []
    · simpa [hrest, join] using hname.2.2.2
    · simp [join_cons name hrest, hname.2.2.2, ih hnames]

theorem getLast?_join (h : ∀ name ∈ names, IsName name) (hne : names ≠ []) :
    ∃ c, (join names).getLast? = some c ∧ c ≠ '/' := by
  induction names with
  | nil => exact absurd rfl hne
  | cons name names ih =>
    obtain ⟨hname, hnames⟩ := List.forall_mem_cons.mp h
    by_cases hrest : names = []
    · subst hrest
      refine ⟨name.getLast hname.1, List.getLast?_eq_some_getLast hname.1, ?_⟩
      intro hslash
      exact hname.2.2.1 (hslash ▸ List.getLast_mem hname.1)
    · obtain ⟨c, hc, hslash⟩ := ih hnames hrest
      refine ⟨c, ?_, hslash⟩
      rw [join_cons name hrest, List.append_cons, List.getLast?_append, hc, Option.some_or]

def uriStart (absolute : Bool) : String := if absolute then "file:///" else ""

theorem toUri_ofNames (h : ∀ name ∈ names, IsName name) :
    (ofNames absolute names).toUri = uriStart absolute ++ String.ofList (join names) := by
  have hjoin : (join names).map (fun c => if c = '\\' then '/' else c) = join names := by
    refine (List.map_congr_left fun c hc => if_neg ?_).trans (List.map_id _)
    rintro rfl
    exact backslash_not_mem_join h hc
  rw [toUri, isAbsolute_ofNames h, ← String.toList_inj]
  cases absolute <;> simp [ofNames, uriStart, String.toList_map, hjoin]

theorem toDirectoryUri_ofNames (h : ∀ name ∈ names, IsName name)
    (hne : absolute = true ∨ names ≠ []) :
    (ofNames absolute names).toDirectoryUri =
      uriStart absolute ++ String.ofList (names.flatMap fun name => name ++ ['/']) := by
  rw [toDirectoryUri, toUri_ofNames h]
  by_cases hnames : names = []
  · obtain rfl := hne.resolve_right fun hnot => hnot hnames
    subst hnames
    rfl
  · obtain ⟨c, hc, hslash⟩ := getLast?_join h hnames
    rw [if_neg, String.append_assoc, ← join_concat_slash hnames, String.ofList_append]
    simpa [List.getLast?_append, hc] using hslash

/-- The URI of a directory followed by what is left of a path below it is the URI of the path. -/
theorem toDirectoryUri_append (h : ∀ name ∈ names ++ rest, IsName name)
    (hne : absolute = true ∨ names ≠ []) (hrest : rest ≠ []) :
    (ofNames absolute names).toDirectoryUri ++ (ofNames false rest).toUri =
      (ofNames absolute (names ++ rest)).toUri := by
  rw [toDirectoryUri_ofNames (fun name hname => h name (List.mem_append_left rest hname)) hne,
    toUri_ofNames fun name hname => h name (List.mem_append_right names hname), toUri_ofNames h,
    join_append hrest, String.ofList_append, String.append_assoc]
  rfl

theorem toDirectoryUri_append_relativeTo {base path rest : FilePath} (hbase : base.IsNormal)
    (hne : base.text ≠ "") (hpath : path.IsNormal) (h : base.relativeTo path = some rest) :
    base.toDirectoryUri ++ rest.toUri = path.toUri := by
  obtain ⟨absolute, names, hnames, rfl⟩ := hbase
  obtain ⟨absolute', more, hmore, rfl⟩ := hpath
  have hne := (text_ofNames_ne_empty_iff hnames).mp hne
  obtain ⟨rfl, rest, hrest, rfl, rfl⟩ := (relativeTo_ofNames hnames hmore hne).mp h
  exact toDirectoryUri_append hmore hne hrest

end Uri

section Parent

variable {path directory : FilePath}

theorem isNormal_parent? (hpath : path.IsNormal) (h : path.parent? = some directory) :
    directory.IsNormal := by
  obtain ⟨absolute, names, hnames, rfl⟩ := hpath
  rw [parent?_ofNames hnames] at h
  split at h
  · exact nomatch h
  · obtain rfl := Option.some.inj h
    exact ⟨absolute, names.dropLast, fun name hname =>
      hnames name ((List.dropLast_sublist names).mem hname), rfl⟩

theorem exists_parent?_of_liesBelow {base : FilePath} (hbase : base.IsNormal) (hne : base.text ≠ "")
    (hpath : path.IsNormal) (h : path.LiesBelow base) :
    ∃ directory, path.parent? = some directory ∧ directory.text ≠ "" := by
  obtain ⟨absolute, names, hnames, rfl⟩ := hbase
  obtain ⟨absolute', more, hmore, rfl⟩ := hpath
  obtain ⟨rfl, rest, hrest, rfl⟩ := (liesBelow_ofNames_iff hnames hmore).mp h
  have hdirectory : ∀ name ∈ (names ++ rest).dropLast, IsName name := fun name hname =>
    hmore name ((List.dropLast_sublist _).mem hname)
  refine ⟨_, by rw [parent?_ofNames hmore, if_neg (by simp [hrest])], ?_⟩
  rw [text_ofNames_ne_empty_iff hdirectory]
  rcases (text_ofNames_ne_empty_iff hnames).mp hne with habsolute | hnames
  · exact .inl habsolute
  · refine .inr ?_
    rw [List.dropLast_append_of_ne_nil hrest]
    simp [hnames]

end Parent

end TemplateAudit.FilePath
