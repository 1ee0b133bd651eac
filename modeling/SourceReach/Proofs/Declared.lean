import SourceReach.NameIndex.Build
import SourceReach.Proofs.Wildcard

/-!
# The files that declare a type name

Which files below a directory declare a type name is said here without the search: their names are
the type name with the extension. The search for an extension without wildcards gives all files that
declare some name and that no directory hides, each with the names that lead down to it
(`mem_filesAmong_iff`), so cutting off the extension sorts them by the name that they declare
(`findable_eq`). As long as all directories can be listed, these are all files that declare a name
(`declared_eq`).
-/

namespace SourceReach

theorem append_lt_append_left {front s t : List Text} (h : s < t) : front ++ s < front ++ t :=
  List.Lex.append_left _ h front

/-- The type name that the file at the end of some names stands for. -/
abbrev NameIndex.declaredName (extension : Text) (names : List Text) : Text :=
  typeName extension (names.getLast?.getD [])

namespace FileTree

variable {t : FileTree} {base place names : List Text} {extension name : Text} {root : Path}
  {found : List (List Text)}

/-- The files below a directory that declare a type name: those of this name with the extension.
They are in the order of their components. -/
def declared (t : FileTree) (base : List Text) (extension name : Text) : List (List Text) :=
  (sortedDistinct (t.nodes.map (·.1))).filter fun place =>
    base.isPrefixOf place && t.hasAt isFileNode place && place.getLast? = some (name ++ extension)

theorem HasNode.ne_nil {content : Bytes} (h : t.HasNode place (.file content)) : place ≠ [] := by
  rintro rfl
  exact absurd (Option.some.inj h.listed) nofun

/-- Those of the files that are not in a directory which cannot be listed. -/
def findable (t : FileTree) (base : List Text) (extension name : Text) : List (List Text) :=
  (t.declared base extension name).filter fun place => !t.isHidden base place

theorem mem_declared :
    place ∈ t.declared base extension name ↔
      base <+: place ∧ t.hasAt isFileNode place = true ∧
      place.getLast? = some (name ++ extension) := by
  rw [declared, List.mem_filter, mem_sortedDistinct, Bool.and_eq_true, Bool.and_eq_true,
    decide_eq_true_iff, List.isPrefixOf_iff_prefix, and_assoc, and_iff_right_iff_imp]
  rintro ⟨-, hfile, -⟩
  obtain ⟨content, hnode⟩ := hasAt_isFileNode.1 hfile
  exact (mem_places_iff hnode.ne_nil).2 ⟨_, hnode.listed⟩

theorem pairwise_declared (t : FileTree) (base : List Text) (extension name : Text) :
    (t.declared base extension name).Pairwise (· < ·) := (pairwise_sortedDistinct _).filter _

/-! ## What the search finds -/

/-- The last name of a glob selects the names of the directory that fit it. -/
theorem select_fitting (t : FileTree) (glob : Text) {r : Reached}
    (h : (root.along r.names).IsShort) :
    t.select root [.fitting glob] r =
      .ok (((t.namesIn r.place).filter (Glob.isMatch glob)).map r.step) := by
  have hselect : (fun name => t.select root [] (r.step name)) = fun name => .ok [r.step name] := rfl
  have hflatten : ∀ names : List Text, (names.map fun name => [r.step name]).flatten =
      names.map r.step := by
    intro names
    rw [← List.flatMap_def, ← List.map_eq_flatMap]
  rw [select, hselect, checkLength_of_isShort h]
  simp only [decide_true, Bool.true_or, Bool.and_true]
  show (List.mapM (fun name => Except.ok [r.step name]) _ >>= _) = _
  rw [Except.mapM_ok]
  exact congrArg Except.ok (hflatten _)

/-- The names that a directory has for a glob, each reached from there. -/
def fittingBelow (t : FileTree) (place : List Text) (glob : Text) (down : List Text) :
    List Reached :=
  ((t.namesIn (place ++ down)).filter (Glob.isMatch glob)).map (Reached.step ⟨place ++ down, down⟩)

/-- What is selected in a directory below the place where a search for a glob of one name starts. -/
def selectBelow (t : FileTree) (root : Path) (place : List Text) (glob : Text) (down : List Text) :
    Except AccessError (List Reached) := do
  checkLength (root.along down)
  t.select root [.fitting glob] ⟨place ++ down, down⟩

theorem selectBelow_of_isShort {down : List Text} (h : (root.along down).IsShort) (glob : Text) :
    t.selectBelow root place glob down = .ok (t.fittingBelow place glob down) := by
  rw [selectBelow, checkLength_of_isShort h]
  exact select_fitting t glob h

theorem selectBelow_of_not_isShort {down : List Text} (h : ¬(root.along down).IsShort)
    (glob : Text) :
    t.selectBelow root place glob down = .error ⟨.nameTooLong, (root.along down).toText⟩ := by
  rw [selectBelow, checkLength_of_not_isShort h]
  rfl

theorem search_fitting_eq (t : FileTree) (root : Path) (place : List Text) (glob : Text) :
    t.search root place [.fitting glob] = (do
      let lists ← (t.directoriesFrom place).mapM (t.selectBelow root place glob)
      return sortedDistinct (lists.flatten.map (·.names))) := by
  rw [search, select, bind_assoc]
  rfl

/-- A search for a glob of one name finds what fits it in the directories that can be found, when
none of them is too far down. -/
theorem search_fitting (h : ∀ down ∈ t.directoriesFrom place, (root.along down).IsShort)
    (glob : Text) :
    t.search root place [.fitting glob] =
      .ok (sortedDistinct (((t.directoriesFrom place).flatMap (t.fittingBelow place glob)).map
        (·.names))) := by
  rw [search_fitting_eq, Except.mapM_eq_ok fun down hdown => selectBelow_of_isShort
    (h down hdown) glob, List.flatMap_def]
  rfl

/-- The search ends at the first directory that is too far down. -/
theorem search_fitting_of_long {before after : List (List Text)} {down : List Text}
    (hdirs : t.directoriesFrom place = before ++ down :: after)
    (hbefore : ∀ down ∈ before, (root.along down).IsShort) (hlong : ¬(root.along down).IsShort)
    (glob : Text) :
    t.search root place [.fitting glob] = .error ⟨.nameTooLong, (root.along down).toText⟩ := by
  rw [search_fitting_eq, hdirs, Except.mapM_eq_error after
    (fun down hdown => ⟨_, selectBelow_of_isShort (hbefore down hdown) glob⟩)
      (selectBelow_of_not_isShort hlong glob)]
  rfl

theorem isShort_of_search {glob : Text} (h : t.search root place [.fitting glob] = .ok found) :
    ∀ down ∈ t.directoriesFrom place, (root.along down).IsShort := by
  intro down hdown
  rw [search_fitting_eq, Except.bind_eq_ok] at h
  obtain ⟨lists, hlists, -⟩ := h
  obtain ⟨list, -, hlist⟩ := Except.exists_mem_of_mapM hlists hdown
  by_contra hlong
  exact absurd ((selectBelow_of_not_isShort hlong glob).symm.trans hlist) nofun

theorem pairwise_of_search {glob : List GlobName} (h : t.search root base glob = .ok found) :
    found.Pairwise (· < ·) := by
  rw [search, Except.bind_eq_ok] at h
  obtain ⟨rs, -, h⟩ := h
  rw [← Except.pure_eq_ok.1 h]
  exact pairwise_sortedDistinct _

theorem pairwise_filesAmong {glob : List GlobName} (h : t.search root base glob = .ok found) :
    (t.filesAmong base found).Pairwise (· < ·) := (pairwise_of_search h).filter _

theorem mem_fittingBelow {glob : Text} {down : List Text} {r : Reached} (ht : t.WellNamed) :
    r ∈ t.fittingBelow place glob down ↔
      ∃ name ∈ t.namesIn (place ++ down), Glob.isMatch glob name = true ∧
        r = ⟨place ++ (down ++ [name]), down ++ [name]⟩ := by
  have hstep : ∀ name ∈ t.namesIn (place ++ down),
      Reached.step ⟨place ++ down, down⟩ name = ⟨place ++ (down ++ [name]), down ++ [name]⟩ := by
    intro name hname
    rw [Reached.step_of_ne (ht.ne_parent_of_mem_namesIn hname), Reached.descend, List.append_assoc]
  rw [fittingBelow, List.mem_map]
  constructor
  · rintro ⟨name, hname, rfl⟩
    obtain ⟨hname, hmatch⟩ := List.mem_filter.1 hname
    exact ⟨name, hname, hmatch, hstep name hname⟩
  · rintro ⟨name, hname, hmatch, rfl⟩
    exact ⟨name, List.mem_filter.2 ⟨hname, hmatch⟩, hstep name hname⟩

theorem isHidden_eq_false_iff :
    t.isHidden base place = false ↔ ∀ u ∈ t.unlistable, base <+: u → u <+: place → u = place := by
  unfold isHidden
  simp only [List.any_eq_false, Bool.and_eq_true, List.isPrefixOf_iff_prefix, decide_eq_true_iff,
    not_and, not_not]
  exact ⟨fun h u hu hbase hplace => h u hu ⟨hbase, hplace⟩, fun h u hu hprefix =>
    h u hu hprefix.1 hprefix.2⟩

theorem isHidden_child_iff {down : List Text} :
    t.isHidden base (base ++ (down ++ [name])) = false ↔
      t.isHidden base (base ++ down) = false ∧ base ++ down ∉ t.unlistable := by
  rw [isHidden_eq_false_iff, isHidden_eq_false_iff, ← List.append_assoc]
  constructor
  · intro h
    have hproper : ∀ u ∈ t.unlistable, base <+: u → ¬u <+: base ++ down := by
      intro u hu hbase hdown
      have heq := h u hu hbase (hdown.trans (List.prefix_append _ _))
      have hlength := hdown.length_le
      rw [heq, List.length_append, List.length_singleton] at hlength
      omega
    exact ⟨fun u hu hbase hdown => absurd hdown (hproper u hu hbase),
      fun hu => hproper _ hu (List.prefix_append _ _) List.prefix_rfl⟩
  · rintro ⟨h, hlisted⟩ u hu hbase hprefix
    rcases List.prefix_concat_iff.1 hprefix with heq | hdown
    · exact heq
    · exact absurd (h u hu hbase hdown ▸ hu) hlisted

/-- The search leads to all that has the extension and is not hidden, files and directories. -/
theorem mem_search_iff (ht : t.WellNamed) (hplain : GlobName.hasWildcard extension = false)
    (h : t.search root base [.fitting ('*' :: extension)] = .ok found) :
    names ∈ found ↔ (∃ n, t.HasNode (base ++ names) n) ∧ t.isHidden base (base ++ names) = false ∧
      ∃ name, names.getLast? = some (name ++ extension) := by
  rw [search_fitting (isShort_of_search h), Except.ok.injEq] at h
  rw [← h, mem_sortedDistinct, List.mem_map]
  constructor
  · rintro ⟨r, hr, rfl⟩
    obtain ⟨down, hdown, hr⟩ := List.mem_flatMap.1 hr
    obtain ⟨name, hname, hmatch, rfl⟩ := (mem_fittingBelow ht).1 hr
    obtain ⟨stem, rfl⟩ := (Glob.isMatch_star_iff hplain).1 hmatch
    obtain ⟨hdir, hshown⟩ := mem_directoriesFrom.1 hdown
    obtain ⟨n, hnode, hn⟩ := hasAt_iff.1 hdir
    obtain rfl : n = .directory := of_decide_eq_true hn
    obtain ⟨hlisted, hsize, m, hm⟩ := mem_namesIn.1 hname
    have hchild := hnode.child (ht.ne_parent_of_mem_namesIn hname) hsize hm
    rw [List.append_assoc] at hchild
    exact ⟨⟨m, hchild⟩, isHidden_child_iff.2 ⟨hshown, hlisted⟩, stem, List.getLast?_concat⟩
  · rintro ⟨⟨n, hnode⟩, hshown, stem, hlast⟩
    obtain ⟨down, rfl⟩ := List.getLast?_eq_some_iff.1 hlast
    obtain ⟨hdirs, hlisted⟩ := isHidden_child_iff.1 hshown
    rw [← List.append_assoc] at hnode
    have hdown : down ∈ t.directoriesFrom base := by
      rw [mem_directoriesFrom, hasAt_iff]
      exact ⟨⟨_, hnode.parent, rfl⟩, hdirs⟩
    have hname : stem ++ extension ∈ t.namesIn (base ++ down) :=
      mem_namesIn.2 ⟨hlisted, hnode.size_le, _, hnode.listed⟩
    have hmatch : Glob.isMatch ('*' :: extension) (stem ++ extension) = true :=
      (Glob.isMatch_star_iff hplain).2 (List.suffix_append _ _)
    exact ⟨_,
      List.mem_flatMap.2 ⟨down, hdown, (mem_fittingBelow ht).2 ⟨_, hname, hmatch, rfl⟩⟩, rfl⟩

/-- The files among what is found are all files with the extension that are not hidden. -/
theorem mem_filesAmong_iff (ht : t.WellNamed) (hbase : t.HasNode base .directory)
    (hplain : GlobName.hasWildcard extension = false)
    (h : t.search root base [.fitting ('*' :: extension)] = .ok found) :
    names ∈ t.filesAmong base found ↔ t.hasAt isFileNode (base ++ names) = true ∧
      t.isHidden base (base ++ names) = false ∧ ∃ name, names.getLast? =
        some (name ++ extension) := by
  have hleads : ∀ {n}, t.HasNode (base ++ names) n →
      (t.leadsToFile base names = true ↔ t.hasAt isFileNode (base ++ names) = true) := fun hnode =>
    leadsToFile_iff hbase fun name hname => hnode.ne_parent name (List.mem_append_right _ hname)
  rw [filesAmong, List.mem_filter, mem_search_iff ht hplain h]
  constructor
  · rintro ⟨⟨⟨n, hnode⟩, hrest⟩, hfile⟩
    exact ⟨(hleads hnode).1 hfile, hrest⟩
  · rintro ⟨hfile, hrest⟩
    obtain ⟨content, hnode⟩ := hasAt_isFileNode.1 hfile
    exact ⟨⟨⟨_, hnode⟩, hrest⟩, (hleads hnode).2 hfile⟩

theorem typeName_append (hne : extension ≠ []) (name : Text) :
    NameIndex.typeName extension (name ++ extension) = name := by
  rw [NameIndex.typeName, if_neg hne, Text.shorten, List.length_append, Nat.add_sub_cancel,
    List.take_left]

/-- The files that declare a name and are not hidden are the ones that the search gives and that
have the name without extension. -/
theorem findable_eq (ht : t.WellNamed) (hbase : t.HasNode base .directory) (hne : extension ≠ [])
    (hplain : GlobName.hasWildcard extension = false)
    (h : t.search root base [.fitting ('*' :: extension)] = .ok found) (name : Text) :
    t.findable base extension name =
      ((t.filesAmong base found).filter (NameIndex.declaredName extension · = name)).map
        (base ++ ·) := by
  refine List.SortedLT.eq_of_mem_iff
    ((pairwise_declared t base extension name).filter _).sortedLT ?_ fun place => ?_
  · refine (List.Pairwise.map _ ?_ ((pairwise_filesAmong h).filter _)).sortedLT
    exact fun _ _ => append_lt_append_left
  · rw [findable, List.mem_filter, mem_declared, Bool.not_eq_true', List.mem_map]
    constructor
    · rintro ⟨⟨⟨names, rfl⟩, hfile, hlast⟩, hshown⟩
      have hnames : names ≠ [] := by
        rintro rfl
        obtain ⟨content, hnode⟩ := hasAt_isFileNode.1 hfile
        rw [List.append_nil] at hnode
        exact absurd (Option.some.inj (hnode.listed.symm.trans hbase.listed)) nofun
      rw [List.getLast?_append_of_ne_nil _ hnames] at hlast
      have hmem := (mem_filesAmong_iff ht hbase hplain h).2 ⟨hfile, hshown, name, hlast⟩
      refine ⟨names, List.mem_filter.2 ⟨hmem, ?_⟩, rfl⟩
      rw [NameIndex.declaredName, hlast, Option.getD_some, typeName_append hne, decide_eq_true_iff]
    · rintro ⟨names, hnames, rfl⟩
      obtain ⟨hnames, hname⟩ := List.mem_filter.1 hnames
      obtain ⟨hfile, hshown, stem, hlast⟩ := (mem_filesAmong_iff ht hbase hplain h).1 hnames
      rw [NameIndex.declaredName, hlast, Option.getD_some, typeName_append hne,
        decide_eq_true_iff] at hname
      have hnil : names ≠ [] := by
        rintro rfl
        exact absurd hlast nofun
      rw [List.getLast?_append_of_ne_nil _ hnil, hlast, hname]
      exact ⟨⟨List.prefix_append _ _, hfile, rfl⟩, hshown⟩

/-- When all directories can be listed, all files that declare a name can be found. -/
theorem findable_of_listable (hlist : t.unlistable = []) (base : List Text)
    (extension name : Text) :
    t.findable base extension name = t.declared base extension name := by
  refine List.filter_eq_self.2 fun place _ => ?_
  rw [Bool.not_eq_true', isHidden_eq_false_iff, hlist]
  exact fun u hu => absurd hu List.not_mem_nil

theorem declared_eq (ht : t.WellNamed) (hlist : t.unlistable = [])
    (hbase : t.HasNode base .directory)
    (hne : extension ≠ []) (hplain : GlobName.hasWildcard extension = false)
    (h : t.search root base [.fitting ('*' :: extension)] = .ok found) (name : Text) :
    t.declared base extension name =
      ((t.filesAmong base found).filter (NameIndex.declaredName extension · = name)).map
        (base ++ ·) := by
  rw [← findable_of_listable hlist, findable_eq ht hbase hne hplain h]

end FileTree

end SourceReach
