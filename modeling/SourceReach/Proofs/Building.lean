import SourceReach.Proofs.Adding
import SourceReach.Proofs.Declared

/-!
# The index of a source root

An index of a source root holds the files that declare type names, whatever way the root is spelled:
what a lookup gives, which names there are and which of them collide is read off the files that
declare a name, in their order. The strategy that refuses duplicates fails just when some name has
two files, and then for the name whose second file comes first. All of this needs the directories
and files to be in reach: an index that is not built for another reason than a duplicate has come to
a path that is too long, and if the path is that of a file, this is not reported
(`build_represents`).
-/

namespace SourceReach.NameIndex

/-- A source root that is given from the project on, as it is spelled. -/
abbrev rootPath (project : Path) (root : Text) : Path := project.join (Path.ofText root)

def rootPlace (project : Path) (root : Text) : Path := (project.join (Path.ofText root)).normal

/-- The files that declare a type name below a source root, each under its one name from the
project. -/
def declarations (tree : FileTree) (project : Path) (root extension name : Text) : List Text :=
  (tree.declared (rootPlace project root).parts extension name).map fun place =>
    project.nameFrom (Path.mk (rootPlace project root).anchor place).toText

/-- The source root is a directory of a tree in which all directories can be listed, and the
extension is part of a name and has no wildcards. -/
structure Indexable (tree : FileTree) (project : Path) (root extension : Text) : Prop where
  names : tree.WellNamed
  listable : tree.unlistable = []
  isPlace : project.IsPlace
  directory : tree.isDirectory (project.join (Path.ofText root)) = .ok true
  nonempty : extension ≠ []
  noSlash : '/' ∉ extension
  plain : GlobName.hasWildcard extension = false

/-- The files that declare a type name and can be found below a source root, each under its one name
from the project. -/
def candidates (tree : FileTree) (project : Path) (root extension name : Text) : List Text :=
  (tree.findable (rootPlace project root).parts extension name).map fun place =>
    project.nameFrom (Path.mk (rootPlace project root).anchor place).toText

/-- The source root is a directory that can be listed, and the extension is part of a name and has
no wildcards. -/
structure Searchable (tree : FileTree) (project : Path) (root extension : Text) : Prop where
  names : tree.WellNamed
  isPlace : project.IsPlace
  directory : tree.isDirectory (project.join (Path.ofText root)) = .ok true
  listed : (rootPlace project root).parts ∉ tree.unlistable
  nonempty : extension ≠ []
  noSlash : '/' ∉ extension
  plain : GlobName.hasWildcard extension = false

section Searchable

variable {tree : FileTree} {project : Path} {root extension name : Text} {place names : List Text}
  {found files rest : List (List Text)} {strategy : Strategy}
  (h : Searchable tree project root extension)

include h

theorem Searchable.anchored : (project.join (Path.ofText root)).anchor ≠ .here :=
  Path.anchor_join h.isPlace.anchored _

theorem Searchable.resolve :
    tree.resolve (project.join (Path.ofText root)) =
      .ok ((rootPlace project root).parts, .directory) ∧
      tree.HasNode (rootPlace project root).parts .directory := by
  obtain ⟨⟨place, n⟩, hresolve, hn⟩ := FileTree.resolve_of_holds h.directory
  obtain rfl : n = .directory := of_decide_eq_true hn
  obtain ⟨rfl, hnode⟩ := FileTree.walk_parts h.anchored (FileTree.walk_of_resolve hresolve)
  exact ⟨hresolve, hnode⟩

/-- The file that is indexed is known by its place, whatever way the source root is spelled. -/
theorem Searchable.indexed_eq (hnames : ∀ name ∈ names, IsFileName name) :
    indexed project (project.join (Path.ofText root)) extension names =
      (typeName extension (names.getLast?.getD []),
        project.shownFrom ⟨(rootPlace project root).anchor,
          (rootPlace project root).parts ++ names⟩) := by
  -- The root may be written with double dots, but with no other names than those in the tree.
  have hwalk := FileTree.walk_of_resolve h.resolve.1
  have hroot : ∀ name ∈ (project.join (Path.ofText root)).parts,
      Path.isName name = true ∧ '/' ∉ name ∧ '\\' ∉ name := by
    intro name hname
    rcases h.names.names_of_walk hwalk name hname with rfl | hfile
    · decide
    · exact ⟨hfile.isName, hfile.noSlash, hfile.noBackslash⟩
  have hread : ∀ name ∈ (project.join (Path.ofText root)).parts ++ names,
      Path.isName name = true ∧ '/' ∉ name ∧ '\\' ∉ name := by
    intro name hname
    rcases List.mem_append.1 hname with hname | hname
    · exact hroot name hname
    · exact ⟨(hnames name hname).isName, (hnames name hname).noSlash,
        (hnames name hname).noBackslash⟩
  have hlocate : project.locate ((rootPath project root).along names).toText =
      ⟨(rootPlace project root).anchor, (rootPlace project root).parts ++ names⟩ := by
    rw [Path.locate_toText_eq_normal, Path.along,
      Path.normal_append fun name hname => (hnames name hname).ne_parent]
    · rfl
    · exact h.anchored
    · exact fun name hname => ⟨(hread name hname).1, (hread name hname).2.1⟩
    · exact fun name hname => (hread name hname).2.2
  rw [indexed, Path.nameFrom_eq, hlocate]

theorem Searchable.candidate_isPlace {place : List Text}
    (hplace : place ∈ tree.findable (rootPlace project root).parts
    extension name) : (Path.mk (rootPlace project root).anchor place).IsPlace := by
  obtain ⟨-, hfile, -⟩ := FileTree.mem_declared.1 (List.mem_filter.1 hplace).1
  exact FileTree.IsFileAt.isPlace ⟨h.anchored, hfile⟩ h.names

theorem Searchable.nodup_candidates (name : Text) :
    (candidates tree project root extension name).Nodup := by
  refine List.Nodup.map_on (fun place hplace other hother heq => ?_)
    ((FileTree.pairwise_declared _ _ _ _).filter _).nodup
  have hplace := h.candidate_isPlace hplace
  have hother := h.candidate_isPlace hother
  rw [Path.nameFrom_eq, Path.nameFrom_eq, Path.locate_toText hplace,
    Path.locate_toText hother] at heq
  exact (Path.mk.inj (Path.shownFrom_injective hplace hother heq)).2

/-- A build that gets as far as the search ends as the additions of what is found do, or says of the
source root that it cannot be read. -/
theorem Searchable.ends_build {r : Except Failure NameIndex}
    (hrest : match tree.search (rootPath project root) (rootPlace project root).parts
        [.fitting ('*' :: extension)] with
      | .ok found => Logged.Ends (found.foldlM
          (addFound tree (rootPath project root) (rootPlace project root).parts project extension)
          { strategy }) r
      | .error e => r = .error (.configuration (.sourceRootUnreadable (rootPath project root) e))) :
    (build tree root project extension strategy.name).Ends r :=
  NameIndex.ends_build h.resolve.1 h.listed (Strategy.ofName_name strategy)
    (GlobName.ofText?_star h.nonempty h.noSlash h.plain) hrest

/-- A build that succeeds has found only what is in reach. -/
theorem Searchable.exists_found {ix : NameIndex} {strategy : Text}
    (hbuild : (build tree root project extension strategy).Gives ix) :
    ∃ found, tree.search (rootPath project root)
      (rootPlace project root).parts [.fitting ('*' :: extension)] =
      .ok found ∧ ∀ names ∈ found, ((rootPath project root).along names).IsShort := by
  obtain ⟨place, glob, found, settled, hresolve, -, -, hglob, hsearch, hshort, -⟩ :=
    build_gives hbuild
  have hplace := Except.ok.inj (h.resolve.1.symm.trans hresolve)
  rw [GlobName.ofText?_star h.nonempty h.noSlash h.plain, Option.some.injEq] at hglob
  rw [← (Prod.mk.inj hplace).1, ← hglob] at hsearch
  exact ⟨found, hsearch, hshort⟩

variable (hsearch : tree.search (project.join (Path.ofText root)) (rootPlace project root).parts
  [.fitting ('*' :: extension)] = .ok found)

include hsearch

theorem Searchable.isPlace_of_mem
    (hnames : names ∈ tree.filesAmong (rootPlace project root).parts found) :
    (Path.mk (rootPlace project root).anchor
      ((rootPlace project root).parts ++ names)).IsPlace := by
  have hfile := ((FileTree.mem_filesAmong_iff h.names h.resolve.2 h.plain hsearch).1 hnames).1
  exact FileTree.IsFileAt.isPlace ⟨h.anchored, hfile⟩ h.names

theorem Searchable.indexed_of_mem
    (hnames : names ∈ tree.filesAmong (rootPlace project root).parts found) :
    indexed project (rootPath project root) extension names =
      (typeName extension (names.getLast?.getD []),
        project.shownFrom ⟨(rootPlace project root).anchor,
          (rootPlace project root).parts ++ names⟩) :=
  h.indexed_eq fun name hname => (h.isPlace_of_mem hsearch hnames).names name
    (List.mem_append_right _ hname)

/-- The files that are added for a name are those that declare it and can be found. -/
theorem Searchable.filesOf_indexed (name : Text) :
    filesOf ((tree.filesAmong (rootPlace project root).parts found).map
      (indexed project (rootPath project root) extension)) name =
          candidates tree project root extension name := by
  unfold filesOf candidates
  rw [FileTree.findable_eq h.names h.resolve.2 h.nonempty h.plain hsearch, List.filter_map,
    List.map_map, List.map_map]
  refine List.map_congr_left fun names hnames => ?_
  have hmem := (List.mem_filter.1 hnames).1
  show (indexed project (rootPath project root) extension names).2 = _
  rw [h.indexed_of_mem hsearch hmem]
  show _ = project.nameFrom (Path.toText _)
  rw [Path.nameFrom_eq, Path.locate_toText (h.isPlace_of_mem hsearch hmem)]

theorem Searchable.nodup_indexed :
    ((tree.filesAmong (rootPlace project root).parts found).map
      (indexed project (rootPath project root) extension)).Nodup := by
  refine List.Nodup.map_on (fun names hnames others hothers heq => ?_)
    (FileTree.pairwise_filesAmong hsearch).nodup
  rw [h.indexed_of_mem hsearch hnames, h.indexed_of_mem hsearch hothers] at heq
  have hplace := Path.shownFrom_injective (h.isPlace_of_mem hsearch hnames)
    (h.isPlace_of_mem hsearch hothers)
    (Prod.mk.inj heq).2
  exact List.append_cancel_left (Path.mk.inj hplace).2

theorem Searchable.findable_eq (name : Text) :
    tree.findable (rootPlace project root).parts extension name =
      ((tree.filesAmong (rootPlace project root).parts found).filter
        (declaredName extension · = name)).map
        ((rootPlace project root).parts ++ ·) :=
  FileTree.findable_eq h.names h.resolve.2 h.nonempty h.plain hsearch name

/-- No name is repeated among the files that are found when no name has two files. -/
theorem Searchable.nodup_declaredName
    (hone : ∀ name, (candidates tree project root extension name).length ≤ 1) :
    ((tree.filesAmong (rootPlace project root).parts found).map
      (declaredName extension)).Nodup := by
  refine nodup_map_iff.2 fun name => ?_
  have hlength := hone name
  rwa [candidates, List.length_map, h.findable_eq hsearch, List.length_map] at hlength

/-! ### Additions of the files that are found, up to some place -/

variable (hfiles : tree.filesAmong (rootPlace project root).parts found = files ++ rest)

include hfiles

theorem Searchable.nodup_indexed_front :
    (files.map (indexed project (rootPath project root) extension)).Nodup := by
  have hnodup := h.nodup_indexed hsearch
  rw [hfiles, List.map_append] at hnodup
  exact (List.nodup_append'.1 hnodup).1

/-- Files are added as long as none of them is refused. -/
theorem Searchable.ends_addAll
    (hrefuse : strategy = .error → (files.map (declaredName extension)).Nodup) :
    ∃ ix, (addAll { strategy } (files.map (indexed project (rootPath project root) extension))).Ends
      (.ok ix) ∧
      ix.Records (files.map (indexed project (rootPath project root) extension)) ∧
      ix.strategy = strategy := by
  refine NameIndex.ends_addAll _ (records_empty strategy) (h.nodup_indexed_front hsearch hfiles)
    fun hstrategy => ?_
  rw [List.nil_append, List.map_map]
  exact hrefuse hstrategy

/-- The first file whose name is declared before is refused, and files for other names are second
only later. -/
theorem Searchable.ends_addAll_of_repeated
    (hrepeated : ¬(files.map (declaredName extension)).Nodup) :
    ∃ name, ∃ second ∈ files,
      (addAll { strategy := .error }
        (files.map (indexed project (rootPath project root) extension))).Ends
        (.error (.configuration
          (.nameCollision name ((candidates tree project root extension name).take 2)))) ∧
      (tree.findable (rootPlace project root).parts extension name)[1]? =
        some ((rootPlace project root).parts ++ second) ∧
      ∀ other ≠ name, ∀ later, (tree.findable (rootPlace project root).parts extension other)[1]? =
        some later →
        (rootPlace project root).parts ++ second < later := by
  let idx := indexed project (rootPath project root) extension
  have hnodup := h.nodup_indexed_front hsearch hfiles
  have hsorted := FileTree.pairwise_filesAmong hsearch
  -- The additions come to the first file whose name has been added.
  obtain ⟨before, x, after, rfl, hbefore, hx⟩ := exists_first_repetition hrepeated
  rw [hfiles, List.append_assoc, List.cons_append] at hsorted
  obtain ⟨first, hone, htwo⟩ := filter_of_first_repetition (after ++ rest) hbefore hx
  have hfindable : ∀ name, tree.findable (rootPlace project root).parts extension name =
      ((before ++ x :: (after ++ rest)).filter (declaredName extension · = name)).map
        ((rootPlace project root).parts ++ ·) := by
    intro name
    rw [h.findable_eq hsearch, hfiles, List.append_assoc, List.cons_append]
  have hkeys : (before.map idx).map (·.1) = before.map (declaredName extension) := List.map_map
  refine ⟨declaredName extension x, x, by simp, ?_, ?_, ?_⟩
  · have hfile : ∀ xs : List (List Text), filesOf (xs.map idx) (declaredName extension x) =
        (xs.filter (declaredName extension · = declaredName extension x)).map fun names =>
          (idx names).2 := by
      intro xs
      unfold filesOf
      rw [List.filter_map, List.map_map]
      rfl
    have htake : (candidates tree project root extension (declaredName extension x)).take 2 =
        filesOf (before.map idx) (declaredName extension x) ++ [(idx x).2] := by
      rw [← h.filesOf_indexed hsearch, hfiles, List.append_assoc, List.cons_append, hfile,
        hfile, hone, htwo]
      rfl
    rw [List.map_append, List.map_cons] at hnodup ⊢
    rw [htake]
    refine ends_addAll_refusal _ ?_ (by rwa [hkeys]) (by rwa [hkeys])
    exact hnodup.sublist (List.Sublist.append_left (List.singleton_sublist.2 List.mem_cons_self) _)
  · rw [hfindable, htwo]
    rfl
  · intro other hother later hsecond
    rw [hfindable, List.getElem?_map, Option.map_eq_some_iff] at hsecond
    obtain ⟨z, hz, rfl⟩ := hsecond
    obtain ⟨-, hlater, -⟩ := List.pairwise_append.1 hsorted
    exact append_lt_append_left
      ((List.pairwise_cons.1 hlater).1 z (mem_of_later_repetition hbefore hother hz))

/-- A name is repeated among the files up to some place when the second file of a name comes before
the place. -/
theorem Searchable.repeated_of_second {place second : List Text} {name : Text}
    (hrest : ∀ names ∈ rest, ¬(rootPlace project root).parts ++ names < place)
    (hsecond : (tree.findable (rootPlace project root).parts extension name)[1]? = some second)
    (hlt : second < place) : ¬(files.map (declaredName extension)).Nodup := by
  intro hnodup
  rw [h.findable_eq hsearch, hfiles, List.getElem?_map, Option.map_eq_some_iff] at hsecond
  obtain ⟨z, hz, rfl⟩ := hsecond
  rw [List.filter_append, List.getElem?_append_right (nodup_map_iff.1 hnodup name)] at hz
  exact hrest z (List.mem_of_mem_filter (List.mem_of_getElem? hz)) hlt

end Searchable

/-! ## What a build comes to -/

/-- What an index is, said by the files that declare a name: for each name, in their order. -/
structure Represents (ix : NameIndex) (strategy : Strategy) (files : Text → List Text) : Prop where
  resolve : ∀ name, ix.resolve name =
    match strategy with
    | .last => (files name).getLast?.toList
    | .first | .error => (files name).head?.toList
    | .all => files name
  sorted_names : ix.names.Pairwise (· < ·)
  mem_names : ∀ name, name ∈ ix.names ↔ files name ≠ []
  collisions : ∀ name, ix.collisions.lookup name = if 2 ≤ (files name).length then
    some (files name) else none

theorem nodup_filesOf {added : List (Text × Text)} (h : added.Nodup) (name : Text) :
    (filesOf added name).Nodup := by
  refine List.Nodup.map_on (fun file hfile other hother hpath => ?_) (h.filter _)
  have hname : file.1 = other.1 :=
    (of_decide_eq_true (List.mem_filter.1 hfile).2).trans
      (of_decide_eq_true (List.mem_filter.1 hother).2).symm
  exact Prod.ext hname hpath

theorem Records.represents {ix : NameIndex} {added : List (Text × Text)} (h : ix.Records added)
    (hadded : added.Nodup) : ix.Represents ix.strategy (filesOf added) where
  resolve name := by
    have hdistinct : distinct (filesOf added name) = filesOf added name :=
      distinct_eq_self (nodup_filesOf hadded name)
    show ix.entries.files name = _
    rw [h.entries]
    cases ix.strategy with
    | last => rfl
    | first => rfl
    | error => rfl
    | all => exact hdistinct
  sorted_names := by
    rw [names, h.nameList, sorted_eq_sortedDistinct (nodup_distinct _)]
    exact pairwise_sortedDistinct _
  mem_names name := by
    rw [names, h.nameList, sorted_eq_sortedDistinct (nodup_distinct _), mem_sortedDistinct,
      mem_distinct, filesOf_ne_nil]
  collisions := h.collisions hadded

section Indexable

variable {tree : FileTree} {project : Path} {root extension name other : Text} {strategy : Strategy}

/-- Where all directories can be listed, the source root can, and all files that declare a name can
be found. -/
theorem Indexable.searchable (h : Indexable tree project root extension) :
    Searchable tree project root extension where
  names := h.names
  isPlace := h.isPlace
  directory := h.directory
  listed := by
    rw [h.listable]
    exact List.not_mem_nil
  nonempty := h.nonempty
  noSlash := h.noSlash
  plain := h.plain

theorem Indexable.anchored (h : Indexable tree project root extension) :
    (project.join (Path.ofText root)).anchor ≠ .here := h.searchable.anchored

theorem Indexable.resolve (h : Indexable tree project root extension) :
    tree.resolve (project.join (Path.ofText root)) =
      .ok ((rootPlace project root).parts, .directory) ∧
      tree.HasNode (rootPlace project root).parts .directory := h.searchable.resolve

theorem Indexable.findable_eq_declared (h : Indexable tree project root extension) (name : Text) :
    tree.findable (rootPlace project root).parts extension name =
      tree.declared (rootPlace project root).parts extension name :=
  FileTree.findable_of_listable h.listable _ _ _

theorem Indexable.candidates_eq (h : Indexable tree project root extension) :
    candidates tree project root extension = declarations tree project root extension := by
  funext name
  rw [candidates, h.findable_eq_declared, declarations]

end Indexable

section Outcomes

variable {tree : FileTree} {project : Path} {root extension name : Text} {strategy : Strategy}
  {found front beyond : List (List Text)} {names : List Text} {ix : NameIndex}

section Found

variable (h : Searchable tree project root extension)
  (hsearch : tree.search (project.join (Path.ofText root)) (rootPlace project root).parts
    [.fitting ('*' :: extension)] = .ok found)

include h hsearch

/-- A build without refused names gives the index of the files that are found, when all that is
found is in reach. -/
theorem Searchable.ends_ok (hshort : ∀ names ∈ found, ((rootPath project root).along names).IsShort)
    (hrefuse : strategy = .error →
      ∀ name, (candidates tree project root extension name).length ≤ 1) :
    ∃ ix, (build tree root project extension strategy.name).Ends (.ok ix) ∧
      ix.Represents strategy (candidates tree project root extension) := by
  have hnodup : strategy = .error → ((tree.filesAmong (rootPlace project root).parts found).map
      (declaredName extension)).Nodup := fun hstrategy => h.nodup_declaredName hsearch
        (hrefuse hstrategy)
  obtain ⟨ix, hends, hrecords, hstrategy⟩ := h.ends_addAll hsearch (List.append_nil _).symm hnodup
  have hrepresents := hrecords.represents (h.nodup_indexed hsearch)
  rw [hstrategy, funext (h.filesOf_indexed hsearch)] at hrepresents
  refine ⟨ix, h.ends_build ?_, hrepresents⟩
  rw [hsearch]
  dsimp only
  rwa [foldlM_addFound hshort]

/-- A build ends unreported at the first thing that is found too far down, unless a file before it
is refused. -/
theorem Searchable.ends_defect (hfound : found = front ++ names :: beyond)
    (hshort : ∀ names ∈ front, ((rootPath project root).along names).IsShort)
    (hlong : ¬((rootPath project root).along names).IsShort)
    (hrefuse : strategy = .error →
      ((tree.filesAmong (rootPlace project root).parts front).map (declaredName extension)).Nodup) :
    (build tree root project extension strategy.name).Ends
      (.error (.defect
          (.access ⟨.nameTooLong, ((rootPath project root).along names).toText⟩))) := by
  have hfiles : tree.filesAmong (rootPlace project root).parts found =
      tree.filesAmong (rootPlace project root).parts front ++
        tree.filesAmong (rootPlace project root).parts (names :: beyond) := by
    rw [hfound, FileTree.filesAmong_append]
  obtain ⟨ix, hends, -⟩ := h.ends_addAll hsearch hfiles hrefuse
  refine h.ends_build ?_
  rw [hsearch, hfound]
  exact ends_foldlM_addFound_of_long hshort hlong hends

/-- A build that refuses duplicates stops at the first file whose name is declared before, when all
before it is in reach. -/
theorem Searchable.ends_collision (hfound : found = front ++ beyond)
    (hshort : ∀ names ∈ front, ((rootPath project root).along names).IsShort)
    (hrepeated : ¬((tree.filesAmong (rootPlace project root).parts front).map
      (declaredName extension)).Nodup) :
    ∃ name, ∃ second ∈ tree.filesAmong (rootPlace project root).parts front,
      (build tree root project extension Strategy.error.name).Ends
        (.error (.configuration
          (.nameCollision name ((candidates tree project root extension name).take 2)))) ∧
      (tree.findable (rootPlace project root).parts extension name)[1]? =
        some ((rootPlace project root).parts ++ second) ∧
      ∀ other ≠ name, ∀ later, (tree.findable (rootPlace project root).parts extension other)[1]? =
        some later →
        (rootPlace project root).parts ++ second < later := by
  have hfiles : tree.filesAmong (rootPlace project root).parts found =
      tree.filesAmong (rootPlace project root).parts front ++
        tree.filesAmong (rootPlace project root).parts beyond := by
    rw [hfound, FileTree.filesAmong_append]
  obtain ⟨name, second, hsecond, hends, hrest⟩ := h.ends_addAll_of_repeated hsearch hfiles hrepeated
  refine ⟨name, second, hsecond, h.ends_build ?_, hrest⟩
  rw [hsearch, hfound]
  exact ends_foldlM_addFound_of_refusal hshort hends

theorem Searchable.repeated_of_several
    (hseveral : 2 ≤ (candidates tree project root extension name).length) :
    ¬((tree.filesAmong (rootPlace project root).parts found).map
      (declaredName extension)).Nodup := by
  intro hkeys
  have hone := nodup_map_iff.1 hkeys name
  rw [candidates, List.length_map, h.findable_eq hsearch, List.length_map] at hseveral
  exact absurd hone (not_le.2 hseveral)

/-- A collision that ends a build is that of the name whose second file comes first, and tells its
first two files. -/
theorem Searchable.collision_of_build {paths : List Text}
    (hfail : (build tree root project extension Strategy.error.name).outcome.1 =
      .error (.configuration (.nameCollision name paths))) :
    2 ≤ (candidates tree project root extension name).length ∧
    paths = (candidates tree project root extension name).take 2 ∧
      ∃ second, (tree.findable (rootPlace project root).parts extension name)[1]? = some second ∧
        ∀ other ≠ name, ∀ later,
          (tree.findable (rootPlace project root).parts extension other)[1]? = some later →
          second < later := by
  -- What is in reach in front decides: either all of it is added, or a file of it is refused.
  obtain ⟨front, beyond, hfound, hshort, hrepeated⟩ : ∃ front beyond, found = front ++ beyond ∧
      (∀ names ∈ front, ((rootPath project root).along names).IsShort) ∧
      ¬((tree.filesAmong (rootPlace project root).parts front).map
        (declaredName extension)).Nodup := by
    by_cases hall : ∀ names ∈ found, ((rootPath project root).along names).IsShort
    · refine ⟨found, [], (List.append_nil _).symm, hall, fun hnodup => ?_⟩
      have hone : Strategy.error = .error →
          ∀ name, (candidates tree project root extension name).length ≤ 1 :=
        fun _ name => Nat.le_of_lt_succ
          (not_le.1 fun hseveral => h.repeated_of_several hsearch hseveral hnodup)
      obtain ⟨ix, hends, -⟩ := h.ends_ok hsearch hall hone
      exact absurd (hends.outcome.symm.trans hfail) nofun
    · push Not at hall
      obtain ⟨front, names, beyond, hfound, hshort, hlong⟩ := exists_first_not hall
      refine ⟨front, names :: beyond, hfound, hshort, fun hnodup => ?_⟩
      have hrefuse : Strategy.error = .error →
          ((tree.filesAmong (rootPlace project root).parts front).map
            (declaredName extension)).Nodup := fun _ => hnodup
      have hends := h.ends_defect hsearch hfound hshort hlong hrefuse
      exact absurd (hends.outcome.symm.trans hfail) nofun
  obtain ⟨first, second, -, hends, hsecond, hlater⟩ :=
    h.ends_collision hsearch hfound hshort hrepeated
  obtain ⟨rfl, rfl⟩ := ConfigurationError.nameCollision.inj
    (Failure.configuration.inj (Except.error.inj (hends.outcome.symm.trans hfail)))
  refine ⟨?_, rfl, _, hsecond, hlater⟩
  rw [candidates, List.length_map]
  exact List.getElem?_eq_some_iff.1 hsecond |>.1

end Found

theorem Searchable.represents_of_build (h : Searchable tree project root extension)
    (hbuild : (build tree root project extension strategy.name).outcome.1 = .ok ix) :
    ix.Represents strategy (candidates tree project root extension) := by
  obtain ⟨found, hsearch, hshort⟩ := h.exists_found (Logged.gives_of_outcome hbuild)
  by_cases hrefuse : strategy = .error →
    ∀ name, (candidates tree project root extension name).length ≤ 1
  · obtain ⟨ix', hends, hrepresents⟩ := h.ends_ok hsearch hshort hrefuse
    have hix : ix' = ix := Except.ok.inj (hends.outcome.symm.trans hbuild)
    rwa [hix] at hrepresents
  · push Not at hrefuse
    obtain ⟨rfl, name, hseveral⟩ := hrefuse
    obtain ⟨first, second, -, hends, -⟩ :=
      h.ends_collision hsearch (List.append_nil found).symm hshort
      (h.repeated_of_several hsearch hseveral)
    exact absurd (hends.outcome.symm.trans hbuild) nofun

/-- A build fails at the first directory that is too far down. -/
theorem Searchable.ends_unreadable (h : Searchable tree project root extension) {down : List Text}
    (hdirs : tree.directoriesFrom (rootPlace project root).parts = front ++ down :: beyond)
    (hshort : ∀ down ∈ front, ((rootPath project root).along down).IsShort)
    (hlong : ¬((rootPath project root).along down).IsShort) (strategy : Strategy) :
    (build tree root project extension strategy.name).Ends (.error (.configuration
      (.sourceRootUnreadable (rootPath project root)
          ⟨.nameTooLong, ((rootPath project root).along down).toText⟩))) :=
  h.ends_build (by rw [FileTree.search_fitting_of_long hdirs hshort hlong])

/-- The directories below the source root have paths that are not too long, as the source root is
spelled. -/
def DirectoriesInReach (tree : FileTree) (project : Path) (root : Text) : Prop :=
  ∀ down, tree.hasAt FileTree.isDirectoryNode ((rootPlace project root).parts ++ down) = true →
    ((rootPath project root).along down).IsShort

/-- The directories below the source root, and the files there that declare a name, have paths that
are not too long. -/
structure InReach (tree : FileTree) (project : Path) (root extension : Text) : Prop where
  directories : DirectoriesInReach tree project root
  files : ∀ name down, (rootPlace project root).parts ++ down ∈
      tree.declared (rootPlace project root).parts extension name →
        ((rootPath project root).along down).IsShort

variable (h : Indexable tree project root extension)

include h

theorem Indexable.mem_directoriesFrom {down : List Text} :
    down ∈ tree.directoriesFrom (rootPlace project root).parts ↔
      tree.hasAt FileTree.isDirectoryNode ((rootPlace project root).parts ++ down) = true := by
  rw [FileTree.mem_directoriesFrom, and_iff_left]
  rw [FileTree.isHidden_eq_false_iff, h.listable]
  exact nofun

theorem Indexable.isFile_of_not_isShort
    (hsearch : tree.search (rootPath project root)
      (rootPlace project root).parts [.fitting ('*' :: extension)] = .ok found)
    (hnames : names ∈ found) (hlong : ¬((rootPath project root).along names).IsShort) :
    ∃ name, (rootPlace project root).parts ++ names ∈ tree.declared
      (rootPlace project root).parts extension name := by
  obtain ⟨⟨n, hnode⟩, -, name, hlast⟩ :=
    (FileTree.mem_search_iff h.names h.plain hsearch).1 hnames
  have hne : names ≠ [] := by
    rintro rfl
    exact absurd hlast nofun
  refine ⟨name, FileTree.mem_declared.2 ⟨List.prefix_append _ _, ?_, ?_⟩⟩
  · cases n with
    | file content => exact FileTree.hasAt_isFileNode.2 ⟨content, hnode⟩
    | directory =>
      have hdown : names ∈ tree.directoriesFrom (rootPlace project root).parts :=
        h.mem_directoriesFrom.2 (FileTree.hasAt_iff.2 ⟨_, hnode, rfl⟩)
      exact absurd (FileTree.isShort_of_search hsearch names hdown) hlong
  · rw [List.getLast?_append_of_ne_nil _ hne, hlast]

theorem Indexable.mem_found {down : List Text}
    (hsearch : tree.search (rootPath project root)
      (rootPlace project root).parts [.fitting ('*' :: extension)] = .ok found)
    (hdown : (rootPlace project root).parts ++ down ∈ tree.declared
      (rootPlace project root).parts extension name) :
    down ∈ tree.filesAmong (rootPlace project root).parts found := by
  rw [FileTree.declared_eq h.names h.listable h.resolve.2 h.nonempty h.plain hsearch] at hdown
  obtain ⟨names, hnames, heq⟩ := List.mem_map.1 hdown
  rw [← List.append_cancel_left heq]
  exact (List.mem_filter.1 hnames).1

theorem Indexable.search_of_directories (hdirs : DirectoriesInReach tree project root) :
    ∃ found, tree.search (rootPath project root)
      (rootPlace project root).parts [.fitting ('*' :: extension)] =
      .ok found :=
  ⟨_, FileTree.search_fitting (fun down hdown => hdirs down (h.mem_directoriesFrom.1 hdown)) _⟩

/-- All that is found is in reach when the directories and the files that declare a name are. -/
theorem Indexable.found_of_inReach (hreach : InReach tree project root extension) :
    ∃ found, tree.search (rootPath project root)
      (rootPlace project root).parts [.fitting ('*' :: extension)] =
      .ok found ∧ ∀ names ∈ found, ((rootPath project root).along names).IsShort := by
  obtain ⟨found, hsearch⟩ := h.search_of_directories hreach.directories
  refine ⟨found, hsearch, fun names hnames => ?_⟩
  by_contra hlong
  obtain ⟨name, hname⟩ := h.isFile_of_not_isShort hsearch hnames hlong
  exact hlong (hreach.files name names hname)

theorem Indexable.ends_ok (hreach : InReach tree project root extension)
    (hrefuse : strategy = .error →
      ∀ name, (declarations tree project root extension name).length ≤ 1) :
    ∃ ix, (build tree root project extension strategy.name).Ends (.ok ix) ∧
      ix.Represents strategy (declarations tree project root extension) := by
  obtain ⟨found, hsearch, hshort⟩ := h.found_of_inReach hreach
  rw [← h.candidates_eq] at hrefuse ⊢
  exact h.searchable.ends_ok hsearch hshort hrefuse

/-- A directory that is too far down keeps a build from reading the source root. -/
theorem Indexable.ends_of_far_directory {down : List Text}
    (hdown : tree.hasAt FileTree.isDirectoryNode ((rootPlace project root).parts ++ down) = true)
    (hlong : ¬((rootPath project root).along down).IsShort) :
    ∃ first, tree.hasAt FileTree.isDirectoryNode ((rootPlace project root).parts ++ first) = true ∧
      ¬((rootPath project root).along first).IsShort ∧
      ∀ strategy : Strategy, (build tree root project extension strategy.name).Ends
        (.error (.configuration (.sourceRootUnreadable (rootPath project root)
          ⟨.nameTooLong, ((rootPath project root).along first).toText⟩))) := by
  obtain ⟨front, first, beyond, hdirs, hshort, hfirst⟩ :=
    exists_first_not (p := fun down => ((rootPath project root).along down).IsShort)
      ⟨down, h.mem_directoriesFrom.2 hdown, hlong⟩
  have hmem : first ∈ tree.directoriesFrom (rootPlace project root).parts := by
    rw [hdirs]
    exact List.mem_append_right _ List.mem_cons_self
  refine ⟨first, h.mem_directoriesFrom.1 hmem, hfirst, ?_⟩
  exact h.searchable.ends_unreadable hdirs hshort hfirst

/-- The first file too far down that declares a name ends a build without a report, unless a
duplicate before it is refused. -/
theorem Indexable.ends_of_far_file
    (hdirs : DirectoriesInReach tree project root) {down : List Text}
    (hdown : (rootPlace project root).parts ++ down ∈ tree.declared
      (rootPlace project root).parts extension name)
    (hlong : ¬((rootPath project root).along down).IsShort) :
    ∃ name first, (rootPlace project root).parts ++ first ∈
        tree.declared (rootPlace project root).parts extension name ∧
      ¬((rootPath project root).along first).IsShort ∧
      ∀ strategy : Strategy,
        ((strategy = .error → ∀ name second,
            (tree.declared (rootPlace project root).parts extension name)[1]? = some second →
            ¬second < (rootPlace project root).parts ++ first) →
          (build tree root project extension strategy.name).Ends
            (.error (.defect
              (.access ⟨.nameTooLong, ((rootPath project root).along first).toText⟩)))) ∧
        (strategy = .error → (∃ name second,
            (tree.declared (rootPlace project root).parts extension name)[1]? = some second ∧
            second < (rootPlace project root).parts ++ first) →
          ∃ name paths, (build tree root project extension strategy.name).Ends
            (.error (.configuration (.nameCollision name paths)))) := by
  obtain ⟨found, hsearch⟩ := h.search_of_directories hdirs
  have hsorted := FileTree.pairwise_filesAmong hsearch
  obtain ⟨front, first, beyond, rfl, hshort, hfirst⟩ :=
    exists_first_not (p := fun down => ((rootPath project root).along down).IsShort)
      ⟨down, List.mem_of_mem_filter (h.mem_found hsearch hdown), hlong⟩
  obtain ⟨owner, howner⟩ := h.isFile_of_not_isShort hsearch (by simp) hfirst
  obtain ⟨-, hleads⟩ := List.mem_filter.1 (h.mem_found hsearch howner)
  have hfiles : tree.filesAmong (rootPlace project root).parts (front ++ first :: beyond) =
      tree.filesAmong (rootPlace project root).parts front ++
        first :: tree.filesAmong (rootPlace project root).parts beyond := by
    rw [FileTree.filesAmong_append]
    exact congrArg (_ ++ ·) (List.filter_cons_of_pos hleads)
  rw [hfiles] at hsorted
  obtain ⟨-, hbeyond, hfront⟩ := List.pairwise_append.1 hsorted
  refine ⟨owner, first, howner, hfirst, fun strategy => ⟨fun hnone => ?_, ?_⟩⟩
  · refine h.searchable.ends_defect hsearch rfl hshort hfirst fun hstrategy => ?_
    by_contra hrepeated
    obtain ⟨name, second, hmem, -, hsecond, -⟩ :=
      h.searchable.ends_collision hsearch rfl hshort hrepeated
    rw [h.findable_eq_declared] at hsecond
    exact hnone hstrategy name _ hsecond
      (append_lt_append_left (hfront second hmem first List.mem_cons_self))
  · rintro rfl ⟨name, second, hsecond, hlt⟩
    rw [← h.findable_eq_declared] at hsecond
    have hlater : ∀ names ∈ first :: tree.filesAmong (rootPlace project root).parts beyond,
        ¬(rootPlace project root).parts ++ names < (rootPlace project root).parts ++ first := by
      intro names hnames hbefore
      rcases List.mem_cons.1 hnames with rfl | hnames
      · exact lt_irrefl _ hbefore
      · exact lt_asymm hbefore
          (append_lt_append_left ((List.pairwise_cons.1 hbeyond).1 names hnames))
    obtain ⟨name, second, -, hends, -⟩ := h.searchable.ends_collision hsearch rfl hshort
      (h.searchable.repeated_of_second hsearch hfiles hlater hsecond hlt)
    exact ⟨name, _, hends⟩

/-- A build that succeeds has reached everything. -/
theorem Indexable.inReach_of_build
    (hbuild : (build tree root project extension strategy.name).outcome.1 = .ok ix) :
    InReach tree project root extension := by
  obtain ⟨found, hsearch, hshort⟩ := h.searchable.exists_found (Logged.gives_of_outcome hbuild)
  refine ⟨fun down hdown => FileTree.isShort_of_search hsearch down (h.mem_directoriesFrom.2 hdown),
    fun name down hdown => hshort down ?_⟩
  exact List.mem_of_mem_filter (h.mem_found hsearch hdown)

/-- A name with two files keeps a build that refuses duplicates from giving an index. -/
theorem Indexable.ends_of_several (hreach : InReach tree project root extension)
    (hseveral : 2 ≤ (declarations tree project root extension name).length) :
    ∃ name paths, (build tree root project extension Strategy.error.name).Ends
      (.error (.configuration (.nameCollision name paths))) := by
  obtain ⟨found, hsearch, hshort⟩ := h.found_of_inReach hreach
  rw [← h.candidates_eq] at hseveral
  obtain ⟨first, second, -, hends, -⟩ :=
    h.searchable.ends_collision hsearch (List.append_nil found).symm hshort
    (h.searchable.repeated_of_several hsearch hseveral)
  exact ⟨first, _, hends⟩

/-- No directory is too far down when a collision ends a build: the search comes first. -/
theorem Indexable.directoriesInReach_of_collision {paths : List Text}
    (hfail : (build tree root project extension Strategy.error.name).outcome.1 =
      .error (.configuration (.nameCollision name paths))) :
    DirectoriesInReach tree project root := by
  intro down hdown
  by_contra hlong
  obtain ⟨first, -, -, hends⟩ := h.ends_of_far_directory hdown hlong
  exact absurd ((hends .error).outcome.symm.trans hfail) nofun

theorem Indexable.collision_of_build {paths : List Text}
    (hfail : (build tree root project extension Strategy.error.name).outcome.1 =
      .error (.configuration (.nameCollision name paths))) :
    2 ≤ (declarations tree project root extension name).length ∧
      paths = (declarations tree project root extension name).take 2 ∧
      ∃ second, (tree.declared (rootPlace project root).parts extension name)[1]? = some second ∧
        ∀ other ≠ name, ∀ later,
          (tree.declared (rootPlace project root).parts extension other)[1]? = some later →
          second < later := by
  obtain ⟨found, hsearch⟩ := h.search_of_directories (h.directoriesInReach_of_collision hfail)
  have hfacts := h.searchable.collision_of_build hsearch hfail
  simpa only [h.candidates_eq, h.findable_eq_declared] using hfacts

omit h

/-- What is not in reach is a directory, or a file that declares a name. -/
theorem exists_far_of_not_inReach (hreach : ¬InReach tree project root extension) :
    (∃ down, tree.hasAt FileTree.isDirectoryNode ((rootPlace project root).parts ++ down) = true ∧
      ¬((rootPath project root).along down).IsShort) ∨
    DirectoriesInReach tree project root ∧ ∃ name down, (rootPlace project root).parts ++ down ∈
        tree.declared (rootPlace project root).parts extension name ∧
      ¬((rootPath project root).along down).IsShort := by
  by_cases hdirs : DirectoriesInReach tree project root
  · refine Or.inr ⟨hdirs, ?_⟩
    by_contra hnone
    push Not at hnone
    exact hreach ⟨hdirs, hnone⟩
  · unfold DirectoriesInReach at hdirs
    push Not at hdirs
    exact Or.inl hdirs

/-- An index of a source root is what the files that declare a name make it, and a build that
refuses duplicates fails just when a name has two files. It fails for the name whose second file
comes first. This needs everything to be in reach. A directory that is too far down is reported as a
source root that cannot be read, and a file that is too far down ends the build without a report. -/
theorem build_represents (h : Indexable tree project root extension) :
    (∀ name, (tree.declared (rootPlace project root).parts extension name).Pairwise (· < ·) ∧
      ∀ place, place ∈ tree.declared (rootPlace project root).parts extension name ↔
        (rootPlace project root).parts <+: place ∧ tree.hasAt FileTree.isFileNode place = true ∧
          place.getLast? = some (name ++ extension)) ∧
    (InReach tree project root extension →
      (∀ strategy : Strategy,
        (strategy = .error → ∀ name, (declarations tree project root extension name).length ≤ 1) →
        ∃ ix, (build tree root project extension strategy.name).outcome.1 = .ok ix ∧
          ix.Represents strategy (declarations tree project root extension)) ∧
      ((∃ name paths, (build tree root project extension Strategy.error.name).outcome.1 =
          .error (.configuration (.nameCollision name paths))) ↔
        ∃ name, 2 ≤ (declarations tree project root extension name).length)) ∧
    (∀ name paths, (build tree root project extension Strategy.error.name).outcome.1 =
        .error (.configuration (.nameCollision name paths)) →
      paths = (declarations tree project root extension name).take 2 ∧
      ∃ second, (tree.declared (rootPlace project root).parts extension name)[1]? = some second ∧
        ∀ other ≠ name, ∀ later,
          (tree.declared (rootPlace project root).parts extension other)[1]? = some later →
          second < later) ∧
    (¬InReach tree project root extension →
      (∃ down, tree.hasAt FileTree.isDirectoryNode ((rootPlace project root).parts ++ down) = true ∧
        ¬((rootPath project root).along down).IsShort ∧
        ∀ strategy : Strategy, (build tree root project extension strategy.name).outcome.1 =
          .error (.configuration (.sourceRootUnreadable (rootPath project root)
            ⟨.nameTooLong, ((rootPath project root).along down).toText⟩))) ∨
      ∃ name down, (rootPlace project root).parts ++ down ∈
          tree.declared (rootPlace project root).parts extension name ∧
        ¬((rootPath project root).along down).IsShort ∧
        ∀ strategy : Strategy,
          ((strategy = .error → ∀ name second,
              (tree.declared (rootPlace project root).parts extension name)[1]? = some second →
              ¬second < (rootPlace project root).parts ++ down) →
            (build tree root project extension strategy.name).outcome.1 =
              .error (.defect
                (.access ⟨.nameTooLong, ((rootPath project root).along down).toText⟩))) ∧
          (strategy = .error → (∃ name second,
              (tree.declared (rootPlace project root).parts extension name)[1]? = some second ∧
              second < (rootPlace project root).parts ++ down) →
            ∃ name paths, (build tree root project extension strategy.name).outcome.1 =
              .error (.configuration (.nameCollision name paths)))) := by
  refine ⟨fun name => ⟨FileTree.pairwise_declared _ _ _ _, fun place => FileTree.mem_declared⟩,
    fun hreach => ⟨fun strategy hrefuse => ?_, ?_⟩, fun name paths hfail =>
      (h.collision_of_build hfail).2,
    fun hreach => ?_⟩
  · obtain ⟨ix, hends, hrepresents⟩ := h.ends_ok hreach hrefuse
    exact ⟨ix, hends.outcome, hrepresents⟩
  · constructor
    · rintro ⟨name, paths, hfail⟩
      exact ⟨name, (h.collision_of_build hfail).1⟩
    · rintro ⟨name, hseveral⟩
      obtain ⟨first, paths, hends⟩ := h.ends_of_several hreach hseveral
      exact ⟨first, paths, hends.outcome⟩
  · rcases exists_far_of_not_inReach hreach with ⟨down, hdown, hlong⟩ | ⟨hdirs, name, down, hdown, hlong⟩
    · obtain ⟨first, hfirst, hlong, hends⟩ := h.ends_of_far_directory hdown hlong
      exact Or.inl ⟨first, hfirst, hlong, fun strategy => (hends strategy).outcome⟩
    · obtain ⟨name, first, hfirst, hlong, hends⟩ := h.ends_of_far_file hdirs hdown hlong
      refine Or.inr ⟨name, first, hfirst, hlong, fun strategy =>
        ⟨fun hnone => ((hends strategy).1 hnone).outcome, fun hstrategy hsecond => ?_⟩⟩
      obtain ⟨name, paths, hcollides⟩ := (hends strategy).2 hstrategy hsecond
      exact ⟨name, paths, hcollides.outcome⟩

end Outcomes

/-- A tree with a hidden directory, and with a directory that is named as a source file is. -/
def nestedTree : FileTree where
  nodes := [(["p".toList], .directory), (["p".toList, "src".toList], .directory),
    (["p".toList, "src".toList, "a-b".toList], .directory),
    (["p".toList, "src".toList, "a-b".toList, "A.java".toList], .file []),
    (["p".toList, "src".toList, "a".toList], .directory),
    (["p".toList, "src".toList, "a".toList, "A.java".toList], .file []),
    (["p".toList, "src".toList, "B.java".toList], .directory),
    (["p".toList, "src".toList, "B.java".toList, "C.java".toList], .file []),
    (["p".toList, "src".toList, ".old".toList], .directory),
    (["p".toList, "src".toList, ".old".toList, "C.java".toList], .file [])]

theorem indexable_nestedTree :
    Indexable nestedTree ⟨.root, ["p".toList]⟩ "src/../src".toList ".java".toList where
  names := by decide +kernel
  listable := rfl
  isPlace := by decide
  directory := Except.eq_ok_of_toOption (by decide +kernel)
  nonempty := by decide
  noSlash := by decide
  plain := by decide

theorem inReach_nestedTree :
    InReach nestedTree ⟨.root, ["p".toList]⟩ "src/../src".toList ".java".toList := by
  obtain ⟨ix, hbuild⟩ := Except.exists_eq_ok
    (r := (build nestedTree "src/../src".toList
      ⟨.root, ["p".toList]⟩ ".java".toList Strategy.all.name).outcome.1) (by decide +kernel)
  exact indexable_nestedTree.inReach_of_build hbuild

theorem nestedTree_represents :
    Indexable nestedTree ⟨.root, ["p".toList]⟩ "src/../src".toList ".java".toList ∧
      InReach nestedTree ⟨.root, ["p".toList]⟩ "src/../src".toList ".java".toList ∧
      (∃ ix, (build nestedTree "src/../src".toList ⟨.root, ["p".toList]⟩ ".java".toList
          Strategy.last.name).outcome.1 = .ok ix ∧
        ix.resolve "A".toList = ["src/a-b/A.java".toList] ∧ ix.resolve "B".toList = [] ∧
        ix.collisions.lookup "C".toList =
          some ["src/.old/C.java".toList, "src/B.java/C.java".toList]) ∧
      ∃ name paths, (build nestedTree "src/../src".toList ⟨.root, ["p".toList]⟩ ".java".toList
        Strategy.error.name).outcome.1 = .error (.configuration (.nameCollision name paths)) := by
  obtain ⟨-, hreached, -⟩ := build_represents indexable_nestedTree
  obtain ⟨hends, hfails⟩ := hreached inReach_nestedTree
  obtain ⟨ix, hix, hrepresents⟩ := hends .last nofun
  refine ⟨indexable_nestedTree, inReach_nestedTree, ⟨ix, hix, ?_, ?_, ?_⟩,
    hfails.2 ⟨"A".toList, ?_⟩⟩
  · rw [hrepresents.resolve]
    decide +kernel
  · rw [hrepresents.resolve]
    decide +kernel
  · rw [hrepresents.collisions]
    decide +kernel
  · decide +kernel

/-- A source root with one file of a long name. -/
def longNameTree : FileTree where
  nodes := [(["p".toList], .directory), (["p".toList, "src".toList], .directory),
    (["p".toList, "src".toList, List.replicate 245 'A' ++ ".java".toList], .file [])]

/-- The source root, spelled by way of itself again and again. -/
def longRoot : Text := "src".toList ++ (List.replicate 549 "/../src".toList).flatten

/-- The one file below a source root has a name, but its path is too long as the source root is
spelled, and no index is built. -/
theorem longNameTree_not_represented :
    Indexable longNameTree ⟨.root, ["p".toList]⟩ longRoot ".java".toList ∧
      declarations longNameTree ⟨.root, ["p".toList]⟩ longRoot ".java".toList
        (List.replicate 245 'A') =
        ["src/".toList ++ List.replicate 245 'A' ++ ".java".toList] ∧
      ∀ strategy : Strategy, ¬∃ ix,
        (build longNameTree longRoot ⟨.root, ["p".toList]⟩ ".java".toList
        strategy.name).outcome.1 = .ok ix := by
  have hindexable : Indexable longNameTree ⟨.root, ["p".toList]⟩ longRoot ".java".toList := by
    constructor
    · decide +kernel
    · rfl
    · decide
    · exact Except.eq_ok_of_toOption (by decide +kernel)
    · decide
    · decide
    · decide
  refine ⟨hindexable, by decide +kernel, ?_⟩
  rintro strategy ⟨ix, hbuild⟩
  have hfar :
      ¬((rootPath ⟨.root, ["p".toList]⟩ longRoot).along [List.replicate 245 'A' ++
        ".java".toList]).IsShort := by
    decide +kernel
  exact hfar ((hindexable.inReach_of_build hbuild).files (List.replicate 245 'A') _
    (by decide +kernel))

end SourceReach.NameIndex
