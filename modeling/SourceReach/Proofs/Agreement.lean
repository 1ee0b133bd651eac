import SourceReach.Proofs.Building
import SourceReach.Proofs.Candidate

/-!
# Where the source root and its index agree

A qualified name is joined to the source root once double dots are out of it, and the index walks
down from the root as it is written. Both give a file one name, so what a qualified name resolves to
is what the index has for its last segment (`resolve_agrees`). There is one exception: with a dot
for extension, a name that ends in a dot resolves to a file without the extension
(`trailingDot_disagrees`).
-/

namespace SourceReach

/-- What follows the last dot of a qualified name. -/
def Package.lastSegment (name : Text) : Text := (Text.pieces '.' name).getLast?.getD []

namespace Path

/-- The last segment with the extension is a name, unless it is a single dot. -/
theorem isName_append_extension {extension : Text} (hne : extension ≠ []) (segment : Text) :
    isName (segment ++ extension) = true ↔ ¬(extension = ['.'] ∧ segment = []) := by
  have hnil : segment ++ extension ≠ [] := List.append_ne_nil_of_right_ne_nil _ hne
  have hdot : segment ++ extension = ['.'] ↔ extension = ['.'] ∧ segment = [] := by
    constructor
    · intro h
      rcases List.append_eq_singleton_iff.1 h with ⟨hsegment, hextension⟩ | ⟨-, hextension⟩
      · exact ⟨hextension, hsegment⟩
      · exact absurd hextension hne
    · rintro ⟨rfl, rfl⟩
      rfl
  unfold isName
  rw [Bool.and_eq_true, decide_eq_true_iff, decide_eq_true_iff, and_iff_right hnil, ← hdot]

end Path

namespace SourceRoot

variable {s : SourceRoot} {tree : FileTree} {name : Text}

/-- The segments of a name are the names that lead to its file; the last one has the extension. -/
theorem namesOf_eq (hs : s.Simple) (hname : '/' ∉ name) :
    ∃ front, Text.pieces '.' name = front ++ [Package.lastSegment name] ∧
      s.namesOf name = (front ++ [Package.lastSegment name ++ s.extension]).filter Path.isName := by
  obtain ⟨front, last, hpieces, happend⟩ :=
    Text.pieces_append hs.noSlash (Text.substitute '.' '/' name)
  rw [Text.pieces_substitute hname] at hpieces
  have hlast : Package.lastSegment name = last := by
    unfold Package.lastSegment
    rw [hpieces, List.getLast?_concat, Option.getD_some]
  refine ⟨front, by rw [hlast, hpieces], ?_⟩
  show (Text.pieces '/' (Text.substitute '.' '/' name ++ s.extension)).filter Path.isName = _
  rw [happend, hlast]

theorem getLast?_namesOf (hs : s.Simple) (hname : '/' ∉ name) :
    (s.namesOf name).getLast? = some (Package.lastSegment name ++ s.extension) ↔
      Path.isName (Package.lastSegment name ++ s.extension) = true := by
  obtain ⟨front, -, hnames⟩ := namesOf_eq hs hname
  rw [hnames]
  constructor
  · intro hlast
    exact (List.mem_filter.1 (List.mem_of_getLast? hlast)).2
  · intro hlast
    rw [List.filter_append, List.filter_cons_of_pos hlast, List.filter_nil, List.getLast?_concat]

section Segments

variable {dirs : List Text} {stem : Text} (hdirs : ∀ dir ∈ dirs, Package.IsSegment dir)
  (hstem : Package.IsSegment stem)

include hdirs hstem

theorem isSegment_of_mem : ∀ segment ∈ dirs ++ [stem], Package.IsSegment segment := by
  intro segment hsegment
  rcases List.mem_append.1 hsegment with hdir | hlast
  · exact hdirs segment hdir
  · rwa [List.mem_singleton.1 hlast]

theorem slash_notMem_joined : '/' ∉ Text.joined ['.'] (dirs ++ [stem]) := by
  intro hmem
  rcases Text.mem_joined hmem with hdot | ⟨segment, hsegment, hc⟩
  · exact absurd hdot (by decide)
  · exact (isSegment_of_mem hdirs hstem segment hsegment).notMem (by decide) hc

theorem head?_joined_ne_dot : (Text.joined ['.'] (dirs ++ [stem])).head? ≠ some '.' := by
  obtain ⟨first, rest, hsegments⟩ := List.exists_cons_of_ne_nil (List.concat_ne_nil stem dirs)
  have hfirst : Package.IsSegment first :=
    isSegment_of_mem hdirs hstem first (by rw [hsegments]; exact List.mem_cons_self)
  rw [hsegments, Text.head?_joined hfirst.ne_nil]
  exact fun hhead => hfirst.notMem (by decide) (List.mem_of_head? hhead)

theorem namesOf_joined (hs : s.Simple) (hne : s.extension ≠ []) :
    s.namesOf (Text.joined ['.'] (dirs ++ [stem])) = dirs ++ [stem ++ s.extension] := by
  have hsegments := isSegment_of_mem hdirs hstem
  obtain ⟨front, hpieces, hnames⟩ := namesOf_eq hs (slash_notMem_joined hdirs hstem)
  rw [Text.pieces_joined (List.concat_ne_nil stem dirs) fun t ht => (hsegments t ht).notMem
    (by decide)] at hpieces
  obtain ⟨hfront, hlast⟩ := List.append_inj' hpieces rfl
  rw [hnames, ← List.singleton_inj.1 hlast, ← hfront, List.filter_eq_self.2 fun part hpart => ?_]
  rcases List.mem_append.1 hpart with hdir | hpart
  · have hdot : '.' ∉ part := (hdirs part hdir).notMem (by decide)
    have hne : part ≠ ['.'] := fun heq => hdot (by rw [heq]; exact List.mem_cons_self)
    simp [Path.isName, (hdirs part hdir).ne_nil, hne]
  · rw [List.mem_singleton.1 hpart, Path.isName_append_extension hne]
    exact fun h => hstem.ne_nil h.2

end Segments

/-- A name without slashes that does not start with a dot has its file below the source root, the
empty name too. -/
theorem candidate_eq_fileBelow (hs : s.Simple) (hname : '/' ∉ name)
    (hhead : name.head? ≠ some '.') :
    s.candidate name = s.fileBelow name := by
  refine Path.join_of_here ?_
  have hslash : (Text.substitute '.' '/' name ++ s.extension).head? ≠ some '/' := by
    intro h
    cases name with
    | nil => exact hs.noSlash (List.mem_of_head? h)
    | cons c rest =>
      have hdot : c ≠ '.' := fun hc => hhead (congrArg some hc)
      have hc : c = '/' := by simpa [Text.substitute, hdot] using h
      exact hname (hc ▸ List.mem_cons_self)
  exact Path.anchor_ofText_append .here hslash

theorem resolve_of_isFile (h : tree.isFile (s.candidate name) = .ok true) :
    s.resolve tree name = .ok (some (s.project.nameFrom (s.candidate name).toText)) := by
  unfold resolve
  dsimp only
  rw [h]
  rfl

end SourceRoot

namespace NameIndex

/-- The index has the path for a type name: a lookup gives it, or it is among the files of a
collision. -/
def Recorded (ix : NameIndex) (name path : Text) : Prop :=
  path ∈ ix.resolve name ∨ ∃ paths, ix.collisions.lookup name = some paths ∧ path ∈ paths

section Indexable

variable {tree : FileTree} {project : Path} {root extension name path : Text} {strategy : Strategy}
  {ix : NameIndex}

/-- Whatever the strategy is, an index has all files that declare a name. -/
theorem Represents.recorded_iff {files : Text → List Text} (h : ix.Represents strategy files) :
    ix.Recorded name path ↔ path ∈ files name := by
  have hcollisions := h.collisions name
  constructor
  · rintro (hlookup | ⟨paths, hpaths, hpath⟩)
    · rw [h.resolve] at hlookup
      cases strategy with
      | last => exact List.mem_of_getLast? (Option.mem_toList.1 hlookup)
      | first => exact List.mem_of_head? (Option.mem_toList.1 hlookup)
      | error => exact List.mem_of_head? (Option.mem_toList.1 hlookup)
      | all => exact hlookup
    · rw [hpaths] at hcollisions
      split_ifs at hcollisions
      rwa [Option.some.inj hcollisions] at hpath
  · intro hpath
    by_cases hseveral : 2 ≤ (files name).length
    · rw [if_pos hseveral] at hcollisions
      exact Or.inr ⟨files name, hcollisions, hpath⟩
    · -- A name with one file has it in every lookup.
      have hone : files name = [path] := by
        obtain ⟨only, hlist⟩ := List.length_eq_one_iff.1
          (Nat.le_antisymm (Nat.le_of_lt_succ (not_le.1 hseveral)) (List.length_pos_of_mem hpath))
        rw [hlist, List.mem_singleton] at hpath
        rw [hlist, hpath]
      refine Or.inl ?_
      rw [h.resolve, hone]
      cases strategy <;> exact List.mem_cons_self

variable (h : Indexable tree project root extension)

include h

/-- A build that succeeds gives an index of the files that declare a name. -/
theorem Indexable.represents_of_build
    (hbuild : (build tree root project extension strategy.name).outcome.1 = .ok ix) :
    ix.Represents strategy (declarations tree project root extension) := by
  rw [← h.candidates_eq]
  exact h.searchable.represents_of_build hbuild

/-- The root is written without backslashes, because there are none in the names of the tree. -/
theorem Indexable.noBackslash_root : '\\' ∉ root := by
  intro hmem
  obtain ⟨piece, hpiece, hback⟩ : ∃ piece ∈ Text.pieces '/' root, '\\' ∈ piece :=
    Text.exists_mem_pieces hmem (by decide)
  have hname : Path.isName piece = true := by
    have hnil : piece ≠ [] := List.ne_nil_of_mem hback
    have hdot : piece ≠ ['.'] := fun hdot => absurd (hdot ▸ hback) (by decide)
    simp [Path.isName, hnil, hdot]
  have hpart : piece ∈ (project.join (Path.ofText root)).parts := by
    have hroot : piece ∈ (Path.ofText root).parts := List.mem_filter.2 ⟨hpiece, hname⟩
    by_cases hanchor : (Path.ofText root).anchor = .here
    · rw [Path.join_of_here hanchor]
      exact List.mem_append_right _ hroot
    · rwa [Path.join_of_anchored hanchor]
  rcases h.names.names_of_walk
    (FileTree.walk_of_resolve h.resolve.1) piece hpart with hparent | hfile
  · exact absurd (hparent ▸ hback) (by decide)
  · exact hfile.noBackslash hback

theorem Indexable.place_eq :
    (SourceRoot.ofText project root extension).place = rootPlace project root := by
  show (project.join (Path.ofText (Path.forward root))).normal = _
  rw [Path.forward, Text.substitute_eq_self h.noBackslash_root]
  rfl

theorem Indexable.mem_declarations :
    path ∈ declarations tree project root extension name ↔
      ∃ names,
        tree.IsFileAt ⟨(rootPlace project root).anchor, (rootPlace project root).parts ++ names⟩ ∧
        names.getLast? = some (name ++ extension) ∧
        path = project.shownFrom ⟨(rootPlace project root).anchor,
          (rootPlace project root).parts ++ names⟩ := by
  have hshown : ∀ {place}, tree.IsFileAt ⟨(rootPlace project root).anchor, place⟩ →
      project.nameFrom (Path.mk (rootPlace project root).anchor place).toText =
        project.shownFrom ⟨(rootPlace project root).anchor, place⟩ := by
    intro place hfile
    rw [Path.nameFrom_eq, Path.locate_toText (hfile.isPlace h.names)]
  have hlast : ∀ {names}, tree.hasAt FileTree.isFileNode ((rootPlace project root).parts ++ names) =
    true →
      ((rootPlace project root).parts ++ names).getLast? = names.getLast? := by
    intro names hfile
    refine List.getLast?_append_of_ne_nil _ ?_
    rintro rfl
    obtain ⟨content, hnode⟩ := FileTree.hasAt_isFileNode.1 hfile
    rw [List.append_nil] at hnode
    exact absurd (Option.some.inj (hnode.listed.symm.trans h.resolve.2.listed)) nofun
  rw [declarations, List.mem_map]
  constructor
  · rintro ⟨place, hplace, rfl⟩
    obtain ⟨⟨names, rfl⟩, hfile, hname⟩ := FileTree.mem_declared.1 hplace
    have hat :
        tree.IsFileAt ⟨(rootPlace project root).anchor, (rootPlace project root).parts ++ names⟩ :=
      ⟨h.anchored, hfile⟩
    exact ⟨names, hat, (hlast hfile).symm.trans hname, hshown hat⟩
  · rintro ⟨names, hat, hname, rfl⟩
    refine ⟨_, FileTree.mem_declared.2 ⟨List.prefix_append _ _, hat.hasAt, ?_⟩, hshown hat⟩
    exact (hlast hat.hasAt).trans hname

theorem Indexable.simple (hback : '\\' ∉ extension) :
    (SourceRoot.ofText project root extension).Simple :=
  ⟨h.noSlash, hback⟩

/-- What a name resolves to below the source root is a file that is known by the names of its
segments. -/
theorem Indexable.resolve_eq (hback : '\\' ∉ extension)
    (hcandidate : (SourceRoot.ofText project root extension).candidate name =
      (SourceRoot.ofText project root extension).fileBelow name)
    (hresolve : (SourceRoot.ofText project root extension).resolve tree name = .ok (some path)) :
    tree.IsFileAt ((SourceRoot.ofText project root extension).fileBelow name) ∧
      path = project.shownFrom ((SourceRoot.ofText project root extension).fileBelow name) := by
  have hplace : (SourceRoot.ofText project root extension).place.IsPlace :=
    Path.isPlace_locate h.isPlace root
  obtain ⟨hisFile, rfl⟩ := SourceRoot.resolve_eq_some hresolve
  have hanchor := Path.anchor_join hplace.anchored
    (Path.ofText
      (Text.substitute '.' '/' name ++ (SourceRoot.ofText project root extension).extension))
  have hfile := FileTree.isFileAt_of_isFile hanchor hisFile
  have hnormal := SourceRoot.normal_candidate (h.simple hback) hplace hcandidate hisFile
  change tree.IsFileAt ((SourceRoot.ofText project root extension).candidate name).normal at hfile
  rw [hnormal, hcandidate] at hfile
  refine ⟨hfile, ?_⟩
  rw [hcandidate, Path.nameFrom_eq, Path.locate_toText (hfile.isPlace h.names)]
  rfl

/-- A file below the source root is recorded under its own name only, and with one path. -/
theorem Indexable.recorded_unique {names : List Text} {stem other : Text}
    (hix : ix.Represents strategy (declarations tree project root extension))
    (hrecorded : ix.Recorded name other)
    (hplace : project.locate other =
      ⟨(rootPlace project root).anchor, (rootPlace project root).parts ++
        (names ++ [stem ++ extension])⟩) :
    name = stem ∧ other = project.shownFrom
      ⟨(rootPlace project root).anchor, (rootPlace project root).parts ++
          (names ++ [stem ++ extension])⟩ := by
  obtain ⟨down, hfile, hlast, rfl⟩ := h.mem_declarations.1 (hix.recorded_iff.1 hrecorded)
  rw [Path.locate_shownFrom (hfile.isPlace h.names), Path.mk.injEq] at hplace
  obtain rfl : down = names ++ [stem ++ extension] := List.append_cancel_left hplace.2
  rw [List.getLast?_concat, Option.some.injEq] at hlast
  exact ⟨(List.append_cancel_right hlast).symm, rfl⟩

/-- Resolution and index name a file below the source root by one path. A file in directories that
are segments is what its dotted name resolves to, and the path is the only one that an index records
for it, whatever the strategy is. A name that does not start with a dot resolves to a file that an
index with all files has for the last segment, but for names that end in a dot when the extension is
a dot. -/
theorem resolve_agrees (hback : '\\' ∉ extension) :
    let source := SourceRoot.ofText project root extension
    (∀ dirs stem, (∀ dir ∈ dirs, Package.IsSegment dir) → Package.IsSegment stem →
      tree.isFile ⟨source.place.anchor, source.place.parts ++ (dirs ++ [stem ++ extension])⟩ =
        .ok true →
      ∃ path, source.resolve tree (Text.joined ['.'] (dirs ++ [stem])) = .ok (some path) ∧
        ∀ strategy : Strategy, ∀ ix, (build tree root project extension strategy.name).outcome.1 =
          .ok ix →
          ix.Recorded stem path ∧
          ∀ name other, ix.Recorded name other →
            project.locate other =
              ⟨source.place.anchor, source.place.parts ++ (dirs ++ [stem ++ extension])⟩ →
            name = stem ∧ other = path) ∧
    ∀ name path, (∀ c ∈ name, Rule.isNameChar c = true) → name.head? ≠ some '.' →
      source.resolve tree name = .ok (some path) →
      ∀ ix, (build tree root project extension Strategy.all.name).outcome.1 = .ok ix →
        (path ∈ ix.resolve (Package.lastSegment name) ↔
          ¬(extension = ['.'] ∧ Package.lastSegment name = [])) := by
  intro source
  have hs : source.Simple := h.simple hback
  have hplace : source.place = rootPlace project root := h.place_eq
  constructor
  · intro dirs stem hdirs hstem hfile
    have hcandidate := SourceRoot.candidate_eq_fileBelow hs
      (SourceRoot.slash_notMem_joined hdirs hstem)
      (SourceRoot.head?_joined_ne_dot hdirs hstem)
    have hbelow : source.fileBelow (Text.joined ['.'] (dirs ++ [stem])) =
        ⟨source.place.anchor, source.place.parts ++ (dirs ++ [stem ++ extension])⟩ := by
      rw [SourceRoot.fileBelow, SourceRoot.namesOf_joined hdirs hstem hs h.nonempty]
      rfl
    rw [← hbelow, ← hcandidate] at hfile
    have hresolve := SourceRoot.resolve_of_isFile hfile
    obtain ⟨hat, hpath⟩ := h.resolve_eq hback hcandidate hresolve
    change tree.IsFileAt (source.fileBelow _) at hat
    change _ = project.shownFrom (source.fileBelow _) at hpath
    rw [hbelow, hplace] at hat hpath
    refine ⟨_, hresolve, fun strategy ix hbuild => ⟨?_, fun name other hrecorded hother => ?_⟩⟩
    · have hdeclared := h.mem_declarations.2 ⟨_, hat, List.getLast?_concat, hpath⟩
      exact (h.represents_of_build hbuild).recorded_iff.2 hdeclared
    · rw [hpath]
      exact h.recorded_unique (h.represents_of_build hbuild) hrecorded (hplace ▸ hother)
  · intro name path hchars hhead hresolve ix hbuild
    have hslash : '/' ∉ name := fun hmem => absurd (hchars _ hmem) (by decide)
    obtain ⟨hat, hpath⟩ := h.resolve_eq hback
      (SourceRoot.candidate_eq_fileBelow hs hslash hhead) hresolve
    rw [(h.represents_of_build hbuild).resolve, h.mem_declarations,
      ← Path.isName_append_extension h.nonempty]
    show _ ↔ Path.isName (Package.lastSegment name ++ source.extension) = true
    rw [← SourceRoot.getLast?_namesOf hs hslash]
    change tree.IsFileAt ⟨source.place.anchor, source.place.parts ++ source.namesOf name⟩ at hat
    change path = project.shownFrom ⟨source.place.anchor, source.place.parts ++
      source.namesOf name⟩ at hpath
    rw [hplace] at hat hpath
    constructor
    · rintro ⟨names, hfile, hlast, hshown⟩
      -- One path is one place, so the file in the index is the one that the name resolves to.
      have hsame := Path.shownFrom_injective (hfile.isPlace h.names) (hat.isPlace h.names)
        (hshown.symm.trans hpath)
      have hnames : names = source.namesOf name := List.append_cancel_left (Path.mk.inj hsame).2
      rwa [← hnames]
    · intro hlast
      exact ⟨source.namesOf name, hat, hlast, hpath⟩

end Indexable

/-- The source root is spelled with double dots, and the file that its dotted name resolves to is
hidden behind no other file of its name. -/
theorem nestedTree_agrees :
    let source := SourceRoot.ofText ⟨.root, ["p".toList]⟩ "src/../src".toList ".java".toList
    '\\' ∉ ".java".toList ∧
      Indexable nestedTree ⟨.root, ["p".toList]⟩ "src/../src".toList ".java".toList ∧
      ∃ path, source.resolve nestedTree "a.A".toList = .ok (some path) ∧
        (∀ strategy : Strategy, ∀ ix,
          (build nestedTree "src/../src".toList
            ⟨.root, ["p".toList]⟩ ".java".toList strategy.name).outcome.1 = .ok ix →
              ix.Recorded "A".toList path) ∧
        ∃ ix, (build nestedTree "src/../src".toList ⟨.root, ["p".toList]⟩ ".java".toList
          Strategy.all.name).outcome.1 = .ok ix ∧ path ∈ ix.resolve "A".toList := by
  intro source
  have hback : '\\' ∉ ".java".toList := by decide
  obtain ⟨hfiles, hnames⟩ := resolve_agrees indexable_nestedTree hback
  obtain ⟨path, hresolve, hrecorded⟩ := hfiles ["a".toList] "A".toList (by decide) (by decide)
    (Except.eq_ok_of_toOption (by decide +kernel))
  have hlookup := hnames "a.A".toList path (List.all_eq_true.1 (by decide)) (by decide) hresolve
  have hrefuse : Strategy.all = .error →
      ∀ name, (declarations nestedTree ⟨.root, ["p".toList]⟩ "src/../src".toList ".java".toList
        name).length ≤ 1 := nofun
  obtain ⟨ix, hends, -⟩ := indexable_nestedTree.ends_ok inReach_nestedTree hrefuse
  exact ⟨hback, indexable_nestedTree, path, hresolve, fun strategy ix hbuild =>
    (hrecorded strategy ix hbuild).1, ix, hends.outcome, (hlookup ix hends.outcome).2 (by decide)⟩

/-- A source root with two files, one of which has the dot for its extension. -/
def dottedTree : FileTree where
  nodes := [(["p".toList], .directory), (["p".toList, "src".toList], .directory),
    (["p".toList, "src".toList, "a".toList], .file []),
      (["p".toList, "src".toList, "E.".toList], .file [])]

/-- With a dot for extension, a name that ends in a dot resolves to a file without the extension,
and the index does not have that file. -/
theorem trailingDot_disagrees :
    Indexable dottedTree ⟨.root, ["p".toList]⟩ "src".toList ".".toList ∧
      (SourceRoot.ofText ⟨.root, ["p".toList]⟩ "src".toList ".".toList).resolve
        dottedTree "a.".toList =
        .ok (some "src/a".toList) ∧
      ∃ ix, (build dottedTree "src".toList
        ⟨.root, ["p".toList]⟩ ".".toList Strategy.all.name).outcome.1 = .ok ix ∧
        "src/a".toList ∉ ix.resolve (Package.lastSegment "a.".toList) := by
  have hindexable : Indexable dottedTree ⟨.root, ["p".toList]⟩ "src".toList ".".toList := by
    constructor
    · decide +kernel
    · rfl
    · decide
    · exact Except.eq_ok_of_toOption (by decide +kernel)
    · decide
    · decide
    · decide
  obtain ⟨ix, hbuild⟩ := Except.exists_eq_ok
    (r := (build dottedTree "src".toList
      ⟨.root, ["p".toList]⟩ ".".toList Strategy.all.name).outcome.1) (by decide +kernel)
  refine ⟨hindexable, Except.eq_ok_of_toOption (by decide +kernel), ix, hbuild, ?_⟩
  rw [(hindexable.represents_of_build hbuild).resolve]
  decide +kernel

end NameIndex

end SourceReach
