import SourceReach.Proofs.Dependencies

/-!
# What a run discovers

A file is discovered as the entry (`isFileAt_of_entryPath`), through the index
(`isFileAt_of_mem_index`) or by a qualified name (`isFileAt_of_mem_edges`). Each way gives the one
name of a file in the tree, so a run lists files, each once. All but the entry lie below the source
root, unless the base package has imports start with a dot.
-/

namespace SourceReach.Finder

/-- The index was built from the tree by this finder. -/
def IsIndexOf (f : Finder) (tree : FileTree) (ix : NameIndex) : Prop :=
  (NameIndex.build tree f.source.place.toText f.project f.extension f.strategy).Gives ix

/-- The names are names that files can have, the extension is part of a name, and an index that is
known has been built from the tree as it is. -/
structure WellPosed (f : Finder) (tree : FileTree) (known : Option NameIndex) : Prop where
  names : tree.WellNamed
  project : f.project.IsPlace
  here : f.here.IsPlace
  simple : f.source.Simple
  index : ∀ ix, known = some ix → f.IsIndexOf tree ix

variable {f : Finder} {tree : FileTree} {known known' : Option NameIndex} {entry e p : Text}
  {base : Option Text}
  {depth : Option Int} {ix : NameIndex} {d : Discovery}

/-! ## The parts of a run -/

/-- A finder builds its index once, and keeps it. -/
theorem index_gives (hknown : ∀ ix, known = some ix → f.IsIndexOf tree ix)
    (h : (f.index tree).Gives known ix known') : f.IsIndexOf tree ix ∧ known' = some ix := by
  obtain ⟨index, mid, hget, hrest⟩ := h.bind
  obtain ⟨rfl, rfl⟩ := Finding.Gives.get hget
  cases mid with
  | some ix' =>
    obtain ⟨rfl, rfl⟩ := Run.gives_pure.1 hrest
    exact ⟨hknown ix' rfl, rfl⟩
  | none =>
    obtain ⟨built, mid, hbuild, hset⟩ := hrest.bind
    obtain ⟨_, last, hstate, hlast⟩ := hset.bind
    obtain ⟨rfl, rfl⟩ := Run.gives_pure.1 hlast
    exact ⟨(Finding.Gives.ofLogged hbuild).1, Finding.Gives.set hstate⟩

/-- The steps of a run that succeeds. -/
theorem find_gives (h : (f.find tree entry base depth).Gives known d known') :
    ∃ e ix, f.entryPath tree entry = .ok e ∧ f.baseFor tree e base = .ok d.base ∧
    1 ≤ depth.getD f.maxDepth ∧
      (f.index tree).Gives known ix known' ∧
      (Extractor.closure { tree, index := ix, source := f.source, base := d.base } e
        (depth.getD f.maxDepth)).Gives
        d.closure := by
  unfold find at h
  obtain ⟨e, known₁, hentry, hrest⟩ := h.bind
  obtain ⟨base', known₂, hbase, hrest⟩ := hrest.bind
  dsimp only at hrest
  split_ifs at hrest with hbound
  · obtain ⟨_, _, hthrow, -⟩ := hrest.bind
    exact absurd hthrow Run.not_gives_throw
  · obtain ⟨_, known₃, hinfo, hrest⟩ := hrest.bind
    obtain ⟨x, known₄, hx, hrest⟩ := hrest.bind
    obtain ⟨ix, known₅, hix, hx⟩ := hx.bind
    obtain ⟨c, known₆, hclosure, hlast⟩ := hrest.bind
    obtain ⟨hentry, hknown₁⟩ := Finding.Gives.ofExcept hentry
    obtain ⟨hbase, hknown₂⟩ := Finding.Gives.ofExcept hbase
    obtain ⟨hclosure, hknown₆⟩ := Finding.Gives.ofLogged hclosure
    have hknown₃ := (Finding.Gives.ofLogged hinfo).2
    rw [hknown₃, hknown₂, hknown₁] at hix
    obtain ⟨hvalue, hknown₄⟩ := Run.gives_pure.1 hx
    obtain ⟨rfl, hknown'⟩ := Run.gives_pure.1 hlast
    subst hvalue
    rw [hknown₄, ← hknown₆, hknown'] at hix
    exact ⟨e, ix, hentry, hbase, by omega, hix, hclosure⟩

theorem isFileAt_of_entryPath (hproject : f.project.IsPlace) (hhere : f.here.IsPlace)
    (h : f.entryPath tree entry = .ok e) :
    ∃ place, tree.IsFileAt place ∧ e = f.project.shownFrom place := by
  have hshown : ∀ place : Path, place.IsPlace → tree.isFile place = .ok true →
      tree.IsFileAt place ∧ f.project.nameFrom place.toText = f.project.shownFrom place := by
    intro place hplace hfile
    refine ⟨((FileTree.isFile_iff hplace).1 hfile).1, ?_⟩
    rw [Path.nameFrom_eq, Path.locate_toText hplace]
  unfold entryPath at h
  dsimp only at h
  obtain ⟨there, hthere, h⟩ := Except.bind_eq_ok.1 h
  rw [Except.expected_eq_ok] at hthere
  cases there with
  | true =>
    obtain ⟨hfile, hname⟩ := hshown _ (Path.isPlace_locate hproject entry) hthere
    exact ⟨_, hfile, by rw [← hname, Except.pure_eq_ok.1 h]⟩
  | false =>
    rw [if_neg Bool.false_ne_true] at h
    obtain ⟨there, hthere, h⟩ := Except.bind_eq_ok.1 h
    rw [Except.expected_eq_ok] at hthere
    cases there with
    | true =>
      obtain ⟨hfile, hname⟩ := hshown _ (Path.isPlace_locate hhere entry) hthere
      exact ⟨_, hfile, by rw [← hname, Except.pure_eq_ok.1 h]⟩
    | false => exact absurd h nofun

theorem isPlace_source (hproject : f.project.IsPlace) : f.source.place.IsPlace :=
  Path.isPlace_locate hproject f.root

/-- A file in the index lies below the source root. -/
theorem isFileAt_of_mem_index (h : f.WellPosed tree known) (hix : f.IsIndexOf tree ix) {name : Text}
    (hp : p ∈ ix.entries.files name) :
    ∃ place, f.source.place.IsBelow place ∧ tree.IsFileAt place ∧
    p = f.project.shownFrom place := by
  have hplace := isPlace_source h.project
  have hroot : f.project.join (Path.ofText f.source.place.toText) = f.source.place := by
    rw [Path.ofText_toText hplace.writable, Path.join_of_anchored hplace.anchored]
  have hfiles := NameIndex.mem_files_of_build h.names (by rwa [hroot]) h.simple.noSlash hix hp
  rwa [hroot] at hfiles

/-- The place of a name that an import starts with a dot. -/
def dottedPlace (f : Finder) (token : Text) : Path :=
  (Path.ofText (Text.substitute '.' '/' token ++ f.extension)).normal

/-- What is discovered besides the entry comes from the index or from an import. -/
theorem isFileAt_of_mem_edges (h : f.WellPosed tree known) (hix : f.IsIndexOf tree ix)
    {base file : Text}
    (hp : p ∈ Extractor.edges { tree, index := ix, source := f.source, base } file) :
    ∃ place, tree.IsFileAt place ∧ p = f.project.shownFrom place ∧
      (f.source.place.IsBelow place ∨ ∃ source, ∃ token ∈ Rule.importPattern.findAll source,
        Package.contains base token = true ∧ token.head? = some '.' ∧
        place = f.dottedPlace token) := by
  obtain ⟨source, found, hextract, hmem⟩ := Extractor.extract_of_mem_edges hp
  rcases (Extractor.mem_extract hextract hmem).2 with ⟨token, htoken, hbase,
    hresolve⟩ | ⟨name, hindex⟩
  · have hname := Rule.isDottedName_of_mem_findAll htoken
    obtain ⟨place, hfile, hshown, hbelow, hdotted⟩ :=
      SourceRoot.isFileAt_of_resolve h.simple (isPlace_source h.project) hname hresolve
    refine ⟨place, hfile, hshown, ?_⟩
    by_cases hhead : token.head? = some '.'
    · exact Or.inr ⟨source, token, htoken, hbase, hhead, hdotted hhead⟩
    · exact Or.inl (hbelow hhead)
  · obtain ⟨place, hbelow, hfile, hshown⟩ := isFileAt_of_mem_index h hix hindex
    exact ⟨place, hfile, hshown, Or.inl hbelow⟩

/-! ## A small project -/

/-- A finder for the sources below one directory of a project. -/
def sample : Finder :=
  { project := ⟨.root, ["p".toList]⟩, here := ⟨.root, []⟩, root := "src".toList }

/-- A file that names a second one in an import, and a third one by its simple name. -/
def sampleTree : FileTree where
  nodes := [(["p".toList], .directory), (["p".toList, "src".toList], .directory),
    (["p".toList, "src".toList, "A.java".toList],
      .file (Utf8.encode "import q.B;\nclass A extends C".toList)),
    (["p".toList, "src".toList, "q".toList], .directory),
    (["p".toList, "src".toList, "q".toList, "B.java".toList],
      .file (Utf8.encode "class B extends A".toList)),
    (["p".toList, "src".toList, "C.java".toList], .file [])]

/-- What a run from the first file finds. -/
def sampleDiscovery : Discovery where
  base := "q".toList
  closure :=
    { entry := "src/A.java".toList
      discovered := ["src/A.java".toList, "src/C.java".toList, "src/q/B.java".toList]
      depth := 2
      bound := 50
      truncated := false }

theorem wellPosed_sample : sample.WellPosed sampleTree none where
  names := by decide +kernel
  project := by decide
  here := by decide
  simple := by decide
  index := nofun

set_option maxRecDepth 10000 in
theorem find_sample :
    ((sample.find sampleTree "src/A.java".toList (some "q".toList)).outcome none).1 =
      .ok sampleDiscovery :=
  Except.eq_ok_of_toOption (by decide +kernel)

/-! ## Results of a run -/

/-- A run lists files of the tree under their one names, each once, and the entry comes first. -/
theorem find_listsFiles (h : f.WellPosed tree known)
    (hfind : ((f.find tree entry base depth).outcome known).1 = .ok d) :
    (∃ e, f.entryPath tree entry = .ok e ∧ d.closure.discovered.head? = some e) ∧
    d.closure.discovered.Nodup ∧
    ∀ p ∈ d.closure.discovered, f.project.nameFrom p = p ∧ tree.IsFileAt (f.project.locate p) ∧
      ∀ q ∈ d.closure.discovered, f.project.locate q = f.project.locate p → q = p := by
  obtain ⟨known', hgives⟩ := Finding.gives_of_outcome hfind
  obtain ⟨e, ix, hentry, -, hbound, hindex, hclosure⟩ := find_gives hgives
  have hlayers := (Extractor.closure_of_gives hclosure).2
  have hplace : ∀ p ∈ d.closure.discovered, ∃ place, tree.IsFileAt place ∧
      p = f.project.shownFrom place := by
    intro p hp
    rcases Extractor.mem_edges_of_mem_closure hclosure hp with rfl | ⟨file, hedge⟩
    · exact isFileAt_of_entryPath h.project h.here hentry
    · obtain ⟨place, hfile, hshown, -⟩ :=
        isFileAt_of_mem_edges h (index_gives h.index hindex).1 hedge
      exact ⟨place, hfile, hshown⟩
  refine ⟨⟨e, hentry, ?_⟩, ?_, fun p hp => ?_⟩
  · rw [hlayers]
    exact head?_layersBelow _ e (by omega)
  · rw [hlayers]
    exact nodup_layersBelow _ _ _
  · obtain ⟨place, hfile, rfl⟩ := hplace p hp
    have hisPlace := hfile.isPlace h.names
    refine ⟨Path.nameFrom_shownFrom hisPlace, by rwa [Path.locate_shownFrom hisPlace],
      fun q hq heq => ?_⟩
    obtain ⟨other, hother, rfl⟩ := hplace q hq
    rw [Path.locate_shownFrom hisPlace, Path.locate_shownFrom (hother.isPlace h.names)] at heq
    rw [heq]

theorem sample_listsFiles :
    sample.WellPosed sampleTree none ∧ sampleDiscovery.closure.discovered.Nodup ∧
      ∀ p ∈ sampleDiscovery.closure.discovered, sampleTree.IsFileAt (sample.project.locate p) :=
  have h := find_listsFiles wellPosed_sample find_sample
  ⟨wellPosed_sample, h.2.1, fun p hp => (h.2.2 p hp).2.1⟩

/-- All that is discovered besides the entry lies below the source root, unless the base package has
its names start with a dot; then an import may lead anywhere. Just these names have their file
elsewhere. -/
theorem find_staysBelow (h : f.WellPosed tree known)
    (hfind : ((f.find tree entry base depth).outcome known).1 = .ok d) :
    (∀ p ∈ d.closure.discovered, p ≠ d.closure.entry → f.source.place.IsBelow (f.project.locate p) ∨
      Package.LeadsDot d.base ∧ ∃ source, ∃ token ∈ Rule.importPattern.findAll source,
        Package.contains d.base token = true ∧ f.project.locate p = f.dottedPlace token) ∧
    ∀ base source, ∀ token ∈ Rule.importPattern.findAll source, Package.contains base token = true →
      (¬Package.LeadsDot base → f.source.place.IsBelow (f.source.candidate token)) ∧
      (f.source.candidate token = f.source.fileBelow token ↔
        ¬Package.LeadsDot base ∨ f.source.place = ⟨(f.source.candidate token).anchor, []⟩) := by
  obtain ⟨known', hgives⟩ := Finding.gives_of_outcome hfind
  obtain ⟨e, ix, -, -, -, hindex, hclosure⟩ := find_gives hgives
  have hentry := (Extractor.closure_of_gives hclosure).1
  refine ⟨fun p hp hne => ?_, fun base source token htoken hbase => ?_⟩
  · obtain ⟨file, hedge⟩ := (Extractor.mem_edges_of_mem_closure hclosure hp).resolve_left
      (hentry ▸ hne)
    obtain ⟨place, hfile, rfl, hwhere⟩ :=
      isFileAt_of_mem_edges h (index_gives h.index hindex).1 hedge
    rw [Path.locate_shownFrom (hfile.isPlace h.names)]
    rcases hwhere with hbelow | ⟨source, token, htoken, hbase, hhead, hplace⟩
    · exact Or.inl hbelow
    · have hname := Rule.isDottedName_of_mem_findAll htoken
      exact Or.inr ⟨(Package.leadsDot_iff hname.ne_nil hbase).2 hhead, source, token, htoken,
        hbase, hplace⟩
  · have hname := Rule.isDottedName_of_mem_findAll htoken
    rw [Package.leadsDot_iff hname.ne_nil hbase]
    refine ⟨fun hhead => ?_, SourceRoot.candidate_eq_fileBelow_iff hname⟩
    obtain ⟨hne, hcandidate⟩ := SourceRoot.candidate_of_head_ne_dot (s := f.source) hname hhead
    rw [hcandidate]
    exact ⟨_, hne, rfl⟩

theorem sample_staysBelow :
    sample.source.place.IsBelow (sample.project.locate "src/q/B.java".toList) ∧
      sample.source.place.IsBelow (sample.source.candidate "q.B".toList) := by
  obtain ⟨hfound, hcandidate⟩ := find_staysBelow wellPosed_sample find_sample
  constructor
  · exact (hfound _ (by decide) (by decide)).resolve_right fun h => absurd h.1 (by decide)
  · exact (hcandidate "q".toList "import q.B;".toList "q.B".toList (by decide +kernel)
      (by decide)).1 (by decide)

/-- A file that imports a name which starts with a dot, and a file that an anchored path leads
to. -/
def strayTree : FileTree where
  nodes := [(["p".toList], .directory), (["p".toList, "src".toList], .directory),
    (["p".toList, "src".toList, "A.java".toList],
      .file (Utf8.encode "package .q;\nimport .q.B;".toList)),
    (["q".toList], .directory), (["q".toList, "B.java".toList], .file [])]

/-- What a run from the first file finds. -/
def strayDiscovery : Discovery where
  base := ".q".toList
  closure :=
    { entry := "src/A.java".toList
      discovered := ["src/A.java".toList, "/q/B.java".toList]
      depth := 2
      bound := 50
      truncated := false }

set_option maxRecDepth 10000 in
/-- A base package that starts with a dot leads out of the source root. -/
theorem stray_leavesSource :
    sample.WellPosed strayTree none ∧
      ((sample.find strayTree "src/A.java".toList).outcome none).1 = .ok strayDiscovery ∧
      "/q/B.java".toList ∈ strayDiscovery.closure.discovered ∧
      ¬sample.source.place.IsBelow (sample.project.locate "/q/B.java".toList) ∧
      ".q.B".toList ∈ Rule.importPattern.findAll "import .q.B;".toList ∧
      Package.contains ".q".toList ".q.B".toList = true ∧
      sample.source.candidate ".q.B".toList ≠ sample.source.fileBelow ".q.B".toList :=
  ⟨⟨by decide +kernel, by decide, by decide, by decide, nofun⟩,
    Except.eq_ok_of_toOption (by decide +kernel), by decide, by decide, by decide +kernel,
    by decide, by decide⟩

end SourceReach.Finder
