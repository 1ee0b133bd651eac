import SourceReach.Proofs.Ending
import SourceReach.Proofs.Listing

/-!
# What is in an index

Adding a file changes the files of its own name only, and adds no other file (`mem_files_add`). An
index that is built from a tree has nothing but files of the tree below the source root, each under
its one name from the project (`mem_files_of_build`).
-/

namespace SourceReach

namespace FilesByName

theorem files_cons (m : FilesByName) (name other : Text) (paths : List Text) :
    files ((name, paths) :: m) other = if other = name then paths else m.files other := by
  unfold files
  by_cases h : other = name
  · rw [if_pos h, List.lookup_cons, beq_iff_eq.2 h]
    rfl
  · rw [if_neg h, List.lookup_cons, beq_eq_false_iff_ne.2 h]

theorem files_set (m : FilesByName) (name other : Text) (paths : List Text) :
    (m.set name paths).files other = if other = name then paths else m.files other := by
  induction m with
  | nil => exact files_cons [] name other paths
  | cons entry m ih =>
    rcases entry with ⟨n, ps⟩
    rw [set]
    split_ifs with hn h h
    · rw [files_cons, if_pos (h.trans hn.symm)]
    · rw [files_cons, files_cons, if_neg fun h' => h (h'.trans hn), if_neg fun h' =>
        h (h'.trans hn)]
    · rw [files_cons, if_neg fun h' => hn (h'.symm.trans h), ih, if_pos h]
    · rw [files_cons, files_cons, ih, if_neg h]

end FilesByName

namespace NameIndex

variable {ix ix' : NameIndex} {name other p path : Text}

theorem mem_settled (h : p ∈ ix.settled name path) : p = path ∨ p ∈ ix.entries.files name := by
  unfold settled at h
  split at h
  · exact Or.inl (List.mem_singleton.1 h)
  · rcases List.mem_append.1 h with h | h
    · exact Or.inr h
    · exact Or.inl (List.mem_singleton.1 h)
  · exact Or.inr h
  · exact Or.inr h

theorem mem_files_add (h : p ∈ (ix.add name path).1.entries.files other) :
    p = path ∨ p ∈ ix.entries.files other := by
  unfold add at h
  dsimp only at h
  split_ifs at h with hnew hknown
  · rw [FilesByName.files_set] at h
    split_ifs at h with hname
    · exact Or.inl (List.mem_singleton.1 h)
    · exact Or.inr h
  · exact Or.inr h
  · rw [FilesByName.files_set] at h
    split_ifs at h with hname
    · rw [hname]
      exact mem_settled h
    · exact Or.inr h

/-- A file means files of the name only, wherever it is. -/
theorem mem_files_of_mem_resolve {referrer : Option Text} (h : p ∈ ix.resolve name referrer) :
    p ∈ ix.entries.files name := by
  unfold resolve at h
  cases referrer with
  | none => exact h
  | some file =>
    dsimp only at h
    split at h
    · next sibling hsibling =>
      split_ifs at h
      · exact List.mem_of_mem_filter (hsibling ▸ h)
      · exact h
    · exact h

/-! ## Building -/

theorem eq_add_of_addLogged (h : (ix.addLogged name path).Gives ix') :
    ix' = (ix.add name path).1 := by
  unfold addLogged at h
  dsimp only at h
  split at h
  · obtain ⟨_, _, -, hrest⟩ := h.bind
    split at hrest
    · exact absurd hrest Logged.not_gives_fail
    · exact (Run.gives_pure.1 hrest).1.symm
  · split at h
    · exact absurd h Logged.not_gives_fail
    · exact (Run.gives_pure.1 h).1.symm

/-- Adds files with their names, one after the other. -/
def addAll (ix : NameIndex) (files : List (Text × Text)) : Logged NameIndex :=
  files.foldlM (fun ix file => ix.addLogged file.1 file.2) ix

theorem addAll_cons (ix : NameIndex) (file : Text × Text) (files : List (Text × Text)) :
    ix.addAll (file :: files) = ix.addLogged file.1 file.2 >>= fun ix => ix.addAll files :=
      List.foldlM_cons

theorem addAll_append (ix : NameIndex) (files rest : List (Text × Text)) :
    ix.addAll (files ++ rest) = ix.addAll files >>= fun ix => ix.addAll rest := List.foldlM_append

theorem mem_files_of_addAll {files : List (Text × Text)} {strategy : Strategy}
    (h : (addAll { strategy } files).Gives ix) (hp : p ∈ ix.entries.files name) :
    ∃ file ∈ files, file.2 = p := by
  refine Run.Gives.foldlM (motive := fun ix => ∀ name, ∀ p ∈ ix.entries.files name,
    ∃ file ∈ files, file.2 = p)
    (fun ix hix file hfile _ ix' _ hadd other p hp => ?_) (fun _ _ hp => ?_) h name p hp
  · rw [eq_add_of_addLogged hadd] at hp
    rcases mem_files_add hp with rfl | hp
    · exact ⟨file, hfile, rfl⟩
    · exact hix other p hp
  · exact absurd hp List.not_mem_nil

section Found

variable {tree : FileTree} {root project : Path} {place names : List Text} {extension : Text}
  {found : List (List Text)}

/-- What is found is added if it is a file, as long as its path is not too long. -/
theorem addFound_of_isShort (h : (root.along names).IsShort) (ix : NameIndex) :
    addFound tree root place project extension ix names =
      if tree.leadsToFile place names then
        ix.addLogged (indexed project root extension names).1
          (indexed project root extension names).2
      else pure ix := by
  rw [addFound, FileTree.isFoundFile, FileTree.checkLength_of_isShort h]
  show (pure (tree.leadsToFile place names) >>= _) = _
  rw [pure_bind]

theorem ends_addFound_of_not_isShort (h : ¬(root.along names).IsShort) (ix : NameIndex) :
    (addFound tree root place project extension ix names).Ends
      (.error (.defect (.access ⟨.nameTooLong, (root.along names).toText⟩))) := by
  rw [addFound, FileTree.isFoundFile, FileTree.checkLength_of_not_isShort h]
  exact (Logged.ends_ofExcept _).bind_error

theorem isShort_of_addFound (h : (addFound tree root place project extension ix names).Gives ix') :
    (root.along names).IsShort := by
  obtain ⟨there, _, hthere, -⟩ := h.bind
  have hfound := Except.expected_eq_ok.1 (Logged.gives_ofExcept.1 hthere)
  rw [FileTree.isFoundFile, Except.bind_eq_ok] at hfound
  obtain ⟨_, hcheck, -⟩ := hfound
  by_contra hlong
  exact absurd ((FileTree.checkLength_of_not_isShort hlong).symm.trans hcheck) nofun

/-- The files among what is found are added, as long as no path is too long. -/
theorem foldlM_addFound (h : ∀ names ∈ found, (root.along names).IsShort) (ix : NameIndex) :
    found.foldlM (addFound tree root place project extension) ix =
      ix.addAll ((tree.filesAmong place found).map (indexed project root extension)) := by
  induction found generalizing ix with
  | nil => rfl
  | cons names found ih =>
    obtain ⟨hnames, hfound⟩ := List.forall_mem_cons.1 h
    rw [List.foldlM_cons, addFound_of_isShort hnames, FileTree.filesAmong]
    by_cases hfile : tree.leadsToFile place names = true
    · rw [if_pos hfile, List.filter_cons_of_pos hfile, List.map_cons, addAll_cons]
      exact bind_congr fun ix => ih hfound ix
    · rw [if_neg hfile, List.filter_cons_of_neg hfile, pure_bind]
      exact ih hfound ix

theorem isShort_of_foldlM
    (h : Logged.Gives (found.foldlM (addFound tree root place project extension) ix) ix') :
    ∀ names ∈ found, (root.along names).IsShort := by
  induction found generalizing ix with
  | nil => exact nofun
  | cons names found ih =>
    rw [List.foldlM_cons] at h
    obtain ⟨next, _, hnext, hrest⟩ := h.bind
    exact List.forall_mem_cons.2 ⟨isShort_of_addFound hnext, ih hrest⟩

end Found

/-- What a source root is, when an index of it has been built, and which files have been added. -/
theorem build_gives {tree : FileTree} {root extension strategy : Text} {project : Path}
    (h : (build tree root project extension strategy).Gives ix) :
    ∃ place glob found settled,
      tree.resolve (project.join (Path.ofText root)) = .ok (place, .directory) ∧
      place ∉ tree.unlistable ∧
      Strategy.ofName strategy = .ok settled ∧ GlobName.ofText? ('*' :: extension) = some glob ∧
      tree.search (project.join (Path.ofText root)) place glob = .ok found ∧
      (∀ names ∈ found, ((project.join (Path.ofText root)).along names).IsShort) ∧
      (addAll { strategy := settled } ((tree.filesAmong place found).map
        (indexed project (project.join (Path.ofText root)) extension))).Gives ix := by
  unfold build at h
  dsimp only at h
  obtain ⟨isDir, _, hdir, h⟩ := h.bind
  cases isDir with
  | false =>
    obtain ⟨_, _, hfail, -⟩ := h.bind
    exact absurd hfail Logged.not_gives_fail
  | true =>
    rw [if_pos rfl] at h
    have hdir := Except.expected_eq_ok.1 (Logged.gives_ofExcept.1 hdir)
    obtain ⟨⟨place, n⟩, hresolve, hn⟩ := FileTree.resolve_of_holds hdir
    obtain rfl : n = .directory := of_decide_eq_true hn
    obtain ⟨settled, _, hsettled, h⟩ := h.bind
    have hsettled := Logged.gives_ofExcept.1 hsettled
    rw [hresolve] at h
    split_ifs at h with hlisted
    · obtain ⟨_, _, hfail, -⟩ := h.bind
      exact absurd hfail Logged.not_gives_fail
    · split at h
      · exact absurd h Run.not_gives_throw
      · next glob hglob =>
        split at h
        · next found hfound =>
          obtain ⟨found', _, hpure, h⟩ := h.bind
          obtain rfl := (Run.gives_pure.1 hpure).1
          obtain ⟨built, _, hbuilt, h⟩ := h.bind
          obtain ⟨_, _, -, h⟩ := h.bind
          obtain rfl := (Run.gives_pure.1 h).1
          have hshort := isShort_of_foldlM hbuilt
          rw [foldlM_addFound hshort] at hbuilt
          exact ⟨place, glob, found, settled, hresolve, hlisted, hsettled, hglob, hfound,
            hshort, hbuilt⟩
        · obtain ⟨_, _, hfail, -⟩ := h.bind
          exact absurd hfail Logged.not_gives_fail

/-- The files in an index that is built from a tree are files of the tree below the source root. -/
theorem mem_files_of_build {tree : FileTree} {root extension strategy : Text} {project : Path}
    (ht : tree.WellNamed) (hroot : (project.join (Path.ofText root)).IsPlace)
    (hslash : '/' ∉ extension)
    (h : (build tree root project extension strategy).Gives ix) (hp : p ∈ ix.entries.files name) :
    ∃ place, (project.join (Path.ofText root)).IsBelow place ∧ tree.IsFileAt place ∧
      p = project.shownFrom place := by
  obtain ⟨stop, glob, found, settled, hresolve, -, -, hglob, hsearch, -, hfold⟩ := build_gives h
  obtain ⟨hstop, hdir⟩ := FileTree.walk_parts hroot.anchored (FileTree.walk_of_resolve hresolve)
  rw [hroot.normal_eq] at hstop
  subst hstop
  have hup := GlobName.exactly_notMem_ofText? hslash hglob parentName
  obtain ⟨file, hfile, rfl⟩ := mem_files_of_addAll hfold hp
  obtain ⟨names, hnames, rfl⟩ := List.mem_map.1 hfile
  obtain ⟨hat, hne⟩ := FileTree.hasAt_of_mem_search ht hup hdir hsearch hnames
  have hfile : tree.IsFileAt ((project.join (Path.ofText root)).along names) :=
    ⟨hroot.anchored, hat⟩
  refine ⟨(project.join (Path.ofText root)).along names, ⟨names, hne, rfl⟩, hfile, ?_⟩
  rw [indexed, Path.nameFrom_eq, Path.locate_toText (hfile.isPlace ht)]

end NameIndex

end SourceReach
