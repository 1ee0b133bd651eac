import SourceReach.Proofs.Discovery

/-!
# The file that an entry means

An entry has two readings, from the project root and from the current directory, and the first that
is a file is taken. The name that comes out is read from the project root alone
(`Finder.entryPath_shownFrom`), so reading it again gives the same file, also when the first reading
of the entry was no file (`Finder.entryPath_stable`). A reading that the system refuses to look at
ends the question: `FileTree.isFile_cases` says when.
-/

namespace SourceReach

namespace FileTree

/-- No name in the tree has a null character. -/
def NullFree (t : FileTree) : Prop := ∀ entry ∈ t.nodes, ∀ name ∈ entry.1, '\x00' ∉ name

instance (t : FileTree) : Decidable t.NullFree :=
  inferInstanceAs (Decidable (∀ entry ∈ t.nodes, ∀ name ∈ entry.1, '\x00' ∉ name))

/-- The path is too long as a whole, or there is a directory in which its next name would be too
long. -/
structure TooLong (t : FileTree) (p : Path) : Prop where
  noNull : '\x00' ∉ p.toText
  tooLong : pathLimit ≤ Utf8.size p.toText ∨
    ∃ base name rest, p.parts = base ++ name :: rest ∧ t.HasNode base .directory ∧
    nameLimit < Utf8.size name

variable {t : FileTree} {p : Path} {place names : List Text} {name : Text}

/-- A walk starts at a directory, and goes down to a name unless it is too long. -/
theorem walk_cons_eq_nameTooLong (hname : name ≠ parentName) :
    t.walk place (name :: names) = .error .nameTooLong ↔ t.entry? place = some .directory ∧
      (nameLimit < Utf8.size name ∨
        Utf8.size name ≤ nameLimit ∧ t.walk (place ++ [name]) names = .error .nameTooLong) := by
  rw [walk]
  cases h : t.entry? place with
  | none => simp
  | some n =>
    cases n with
    | file content => simp
    | directory =>
      by_cases hsize : nameLimit < Utf8.size name
      · simp [hname, hsize]
      · simp [hname, hsize, Nat.le_of_not_lt hsize]

theorem walk_eq_nameTooLong (h : ∀ name ∈ names, name ≠ parentName) :
    t.walk place names = .error .nameTooLong ↔ ∃ base name rest, names = base ++ name :: rest ∧
      t.walk place base = .ok (place ++ base, .directory) ∧ nameLimit < Utf8.size name := by
  induction names generalizing place with
  | nil =>
    refine iff_of_false ?_ fun ⟨_, _, _, hnil, _⟩ => absurd hnil (by simp)
    rw [walk]
    cases t.entry? place <;> simp
  | cons first names ih =>
    obtain ⟨hfirst, hnames⟩ := List.forall_mem_cons.1 h
    rw [walk_cons_eq_nameTooLong hfirst, ih hnames]
    constructor
    · rintro ⟨hdir, hsize | ⟨hsize, base, name, rest, rfl, hwalk, hlong⟩⟩
      · exact ⟨[], first, names, rfl, walk_nil_eq_ok.2 ⟨List.append_nil _, hdir⟩, hsize⟩
      · refine ⟨first :: base, name, rest, rfl,
          walk_cons_eq_ok.2 ⟨hdir, Or.inr ⟨hfirst, hsize, ?_⟩⟩, hlong⟩
        rwa [List.append_cons place first base]
    · rintro ⟨base, name, rest, heq, hwalk, hlong⟩
      rcases List.cons_eq_append_iff.1 heq with ⟨rfl, hcons⟩ | ⟨base, rfl, rfl⟩
      · obtain ⟨rfl, rfl⟩ := List.cons.inj hcons
        exact ⟨(walk_nil_eq_ok.1 hwalk).2, Or.inl hlong⟩
      · obtain ⟨hdir, ⟨hparent, -⟩ | ⟨-, hsize, hdown⟩⟩ := walk_cons_eq_ok.1 hwalk
        · exact absurd hparent hfirst
        · rw [List.append_cons place first base] at hdown
          exact ⟨hdir, Or.inr ⟨hsize, base, name, rest, rfl, hdown, hlong⟩⟩

theorem resolve_eq_nameTooLong (hp : p.IsPlace) : t.resolve p = .error .nameTooLong ↔
    t.TooLong p := by
  have hwalk : t.walk [] p.parts = .error .nameTooLong ↔ _ :=
    walk_eq_nameTooLong fun name hname => (hp.names name hname).ne_parent
  unfold resolve
  split_ifs with hnull hsize
  · exact iff_of_false nofun fun h => h.noNull (List.contains_iff_mem.1 hnull)
  · exact iff_of_true rfl ⟨fun h => hnull (List.contains_iff_mem.2 h), Or.inl hsize⟩
  · rw [hwalk]
    constructor
    · exact fun h => ⟨fun hmem => hnull (List.contains_iff_mem.2 hmem), Or.inr h⟩
    · exact fun h => h.tooLong.resolve_left hsize

theorem IsFileAt.noNull (h : t.IsFileAt p) (ht : t.NullFree) : '\x00' ∉ p.toText := by
  obtain ⟨content, hnode⟩ := hasAt_isFileNode.1 h.hasAt
  exact Path.notMem_toText (by decide) (by decide) fun name hname =>
    ht _ (hnode.mem_nodes (List.ne_nil_of_mem hname)) name hname

/-- The three answers to the question whether a place is that of a file. -/
theorem isFile_cases (hp : p.IsPlace) (ht : t.NullFree) :
    (t.isFile p = .ok true ∧ t.IsFileAt p ∧ ¬t.TooLong p) ∨
      (t.isFile p = .ok false ∧ ¬t.IsFileAt p ∧ ¬t.TooLong p) ∨
      (t.isFile p = .error ⟨.nameTooLong, p.toText⟩ ∧ t.TooLong p) := by
  have hlong := resolve_eq_nameTooLong (t := t) hp
  by_cases h : t.TooLong p
  · refine Or.inr (Or.inr ⟨?_, h⟩)
    rw [isFile, holds, hlong.2 h]
  · have hfile : t.isFile p = .ok true ↔ t.IsFileAt p := by
      rw [isFile_iff hp]
      refine and_iff_left_of_imp fun hat => ?_
      have hnull := hat.noNull ht
      exact ⟨Bool.eq_false_iff.2 fun hc => hnull (List.contains_iff_mem.1 hc),
        Nat.lt_of_not_le fun hsize => h ⟨hnull, Or.inl hsize⟩⟩
    by_cases hat : t.IsFileAt p
    · exact Or.inl ⟨hfile.2 hat, hat, h⟩
    · refine Or.inr (Or.inl ⟨?_, hat, h⟩)
      rw [← hfile, isFile, holds] at hat
      rw [← hlong] at h
      rw [isFile, holds]
      split
      · next heq =>
        rw [heq] at hat
        simpa using hat
      · next heq => exact absurd heq h
      · rfl

theorem isFile_of_not_tooLong (hp : p.IsPlace) (ht : t.NullFree) (hat : t.IsFileAt p)
    (h : ¬t.TooLong p) :
    t.isFile p = .ok true := by
  rcases isFile_cases hp ht with ⟨htrue, -⟩ | ⟨-, hno, -⟩ | ⟨-, hlong⟩
  · exact htrue
  · exact absurd hat hno
  · exact absurd hlong h

end FileTree

namespace Finder

/-- The system refuses to look at the first reading of an entry, or at the second one after the
first was no file. -/
def Refused (f : Finder) (tree : FileTree) (entry : Text) : Prop :=
  tree.TooLong (f.project.locate entry) ∨
    ¬tree.IsFileAt (f.project.locate entry) ∧ tree.TooLong (f.here.locate entry)

variable {f : Finder} {tree : FileTree} {entry other n : Text} {place : Path}

/-! ## The two readings of an entry -/

theorem entryPath_eq (f : Finder) (tree : FileTree) (entry : Text) :
    f.entryPath tree entry =
      (Except.expected (tree.isFile (f.project.locate entry))).bind fun isFile =>
      if isFile then .ok (f.project.nameFrom (f.project.locate entry).toText)
      else (Except.expected (tree.isFile (f.here.locate entry))).bind fun isFile =>
        if isFile then .ok (f.project.nameFrom (f.here.locate entry).toText)
        else .error (.configuration (.entryMissing (f.project.locate entry))) := rfl

/-- All that reading an entry can come to. -/
theorem entryPath_cases (hproject : f.project.IsPlace) (hhere : f.here.IsPlace)
    (hnames : tree.NullFree)
    (entry : Text) :
    (tree.IsFileAt (f.project.locate entry) ∧ ¬f.Refused tree entry ∧
      f.entryPath tree entry = .ok (f.project.nameFrom (f.project.locate entry).toText)) ∨
    (¬tree.IsFileAt (f.project.locate entry) ∧ tree.IsFileAt (f.here.locate entry) ∧
      ¬f.Refused tree entry ∧ f.entryPath tree entry =
        .ok (f.project.nameFrom (f.here.locate entry).toText)) ∨
    (¬tree.IsFileAt (f.project.locate entry) ∧ ¬tree.IsFileAt (f.here.locate entry) ∧
      ¬f.Refused tree entry ∧ f.entryPath tree entry =
        .error (.configuration (.entryMissing (f.project.locate entry)))) ∨
    (f.Refused tree entry ∧ ∃ d, f.entryPath tree entry = .error (.defect d)) := by
  rw [entryPath_eq]
  rcases FileTree.isFile_cases (Path.isPlace_locate hproject entry) hnames with
    ⟨hask, hfirst, hshort⟩ | ⟨hask, hfirst, hshort⟩ | ⟨hask, hlong⟩ <;> rw [hask]
  · exact Or.inl ⟨hfirst, fun h => h.elim hshort fun h => h.1 hfirst, rfl⟩
  · rcases FileTree.isFile_cases (Path.isPlace_locate hhere entry) hnames with
      ⟨hask, hsecond, hshort'⟩ | ⟨hask, hsecond, hshort'⟩ | ⟨hask, hlong⟩ <;> rw [hask]
    · exact Or.inr (Or.inl ⟨hfirst, hsecond, fun h => h.elim hshort fun h => hshort' h.2, rfl⟩)
    · exact Or.inr
        (Or.inr (Or.inl ⟨hfirst, hsecond, fun h => h.elim hshort fun h => hshort' h.2, rfl⟩))
    · exact Or.inr (Or.inr (Or.inr ⟨Or.inr ⟨hfirst, hlong⟩, _, rfl⟩))
  · exact Or.inr (Or.inr (Or.inr ⟨Or.inl hlong, _, rfl⟩))

/-- Unless a reading is refused, an entry means the first of its readings that is a file, and is
missing when none is. The message names the first reading. -/
theorem entryPath_first (hproject : f.project.IsPlace) (hhere : f.here.IsPlace)
    (hnames : tree.NullFree)
    (h : ¬f.Refused tree entry) :
    ((∃ e, f.entryPath tree entry = .error (.configuration e)) ↔
      ¬tree.IsFileAt (f.project.locate entry) ∧ ¬tree.IsFileAt (f.here.locate entry)) ∧
    (∀ e, f.entryPath tree entry = .error (.configuration e) →
      e.message = "Entry file not found: ".toList ++ (f.project.locate entry).toText) ∧
    (tree.IsFileAt (f.project.locate entry) →
      f.entryPath tree entry = .ok (f.project.nameFrom (f.project.locate entry).toText)) ∧
    (¬tree.IsFileAt (f.project.locate entry) → tree.IsFileAt (f.here.locate entry) →
      f.entryPath tree entry = .ok (f.project.nameFrom (f.here.locate entry).toText)) := by
  rcases entryPath_cases hproject hhere hnames entry with
    ⟨hfirst, -, hread⟩ | ⟨hfirst, hsecond, -, hread⟩ | ⟨hfirst, hsecond, -, hread⟩ | ⟨hrefused, -⟩
  · rw [hread]
    exact ⟨iff_of_false nofun fun h => h.1 hfirst, nofun, fun _ => rfl, fun h => absurd hfirst h⟩
  · rw [hread]
    exact ⟨iff_of_false nofun fun h => h.2 hsecond, nofun, fun h => absurd h hfirst, fun _ _ => rfl⟩
  · rw [hread]
    refine ⟨iff_of_true ⟨_, rfl⟩ ⟨hfirst, hsecond⟩, ?_, fun h => absurd h hfirst,
      fun _ h => absurd h hsecond⟩
    rintro e he
    cases he
    rfl
  · exact absurd hrefused h

theorem entryPath_defect_iff (hproject : f.project.IsPlace) (hhere : f.here.IsPlace)
    (hnames : tree.NullFree) :
    (∃ d, f.entryPath tree entry = .error (.defect d)) ↔ f.Refused tree entry := by
  rcases entryPath_cases hproject hhere hnames entry with
    ⟨-, h, hread⟩ | ⟨-, -, h, hread⟩ | ⟨-, -, h, hread⟩ | ⟨h, hread⟩
  · exact iff_of_false (by simp [hread]) h
  · exact iff_of_false (by simp [hread]) h
  · exact iff_of_false (by simp [hread]) h
  · exact iff_of_true hread h

/-! ## Reading an entry again -/

/-- A name that comes out is that of a file, of the second reading just when the first is none. -/
theorem exists_of_entryPath (hproject : f.project.IsPlace) (hhere : f.here.IsPlace)
    (hnames : tree.NullFree)
    (h : f.entryPath tree entry = .ok n) :
    ∃ place : Path, place.IsPlace ∧ tree.isFile place = .ok true ∧ n = f.project.shownFrom place ∧
      (tree.IsFileAt (f.project.locate entry) → place = f.project.locate entry) ∧
      (¬tree.IsFileAt (f.project.locate entry) → place = f.here.locate entry) := by
  have hfirst := Path.isPlace_locate hproject entry
  have hsecond := Path.isPlace_locate hhere entry
  rcases entryPath_cases hproject hhere hnames entry with
    ⟨hat, hread, heq⟩ | ⟨hno, hat, hread, heq⟩ | ⟨-, -, -, heq⟩ | ⟨-, d, heq⟩
  · rw [heq, Except.ok.injEq, Path.nameFrom_eq, Path.locate_toText hfirst] at h
    exact ⟨_, hfirst, FileTree.isFile_of_not_tooLong hfirst hnames hat fun hlong =>
      hread (Or.inl hlong), h.symm, fun _ => rfl, fun h => absurd hat h⟩
  · rw [heq, Except.ok.injEq, Path.nameFrom_eq, Path.locate_toText hsecond] at h
    exact ⟨_, hsecond, FileTree.isFile_of_not_tooLong hsecond hnames hat fun hlong =>
      hread (Or.inr ⟨hno, hlong⟩), h.symm, fun h => absurd h hno, fun _ => rfl⟩
  · exact absurd (heq.symm.trans h) nofun
  · exact absurd (heq.symm.trans h) nofun

/-- The name of a file is read as that file. -/
theorem entryPath_shownFrom (hplace : place.IsPlace) (h : tree.isFile place = .ok true) :
    f.entryPath tree (f.project.shownFrom place) = .ok (f.project.shownFrom place) := by
  rw [entryPath_eq, Path.locate_shownFrom hplace, h, Path.nameFrom_eq, Path.locate_toText hplace]
  rfl

/-- A question asks for the file that an entry means, and not for its spelling. -/
theorem find_congr (h : f.entryPath tree entry = f.entryPath tree other) (base : Option Text)
    (depth : Option Int) : f.find tree entry base depth = f.find tree other base depth := by
  unfold find
  rw [h]

theorem explain_congr (h : f.entryPath tree entry = f.entryPath tree other) (base : Option Text) :
    f.explain tree entry base = f.explain tree other base := by
  unfold explain
  rw [h]

/-! ## Results about entries -/

/-- The first reading of an entry that is a file is taken, unless a reading is refused. The name
that comes out is read from the project root as the same file again, so a question about the name is
the question about the entry. -/
theorem entryPath_stable (hproject : f.project.IsPlace) (hhere : f.here.IsPlace)
    (hnames : tree.NullFree)
    (entry : Text) :
    let first := f.project.locate entry
    let second := f.here.locate entry
    (¬f.Refused tree entry →
      ((∃ e, f.entryPath tree entry = .error (.configuration e)) ↔ ¬tree.IsFileAt first ∧
        ¬tree.IsFileAt second) ∧
      (∀ e, f.entryPath tree entry = .error (.configuration e) →
        e.message = "Entry file not found: ".toList ++ first.toText) ∧
      (tree.IsFileAt first → f.entryPath tree entry = .ok (f.project.nameFrom first.toText)) ∧
      (¬tree.IsFileAt first → tree.IsFileAt second →
        f.entryPath tree entry = .ok (f.project.nameFrom second.toText))) ∧
    ((∃ d, f.entryPath tree entry = .error (.defect d)) ↔ f.Refused tree entry) ∧
    ∀ n, f.entryPath tree entry = .ok n →
      (tree.IsFileAt first → f.project.locate n = first) ∧
      (¬tree.IsFileAt first → f.project.locate n = second) ∧
      tree.IsFileAt (f.project.locate n) ∧ f.entryPath tree n = .ok n ∧
      (∀ base depth, f.find tree entry base depth = f.find tree n base depth) ∧
      ∀ base, f.explain tree entry base = f.explain tree n base := by
  refine ⟨entryPath_first hproject hhere hnames, entryPath_defect_iff hproject hhere hnames,
    fun n hn => ?_⟩
  obtain ⟨place, hplace, hfile, rfl, hfirst, hsecond⟩ :=
    exists_of_entryPath hproject hhere hnames hn
  have hagain := entryPath_shownFrom (f := f) hplace hfile
  have hsame := hn.trans hagain.symm
  rw [Path.locate_shownFrom hplace]
  exact ⟨hfirst, hsecond, ((FileTree.isFile_iff hplace).1 hfile).1, hagain, find_congr hsame,
    explain_congr hsame⟩

/-- The finder of the small project, asked from a directory of the project. -/
def insideSample : Finder := { sample with here := ⟨.root, ["p".toList, "q".toList]⟩ }

/-- A file, and another one that has the same name from the current directory as the first one from
the project root. -/
def insideTree : FileTree where
  nodes := [(["p".toList], .directory), (["p".toList, "q".toList], .directory),
    (["p".toList, "q".toList, "A.java".toList], .file []),
      (["p".toList, "q".toList, "q".toList], .directory),
    (["p".toList, "q".toList, "q".toList, "A.java".toList], .file [])]

theorem entryPath_inside :
    insideSample.entryPath insideTree "A.java".toList = .ok "q/A.java".toList :=
  Except.eq_ok_of_toOption (by decide +kernel)

/-- The name leads to the file of the entry, and not to the one that the current directory has under
it. -/
theorem inside_stable :
    insideSample.project.IsPlace ∧ insideSample.here.IsPlace ∧ insideTree.NullFree ∧
      insideSample.entryPath insideTree "q/A.java".toList = .ok "q/A.java".toList ∧
      insideSample.project.locate "q/A.java".toList = insideSample.here.locate "A.java".toList ∧
      insideTree.IsFileAt (insideSample.here.locate "q/A.java".toList) ∧
      insideSample.here.locate "q/A.java".toList ≠ insideSample.here.locate "A.java".toList := by
  have hproject : insideSample.project.IsPlace := by decide
  have hhere : insideSample.here.IsPlace := by decide
  have hnames : insideTree.NullFree := by decide
  obtain ⟨-, hsecond, -, hagain, -⟩ :=
    (entryPath_stable hproject hhere hnames "A.java".toList).2.2 _ entryPath_inside
  have hfirst : ¬insideTree.IsFileAt (insideSample.project.locate "A.java".toList) :=
    fun h => absurd h.hasAt (by decide +kernel)
  exact ⟨hproject, hhere, hnames, hagain, hsecond hfirst, ⟨by decide, by decide +kernel⟩, by decide⟩

/-- An entry with a name that no file can have is a defect, and no missing entry. -/
theorem longEntry_defect :
    let entry : Text := List.replicate 256 'a'
    ¬sampleTree.IsFileAt (sample.project.locate entry) ∧
      ¬sampleTree.IsFileAt (sample.here.locate entry) ∧
      ∃ d, sample.entryPath sampleTree entry = .error (.defect d) := by
  intro entry
  refine ⟨fun h => absurd h.hasAt (by decide +kernel),
    fun h => absurd h.hasAt (by decide +kernel), ?_⟩
  have hproject : sample.project.IsPlace := by decide
  rw [entryPath_defect_iff hproject (by decide) (by decide)]
  exact Or.inl ((FileTree.resolve_eq_nameTooLong (Path.isPlace_locate hproject _)).1
    (by decide +kernel))

end Finder

end SourceReach
