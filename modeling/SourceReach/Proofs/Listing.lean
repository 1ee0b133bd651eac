import SourceReach.Proofs.Outcome
import SourceReach.Proofs.Sorted
import SourceReach.Proofs.Walk

/-!
# What a listing finds

As long as a glob does not ask for the directory above, the places that it leads to lie below the
one it starts from (`below_of_mem_select`), so the files that a search gives lie there as well
(`hasAt_of_mem_search`).
-/

namespace SourceReach

namespace GlobName

variable {extension : Text} {glob : List GlobName}

theorem ne_exactly_of_hasWildcard {piece name : Text} {g : GlobName}
    (hwild : hasWildcard piece = true)
    (h : ofPiece? piece = some g) : g ≠ exactly name := by
  unfold ofPiece? at h
  split_ifs at h
  · rw [← Option.some.inj h]
    exact nofun
  · rw [← Option.some.inj h]
    exact nofun

/-- The glob of an extension has one piece, and the star in front makes it a wildcard. -/
theorem exactly_notMem_ofText? (hslash : '/' ∉ extension)
    (h : ofText? ('*' :: extension) = some glob)
    (name : Text) : exactly name ∉ glob := by
  have hglob : '/' ∉ '*' :: extension := by simpa using hslash
  have hpieces : (Text.pieces '/' ('*' :: extension)).filter Path.isName = ['*' :: extension] := by
    rw [Text.pieces_eq_singleton hglob]
    simp [Path.isName]
  have hlast : ('*' :: extension).getLast? ≠ some '/' :=
    fun hlast => hglob (List.mem_of_getLast? hlast)
  rw [ofText?, hpieces, if_neg hlast, List.mapM_cons, List.mapM_nil] at h
  cases hg : ofPiece? ('*' :: extension) with
  | none =>
    rw [hg] at h
    exact absurd h nofun
  | some g =>
    rw [hg] at h
    rw [← Option.some.inj h]
    intro hmem
    exact ne_exactly_of_hasWildcard (by simp [hasWildcard]) hg (List.mem_singleton.1 hmem).symm

end GlobName

theorem Reached.step_of_ne {name : Text} (h : name ≠ parentName) (r : Reached) :
    r.step name = r.descend [name] := by
  rw [step, if_neg h, descend]

@[simp] theorem Reached.descend_descend (r : Reached) (names rest : List Text) :
    (r.descend names).descend rest = r.descend (names ++ rest) := by
  simp [descend]

/-- The path is short enough to be given to the system. -/
def Path.IsShort (p : Path) : Prop := Utf8.size p.toText < FileTree.pathLimit

instance (p : Path) : Decidable p.IsShort := inferInstanceAs (Decidable (_ < _))

namespace FileTree

variable {t : FileTree} {root : Path} {glob : List GlobName} {r found : Reached}
  {place names : List Text}

theorem mem_places_iff (hne : place ≠ []) : place ∈ t.nodes.map (·.1) ↔
    ∃ n, t.entry? place = some n := by
  unfold entry?
  rw [if_neg hne, ← Option.isSome_iff_exists, List.lookup_isSome_iff]
  simp only [List.mem_map, beq_iff_eq, @eq_comm _ place]

/-- A walk goes up, or down by names that files can have. -/
theorem WellNamed.names_of_walk (ht : t.WellNamed) {stop : List Text × Node}
    (h : t.walk place names = .ok stop) :
    ∀ name ∈ names, name = parentName ∨ IsFileName name := by
  induction names generalizing place with
  | nil => exact fun name hname => absurd hname List.not_mem_nil
  | cons first names ih =>
    obtain ⟨-, ⟨hfirst, hup⟩ | ⟨-, -, hdown⟩⟩ := walk_cons_eq_ok.1 h
    · exact List.forall_mem_cons.2 ⟨Or.inl hfirst, ih hup⟩
    · obtain ⟨n, hlisted⟩ := exists_listed hdown
      obtain ⟨entry, hentry, heq⟩ := List.mem_map.1
        ((mem_places_iff (List.concat_ne_nil first place)).2 ⟨n, hlisted⟩)
      have hname : IsFileName first := ht entry hentry first (by rw [heq]; simp)
      exact List.forall_mem_cons.2 ⟨Or.inr hname, ih hdown⟩

/-- The names in a directory that can be listed are those that something is listed under. -/
theorem mem_namesIn {name : Text} :
    name ∈ t.namesIn place ↔
      place ∉ t.unlistable ∧ Utf8.size name ≤ nameLimit ∧
      ∃ n, t.entry? (place ++ [name]) = some n := by
  rw [← mem_places_iff (List.concat_ne_nil name place), namesIn]
  by_cases hlist : place ∈ t.unlistable
  · simp [hlist]
  · rw [if_neg hlist, List.mem_filter, List.mem_filterMap, and_iff_right hlist,
      decide_eq_true_iff, and_comm]
    refine and_congr_right fun _ => ?_
    constructor
    · rintro ⟨p, hp, hname⟩
      split_ifs at hname with hplace
      obtain ⟨front, rfl⟩ := List.getLast?_eq_some_iff.1 hname
      rwa [← hplace, List.dropLast_concat]
    · intro hp
      exact ⟨_, hp, by rw [List.dropLast_concat, if_pos rfl, List.getLast?_concat]⟩

theorem WellNamed.ne_parent_of_mem_namesIn (ht : t.WellNamed) {name : Text}
    (h : name ∈ t.namesIn place) :
    name ≠ parentName := by
  obtain ⟨-, -, n, hn⟩ := mem_namesIn.1 h
  obtain ⟨entry, hentry, hplace⟩ := List.mem_map.1
    ((mem_places_iff (List.concat_ne_nil name place)).2 ⟨n, hn⟩)
  exact (ht entry hentry name (by rw [hplace]; simp)).ne_parent

/-- The directories that can be found are those that no directory in between hides. -/
theorem mem_directoriesFrom {base : List Text} :
    names ∈ t.directoriesFrom base ↔
      t.hasAt isDirectoryNode (base ++ names) = true ∧ t.isHidden base (base ++ names) = false := by
  rw [directoriesFrom, mem_sortedDistinct, List.mem_map]
  constructor
  · rintro ⟨place, hplace, rfl⟩
    obtain ⟨-, hfound⟩ := List.mem_filter.1 hplace
    rw [Bool.and_eq_true, Bool.and_eq_true, Bool.not_eq_true', List.isPrefixOf_iff_prefix] at hfound
    obtain ⟨⟨⟨down, rfl⟩, hdir⟩, hshown⟩ := hfound
    rw [List.drop_left]
    exact ⟨hdir, hshown⟩
  · rintro ⟨hdir, hshown⟩
    refine ⟨base ++ names, List.mem_filter.2 ⟨?_, by simp [hdir, hshown]⟩, List.drop_left⟩
    by_cases hbase : base ++ names = base
    · rw [hbase]
      exact List.mem_cons_self
    · obtain ⟨n, hnode, -⟩ := hasAt_iff.1 hdir
      have hne : base ++ names ≠ [] := by
        intro hnil
        exact hbase (by rw [hnil, (List.append_eq_nil_iff.1 hnil).1])
      exact List.mem_cons_of_mem _ ((mem_places_iff hne).2 ⟨n, hnode.listed⟩)

theorem checkLength_of_isShort {p : Path} (h : p.IsShort) : checkLength p = .ok () :=
  if_neg (Nat.not_le_of_lt h)

theorem checkLength_of_not_isShort {p : Path} (h : ¬p.IsShort) :
    checkLength p = .error ⟨.nameTooLong, p.toText⟩ := if_pos (Nat.le_of_not_lt h)

/-- After the first name of a glob, the others select from the place that it leads to. -/
theorem exists_next_of_mem_select {g : GlobName} {rs : List Reached}
    (h : t.select root (g :: glob) r = .ok rs) (hfound : found ∈ rs) :
    ∃ next rs', t.select root glob next = .ok rs' ∧ found ∈ rs' ∧
      ((∃ down ∈ t.directoriesFrom r.place, next = r.descend down) ∨
        ∃ name, next = r.step name ∧ (g = .exactly name ∨ name ∈ t.namesIn r.place)) := by
  cases g with
  | chain =>
    rw [select, Except.bind_eq_ok] at h
    obtain ⟨lists, hlists, h⟩ := h
    rw [← Except.pure_eq_ok.1 h] at hfound
    obtain ⟨rs', hrs', hfound⟩ := List.mem_flatten.1 hfound
    obtain ⟨down, hdown, hselect⟩ := Except.mem_of_mapM hlists hrs'
    obtain ⟨-, -, hselect⟩ := Except.bind_eq_ok.1 hselect
    exact ⟨_, rs', hselect, hfound, Or.inl ⟨down, hdown, rfl⟩⟩
  | fitting pattern =>
    rw [select, Except.bind_eq_ok] at h
    obtain ⟨-, -, h⟩ := h
    obtain ⟨lists, hlists, h⟩ := Except.bind_eq_ok.1 h
    rw [← Except.pure_eq_ok.1 h] at hfound
    obtain ⟨rs', hrs', hfound⟩ := List.mem_flatten.1 hfound
    obtain ⟨name, hname, hselect⟩ := Except.mem_of_mapM hlists hrs'
    exact ⟨_, rs', hselect, hfound, Or.inr ⟨name, rfl, Or.inr (List.mem_filter.1 hname).1⟩⟩
  | exactly name =>
    rw [select, Except.bind_eq_ok] at h
    obtain ⟨there, -, h⟩ := h
    split_ifs at h
    · exact ⟨_, rs, h, hfound, Or.inr ⟨name, rfl, Or.inl rfl⟩⟩
    · rw [← Except.pure_eq_ok.1 h] at hfound
      exact absurd hfound List.not_mem_nil

/-- What a glob selects lies below the place where it starts. -/
theorem below_of_mem_select (ht : t.WellNamed) (hglob : GlobName.exactly parentName ∉ glob)
    {rs : List Reached}
    (h : t.select root glob r = .ok rs) (hfound : found ∈ rs) :
    ∃ names, found = r.descend names ∧ ∀ name ∈ names, name ≠ parentName := by
  induction glob generalizing r rs with
  | nil =>
    rw [select, Except.ok.injEq] at h
    rw [← h, List.mem_singleton] at hfound
    exact ⟨[], by simp [hfound, Reached.descend], nofun⟩
  | cons g glob ih =>
    obtain ⟨hg, hrest⟩ : GlobName.exactly parentName ≠ g ∧ GlobName.exactly parentName ∉ glob := by
      simpa using hglob
    obtain ⟨next, rs', hselect, hmem, hnext⟩ := exists_next_of_mem_select h hfound
    obtain ⟨names, rfl, hnames⟩ := ih hrest hselect hmem
    rcases hnext with ⟨down, hdown, rfl⟩ | ⟨name, rfl, hname⟩
    · obtain ⟨n, hnode, -⟩ := hasAt_iff.1 (mem_directoriesFrom.1 hdown).1
      refine ⟨down ++ names, Reached.descend_descend r down names, fun name hname => ?_⟩
      rcases List.mem_append.1 hname with hname | hname
      · exact hnode.ne_parent name (List.mem_append_right _ hname)
      · exact hnames name hname
    · have hne : name ≠ parentName := by
        rcases hname with rfl | hname
        · rintro rfl
          exact hg rfl
        · exact ht.ne_parent_of_mem_namesIn hname
      refine ⟨name :: names, ?_, List.forall_mem_cons.2 ⟨hne, hnames⟩⟩
      rw [Reached.step_of_ne hne, Reached.descend_descend, List.singleton_append]

theorem ne_parent_of_mem_search (ht : t.WellNamed) (hglob : GlobName.exactly parentName ∉ glob)
    {found : List (List Text)} (h : t.search root place glob = .ok found) (hnames : names ∈ found) :
    ∀ name ∈ names, name ≠ parentName := by
  rw [search, Except.bind_eq_ok] at h
  obtain ⟨rs, hrs, h⟩ := h
  rw [← Except.pure_eq_ok.1 h, mem_sortedDistinct] at hnames
  obtain ⟨r, hr, rfl⟩ := List.mem_map.1 hnames
  have hchain : GlobName.exactly parentName ∉ GlobName.chain :: glob := by simpa using hglob
  obtain ⟨names, rfl, hne⟩ := below_of_mem_select ht hchain hrs hr
  exact hne

/-! ## The files among what is found -/

theorem leadsToFile_iff {n : Node} (hplace : t.HasNode place n)
    (hnames : ∀ name ∈ names, name ≠ parentName) :
    t.leadsToFile place names = true ↔ t.hasAt isFileNode (place ++ names) = true := by
  have hwalk : ∀ r, t.walk place names = .ok r ↔ t.walk [] (place ++ names) = .ok r := by
    intro r
    rw [walk_append]
    constructor
    · exact fun h => ⟨_, hplace, h⟩
    · rintro ⟨stop, hstop, h⟩
      rwa [← Except.ok.inj (hplace.symm.trans hstop)] at h
  have hreached : ∀ r, t.walk [] (place ++ names) = .ok r → r.1 = place ++ names := by
    intro r hr
    have hne : ∀ name ∈ place ++ names, name ≠ parentName := by
      intro name hname
      rcases List.mem_append.1 hname with hname | hname
      · exact hplace.ne_parent name hname
      · exact hnames name hname
    rw [walk_place (by simp) hr, List.reverse_nil, Path.foldl_climb_eq true hne, List.append_nil,
      List.reverse_reverse]
  rw [hasAt_iff, leadsToFile]
  constructor
  · intro h
    split at h
    · next reached m hr =>
      have hr := (hwalk _).1 hr
      obtain rfl := hreached _ hr
      exact ⟨m, hr, h⟩
    · exact absurd h Bool.false_ne_true
  · rintro ⟨m, hnode, hfile⟩
    rw [(hwalk _).2 hnode]
    exact hfile

/-- What is found and is a file lies below a directory that the search starts from, and is not the
directory. -/
theorem ne_nil_of_leadsToFile (hplace : t.HasNode place .directory)
    (h : t.leadsToFile place names = true) :
    names ≠ [] := by
  rintro rfl
  have hat := (leadsToFile_iff hplace fun name hname => absurd hname List.not_mem_nil).1 h
  obtain ⟨content, hfile⟩ := hasAt_isFileNode.1 hat
  rw [List.append_nil] at hfile
  exact absurd (Option.some.inj (hfile.listed.symm.trans hplace.listed)) nofun

/-- The names among some that lead to regular files. -/
def filesAmong (t : FileTree) (place : List Text) (found : List (List Text)) : List (List Text) :=
  found.filter (t.leadsToFile place)

theorem filesAmong_append (t : FileTree) (place : List Text) (front beyond : List (List Text)) :
    t.filesAmong place (front ++ beyond) = t.filesAmong place front ++ t.filesAmong place beyond :=
  List.filter_append ..

theorem hasAt_of_mem_search (ht : t.WellNamed) (hglob : GlobName.exactly parentName ∉ glob)
    (hplace : t.HasNode place .directory) {found : List (List Text)}
    (h : t.search root place glob = .ok found)
    (hnames : names ∈ t.filesAmong place found) :
    t.hasAt isFileNode (place ++ names) = true ∧ names ≠ [] := by
  obtain ⟨hfound, hfile⟩ := List.mem_filter.1 hnames
  exact ⟨(leadsToFile_iff hplace (ne_parent_of_mem_search ht hglob h hfound)).1 hfile,
    ne_nil_of_leadsToFile hplace hfile⟩

end FileTree

end SourceReach
