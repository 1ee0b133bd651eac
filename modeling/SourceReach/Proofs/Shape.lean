import SourceReach.Proofs.Listing

/-!
# Trees of one shape

Two trees have one shape when they have directories and files at the same places, whatever the files
hold. What is asked about places then has the same answers in both: where a path leads
(`SameShape.resolve`), what is there (`SameShape.holds`), and what a glob finds
(`SameShape.search`). Only contents that are read may differ.
-/

namespace SourceReach.FileTree

/-- The trees have directories and files at the same places, and the same directories can be
listed. -/
structure SameShape (t t' : FileTree) : Prop where
  kind : ∀ place, (t.entry? place).map isDirectoryNode = (t'.entry? place).map isDirectoryNode
  listable : ∀ place, place ∈ t.unlistable ↔ place ∈ t'.unlistable

/-- The question has one answer for all files. -/
def IsAboutKind (test : Node → Bool) : Prop :=
  ∀ content content', test (.file content) = test (.file content')

variable {t t' : FileTree} {place base names : List Text} {name : Text} {test : Node → Bool}
  {p root : Path}
  {glob : List GlobName} {r : Reached} {rs : List Reached}

theorem SameShape.symm (h : t.SameShape t') : t'.SameShape t where
  kind place := (h.kind place).symm
  listable place := (h.listable place).symm

theorem SameShape.refl (t : FileTree) : t.SameShape t := ⟨fun _ => rfl, fun _ => Iff.rfl⟩

/-- Both trees have nothing at a place, or a directory, or a file. -/
theorem SameShape.entry_cases (h : t.SameShape t') (place : List Text) :
    (t.entry? place = none ∧ t'.entry? place = none) ∨
      (t.entry? place = some .directory ∧ t'.entry? place = some .directory) ∨
      ∃ content content', t.entry? place = some (.file content) ∧
      t'.entry? place = some (.file content') := by
  have hkind := h.kind place
  generalize t.entry? place = n, t'.entry? place = n' at hkind ⊢
  rcases n with _ | _ | content <;> rcases n' with _ | _ | content'
  · exact Or.inl ⟨rfl, rfl⟩
  · exact absurd hkind nofun
  · exact absurd hkind nofun
  · exact absurd hkind nofun
  · exact Or.inr (Or.inl ⟨rfl, rfl⟩)
  · exact absurd (Option.some.inj hkind) (by simp [isDirectoryNode])
  · exact absurd hkind nofun
  · exact absurd (Option.some.inj hkind) (by simp [isDirectoryNode])
  · exact Or.inr (Or.inr ⟨content, content', rfl, rfl⟩)

theorem listed_put {n : Node} (hne : place ≠ []) (other : List Text) :
    entry? (t.put place n) other = if other = place then some n else t.entry? other := by
  have hfilter : other ≠ place → (t.nodes.filter (·.1 ≠ place)).lookup other =
      t.nodes.lookup other := by
    intro hother
    induction t.nodes with
    | nil => rfl
    | cons entry nodes ih =>
      by_cases hentry : entry.1 = place
      · have hskip : (other == entry.1) = false := beq_eq_false_iff_ne.2 fun heq =>
          hother (heq.trans hentry)
        rw [List.filter_cons_of_neg (by simpa using hentry), ih, List.lookup_cons, hskip]
      · rw [List.filter_cons_of_pos (by simpa using hentry), List.lookup_cons, List.lookup_cons, ih]
  unfold entry? put
  by_cases hother : other = place
  · rw [if_neg (hother ▸ hne), if_pos hother, hother, List.lookup_cons_self]
  · rw [if_neg hother, List.lookup_cons, beq_eq_false_iff_ne.2 hother]
    dsimp only
    rw [hfilter hother]

/-- Two answers about what is at a place are alike: the same place with a node of the same kind, or
the same cause. -/
inductive Alike : Except AccessCause (List Text × Node) →
    Except AccessCause (List Text × Node) → Prop where
  | directory (place : List Text) : Alike (.ok (place, .directory)) (.ok (place, .directory))
  | file (place : List Text) (content content' : Bytes) :
    Alike (.ok (place, .file content)) (.ok (place, .file content'))
  | error (cause : AccessCause) : Alike (.error cause) (.error cause)

/-! ## Questions about a place -/

theorem SameShape.walk (h : t.SameShape t') (place names : List Text) :
    Alike (t.walk place names) (t'.walk place names) := by
  induction names generalizing place with
  | nil =>
    rw [FileTree.walk, FileTree.walk]
    rcases h.entry_cases place with ⟨hn, hn'⟩ | ⟨hn, hn'⟩ | ⟨content, content', hn, hn'⟩ <;>
      rw [hn, hn']
    · exact .error _
    · exact .directory _
    · exact .file _ _ _
  | cons name names ih =>
    rw [FileTree.walk, FileTree.walk]
    rcases h.entry_cases place with ⟨hn, hn'⟩ | ⟨hn, hn'⟩ | ⟨content, content', hn, hn'⟩ <;>
      rw [hn, hn']
    · exact .error _
    · dsimp only
      split_ifs
      · exact ih _
      · exact .error _
      · exact ih _
    · exact .error _

theorem SameShape.resolve (h : t.SameShape t') (p : Path) : Alike (t.resolve p) (t'.resolve p) := by
  unfold FileTree.resolve
  split_ifs
  · exact .error _
  · exact .error _
  · exact h.walk [] p.parts

theorem SameShape.holds (h : t.SameShape t') (htest : IsAboutKind test) (p : Path) :
    t.holds p test = t'.holds p test := by
  have halike := h.resolve p
  unfold FileTree.holds
  generalize t.resolve p = answer, t'.resolve p = answer' at halike ⊢
  cases halike with
  | directory place => rfl
  | file place content content' =>
    dsimp only
    rw [htest content content']
  | error cause => rfl

theorem SameShape.isFile (h : t.SameShape t') (p : Path) : t.isFile p = t'.isFile p :=
  h.holds (fun _ _ => rfl) p

theorem SameShape.hasAt (h : t.SameShape t') (htest : IsAboutKind test) (place : List Text) :
    t.hasAt test place = t'.hasAt test place := by
  have halike := h.walk [] place
  unfold FileTree.hasAt
  generalize t.walk [] place = answer, t'.walk [] place = answer' at halike ⊢
  cases halike with
  | directory reached => rfl
  | file reached content content' =>
    dsimp only
    rw [htest content content']
  | error cause => rfl

/-! ## Listings -/

theorem SameShape.namesIn_subset (h : t.SameShape t') (place : List Text) :
    t'.namesIn place ⊆ t.namesIn place := by
  intro name hname
  rw [mem_namesIn, ← h.listable] at hname
  obtain ⟨hlist, hsize, n', hn'⟩ := hname
  refine mem_namesIn.2 ⟨hlist, hsize, ?_⟩
  rcases h.entry_cases (place ++ [name]) with ⟨-, hnone⟩ | ⟨hn, -⟩ | ⟨content, -, hn, -⟩
  · exact absurd (hn'.symm.trans hnone) nofun
  · exact ⟨_, hn⟩
  · exact ⟨_, hn⟩

theorem SameShape.isHidden (h : t.SameShape t') (base place : List Text) :
    t.isHidden base place = t'.isHidden base place := by
  rw [Bool.eq_iff_iff]
  simp only [FileTree.isHidden, List.any_eq_true, h.listable]

theorem SameShape.directoriesFrom_subset (h : t.SameShape t') (base : List Text) :
    t'.directoriesFrom base ⊆ t.directoriesFrom base := by
  intro names hnames
  rw [mem_directoriesFrom] at hnames ⊢
  rwa [h.hasAt (fun _ _ => rfl), h.isHidden]

theorem SameShape.fitting_subset (h : t.SameShape t') (place : List Text) (pattern : Text) (last : Bool) :
    (t'.namesIn place).filter (fun name => Glob.isMatch pattern name &&
        (last || t'.hasAt isDirectoryNode (place ++ [name]))) ⊆
      (t.namesIn place).filter fun name => Glob.isMatch pattern name &&
        (last || t.hasAt isDirectoryNode (place ++ [name])) := by
  intro name hname
  obtain ⟨hname, hfits⟩ := List.mem_filter.1 hname
  rw [← h.hasAt fun _ _ => rfl] at hfits
  exact List.mem_filter.2 ⟨h.namesIn_subset _ hname, hfits⟩

/-- Where a glob leads in one tree, it leads to the same places in the other. -/
theorem SameShape.select (h : t.SameShape t') (hselect : t.select root glob r = .ok rs) :
    ∃ rs', t'.select root glob r = .ok rs' ∧ rs' ⊆ rs := by
  -- The trees may list their places in different orders, so what is selected is compared as a set.
  induction glob generalizing r rs with
  | nil => exact ⟨rs, hselect, List.Subset.refl rs⟩
  | cons g glob ih =>
    cases g with
    | chain =>
      rw [FileTree.select, Except.bind_eq_ok] at hselect
      obtain ⟨lists, hlists, heq⟩ := hselect
      have hstep : ∀ names ∈ t'.directoriesFrom r.place, ∀ list,
          (do checkLength (root.along (r.names ++ names)); t.select root glob (r.descend names)) =
            .ok list →
          ∃ list',
            (do
              checkLength (root.along (r.names ++ names))
              t'.select root glob (r.descend names)) = .ok list' ∧ list' ⊆ list := by
        intro names _ list hlist
        obtain ⟨_, hcheck, hlist⟩ := Except.bind_eq_ok.1 hlist
        obtain ⟨list', hlist', hsub⟩ := ih hlist
        exact ⟨list', Except.bind_eq_ok.2 ⟨_, hcheck, hlist'⟩, hsub⟩
      obtain ⟨lists', hlists', hsub⟩ := Except.mapM_flatten_subset
        (h.directoriesFrom_subset r.place) hstep hlists
      refine ⟨lists'.flatten, ?_, Except.pure_eq_ok.1 heq ▸ hsub⟩
      rw [FileTree.select, hlists']
      rfl
    | fitting pattern =>
      rw [FileTree.select, Except.bind_eq_ok] at hselect
      obtain ⟨_, hcheck, hselect⟩ := hselect
      obtain ⟨lists, hlists, heq⟩ := Except.bind_eq_ok.1 hselect
      obtain ⟨lists', hlists', hsub⟩ := Except.mapM_flatten_subset
        (h.fitting_subset r.place pattern (glob = []))
        (fun name _ list hlist => ih hlist) hlists
      refine ⟨lists'.flatten, ?_, Except.pure_eq_ok.1 heq ▸ hsub⟩
      rw [FileTree.select, hcheck]
      dsimp only
      rw [hlists']
      rfl
    | exactly name =>
      rw [FileTree.select, Except.bind_eq_ok] at hselect
      obtain ⟨there, hthere, hrest⟩ := hselect
      rw [h.holds fun _ _ => rfl] at hthere
      rw [FileTree.select, hthere]
      cases there with
      | true => exact ih hrest
      | false => exact ⟨rs, hrest, List.Subset.refl rs⟩

/-- A search finds the same in both trees. -/
theorem SameShape.search (h : t.SameShape t') {found : List (List Text)}
    (hsearch : t.search root place glob = .ok found) : t'.search root place glob = .ok found := by
  rw [FileTree.search, Except.bind_eq_ok] at hsearch
  obtain ⟨rs, hrs, heq⟩ := hsearch
  obtain ⟨rs', hrs', hsub⟩ := h.select hrs
  obtain ⟨rs'', hrs'', hsub'⟩ := h.symm.select hrs'
  obtain rfl : rs = rs'' := Except.ok.inj (hrs.symm.trans hrs'')
  rw [FileTree.search, hrs', ← heq]
  refine congrArg Except.ok (sortedDistinct_congr fun names => ?_)
  simp only [List.mem_map]
  constructor
  · rintro ⟨r, hr, hnames⟩
    exact ⟨r, hsub hr, hnames⟩
  · rintro ⟨r, hr, hnames⟩
    exact ⟨r, hsub' hr, hnames⟩

theorem SameShape.filesAmong (h : t.SameShape t') (place : List Text) (found : List (List Text)) :
    t.filesAmong place found = t'.filesAmong place found := by
  refine List.filter_congr fun names _ => ?_
  have halike := h.walk place names
  unfold leadsToFile
  generalize t.walk place names = answer, t'.walk place names = answer' at halike ⊢
  cases halike <;> rfl

end SourceReach.FileTree
