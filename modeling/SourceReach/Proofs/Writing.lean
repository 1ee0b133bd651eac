import SourceReach.Proofs.Shape

/-!
# Files that are written

Writing a file puts it at its place, makes directories of the places above it where nothing is yet,
and changes nothing else (`entry?_write`). A place with nothing but directories above it, or nothing
at all, can be written to, and what has been written is there (`hasNode_write`). It can then be
written to again.
-/

namespace SourceReach.FileTree

variable {t : FileTree} {place base names : List Text} {name : Text} {p : Path}

/-! ## What is listed after writing -/

theorem mem_ancestors {target : List Text} :
    place ∈ ancestors target ++ [target] ↔ place = target ∨ (place ≠ [] ∧ place <+: target) := by
  unfold ancestors
  rw [List.mem_append, List.mem_filterMap, List.mem_singleton]
  constructor
  · rintro (⟨n, hn, hplace⟩ | rfl)
    · split_ifs at hplace with hzero
      rw [Option.some.injEq] at hplace
      subst hplace
      refine Or.inr ⟨?_, List.take_prefix n target⟩
      have hlt : n < target.length := List.mem_range.1 hn
      rw [Ne, List.take_eq_nil_iff]
      rintro (h | rfl)
      · exact hzero h
      · exact absurd hlt (Nat.not_lt_zero n)
    · exact Or.inl rfl
  · rintro (rfl | ⟨hne, hprefix⟩)
    · exact Or.inr rfl
    · by_cases hsame : place = target
      · exact Or.inr hsame
      · have hlength : place.length < target.length := by
          refine lt_of_le_of_ne hprefix.length_le fun heq => hsame ?_
          exact hprefix.eq_of_length heq
        refine Or.inl ⟨place.length, List.mem_range.2 hlength, ?_⟩
        rw [if_neg fun hzero => hne (List.length_eq_zero_iff.1 hzero),
          ← List.prefix_iff_eq_take.1 hprefix]

theorem entry?_makeDirectories (places : List (List Text)) (t : FileTree) (other : List Text) :
    entry? (places.foldl (fun t p => if (t.entry? p).isSome then t else t.put p .directory) t)
      other =
      (t.entry? other).or (if other ∈ places then some .directory else none) := by
  induction places generalizing t with
  | nil => simp
  | cons first places ih =>
    rw [List.foldl_cons, ih]
    by_cases hfirst : (t.entry? first).isSome
    · rw [if_pos hfirst]
      by_cases hother : other = first
      · obtain ⟨n, hn⟩ := Option.isSome_iff_exists.1 hfirst
        rw [hother, hn]
        rfl
      · simp [hother]
    · have hne : first ≠ [] := by
        rintro rfl
        exact hfirst rfl
      rw [if_neg hfirst, listed_put hne]
      by_cases hother : other = first
      · rw [if_pos hother, hother, Option.not_isSome_iff_eq_none.1 hfirst,
          if_pos List.mem_cons_self]
        rfl
      · simp [hother]

/-- A written file is at its place, above it there are directories where there was nothing, and all
else is as it was. -/
theorem entry?_write (hne : place ≠ []) (content : Bytes) (other : List Text) :
    entry? (t.write place content) other =
      if other = place then some (.file content)
      else (t.entry? other).or (if other ≠ [] ∧ other <+: place.dropLast then some .directory
          else none) := by
  unfold write
  rw [listed_put hne]
  by_cases hplace : other = place
  · rw [if_pos hplace, if_pos hplace]
  · rw [if_neg hplace, if_neg hplace, makeDirectory, entry?_makeDirectories]
    by_cases hnil : other = []
    · subst hnil
      rfl
    · congr 2
      rw [mem_ancestors]
      refine propext ⟨?_, fun h => Or.inr h⟩
      rintro (rfl | h)
      · exact ⟨hnil, List.prefix_rfl⟩
      · exact h

/-! ## Places that can be written to -/

/-- Names that files can be looked up by: none leads up, and none is too long. -/
def Walkable (names : List Text) : Prop :=
  ∀ name ∈ names, name ≠ parentName ∧ Utf8.size name ≤ nameLimit

instance (names : List Text) : Decidable (Walkable names) :=
  inferInstanceAs (Decidable (∀ name ∈ names, name ≠ parentName ∧ Utf8.size name ≤ nameLimit))

/-- The path as a whole can be asked about. -/
def Askable (p : Path) : Prop := p.toText.contains '\x00' = false ∧ Utf8.size p.toText < pathLimit

instance (p : Path) : Decidable (Askable p) :=
  inferInstanceAs (Decidable (p.toText.contains '\x00' = false ∧ Utf8.size p.toText < pathLimit))

theorem Askable.resolve_eq (h : Askable p) (t : FileTree) : t.resolve p = t.walk [] p.parts := by
  unfold resolve
  rw [h.1, if_neg Bool.false_ne_true, if_neg (Nat.not_le_of_lt h.2)]

/-- Where there are directories only, walks go down. -/
theorem hasNode_of_directories (hnames : Walkable place)
    (h : ∀ above, above <+: place → t.entry? above = some .directory) :
    t.HasNode place .directory := by
  induction place using List.reverseRecOn with
  | nil => exact hasNode_root
  | append_singleton front last ih =>
    have hfront : t.HasNode front .directory :=
      ih (fun name hname => hnames name (List.mem_append_left _ hname)) fun above habove =>
        h above (habove.trans (List.prefix_append _ _))
    obtain ⟨hup, hsize⟩ := hnames last (List.mem_append_right _ List.mem_cons_self)
    exact hfront.child hup hsize (h _ List.prefix_rfl)

/-- Above and at the place there are directories, or nothing. -/
def IsClear (t : FileTree) (place : List Text) : Prop :=
  ∀ above, above <+: place → t.entry? above = none ∨ t.entry? above = some .directory

instance (t : FileTree) (place : List Text) : Decidable (t.IsClear place) :=
  decidable_of_iff (∀ above ∈ place.inits, t.entry? above = none ∨ t.entry? above = some .directory)
    (by simp only [List.mem_inits, IsClear])

/-- A walk to a clear place ends there, at a directory, or before it where nothing is. -/
theorem walk_of_isClear (hnames : Walkable names) (h : t.IsClear (base ++ names)) :
    t.walk base names = .ok (base ++ names, .directory) ∨
    t.walk base names = .error .noSuchFile := by
  induction names generalizing base with
  | nil =>
    rw [walk]
    rcases h base (List.prefix_append _ _) with hnone | hdir
    · exact Or.inr (by rw [hnone])
    · exact Or.inl (by rw [hdir, List.append_nil])
  | cons name names ih =>
    obtain ⟨⟨hup, hsize⟩, hnames⟩ := List.forall_mem_cons.1 hnames
    rw [walk]
    rcases h base (List.prefix_append _ _) with hnone | hdir
    · exact Or.inr (by rw [hnone])
    · rw [hdir]
      dsimp only
      rw [if_neg hup, if_neg (Nat.not_lt_of_le hsize), List.append_cons base name names]
      exact ih hnames (by rwa [← List.append_cons])

/-- There is a directory at a clear place, or one can be made. -/
theorem checkDirectory_of_isClear (hask : Askable p) (hnames : Walkable p.parts)
    (h : t.IsClear p.parts) :
    t.checkDirectory p = .ok () := by
  unfold checkDirectory
  rw [hask.resolve_eq]
  have hwalk : t.walk [] p.parts = .ok (p.parts, .directory) ∨
      t.walk [] p.parts = .error .noSuchFile :=
    walk_of_isClear hnames h
  rcases hwalk with hdir | hnone
  · rw [hdir]
  · have hshort : p.parts.any (nameLimit < Utf8.size ·) = false := by
      rw [List.any_eq_false]
      exact fun name hname => by simpa using (hnames name hname).2
    rw [hnone, hshort]
    rfl

section Write

variable (hclear : t.IsClear base)

include hclear

theorem directories_write (name : Text) (content : Bytes) {above : List Text} (h : above <+: base) :
    entry? (t.write (base ++ [name]) content) above = some .directory := by
  have hne : above ≠ base ++ [name] := by
    rintro rfl
    have hlength := h.length_le
    rw [List.length_append, List.length_singleton] at hlength
    omega
  rw [entry?_write (List.concat_ne_nil name base), if_neg hne, List.dropLast_concat]
  by_cases hnil : above = []
  · subst hnil
    rfl
  · rw [if_pos ⟨hnil, h⟩]
    rcases hclear above h with hnone | hdir
    · rw [hnone]
      rfl
    · rw [hdir]
      rfl

theorem isClear_write (name : Text) (content : Bytes) :
    IsClear (t.write (base ++ [name]) content) base :=
  fun _ habove => Or.inr (directories_write hclear name content habove)

variable (hnames : Walkable (base ++ [name]))

include hnames

theorem hasNode_write (content : Bytes) :
    HasNode (t.write (base ++ [name]) content) (base ++ [name]) (.file content) := by
  have hbase : HasNode (t.write (base ++ [name]) content) base .directory :=
    hasNode_of_directories (fun part hpart => hnames part (List.mem_append_left _ hpart))
      fun above habove =>
      directories_write hclear name content habove
  obtain ⟨hup, hsize⟩ := hnames name (List.mem_append_right _ List.mem_cons_self)
  refine hbase.child hup hsize ?_
  rw [entry?_write (List.concat_ne_nil name base), if_pos rfl]

/-- A file that has been written can be asked about and read. -/
theorem read_write (hparts : p.parts = base ++ [name]) (hask : Askable p) (content : Bytes) :
    contains (t.write (base ++ [name]) content) p = .ok true ∧
      read (t.write (base ++ [name]) content) p = .ok content := by
  have hresolve : resolve (t.write (base ++ [name]) content) p =
      .ok (base ++ [name], .file content) := by
    rw [hask.resolve_eq, hparts]
    exact hasNode_write hclear hnames content
  constructor
  · unfold contains holds
    rw [hresolve]
  · unfold read
    rw [hresolve]

end Write

end SourceReach.FileTree
