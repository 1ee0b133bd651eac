import Mathlib.Tactic.SplitIfs
import SourceReach.FileTree.Listing
import SourceReach.Proofs.Place

/-!
# Walks through a file tree

A walk that ends somewhere can be made again without double dots (`hasNode_of_walk`): from the root
straight to the place where the path without double dots leads (`walk_parts`). So a file that is
found under some path is the file at the place that this path names (`isFileAt_of_isFile`).
-/

namespace SourceReach.FileTree

/-- All names in the tree are names that files can have. -/
def WellNamed (t : FileTree) : Prop := ∀ entry ∈ t.nodes, ∀ name ∈ entry.1, IsFileName name

instance (t : FileTree) : Decidable t.WellNamed :=
  inferInstanceAs (Decidable (∀ entry ∈ t.nodes, ∀ name ∈ entry.1, IsFileName name))

/-- The walk from the root along a place ends there, and this is what is there. -/
def HasNode (t : FileTree) (place : List Text) (n : Node) : Prop := t.walk [] place = .ok (place, n)

variable {t : FileTree} {place base names rest : List Text} {name : Text} {n m : Node}
  {r : List Text × Node}

/-! ## One step of a walk -/

theorem listed_root : t.entry? [] = some .directory := rfl

theorem walk_nil_eq_ok : t.walk place [] = .ok r ↔ r.1 = place ∧ t.entry? place = some r.2 := by
  rw [walk]
  cases h : t.entry? place with
  | none => simp
  | some n =>
    rcases r with ⟨reached, m⟩
    simp only [Except.ok.injEq, Prod.mk.injEq, Option.some.injEq]
    rw [eq_comm (a := place)]

/-- A walk goes on from directories only, up at double dots and down at a name that is not too
long. -/
theorem walk_cons_eq_ok :
    t.walk place (name :: names) = .ok r ↔ t.entry? place = some .directory ∧
      ((name = parentName ∧ t.walk place.dropLast names = .ok r) ∨
        (name ≠ parentName ∧ Utf8.size name ≤ nameLimit ∧
          t.walk (place ++ [name]) names = .ok r)) := by
  rw [walk]
  cases h : t.entry? place with
  | none => simp
  | some n =>
    cases n with
    | file content => simp
    | directory =>
      by_cases hname : name = parentName
      · simp [hname]
      · by_cases hsize : nameLimit < Utf8.size name
        · simp [hname, hsize, Nat.not_le_of_lt hsize]
        · simp [hname, hsize, Nat.le_of_not_lt hsize]

theorem exists_listed (h : t.walk place names = .ok r) : ∃ n, t.entry? place = some n := by
  cases names with
  | nil => exact ⟨r.2, (walk_nil_eq_ok.1 h).2⟩
  | cons name names => exact ⟨.directory, (walk_cons_eq_ok.1 h).1⟩

theorem listed_of_walk (h : t.walk place names = .ok r) : t.entry? r.1 = some r.2 := by
  induction names generalizing place with
  | nil =>
    obtain ⟨hplace, hn⟩ := walk_nil_eq_ok.1 h
    rwa [hplace]
  | cons name names ih =>
    obtain ⟨-, ⟨-, hup⟩ | ⟨-, -, hdown⟩⟩ := walk_cons_eq_ok.1 h
    · exact ih hup
    · exact ih hdown

/-- A walk along further names goes on where the walk along the first ones has ended. -/
theorem walk_append :
    t.walk place (names ++ rest) = .ok r ↔
      ∃ stop, t.walk place names = .ok stop ∧ t.walk stop.1 rest = .ok r := by
  induction names generalizing place with
  | nil =>
    constructor
    · intro h
      obtain ⟨n, hn⟩ := exists_listed h
      exact ⟨(place, n), walk_nil_eq_ok.2 ⟨rfl, hn⟩, h⟩
    · rintro ⟨stop, hstop, h⟩
      rwa [(walk_nil_eq_ok.1 hstop).1] at h
  | cons name names ih =>
    simp only [List.cons_append, walk_cons_eq_ok, ih]
    constructor
    · rintro ⟨hdir, ⟨hname, stop, hstop, h⟩ | ⟨hname, hsize, stop, hstop, h⟩⟩
      · exact ⟨stop, ⟨hdir, Or.inl ⟨hname, hstop⟩⟩, h⟩
      · exact ⟨stop, ⟨hdir, Or.inr ⟨hname, hsize, hstop⟩⟩, h⟩
    · rintro ⟨stop, ⟨hdir, ⟨hname, hstop⟩ | ⟨hname, hsize, hstop⟩⟩, h⟩
      · exact ⟨hdir, Or.inl ⟨hname, stop, hstop, h⟩⟩
      · exact ⟨hdir, Or.inr ⟨hname, hsize, stop, hstop, h⟩⟩

/-! ## Where a walk ends -/

theorem climb_reverse (hbase : ∀ b ∈ base, b ≠ parentName) :
    Path.climb true base.reverse parentName = base.dropLast.reverse := by
  rcases List.eq_nil_or_concat base with rfl | ⟨front, last, rfl⟩
  · rfl
  · rw [List.concat_eq_append, List.reverse_concat, List.dropLast_concat]
    exact Path.climb_cons_parent (hbase last (by simp)) _ _

/-- A walk ends where its names lead when double dots are taken out of them. -/
theorem walk_place (hbase : ∀ b ∈ base, b ≠ parentName) (h : t.walk base names = .ok r) :
    r.1 = (names.foldl (Path.climb true) base.reverse).reverse := by
  induction names generalizing base with
  | nil =>
    rw [(walk_nil_eq_ok.1 h).1, List.foldl_nil, List.reverse_reverse]
  | cons name names ih =>
    rw [List.foldl_cons]
    obtain ⟨-, ⟨rfl, hup⟩ | ⟨hname, -, hdown⟩⟩ := walk_cons_eq_ok.1 h
    · rw [climb_reverse hbase]
      exact ih (fun b hb => hbase b (List.dropLast_subset _ hb)) hup
    · rw [Path.climb_of_ne hname, ← List.reverse_concat]
      refine ih (fun b hb => ?_) hdown
      rcases List.mem_append.1 hb with hb | hb
      · exact hbase b hb
      · rwa [List.mem_singleton.1 hb]

theorem HasNode.ne_parent (h : t.HasNode place n) : ∀ name ∈ place, name ≠ parentName := by
  intro name hname
  have hplace : place = (place.foldl (Path.climb true) []).reverse := walk_place (by simp) h
  rw [hplace, List.mem_reverse] at hname
  exact (Path.mem_foldl_climb (by simp) hname).1

theorem hasNode_root : t.HasNode [] .directory := walk_nil_eq_ok.2 ⟨rfl, listed_root⟩

theorem HasNode.listed (h : t.HasNode place n) : t.entry? place = some n := listed_of_walk h

/-- A directory holds what is listed below it under a name that is not too long. -/
theorem HasNode.child (h : t.HasNode base .directory) (hname : name ≠ parentName)
    (hsize : Utf8.size name ≤ nameLimit) (hn : t.entry? (base ++ [name]) = some n) :
    t.HasNode (base ++ [name]) n := by
  refine walk_append.2
    ⟨(base, .directory), h, walk_cons_eq_ok.2 ⟨h.listed, Or.inr ⟨hname, hsize, ?_⟩⟩⟩
  exact walk_nil_eq_ok.2 ⟨rfl, hn⟩

/-- A name that leads somewhere is not too long. -/
theorem HasNode.size_le (h : t.HasNode (base ++ [name]) n) : Utf8.size name ≤ nameLimit := by
  obtain ⟨stop, -, hlast⟩ := walk_append.1 h
  obtain ⟨-, ⟨hparent, -⟩ | ⟨-, hsize, -⟩⟩ := walk_cons_eq_ok.1 hlast
  · rw [hparent]
    decide
  · exact hsize

theorem HasNode.parent (h : t.HasNode (base ++ [name]) n) : t.HasNode base .directory := by
  obtain ⟨stop, hstop, hlast⟩ := walk_append.1 h
  have hne : ∀ b ∈ base, b ≠ parentName := fun b hb => h.ne_parent b (List.mem_append_left _ hb)
  have hbase : stop.1 = base := by
    rw [walk_place (by simp) hstop, List.reverse_nil, Path.foldl_climb_eq true hne, List.append_nil,
      List.reverse_reverse]
  have hdir := (walk_cons_eq_ok.1 hlast).1
  rcases stop with ⟨reached, m⟩
  simp only at hbase hdir
  subst hbase
  have hm : m = .directory := Option.some.inj ((listed_of_walk hstop).symm.trans hdir)
  rwa [hm] at hstop

theorem HasNode.dropLast (h : t.HasNode base .directory) : t.HasNode base.dropLast .directory := by
  rcases List.eq_nil_or_concat base with rfl | ⟨front, last, rfl⟩
  · exact h
  · rw [List.concat_eq_append] at h
    rw [List.concat_eq_append, List.dropLast_concat]
    exact h.parent

/-- Where a walk ends, a walk from the root along the place ends as well. -/
theorem hasNode_of_walk (hbase : t.HasNode base m) (h : t.walk base names = .ok (place, n)) :
    t.HasNode place n := by
  induction names generalizing base m with
  | nil =>
    obtain ⟨rfl, hn⟩ := walk_nil_eq_ok.1 h
    rw [hbase.listed, Option.some.injEq] at hn
    rwa [hn] at hbase
  | cons name names ih =>
    obtain ⟨hdir, hstep⟩ := walk_cons_eq_ok.1 h
    rw [hbase.listed, Option.some.injEq] at hdir
    rw [hdir] at hbase
    rcases hstep with ⟨-, h⟩ | ⟨hname, hsize, h⟩
    · exact ih hbase.dropLast h
    · obtain ⟨k, hk⟩ := exists_listed h
      exact ih (hbase.child hname hsize hk) h

theorem walk_parts {p : Path} (hp : p.anchor ≠ .here) (h : t.walk [] p.parts = .ok (place, n)) :
    place = p.normal.parts ∧ t.HasNode place n := by
  refine ⟨?_, hasNode_of_walk hasNode_root h⟩
  rw [Path.normal, Path.isAnchored_iff.2 hp]
  exact walk_place (by simp) h

/-- A path that ends in double dots leads to a directory. -/
theorem directory_of_walk_parent (h : t.walk [] (names ++ [parentName]) = .ok r) :
    r.2 = .directory := by
  obtain ⟨⟨stop, m⟩, hstop, hlast⟩ := walk_append.1 h
  have hnode := hasNode_of_walk hasNode_root hstop
  obtain ⟨hdir, ⟨-, hup⟩ | ⟨hne, -⟩⟩ := walk_cons_eq_ok.1 hlast
  · obtain ⟨-, hn⟩ := walk_nil_eq_ok.1 hup
    have hm : m = .directory := Option.some.inj (hnode.listed.symm.trans hdir)
    subst hm
    exact Option.some.inj (hn.symm.trans hnode.dropLast.listed)
  · exact absurd rfl hne

/-! ## Questions about files -/

theorem hasAt_iff {test : Node → Bool} : t.hasAt test place = true ↔ ∃ n, t.HasNode place n ∧
    test n = true := by
  rw [hasAt]
  constructor
  · intro h
    split at h
    · next reached n hwalk =>
      rw [Bool.and_eq_true, decide_eq_true_iff] at h
      obtain ⟨rfl, htest⟩ := h
      exact ⟨n, hwalk, htest⟩
    · exact absurd h Bool.false_ne_true
  · rintro ⟨n, hwalk, htest⟩
    rw [HasNode] at hwalk
    simp [hwalk, htest]

theorem hasAt_isFileNode : t.hasAt isFileNode place = true ↔ ∃ content, t.HasNode place
    (.file content) := by
  rw [hasAt_iff]
  constructor
  · rintro ⟨n, hnode, hfile⟩
    cases n with
    | directory => exact absurd hfile (by decide)
    | file content => exact ⟨content, hnode⟩
  · rintro ⟨content, hnode⟩
    exact ⟨.file content, hnode, rfl⟩

theorem walk_of_resolve {p : Path} (h : t.resolve p = .ok r) : t.walk [] p.parts = .ok r := by
  unfold resolve at h
  split_ifs at h
  exact h

theorem resolve_of_holds {p : Path} {test : Node → Bool} (h : t.holds p test = .ok true) :
    ∃ r, t.resolve p = .ok r ∧ test r.2 = true := by
  unfold holds at h
  split at h
  · next place n hr => exact ⟨(place, n), hr, Except.ok.inj h⟩
  · exact absurd h (by simp)
  · exact absurd h (by simp)

/-- All but the root is there because it is listed. -/
theorem HasNode.mem_nodes (h : t.HasNode place n) (hplace : place ≠ []) : (place, n) ∈ t.nodes := by
  have hentry := h.listed
  unfold entry? at hentry
  rw [if_neg hplace] at hentry
  obtain ⟨front, back, hnodes, -⟩ := List.lookup_eq_some_iff.1 hentry
  rw [hnodes]
  exact List.mem_append_right _ List.mem_cons_self

theorem WellNamed.names_of_hasNode (ht : t.WellNamed) (h : t.HasNode place n) :
    ∀ name ∈ place, IsFileName name :=
  fun name hname => ht (place, n) (h.mem_nodes (List.ne_nil_of_mem hname)) name hname

structure IsFileAt (t : FileTree) (p : Path) : Prop where
  anchored : p.anchor ≠ .here
  hasAt : t.hasAt isFileNode p.parts = true

theorem IsFileAt.isPlace {p : Path} (h : t.IsFileAt p) (ht : t.WellNamed) : p.IsPlace := by
  obtain ⟨content, hnode⟩ := hasAt_isFileNode.1 h.hasAt
  exact ⟨h.anchored, ht.names_of_hasNode hnode⟩

theorem exists_walk_of_isFile {p : Path} (h : t.isFile p = .ok true) :
    ∃ place content, t.walk [] p.parts = .ok (place, .file content) := by
  obtain ⟨⟨place, n⟩, hr, hfile⟩ := resolve_of_holds h
  cases n with
  | directory => simp at hfile
  | file content => exact ⟨place, content, walk_of_resolve hr⟩

theorem isFileAt_of_isFile {p : Path} (hp : p.anchor ≠ .here) (h : t.isFile p = .ok true) :
    t.IsFileAt p.normal := by
  obtain ⟨place, content, hwalk⟩ := exists_walk_of_isFile h
  obtain ⟨rfl, hnode⟩ := walk_parts hp hwalk
  exact ⟨hp, hasAt_isFileNode.2 ⟨content, hnode⟩⟩

/-- At a place, a file is what the question says, as long as the path can be asked about. -/
theorem isFile_iff {p : Path} (hp : p.IsPlace) :
    t.isFile p = .ok true ↔
      t.IsFileAt p ∧ p.toText.contains '\x00' = false ∧ Utf8.size p.toText < pathLimit := by
  constructor
  · intro h
    have hfile := isFileAt_of_isFile hp.anchored h
    rw [hp.normal_eq] at hfile
    obtain ⟨r, hr, -⟩ := resolve_of_holds h
    unfold resolve at hr
    split_ifs at hr with hnul hsize
    exact ⟨hfile, Bool.eq_false_iff.2 hnul, Nat.lt_of_not_le hsize⟩
  · rintro ⟨hfile, hnul, hsize⟩
    obtain ⟨content, hnode⟩ := hasAt_isFileNode.1 hfile.hasAt
    have hresolve : t.resolve p = .ok (p.parts, .file content) := by
      unfold resolve
      rwa [hnul, if_neg Bool.false_ne_true, if_neg (Nat.not_le_of_lt hsize)]
    rw [isFile, holds, hresolve]
    rfl

end SourceReach.FileTree
