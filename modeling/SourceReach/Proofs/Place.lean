import Mathlib.Tactic.SplitIfs
import SourceReach.Path
import SourceReach.Proofs.Pieces

/-!
# Places and their one name

A place is an anchored path of names that files can have. Every text names a place
(`isPlace_locate`), and `Path.shownFrom` writes a place so that it is found again
(`locate_shownFrom`). Hence two texts have one `Path.nameFrom` just when they name one place.
-/

namespace SourceReach

/-- A name that a file or a directory can have, and that both kinds of slashes leave alone. -/
structure IsFileName (name : Text) : Prop where
  isName : Path.isName name = true
  ne_parent : name ≠ parentName
  noSlash : '/' ∉ name
  noBackslash : '\\' ∉ name

instance (name : Text) : Decidable (IsFileName name) :=
  decidable_of_iff (Path.isName name = true ∧ name ≠ parentName ∧ '/' ∉ name ∧ '\\' ∉ name)
    ⟨fun ⟨h, hne, hslash, hback⟩ => ⟨h, hne, hslash, hback⟩,
      fun h => ⟨h.isName, h.ne_parent, h.noSlash, h.noBackslash⟩⟩

namespace Path

/-- A path that says where it starts and goes down from there. -/
structure IsPlace (p : Path) : Prop where
  anchored : p.anchor ≠ .here
  names : ∀ name ∈ p.parts, IsFileName name

instance (p : Path) : Decidable p.IsPlace :=
  decidable_of_iff (p.anchor ≠ .here ∧ ∀ name ∈ p.parts, IsFileName name)
    ⟨fun ⟨ha, hn⟩ => ⟨ha, hn⟩, fun h => ⟨h.anchored, h.names⟩⟩

/-- The name of a place as seen from a directory. -/
def shownFrom (base place : Path) : Text :=
  match below? base place with
  | some parts => (Path.mk .here parts).toText
  | none => place.toText

def IsBelow (base place : Path) : Prop :=
  ∃ names, names ≠ [] ∧ place = ⟨base.anchor, base.parts ++ names⟩

theorem nameFrom_eq (base : Path) (t : Text) :
    nameFrom base t = shownFrom base (locate base t) := rfl

variable {p q base place : Path} {t : Text}

theorem ne_nil_of_isName {name : Text} (h : isName name = true) : name ≠ [] := by
  rintro rfl
  exact absurd h (by decide)

/-! ## Reading what is written -/

theorem head?_joined_ne_slash {names : List Text}
    (h : ∀ name ∈ names, isName name = true ∧ '/' ∉ name) :
    (Text.joined ['/'] names).head? ≠ some '/' := by
  cases names with
  | nil => exact nofun
  | cons name names =>
    obtain ⟨hname, hslash⟩ := h name List.mem_cons_self
    rw [Text.head?_joined (ne_nil_of_isName hname)]
    exact fun hhead => hslash (List.mem_of_head? hhead)

theorem anchor_ofText_append (a : Anchor) {s : Text} (h : s.head? ≠ some '/') :
    Anchor.ofText (a.toText ++ s) = a := by
  rcases s with _ | ⟨c, s⟩
  · cases a <;> rfl
  · have hc : c ≠ '/' := fun hc => h (congrArg some hc)
    cases a <;> simp [Anchor.ofText, Anchor.toText, hc]

theorem filter_pieces_joined {names : List Text}
    (h : ∀ name ∈ names, isName name = true ∧ '/' ∉ name) :
    (Text.pieces '/' (Text.joined ['/'] names)).filter isName = names := by
  cases names with
  | nil => rfl
  | cons name names =>
    rw [Text.pieces_joined (List.cons_ne_nil _ _) fun n hn => (h n hn).2]
    exact List.filter_eq_self.2 fun n hn => (h n hn).1

theorem filter_pieces_anchor (a : Anchor) (s : Text) :
    (Text.pieces '/' (a.toText ++ s)).filter isName = (Text.pieces '/' s).filter isName := by
  cases a <;> rfl

theorem ofText_toText (h : ∀ name ∈ p.parts, isName name = true ∧ '/' ∉ name) :
    ofText p.toText = p := by
  rcases p with ⟨a, names⟩
  rw [toText]
  split_ifs with hdot
  · obtain ⟨rfl, rfl⟩ := hdot
    rfl
  · rw [ofText, anchor_ofText_append a (head?_joined_ne_slash h), filter_pieces_anchor,
      filter_pieces_joined h]

theorem mem_parts_ofText {name : Text} (h : name ∈ (ofText t).parts) :
    isName name = true ∧ '/' ∉ name ∧ ∀ c ∈ name, c ∈ t := by
  obtain ⟨hpiece, hname⟩ := List.mem_filter.1 h
  exact ⟨hname, Text.notMem_of_mem_pieces hpiece, fun c hc => Text.mem_of_mem_pieces hpiece hc⟩

theorem notMem_toText {c : Char} (hslash : c ≠ '/') (hdot : c ≠ '.')
    (h : ∀ name ∈ p.parts, c ∉ name) :
    c ∉ p.toText := by
  intro hc
  rw [toText] at hc
  split_ifs at hc with hhere
  · exact hdot (List.mem_singleton.1 hc)
  · rcases List.mem_append.1 hc with hc | hc
    · cases ha : p.anchor <;> simp [ha, Anchor.toText, hslash] at hc
    · rcases Text.mem_joined hc with hc | ⟨name, hname, hc⟩
      · exact hslash (List.mem_singleton.1 hc)
      · exact h name hname hc

/-! ## Taking out double dots -/

theorem climb_of_ne {name : Text} (h : name ≠ parentName) (a : Bool) (above : List Text) :
    climb a above name = name :: above := by
  rw [climb.eq_def, if_pos h]

@[simp] theorem climb_nil_parent : climb true [] parentName = [] := rfl

theorem climb_cons_parent {top : Text} (h : top ≠ parentName) (a : Bool) (rest : List Text) :
    climb a (top :: rest) parentName = rest := by
  simp only [climb, ne_eq, not_true_eq_false, if_false, if_neg h]

theorem foldl_climb_eq {names above : List Text} (a : Bool)
    (h : ∀ name ∈ names, name ≠ parentName) :
    names.foldl (climb a) above = names.reverse ++ above := by
  induction names generalizing above with
  | nil => rfl
  | cons name names ih =>
    obtain ⟨hname, hnames⟩ := List.forall_mem_cons.1 h
    rw [List.foldl_cons, climb_of_ne hname, ih hnames]
    simp

theorem normal_eq_self (h : ∀ name ∈ p.parts, name ≠ parentName) : p.normal = p := by
  rw [normal, foldl_climb_eq _ h, List.append_nil, List.reverse_reverse]

/-- Names below a path stay where they are when double dots are taken out of the path. -/
theorem normal_append {a : Anchor} {parts names : List Text}
    (h : ∀ name ∈ names, name ≠ parentName) :
    (Path.mk a (parts ++ names)).normal = ⟨a, (Path.mk a parts).normal.parts ++ names⟩ := by
  unfold normal
  dsimp only
  rw [List.foldl_append, foldl_climb_eq _ h, List.reverse_append, List.reverse_reverse]
  rfl

theorem mem_climb {first name : Text} {above : List Text}
    (habove : ∀ name ∈ above, name ≠ parentName)
    (h : name ∈ climb true above first) : name ≠ parentName ∧ (name = first ∨ name ∈ above) := by
  by_cases hfirst : first = parentName
  · rcases above with _ | ⟨top, rest⟩
    · rw [hfirst, climb_nil_parent] at h
      exact absurd h List.not_mem_nil
    · rw [hfirst, climb_cons_parent (habove top List.mem_cons_self)] at h
      have hmem : name ∈ top :: rest := List.mem_cons_of_mem _ h
      exact ⟨habove name hmem, Or.inr hmem⟩
  · rw [climb_of_ne hfirst] at h
    rcases List.mem_cons.1 h with rfl | hmem
    · exact ⟨hfirst, Or.inl rfl⟩
    · exact ⟨habove name hmem, Or.inr hmem⟩

/-- At an anchor, what climbing leaves are names of the path that are no double dots. -/
theorem mem_foldl_climb {names above : List Text}
    (habove : ∀ name ∈ above, name ≠ parentName) {name : Text}
    (h : name ∈ names.foldl (climb true) above) :
    name ≠ parentName ∧ (name ∈ names ∨ name ∈ above) := by
  induction names generalizing above with
  | nil => exact ⟨habove name h, Or.inr h⟩
  | cons first names ih =>
    obtain ⟨hne, hmem⟩ := ih (fun n hn => (mem_climb habove hn).1) h
    refine ⟨hne, ?_⟩
    rcases hmem with hmem | hmem
    · exact Or.inl (List.mem_cons_of_mem _ hmem)
    · rcases (mem_climb habove hmem).2 with rfl | hmem
      · exact Or.inl List.mem_cons_self
      · exact Or.inr hmem

theorem isAnchored_iff : p.isAnchored = true ↔ p.anchor ≠ .here := by simp [isAnchored]

theorem mem_parts_normal (hp : p.anchor ≠ .here) {name : Text} (h : name ∈ p.normal.parts) :
    name ≠ parentName ∧ name ∈ p.parts := by
  rw [normal, isAnchored_iff.2 hp] at h
  obtain ⟨hne, hmem⟩ := mem_foldl_climb (by simp) (List.mem_reverse.1 h)
  exact ⟨hne, hmem.resolve_right List.not_mem_nil⟩

/-! ## Places -/

theorem IsPlace.writable (h : p.IsPlace) : ∀ name ∈ p.parts, isName name = true ∧ '/' ∉ name :=
  fun name hname => ⟨(h.names name hname).isName, (h.names name hname).noSlash⟩

theorem IsPlace.normal_eq (h : p.IsPlace) : p.normal = p :=
  normal_eq_self fun name hname => (h.names name hname).ne_parent

theorem forward_toText (h : ∀ name ∈ p.parts, '\\' ∉ name) : forward p.toText = p.toText :=
  Text.substitute_eq_self (notMem_toText (by decide) (by decide) h)

theorem join_of_anchored (h : q.anchor ≠ .here) : base.join q = q := by
  rw [join, isAnchored_iff.2 h, if_pos rfl]

theorem join_of_here (h : q.anchor = .here) :
    base.join q = ⟨base.anchor, base.parts ++ q.parts⟩ := by
  have hq : q.isAnchored = false := by simp [isAnchored, h]
  rw [join, hq, if_neg Bool.false_ne_true]

theorem anchor_join (hbase : base.anchor ≠ .here) (q : Path) : (base.join q).anchor ≠ .here := by
  by_cases h : q.anchor = .here
  · rwa [join_of_here h]
  · rwa [join_of_anchored h]

theorem mem_parts_join {name : Text} (h : name ∈ (base.join q).parts) :
    name ∈ base.parts ∨ name ∈ q.parts := by
  by_cases hq : q.anchor = .here
  · rw [join_of_here hq] at h
    exact List.mem_append.1 h
  · rw [join_of_anchored hq] at h
    exact Or.inr h

theorem isPlace_locate (hbase : base.IsPlace) (t : Text) : (locate base t).IsPlace := by
  have hanchor := anchor_join hbase.anchored (ofText (forward t))
  refine ⟨hanchor, fun name hname => ?_⟩
  obtain ⟨hne, hmem⟩ := mem_parts_normal hanchor hname
  rcases mem_parts_join hmem with hmem | hmem
  · exact hbase.names name hmem
  · obtain ⟨hread, hslash, hchars⟩ := mem_parts_ofText hmem
    exact ⟨hread, hne, hslash, fun hback => Text.notMem_substitute (by decide) t (hchars _ hback)⟩

/-- An anchored path is read from any directory as it is written, but for its double dots. -/
theorem locate_toText_eq_normal (hp : p.anchor ≠ .here)
    (hread : ∀ name ∈ p.parts, isName name = true ∧ '/' ∉ name)
    (hback : ∀ name ∈ p.parts, '\\' ∉ name) : locate base p.toText = p.normal := by
  rw [locate, forward_toText hback, ofText_toText hread, join_of_anchored hp]

theorem locate_toText (hq : q.IsPlace) : locate base q.toText = q := by
  have hback : ∀ name ∈ q.parts, '\\' ∉ name := fun name hname => (hq.names name hname).noBackslash
  rw [locate_toText_eq_normal hq.anchored hq.writable hback, hq.normal_eq]

theorem below?_eq_some {parts : List Text} (h : below? base place = some parts) :
    place = ⟨base.anchor, base.parts ++ parts⟩ := by
  rw [below?] at h
  split_ifs at h with hbelow
  obtain ⟨hanchor, hprefix⟩ := hbelow
  obtain ⟨rest, hrest⟩ := List.isPrefixOf_iff_prefix.1 hprefix
  have hparts : parts = rest := by rw [← Option.some.inj h, ← hrest, List.drop_left]
  rcases place with ⟨a, names⟩
  simp only at hanchor hrest
  rw [hanchor, hparts, hrest]

theorem below?_append (base : Path) (names : List Text) :
    below? base ⟨base.anchor, base.parts ++ names⟩ = some names := by
  rw [below?, if_pos ⟨rfl, List.isPrefixOf_iff_prefix.2 (List.prefix_append _ _)⟩, List.drop_left]

theorem isBelow_iff : base.IsBelow place ↔ (below? base place).any (· ≠ []) = true := by
  rw [Option.any_eq_true]
  constructor
  · rintro ⟨names, hne, rfl⟩
    exact ⟨names, below?_append base names, decide_eq_true hne⟩
  · rintro ⟨names, hbelow, hne⟩
    exact ⟨names, of_decide_eq_true hne, below?_eq_some hbelow⟩

instance (base place : Path) : Decidable (base.IsBelow place) := decidable_of_iff _ isBelow_iff.symm

/-- The name of a place leads back to it. -/
theorem locate_shownFrom (hplace : place.IsPlace) : locate base (shownFrom base place) = place := by
  rw [shownFrom]
  cases h : below? base place with
  | none => exact locate_toText hplace
  | some parts =>
    have heq := below?_eq_some h
    have hnames : ∀ name ∈ parts, IsFileName name := fun name hname =>
      hplace.names name (by rw [heq]; exact List.mem_append_right _ hname)
    rw [locate, forward_toText fun name hname => (hnames name hname).noBackslash,
      ofText_toText fun name hname => ⟨(hnames name hname).isName, (hnames name hname).noSlash⟩,
      join_of_here rfl, ← heq, hplace.normal_eq]

theorem nameFrom_shownFrom (hplace : place.IsPlace) :
    nameFrom base (shownFrom base place) = shownFrom base place := by
  rw [nameFrom_eq, locate_shownFrom hplace]

theorem shownFrom_injective {other : Path} (hplace : place.IsPlace) (hother : other.IsPlace)
    (h : shownFrom base place = shownFrom base other) : place = other := by
  have hlocate := congrArg (locate base) h
  rwa [locate_shownFrom hplace, locate_shownFrom hother] at hlocate

end Path

end SourceReach
