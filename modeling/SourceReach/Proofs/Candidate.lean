import SourceReach.Proofs.Matches
import SourceReach.Proofs.Outcome
import SourceReach.Proofs.Walk

/-!
# The file of a qualified name

A dotted name that starts with a word character leads down from the source root
(`candidate_of_head_ne_dot`). One that starts with a dot is read as an anchored path, which does not
depend on the source root (`candidate_of_head_eq_dot`). In both cases a name that is resolved means
a file of the tree (`isFileAt_of_resolve`).
-/

namespace SourceReach

/-! ## Characters of names -/

theorem IsDottedName.notMem {name : Text} (h : IsDottedName name) {c : Char}
    (hc : Rule.isNameChar c = false) :
    c ∉ name := by
  intro hmem
  rw [h.chars c hmem] at hc
  exact absurd hc (by decide)

/-- The names that continue the package start with a dot. -/
def Package.LeadsDot (base : Text) : Prop := base = [] ∨ base.head? = some '.'

instance (base : Text) : Decidable (Package.LeadsDot base) :=
  inferInstanceAs (Decidable (base = [] ∨ base.head? = some '.'))

/-- Whether a name of a base package starts with a dot is told by the base package. -/
theorem Package.leadsDot_iff {base name : Text} (hne : name ≠ []) (h : contains base name = true) :
    LeadsDot base ↔ name.head? = some '.' := by
  unfold LeadsDot
  rcases (Bool.or_eq_true _ _).mp h with heq | hprefix
  · obtain rfl := eq_of_beq heq
    exact or_iff_right hne
  · obtain ⟨rest, rfl⟩ := List.isPrefixOf_iff_prefix.1 hprefix
    cases base with
    | nil => simp
    | cons c base => simp

namespace SourceRoot

/-- The names that the file of a qualified name has: dots as slashes, and the extension at the
end. -/
def namesOf (s : SourceRoot) (name : Text) : List Text :=
  (Path.ofText (Text.substitute '.' '/' name ++ s.extension)).parts

/-- The path of these names below the source root. -/
def fileBelow (s : SourceRoot) (name : Text) : Path :=
  ⟨s.place.anchor, s.place.parts ++ s.namesOf name⟩

/-- The extension is part of a single name. -/
structure Simple (s : SourceRoot) : Prop where
  noSlash : '/' ∉ s.extension
  noBackslash : '\\' ∉ s.extension

instance (s : SourceRoot) : Decidable s.Simple :=
  decidable_of_iff ('/' ∉ s.extension ∧ '\\' ∉ s.extension)
    ⟨fun ⟨hs, hb⟩ => ⟨hs, hb⟩, fun h => ⟨h.noSlash, h.noBackslash⟩⟩

variable {s : SourceRoot} {tree : FileTree} {name p : Text}

theorem anchor_ofText_slash (t : Text) : Anchor.ofText ('/' :: t) ≠ .here := by
  unfold Anchor.ofText
  split
  · exact nofun
  · exact nofun
  · exact nofun
  · next hslash => exact absurd rfl (hslash t)

theorem candidate_of_head_eq_dot (h : name.head? = some '.') :
    s.candidate name = Path.ofText (Text.substitute '.' '/' name ++ s.extension) := by
  obtain ⟨rest, rfl⟩ := List.head?_eq_some_iff.1 h
  exact Path.join_of_anchored (anchor_ofText_slash _)

/-- A name that starts with a word character leads down from the source root, by one name at
least. -/
theorem candidate_of_head_ne_dot (hname : IsDottedName name) (h : name.head? ≠ some '.') :
    s.namesOf name ≠ [] ∧ s.candidate name = s.fileBelow name := by
  obtain ⟨c, rest, rfl⟩ := List.exists_cons_of_ne_nil hname.ne_nil
  have hdot : c ≠ '.' := fun hc => h (congrArg some hc)
  have hslash : c ≠ '/' := by
    rintro rfl
    exact hname.notMem (by decide) List.mem_cons_self
  have htext : Text.substitute '.' '/' (c :: rest) ++ s.extension =
      c :: (Text.substitute '.' '/' rest ++ s.extension) := by
    simp [Text.substitute, hdot]
  have hanchor : (Path.ofText (Text.substitute '.' '/' (c :: rest) ++ s.extension)).anchor =
      .here := by
    rw [htext]
    simp [Path.ofText, Anchor.ofText, hslash]
  refine ⟨?_, Path.join_of_here hanchor⟩
  obtain ⟨piece, pieces, hpieces⟩ := Text.head?_pieces hslash
    (Text.substitute '.' '/' rest ++ s.extension)
  rw [namesOf, htext, Path.ofText]
  dsimp only
  rw [hpieces]
  refine List.ne_nil_of_mem (List.mem_filter.2 ⟨List.mem_cons_self, ?_⟩)
  simp [Path.isName, hdot]

/-- A name has its file below the source root just when it does not start with a dot, but for a
source root in which all anchored paths start. -/
theorem candidate_eq_fileBelow_iff (hname : IsDottedName name) :
    s.candidate name = s.fileBelow name ↔ name.head? ≠ some '.' ∨
    s.place = ⟨(s.candidate name).anchor, []⟩ := by
  by_cases h : name.head? = some '.'
  · rw [or_iff_right fun hne => hne h, candidate_of_head_eq_dot h, fileBelow, namesOf]
    rcases s.place with ⟨anchor, names⟩
    simp only [Path.ofText, Path.mk.injEq, List.self_eq_append_left]
    rw [eq_comm]
  · exact iff_of_true (candidate_of_head_ne_dot hname h).2 (Or.inl h)

theorem mem_namesOf (hs : s.Simple) (hname : IsDottedName name) {part : Text}
    (h : part ∈ s.namesOf name) :
    Path.isName part = true ∧ '/' ∉ part ∧ '\\' ∉ part := by
  obtain ⟨hpart, hslash, hchars⟩ := Path.mem_parts_ofText h
  refine ⟨hpart, hslash, fun hback => ?_⟩
  rcases List.mem_append.1 (hchars _ hback) with hmem | hmem
  · rcases Text.mem_substitute hmem with heq | ⟨hmem, -⟩
    · exact absurd heq (by decide)
    · exact hname.notMem (by decide) hmem
  · exact hs.noBackslash hmem

/-- Only the extension has dots, so double dots stand at the end if at all. -/
theorem parent_mem_namesOf (hs : s.Simple) (h : parentName ∈ s.namesOf name) :
    ∃ front, s.namesOf name = front ++ [parentName] := by
  obtain ⟨front, last, hpieces, happend⟩ :=
    Text.pieces_append hs.noSlash (Text.substitute '.' '/' name)
  rw [namesOf, Path.ofText, happend] at h ⊢
  dsimp only at h ⊢
  rw [List.filter_append] at h ⊢
  rcases List.mem_append.1 h with h | h
  · have hpiece : parentName ∈ Text.pieces '/' (Text.substitute '.' '/' name) := by
      rw [hpieces]
      exact List.mem_append_left _ (List.mem_filter.1 h).1
    have hdot : '.' ∈ Text.substitute '.' '/' name := Text.mem_of_mem_pieces hpiece (by decide)
    exact absurd hdot (Text.notMem_substitute (by decide) name)
  · obtain ⟨hlast, hname⟩ := List.mem_filter.1 h
    rw [← List.mem_singleton.1 hlast]
    exact ⟨front.filter Path.isName, by rw [List.filter_cons_of_pos hname, List.filter_nil]⟩

theorem resolve_eq_some (h : s.resolve tree name = .ok (some p)) :
    tree.isFile (s.candidate name) = .ok true ∧
    p = s.project.nameFrom (s.candidate name).toText := by
  unfold resolve at h
  dsimp only at h
  obtain ⟨there, hthere, h⟩ := Except.bind_eq_ok.1 h
  rw [Except.expected_eq_ok] at hthere
  cases there with
  | false => exact absurd (Except.pure_eq_ok.1 h) nofun
  | true => exact ⟨hthere, (Option.some.inj (Except.pure_eq_ok.1 h)).symm⟩

/-- A candidate below the source root that is a file does not lead up again. -/
theorem normal_candidate (hs : s.Simple) (hplace : s.place.IsPlace)
    (hcandidate : s.candidate name = s.fileBelow name)
    (hfile : tree.isFile (s.candidate name) = .ok true) :
    (s.candidate name).normal = s.candidate name := by
  refine Path.normal_eq_self fun part hpart hparent => ?_
  subst hparent
  rcases Path.mem_parts_join hpart with hmem | hmem
  · exact (hplace.names _ hmem).ne_parent rfl
  · obtain ⟨front, hfront⟩ := parent_mem_namesOf hs hmem
    obtain ⟨place, content, hwalk⟩ := FileTree.exists_walk_of_isFile hfile
    rw [hcandidate, fileBelow] at hwalk
    dsimp only at hwalk
    rw [hfront, ← List.append_assoc] at hwalk
    exact absurd (FileTree.directory_of_walk_parent hwalk) nofun

/-- The file that a name is resolved to is a file of the tree. It lies below the source root, unless
the name starts with a dot. -/
theorem isFileAt_of_resolve (hs : s.Simple) (hplace : s.place.IsPlace) (hname : IsDottedName name)
    (h : s.resolve tree name = .ok (some p)) :
    ∃ place, tree.IsFileAt place ∧ p = s.project.shownFrom place ∧
      (name.head? ≠ some '.' → s.place.IsBelow place) ∧
      (name.head? = some '.' →
        place = (Path.ofText (Text.substitute '.' '/' name ++ s.extension)).normal) := by
  obtain ⟨hfile, rfl⟩ := resolve_eq_some h
  have hanchor : (s.candidate name).anchor ≠ .here := Path.anchor_join hplace.anchored _
  have hread : ∀ part ∈ (s.candidate name).parts, Path.isName part = true ∧ '/' ∉ part ∧
      '\\' ∉ part := by
    intro part hpart
    rcases Path.mem_parts_join hpart with hmem | hmem
    · exact ⟨(hplace.names part hmem).isName, (hplace.names part hmem).noSlash,
        (hplace.names part hmem).noBackslash⟩
    · exact mem_namesOf hs hname hmem
  refine ⟨(s.candidate name).normal, FileTree.isFileAt_of_isFile hanchor hfile, ?_, fun hhead => ?_,
    fun hhead => ?_⟩
  · rw [Path.nameFrom_eq, Path.locate_toText_eq_normal hanchor (fun part hpart => ?_)
      fun part hpart => ?_]
    · exact ⟨(hread part hpart).1, (hread part hpart).2.1⟩
    · exact (hread part hpart).2.2
  · obtain ⟨hne, hcandidate⟩ := candidate_of_head_ne_dot (s := s) hname hhead
    rw [normal_candidate hs hplace hcandidate hfile, hcandidate]
    exact ⟨s.namesOf name, hne, rfl⟩
  · rw [candidate_of_head_eq_dot hhead]

end SourceRoot

end SourceReach
