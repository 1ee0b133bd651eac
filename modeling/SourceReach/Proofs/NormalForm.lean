import SourceReach.Proofs.Place

/-!
# The form of the one name of a place

A path is written without doubled slashes (`not_doubled_toText`), and cutting the text at its
slashes gives back the names of the path and nothing else but the empty pieces of the anchor
(`mem_pieces_toText`). So the one name of a place is in normal form, and it shows by its first
character whether the place lies below the directory that names are read from
(`nameFrom_normalForm`).
-/

namespace SourceReach

namespace Path

variable {base p place : Path} {piece t : Text} {names : List Text}

/-- A text in normal form: no backslash, no piece between slashes that is a dot or double dots, and
slashes next to each other only where the text starts. -/
structure IsNormalForm (t : Text) : Prop where
  noBackslash : '\\' ∉ t
  noDot : ['.'] ∉ Text.pieces '/' t
  noParent : parentName ∉ Text.pieces '/' t
  noDoubledSlash : ¬['/', '/'] <:+: t.tail

/-! ## Written paths -/

theorem not_doubled_joined (h : ∀ name ∈ names, isName name = true ∧ '/' ∉ name) :
    ¬['/', '/'] <:+: Text.joined ['/'] names := by
  intro hdoubled
  have hnil := Text.nil_mem_pieces_of_doubled hdoubled
  by_cases hne : names = []
  · subst hne
    exact absurd hdoubled.length_le (by decide)
  · rw [Text.pieces_joined hne fun name hname => (h name hname).2] at hnil
    exact ne_nil_of_isName (h [] hnil).1 rfl

theorem not_doubled_toText (h : ∀ name ∈ p.parts, isName name = true ∧ '/' ∉ name) :
    ¬['/', '/'] <:+: p.toText.tail := by
  have hjoined := not_doubled_joined h
  unfold toText
  split_ifs with hhere
  · intro hdoubled
    exact absurd hdoubled.length_le (by decide)
  · cases ha : p.anchor with
    | here =>
      intro hdoubled
      exact hjoined (hdoubled.trans (List.tail_suffix _).isInfix)
    | root => exact hjoined
    | doubleRoot =>
      show ¬['/', '/'] <:+: '/' :: Text.joined ['/'] p.parts
      rw [List.infix_cons_iff]
      rintro (hstart | hdoubled)
      · obtain ⟨rest, hrest⟩ := (List.cons_prefix_cons.1 hstart).2
        exact head?_joined_ne_slash h (by rw [← hrest]; rfl)
      · exact hjoined hdoubled

theorem mem_pieces_anchor (a : Anchor) (h : piece ∈ Text.pieces '/' (a.toText ++ t)) :
    piece = [] ∨ piece ∈ Text.pieces '/' t := by
  cases a with
  | here => exact Or.inr h
  | root =>
    change piece ∈ Text.pieces '/' ('/' :: t) at h
    rw [Text.pieces_sep] at h
    exact List.mem_cons.1 h
  | doubleRoot =>
    change piece ∈ Text.pieces '/' ('/' :: '/' :: t) at h
    rw [Text.pieces_sep, Text.pieces_sep] at h
    rcases List.mem_cons.1 h with hnil | h
    · exact Or.inl hnil
    · exact List.mem_cons.1 h

/-- Between the slashes of a written path stand its names, and nothing. -/
theorem mem_pieces_toText (hslash : ∀ name ∈ p.parts, '/' ∉ name)
    (hne : ¬(p.anchor = .here ∧ p.parts = []))
    (h : piece ∈ Text.pieces '/' p.toText) : piece = [] ∨ piece ∈ p.parts := by
  rw [toText, if_neg hne] at h
  rcases mem_pieces_anchor p.anchor h with hnil | h
  · exact Or.inl hnil
  · by_cases hparts : p.parts = []
    · rw [hparts] at h
      exact Or.inl (List.mem_singleton.1 h)
    · rw [Text.pieces_joined hparts hslash] at h
      exact Or.inr h

theorem isNormalForm_toText (h : ∀ name ∈ p.parts, IsFileName name)
    (hne : ¬(p.anchor = .here ∧ p.parts = [])) :
    IsNormalForm p.toText := by
  have hpiece : ∀ piece ∈ Text.pieces '/' p.toText, piece = [] ∨ IsFileName piece := by
    intro piece hpiece
    rcases mem_pieces_toText (fun name hname => (h name hname).noSlash) hne hpiece with hnil | hmem
    · exact Or.inl hnil
    · exact Or.inr (h piece hmem)
  refine ⟨?_, ?_, ?_, ?_⟩
  · exact notMem_toText (by decide) (by decide) fun name hname => (h name hname).noBackslash
  · intro hdot
    rcases hpiece _ hdot with hnil | hname
    · exact absurd hnil (by decide)
    · exact absurd hname.isName (by decide)
  · intro hparent
    rcases hpiece _ hparent with hnil | hname
    · exact absurd hnil (by decide)
    · exact hname.ne_parent rfl
  · exact not_doubled_toText fun name hname => ⟨(h name hname).isName, (h name hname).noSlash⟩

theorem head?_toText (h : ∀ name ∈ p.parts, isName name = true ∧ '/' ∉ name) :
    p.toText.head? = some '/' ↔ p.anchor ≠ .here := by
  have hhead := head?_joined_ne_slash h
  unfold toText
  split_ifs with hhere
  · simp [hhere.1]
  · cases ha : p.anchor with
    | here => simpa [Anchor.toText] using hhead
    | root => simp [Anchor.toText]
    | doubleRoot => simp [Anchor.toText]

/-! ## Shown places -/

/-- A place is shown in one of two ways: by the names that lead down to it, or as an anchored path
if there are none. -/
theorem shownFrom_cases (base place : Path) :
    (∃ names, place = ⟨base.anchor, base.parts ++ names⟩ ∧ shownFrom base place =
      (Path.mk .here names).toText) ∨
      (∀ names, place ≠ ⟨base.anchor, base.parts ++ names⟩) ∧ shownFrom base place =
        place.toText := by
  unfold shownFrom
  cases h : below? base place with
  | some names => exact Or.inl ⟨names, below?_eq_some h, rfl⟩
  | none =>
    refine Or.inr ⟨?_, rfl⟩
    rintro names rfl
    rw [below?_append] at h
    exact absurd h nofun

theorem shownFrom_eq_dot (hplace : place.IsPlace) (hbase : base.IsPlace) :
    shownFrom base place = ['.'] ↔ place = base := by
  have hself : shownFrom base base = ['.'] := by
    have hbelow := below?_append base []
    rw [List.append_nil] at hbelow
    rw [shownFrom, hbelow]
    rfl
  constructor
  · intro h
    exact shownFrom_injective hplace hbase (h.trans hself.symm)
  · rintro rfl
    exact hself

theorem isNormalForm_shownFrom (hplace : place.IsPlace) (hne : place ≠ base) :
    IsNormalForm (shownFrom base place) := by
  rcases shownFrom_cases base place with ⟨names, rfl, hshown⟩ | ⟨-, hshown⟩
  · have hnames : names ≠ [] := by
      rintro rfl
      exact hne (by rw [List.append_nil])
    rw [hshown]
    refine isNormalForm_toText (fun name hname => ?_) fun hnil => hnames hnil.2
    exact hplace.names name (List.mem_append_right _ hname)
  · rw [hshown]
    exact isNormalForm_toText hplace.names fun hnil => hplace.anchored hnil.1

/-- A place is shown as a relative path just when it is the directory or lies below it. -/
theorem head?_shownFrom (hplace : place.IsPlace) :
    (shownFrom base place).head? ≠ some '/' ↔ place = base ∨ base.IsBelow place := by
  rcases shownFrom_cases base place with ⟨names, hdown, hshown⟩ | ⟨hout, hshown⟩
  · have hwritable : ∀ name ∈ names, isName name = true ∧ '/' ∉ name := by
      intro name hname
      exact hplace.writable name (by rw [hdown]; exact List.mem_append_right _ hname)
    have hrelative : (shownFrom base place).head? ≠ some '/' := by
      rw [hshown, Ne, head?_toText hwritable]
      exact fun hanchor => hanchor rfl
    refine iff_of_true hrelative ?_
    by_cases hnames : names = []
    · rw [hnames, List.append_nil] at hdown
      exact Or.inl hdown
    · exact Or.inr ⟨names, hnames, hdown⟩
  · have habsolute : (shownFrom base place).head? = some '/' := by
      rw [hshown, head?_toText hplace.writable]
      exact hplace.anchored
    refine iff_of_false (fun h => h habsolute) ?_
    rintro (rfl | ⟨names, -, hdown⟩)
    · exact hout [] (by rw [List.append_nil])
    · exact hout names hdown

/-- The names that texts have from a directory stand for the places of the texts: a name leads back
to the place, is its own name, and two texts have one name just when they name one place. A name is
in normal form, but for the dot that the directory itself has, and is relative just for the
directory and what lies below it. -/
theorem nameFrom_normalForm {here : Path} (hhere : here.IsPlace) (root : Text) :
    let base := locate here root
    (∀ p, locate base (nameFrom base p) = locate base p) ∧
    (∀ p, nameFrom base (nameFrom base p) = nameFrom base p) ∧
    (∀ p q, nameFrom base p = nameFrom base q ↔ locate base p = locate base q) ∧
    ∀ p, '\\' ∉ nameFrom base p ∧ (nameFrom base p = ['.'] ↔ locate base p = base) ∧
      (locate base p ≠ base → IsNormalForm (nameFrom base p)) ∧
      ((nameFrom base p).head? ≠ some '/' ↔ locate base p = base ∨
        base.IsBelow (locate base p)) := by
  intro base
  have hbase : base.IsPlace := isPlace_locate hhere root
  have hplace : ∀ p, (locate base p).IsPlace := isPlace_locate hbase
  refine ⟨fun p => ?_, fun p => ?_, fun p q => ?_, fun p => ?_⟩
  · exact locate_shownFrom (hplace p)
  · exact nameFrom_shownFrom (hplace p)
  · refine ⟨shownFrom_injective (hplace p) (hplace q), fun h => ?_⟩
    rw [nameFrom_eq, nameFrom_eq, h]
  · have hdot := shownFrom_eq_dot (hplace p) hbase
    refine ⟨?_, hdot, isNormalForm_shownFrom (hplace p), head?_shownFrom (hplace p)⟩
    by_cases hself : locate base p = base
    · rw [nameFrom_eq, hdot.2 hself]
      decide
    · exact (isNormalForm_shownFrom (hplace p) hself).noBackslash

/-- Two spellings of a file in a project that is itself spelled with backslashes and double dots. -/
theorem normalForm_twoSpellings :
    let here : Path := ⟨.root, ["w".toList]⟩
    let base := locate here "..\\p".toList
    here.IsPlace ∧
      nameFrom base "a\\..//B.java".toList = nameFrom base "/p/./B.java".toList ∧
      IsNormalForm (nameFrom base "a\\..//B.java".toList) ∧
      (nameFrom base "//p/B.java".toList).head? = some '/' := by
  intro here base
  have hhere : here.IsPlace := by decide
  obtain ⟨-, -, hnames, hform⟩ := nameFrom_normalForm hhere "..\\p".toList
  refine ⟨hhere, (hnames _ _).2 (by decide), (hform _).2.2.1 (by decide), ?_⟩
  refine Decidable.byContradiction fun hrelative => ?_
  exact absurd ((hform _).2.2.2.1 hrelative) (by decide)

end Path

end SourceReach
