import SourceReach.Extractor
import SourceReach.Proofs.Building
import SourceReach.Proofs.Runs

/-!
# Files in one directory

An index that keeps all files prefers, among the files of a name, the one in the directory of the
file that mentions the name. It compares the written directories (`Path.directoryOf`). Those of two
places are the same just when the places are in one directory (`Path.directoryOf_shownFrom_eq_iff`),
and there a type name has one file. So at most one file is preferred, and where there is one,
lookups give it alone (`resolve_prefers_sibling`).
-/

namespace SourceReach

namespace Path

variable {p q base place : Path} {a b : Anchor} {parts others : List Text} {name other : Text}

/-- The directory that a path is, as it is written in front of names: a directory that is not said
is written with nothing. -/
def lead (p : Path) : Text := p.anchor.toText ++ Text.joined ['/'] p.parts

theorem ofText_lead (h : ∀ name ∈ p.parts, isName name = true ∧ '/' ∉ name) :
    ofText p.lead = p := by
  rw [lead, ofText, anchor_ofText_append p.anchor (head?_joined_ne_slash h), filter_pieces_anchor,
    filter_pieces_joined h]

theorem mem_anchor_toText {c : Char} (h : c ∈ a.toText) : c = '/' := by
  cases a with
  | here => exact absurd h List.not_mem_nil
  | root => exact List.mem_singleton.1 h
  | doubleRoot => exact List.eq_of_mem_replicate (n := 2) h

theorem getLast?_lead (hne : parts ≠ []) (h : ∀ name ∈ parts, isName name = true ∧ '/' ∉ name) :
    ∃ c ∈ (lead ⟨a, parts⟩).getLast?, c ≠ '/' := by
  obtain ⟨front, last, rfl⟩ := List.eq_nil_or_concat parts |>.resolve_left hne
  obtain ⟨hname, hslash⟩ := h last (by simp)
  have hlast : last ≠ [] := ne_nil_of_isName hname
  have hsplit : ∃ start, lead ⟨a, front.concat last⟩ = start ++ last := by
    rw [List.concat_eq_append, lead]
    by_cases hfront : front = []
    · exact ⟨a.toText, by rw [hfront]; rfl⟩
    · rw [Text.joined_append _ hfront (List.cons_ne_nil _ _), ← List.append_assoc]
      exact ⟨_, rfl⟩
  obtain ⟨start, hstart⟩ := hsplit
  refine ⟨last.getLast hlast, ?_, fun hc => hslash (hc ▸ List.getLast_mem hlast)⟩
  rw [hstart, List.getLast?_append_of_ne_nil _ hlast, List.getLast?_eq_some_getLast hlast]
  rfl

/-- The directory that is read off a written path is the path without its last name. -/
theorem directoryOf_toText (h : ∀ n ∈ parts ++ [name], isName n = true ∧ '/' ∉ n) :
    directoryOf (toText ⟨a, parts ++ [name]⟩) = lead ⟨a, parts⟩ := by
  have hparts : ∀ n ∈ parts, isName n = true ∧ '/' ∉ n :=
    fun n hn => h n (List.mem_append_left _ hn)
  have hname : ∀ c ∈ name, decide (c ≠ '/') = true := by
    rintro c hc
    exact decide_eq_true fun hslash => (h name (by simp)).2 (hslash ▸ hc)
  have htext : toText ⟨a, parts ++ [name]⟩ = a.toText ++ Text.joined ['/'] (parts ++ [name]) := by
    rw [toText, if_neg fun hnil => List.append_ne_nil_of_right_ne_nil _
      (List.cons_ne_nil _ _) hnil.2]
  unfold directoryOf
  dsimp only
  by_cases hnil : parts = []
  · have hanchor : ∀ c ∈ a.toText.getLast?, decide (c ≠ '/') = false := fun c hc =>
      decide_eq_false (not_not.2 (mem_anchor_toText (List.mem_of_getLast? hc)))
    have hall : a.toText.all (· = '/') = true :=
      List.all_eq_true.2 fun c hc => decide_eq_true (mem_anchor_toText hc)
    rw [htext, hnil, List.nil_append, Text.joined, Text.dropEnd_run hanchor hname, if_pos hall]
    exact (List.append_nil _).symm
  · have hsplit : toText ⟨a, parts ++ [name]⟩ = (lead ⟨a, parts⟩ ++ ['/']) ++ name := by
      rw [htext, Text.joined_append _ hnil (List.cons_ne_nil _ _), lead]
      simp only [Text.joined, List.append_assoc]
    obtain ⟨c, hc, hslash⟩ := getLast?_lead (a := a) hnil hparts
    have hall : ¬(lead ⟨a, parts⟩ ++ ['/']).all (· = '/') = true := fun hall =>
      hslash (of_decide_eq_true
        (List.all_eq_true.1 hall c (List.mem_append_left _ (List.mem_of_getLast? hc))))
    rw [hsplit, Text.dropEnd_run (by simp) hname, if_neg hall, Text.dropEnd_run ?_ (by simp)]
    intro d hd
    obtain rfl : c = d := Option.some.inj (hc.symm.trans hd)
    exact decide_eq_false hslash

/-! ## Directories seen from a directory -/

/-- A place as it is written when seen from a directory. -/
def seenFrom (base place : Path) : Path :=
  match below? base place with
  | some parts => ⟨.here, parts⟩
  | none => place

theorem shownFrom_eq_toText (base place : Path) :
    shownFrom base place = (seenFrom base place).toText := by
  unfold shownFrom seenFrom
  cases below? base place <;> rfl

/-- What is in a directory is seen where the directory is, unless one looks from it itself. -/
theorem seenFrom_concat (hne : Path.mk a (parts ++ [name]) ≠ base) :
    seenFrom base ⟨a, parts ++ [name]⟩ =
      ⟨(seenFrom base ⟨a, parts⟩).anchor, (seenFrom base ⟨a, parts⟩).parts ++ [name]⟩ := by
  unfold seenFrom
  cases hdown : below? base ⟨a, parts⟩ with
  | some down =>
    obtain ⟨rfl, rfl⟩ := Path.mk.inj (below?_eq_some hdown)
    rw [List.append_assoc, below?_append]
  | none =>
    cases hbelow : below? base ⟨a, parts ++ [name]⟩ with
    | none => rfl
    | some names =>
      obtain ⟨rfl, hparts⟩ := Path.mk.inj (below?_eq_some hbelow)
      rcases List.eq_nil_or_concat names with rfl | ⟨front, last, rfl⟩
      · rw [List.append_nil] at hparts
        exact absurd (by rw [hparts]) hne
      · rw [List.concat_eq_append, ← List.append_assoc] at hparts
        rw [(List.append_inj' hparts rfl).1, below?_append] at hdown
        exact absurd hdown nofun

theorem seenFrom_injective (hp : p.anchor ≠ .here) (hq : q.anchor ≠ .here)
    (h : seenFrom base p = seenFrom base q) :
    p = q := by
  unfold seenFrom at h
  cases hpbelow : below? base p with
  | some names =>
    rw [hpbelow] at h
    cases hqbelow : below? base q with
    | some rest =>
      rw [hqbelow] at h
      rw [below?_eq_some hpbelow, below?_eq_some hqbelow, (Path.mk.inj h).2]
    | none =>
      rw [hqbelow] at h
      exact absurd (congrArg anchor h).symm hq
  | none =>
    rw [hpbelow] at h
    cases hqbelow : below? base q with
    | some rest =>
      rw [hqbelow] at h
      exact absurd (congrArg anchor h) hp
    | none =>
      rw [hqbelow] at h
      exact h

theorem mem_parts_seenFrom (h : name ∈ (seenFrom base place).parts) : name ∈ place.parts := by
  unfold seenFrom at h
  cases hbelow : below? base place with
  | some names =>
    rw [hbelow] at h
    rw [below?_eq_some hbelow]
    exact List.mem_append_right _ h
  | none => rwa [hbelow] at h

theorem directoryOf_shownFrom (hplace : (Path.mk a (parts ++ [name])).IsPlace)
    (hne : Path.mk a (parts ++ [name]) ≠ base) :
    directoryOf (shownFrom base ⟨a, parts ++ [name]⟩) = (seenFrom base ⟨a, parts⟩).lead := by
  rw [shownFrom_eq_toText, seenFrom_concat hne, directoryOf_toText]
  intro n hn
  refine hplace.writable n ?_
  rcases List.mem_append.1 hn with hn | hn
  · exact List.mem_append_left _ (mem_parts_seenFrom hn)
  · exact List.mem_append_right _ hn

theorem IsPlace.parent (h : (Path.mk a (parts ++ [name])).IsPlace) : (Path.mk a parts).IsPlace :=
  ⟨h.anchored, fun n hn => h.names n (List.mem_append_left _ hn)⟩

theorem ofText_lead_seenFrom (h : place.IsPlace) :
    ofText (seenFrom base place).lead = seenFrom base place :=
  ofText_lead fun n hn => h.writable n (mem_parts_seenFrom hn)

/-- The written directories of two places are the same just when the places are in one directory. -/
theorem directoryOf_shownFrom_eq_iff (hplace : (Path.mk a (parts ++ [name])).IsPlace)
    (hother : (Path.mk b (others ++ [other])).IsPlace) (hne : Path.mk a (parts ++ [name]) ≠ base)
    (hne' : Path.mk b (others ++ [other]) ≠ base) :
    directoryOf (shownFrom base ⟨a, parts ++ [name]⟩) =
      directoryOf (shownFrom base ⟨b, others ++ [other]⟩) ↔
      Path.mk a parts = ⟨b, others⟩ := by
  rw [directoryOf_shownFrom hplace hne, directoryOf_shownFrom hother hne']
  constructor
  · intro h
    have hseen := congrArg ofText h
    rw [ofText_lead_seenFrom hplace.parent, ofText_lead_seenFrom hother.parent] at hseen
    exact seenFrom_injective hplace.anchored hother.anchored hseen
  · intro h
    rw [h]

/-- The place that one looks from is written with a dot, and in no directory. Only places that are
in it have no written directory either. -/
theorem parent_eq_of_directoryOf (hplace : (Path.mk a (parts ++ [name])).IsPlace)
    (hne : Path.mk a (parts ++ [name]) ≠ base)
    (h : directoryOf (shownFrom base ⟨a, parts ++ [name]⟩) = directoryOf (shownFrom base base)) :
    Path.mk a parts = base := by
  have hself : below? base base = some [] := by
    have happend := below?_append base []
    rwa [List.append_nil] at happend
  have hdot : directoryOf (shownFrom base base) = [] := by
    unfold shownFrom
    rw [hself]
    rfl
  rw [directoryOf_shownFrom hplace hne, hdot] at h
  have hseen : ofText (seenFrom base ⟨a, parts⟩).lead = seenFrom base ⟨a, parts⟩ :=
    ofText_lead_seenFrom hplace.parent
  rw [h] at hseen
  have hanchor : (seenFrom base ⟨a, parts⟩).anchor = .here := by rw [← hseen]; rfl
  cases hbelow : below? base ⟨a, parts⟩ with
  | none =>
    unfold seenFrom at hanchor
    rw [hbelow] at hanchor
    exact absurd hanchor hplace.anchored
  | some down =>
    unfold seenFrom at hseen
    rw [hbelow] at hseen
    have hdown : [] = down := (Path.mk.inj hseen).2
    rw [below?_eq_some hbelow, ← hdown, List.append_nil]

end Path

/-- Two files of one name with the same written directory are one file. -/
theorem FileTree.IsFileAt.eq_of_directoryOf {tree : FileTree} {project place other : Path}
    (ht : tree.WellNamed)
    (hplace : tree.IsFileAt place) (hother : tree.IsFileAt other)
    (hlast : place.parts.getLast? = other.parts.getLast?)
    (hdir : Path.directoryOf (project.shownFrom place) =
      Path.directoryOf (project.shownFrom other)) :
    place = other := by
  -- A file is in no place from which other files are seen.
  have hself : ∀ {p q : Path}, tree.IsFileAt p → tree.IsFileAt q → q = project → p ≠ project →
      Path.directoryOf (project.shownFrom p) = Path.directoryOf (project.shownFrom q) → False := by
    rintro ⟨a, parts⟩ q hp hq rfl hne hsame
    obtain ⟨content, hnode⟩ := FileTree.hasAt_isFileNode.1 hp.hasAt
    obtain ⟨front, last, rfl⟩ := (List.eq_nil_or_concat parts).resolve_left hnode.ne_nil
    rw [List.concat_eq_append] at hp hne hsame hnode
    have hparent := Path.parent_eq_of_directoryOf (hp.isPlace ht) hne hsame
    obtain ⟨content', hfile⟩ := FileTree.hasAt_isFileNode.1 hq.hasAt
    rw [← hparent] at hfile
    exact absurd (Option.some.inj (hfile.listed.symm.trans hnode.parent.listed)) nofun
  by_cases hp : place = project
  · by_cases hq : other = project
    · rw [hp, hq]
    · exact (hself hother hplace hp hq hdir.symm).elim
  · by_cases hq : other = project
    · exact (hself hplace hother hq hp hdir).elim
    · rcases place with ⟨a, parts⟩
      rcases other with ⟨b, others⟩
      obtain ⟨content, hnode⟩ := FileTree.hasAt_isFileNode.1 hplace.hasAt
      obtain ⟨content', hnode'⟩ := FileTree.hasAt_isFileNode.1 hother.hasAt
      obtain ⟨front, last, rfl⟩ := (List.eq_nil_or_concat parts).resolve_left hnode.ne_nil
      obtain ⟨front', last', rfl⟩ := (List.eq_nil_or_concat others).resolve_left hnode'.ne_nil
      simp only [List.concat_eq_append] at *
      rw [List.getLast?_concat, List.getLast?_concat, Option.some.injEq] at hlast
      have hparents :=
        (Path.directoryOf_shownFrom_eq_iff (hplace.isPlace ht) (hother.isPlace ht) hp hq).1 hdir
      rw [(Path.mk.inj hparents).1, (Path.mk.inj hparents).2, hlast]

namespace NameIndex

variable {ix : NameIndex} {name q referrer : Text}

/-! ## What a lookup prefers -/

/-- The one file of a name that is in the directory of the referring file is what the name means
there. -/
theorem resolve_of_sibling (hnodup : (ix.resolve name).Nodup) (hq : q ∈ ix.resolve name)
    (hdir : Path.directoryOf q = Path.directoryOf referrer)
    (honly : ∀ p ∈ ix.resolve name, Path.directoryOf p = Path.directoryOf referrer → p = q) :
    ix.resolve name (some referrer) = [q] := by
  change (ix.entries.files name).Nodup at hnodup
  change q ∈ ix.entries.files name at hq
  change ∀ p ∈ ix.entries.files name, _ at honly
  have hfilter : (ix.entries.files name).filter
      (fun p => Path.directoryOf p = Path.directoryOf referrer) = [q] := by
    refine List.perm_singleton.1
      ((List.perm_ext_iff_of_nodup (hnodup.filter _) (List.nodup_singleton q)).2 fun p => ?_)
    rw [List.mem_filter, decide_eq_true_iff, List.mem_singleton]
    constructor
    · exact fun h => honly p h.1 h.2
    · rintro rfl
      exact ⟨hq, hdir⟩
  unfold resolve
  dsimp only
  rw [hfilter]
  dsimp only
  by_cases hseveral : 1 < (ix.entries.files name).length
  · rw [if_pos hseveral]
  · rw [if_neg hseveral]
    have hpos := List.length_pos_of_mem hq
    have hone : (ix.entries.files name).length = 1 := by omega
    obtain ⟨p, hp⟩ := List.length_eq_one_iff.1 hone
    rw [hp] at hq ⊢
    rw [List.mem_singleton.1 hq]

/-- A file of another directory leaves all files of the name. -/
theorem resolve_of_no_sibling
    (h : ∀ q ∈ ix.resolve name, Path.directoryOf q ≠ Path.directoryOf referrer) :
    ix.resolve name (some referrer) = ix.resolve name := by
  have hfilter : (ix.entries.files name).filter
      (fun p => Path.directoryOf p = Path.directoryOf referrer) = [] :=
    List.filter_eq_nil_iff.2 fun p hp => by simpa using h p hp
  unfold resolve
  dsimp only
  rw [hfilter]

section Built

variable {tree : FileTree} {project : Path} {root extension : Text}

/-- What has been indexed could be searched. -/
theorem searchable_of_gives {strategy : Text} (ht : tree.WellNamed) (hproject : project.IsPlace)
    (hne : extension ≠ []) (hslash : '/' ∉ extension)
    (hplain : GlobName.hasWildcard extension = false)
    (h : (build tree root project extension strategy).Gives ix) :
    Searchable tree project root extension := by
  obtain ⟨place, glob, files, settled, hresolve, hlisted, -⟩ := build_gives h
  have hwalk := FileTree.walk_parts (Path.anchor_join hproject.anchored _)
    (FileTree.walk_of_resolve hresolve)
  refine ⟨ht, hproject, ?_, ?_, hne, hslash, hplain⟩
  · rw [FileTree.isDirectory, FileTree.holds, hresolve]
    rfl
  · rwa [rootPlace, ← hwalk.1]

theorem Searchable.mem_candidates (h : Searchable tree project root extension)
    (hq : q ∈ candidates tree project root extension name) :
    ∃ place, tree.IsFileAt place ∧ place.parts.getLast? = some (name ++ extension) ∧
    q = project.shownFrom place := by
  obtain ⟨place, hplace, rfl⟩ := List.mem_map.1 hq
  obtain ⟨-, hfile, hlast⟩ := FileTree.mem_declared.1 (List.mem_filter.1 hplace).1
  have hat : tree.IsFileAt ⟨(rootPlace project root).anchor, place⟩ := ⟨h.anchored, hfile⟩
  exact ⟨_, hat, hlast, by rw [Path.nameFrom_eq, Path.locate_toText (hat.isPlace h.names)]⟩

/-- The written directory tells the files of a name apart. -/
theorem Searchable.candidate_unique (h : Searchable tree project root extension) {p : Text}
    (hp : p ∈ candidates tree project root extension name)
    (hq : q ∈ candidates tree project root extension name)
    (hdir : Path.directoryOf p = Path.directoryOf q) : p = q := by
  obtain ⟨place, hplace, hlast, rfl⟩ := h.mem_candidates hp
  obtain ⟨other, hother, hlast', rfl⟩ := h.mem_candidates hq
  rw [hplace.eq_of_directoryOf h.names hother (hlast.trans hlast'.symm) hdir]

/-- An index with all files that has been built gives the files of a name that the search finds. -/
theorem Searchable.resolve_of_build (h : Searchable tree project root extension)
    (hbuild : (build tree root project extension Strategy.all.name).outcome.1 = .ok ix)
    (name : Text) :
    ix.resolve name = candidates tree project root extension name := by
  rw [(h.represents_of_build hbuild).resolve]

end Built

end NameIndex

namespace Extractor

variable {x : Extractor} {file source token : Text} {rule : Rule} {m : RuleMatch}
  {ms : List RuleMatch}

theorem mem_symbolMatches (h : m ∈ x.symbolMatches rule file token) :
    m.rule = rule ∧ m.token = token ∧
      (m.path = none ∧ x.index.resolve token (some file) = [] ∨
        ∃ p ∈ x.index.resolve token (some file), m.path = some p) := by
  unfold symbolMatches at h
  split at h
  · next hnone =>
    obtain rfl := List.mem_singleton.1 h
    exact ⟨rfl, rfl, Or.inl ⟨rfl, hnone⟩⟩
  · obtain ⟨p, hp, rfl⟩ := List.mem_map.1 h
    exact ⟨rfl, rfl, Or.inr ⟨p, hp, rfl⟩⟩

theorem mem_explain_symbol (h : x.explain file source = .ok ms) (hm : m ∈ ms)
    (hrule : m.rule.isQualified = false) :
    m ∈ x.symbolMatches m.rule file m.token := by
  obtain ⟨lists, hlists, rfl⟩ := Except.map_eq_ok.1 (show Except.map List.flatten _ = .ok ms from h)
  obtain ⟨list, hlist, hm⟩ := List.mem_flatten.1 hm
  obtain ⟨⟨rule, token⟩, -, hmatches⟩ := Except.mem_of_mapM hlists hlist
  dsimp only at hmatches
  unfold tokenMatches at hmatches
  split_ifs at hmatches with hqualified
  · unfold importMatches at hmatches
    split_ifs at hmatches
    · obtain ⟨path, -, rfl⟩ := Except.map_eq_ok.1 hmatches
      rw [List.mem_singleton.1 hm, hqualified] at hrule
      exact absurd hrule (by decide)
    · rw [← Except.ok.inj hmatches] at hm
      exact absurd hm List.not_mem_nil
  · rw [← Except.ok.inj hmatches] at hm
    obtain ⟨hsame, htoken, -⟩ := mem_symbolMatches hm
    rwa [hsame, htoken]

end Extractor

namespace NameIndex

variable {ix : NameIndex} {tree : FileTree} {project : Path} {root extension : Text}

/-- An index with all files gives the files of a name in the order of their components. For a file
that mentions the name it gives the one file of the name in the same directory, and all of them if
there is none. So a file of a package that declares a type means this type by its name. -/
theorem resolve_prefers_sibling (ht : tree.WellNamed) (hproject : project.IsPlace)
    (hne : extension ≠ [])
    (hslash : '/' ∉ extension) (hplain : GlobName.hasWildcard extension = false)
    (hbuild : (build tree root project extension Strategy.all.name).outcome.1 = .ok ix) :
    (∀ name, ix.resolve name = candidates tree project root extension name ∧
      (tree.findable (rootPlace project root).parts extension name).Pairwise (· < ·)) ∧
    (∀ name referrer, (∀ q ∈ ix.resolve name, Path.directoryOf q = Path.directoryOf referrer →
        (∀ p ∈ ix.resolve name, Path.directoryOf p = Path.directoryOf referrer → p = q) ∧
        ix.resolve name (some referrer) = [q]) ∧
      ((∀ q ∈ ix.resolve name, Path.directoryOf q ≠ Path.directoryOf referrer) →
        ix.resolve name (some referrer) = ix.resolve name)) ∧
    ∀ x : Extractor, x.index = ix → ∀ file source ms, x.explain file source = .ok ms →
      ∀ m ∈ ms, m.rule.isQualified = false → ∀ q ∈ ix.resolve m.token,
        Path.directoryOf q = Path.directoryOf file → m.path = some q := by
  have h := searchable_of_gives ht hproject hne hslash hplain (Logged.gives_of_outcome hbuild)
  have hresolve := h.resolve_of_build hbuild
  have honly : ∀ {name referrer q}, q ∈ ix.resolve name →
    Path.directoryOf q = Path.directoryOf referrer →
      ∀ p ∈ ix.resolve name, Path.directoryOf p = Path.directoryOf referrer → p = q := by
    intro name referrer q hq hdir p hp hpdir
    rw [hresolve] at hq hp
    exact h.candidate_unique hp hq (hpdir.trans hdir.symm)
  have hsibling : ∀ {name referrer q}, q ∈ ix.resolve name →
    Path.directoryOf q = Path.directoryOf referrer →
      ix.resolve name (some referrer) = [q] := by
    intro name referrer q hq hdir
    refine resolve_of_sibling ?_ hq hdir (honly hq hdir)
    rw [hresolve]
    exact h.nodup_candidates name
  refine ⟨fun name => ⟨hresolve name, (FileTree.pairwise_declared _ _ _ _).filter _⟩,
    fun name referrer => ⟨fun q hq hdir => ⟨honly hq hdir, hsibling hq hdir⟩,
      resolve_of_no_sibling⟩, ?_⟩
  rintro x rfl file source ms hms m hm hrule q hq hdir
  obtain ⟨-, -, ⟨-, hnil⟩ | ⟨p, hp, hpath⟩⟩ :=
    Extractor.mem_symbolMatches (Extractor.mem_explain_symbol hms hm hrule)
  · rw [hsibling hq hdir] at hnil
    exact absurd hnil (List.cons_ne_nil q [])
  · rw [hsibling hq hdir] at hp
    rw [hpath, List.mem_singleton.1 hp]

/-- Two packages declare a type of one name: each means its own, and a third one both. -/
theorem nestedTree_prefers :
    ∃ ix, (build nestedTree "src/../src".toList ⟨.root, ["p".toList]⟩ ".java".toList
        Strategy.all.name).outcome.1 = .ok ix ∧
      ix.resolve "A".toList (some "src/a/B.java".toList) = ["src/a/A.java".toList] ∧
      ix.resolve "A".toList (some "src/a-b/B.java".toList) = ["src/a-b/A.java".toList] ∧
      ix.resolve "A".toList (some "src/B.java".toList) =
        ["src/a/A.java".toList, "src/a-b/A.java".toList] := by
  have hrefuse : Strategy.all = .error →
      ∀ name, (declarations nestedTree ⟨.root, ["p".toList]⟩ "src/../src".toList ".java".toList
        name).length ≤ 1 := nofun
  obtain ⟨ix, hends, -⟩ := indexable_nestedTree.ends_ok inReach_nestedTree hrefuse
  have hall :
    candidates nestedTree ⟨.root, ["p".toList]⟩ "src/../src".toList ".java".toList "A".toList =
      ["src/a/A.java".toList, "src/a-b/A.java".toList] := by decide +kernel
  obtain ⟨hresolve, hprefers, -⟩ :=
    resolve_prefers_sibling indexable_nestedTree.names indexable_nestedTree.isPlace
    (by decide) (by decide) (by decide) hends.outcome
  have hresolve : ix.resolve "A".toList = ["src/a/A.java".toList, "src/a-b/A.java".toList] :=
    (hresolve "A".toList).1.trans hall
  refine ⟨ix, hends.outcome, ?_, ?_, ?_⟩
  · exact ((hprefers "A".toList _).1 "src/a/A.java".toList (by rw [hresolve]; decide) (by decide)).2
  · exact ((hprefers "A".toList _).1 "src/a-b/A.java".toList (by rw [hresolve]; decide)
      (by decide)).2
  · rw [(hprefers "A".toList _).2 (by rw [hresolve]; decide), hresolve]

end NameIndex

end SourceReach
