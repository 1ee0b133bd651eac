import SourceReach.Changes
import SourceReach.Proofs.Runs
import SourceReach.Proofs.Sorted

/-!
# Listings of changed files

A listing names files in lines of its own, with blanks around the names and other lines between
them. Its lines are found again (`mem_lines_listing`), whichever line breaks it has, and trimming a
line leaves the name. So the files that a command lists are the ones that count as changed
(`changed_listing`).
-/

namespace SourceReach

/-! ## Lines and their ends -/

namespace Text

variable {l t : Text}

/-- The text has no line end. -/
def IsLine (l : Text) : Prop := ∀ c ∈ l, isLineEnd c = false

instance (l : Text) : Decidable l.IsLine := List.decidableBAll (fun c => isLineEnd c = false) l

theorem lines_cons {c : Char} (h : c ≠ '\r') (t : Text) :
    lines (c :: t) = if isLineEnd c then [] :: lines t else consFirst c (lines t) := by
  rw [lines]
  exact fun _ hc => absurd hc h

theorem lines_cons_of_isLine {c : Char} (h : isLineEnd c = false) (t : Text) :
    lines (c :: t) = consFirst c (lines t) := by
  have hc : c ≠ '\r' := by
    rintro rfl
    exact absurd h (by decide)
  rw [lines_cons hc, h, if_neg Bool.false_ne_true]

theorem lines_of_isLine (h : l.IsLine) (hne : l ≠ []) : lines l = [l] := by
  induction l with
  | nil => exact absurd rfl hne
  | cons c l ih =>
    obtain ⟨hc, hl⟩ := List.forall_mem_cons.1 h
    rw [lines_cons_of_isLine hc]
    cases l with
    | nil => rfl
    | cons d l => rw [ih hl (List.cons_ne_nil d l), consFirst]

/-- A text without line ends is put in front of the first line. -/
theorem lines_append {ls : List Text} (h : l.IsLine) (ht : lines t = [] :: ls) :
    lines (l ++ t) = l :: ls := by
  induction l with
  | nil => exact ht
  | cons c l ih =>
    obtain ⟨hc, hl⟩ := List.forall_mem_cons.1 h
    rw [List.cons_append, lines_cons_of_isLine hc, ih hl, consFirst]

/-- Line ends of the forms carriage return, or carriage return and line feed, are as good as line
feeds. -/
theorem lines_unixLines (t : Text) : lines (unixLines t) = lines t := by
  have hfeed : ∀ s, lines ('\n' :: s) = [] :: lines s := fun _ => rfl
  induction t using unixLines.induct with
  | case1 => rfl
  | case2 s ih => rw [unixLines, hfeed, ih, lines]
  | case3 s hs ih =>
    have hreturn : lines ('\r' :: s) = [] :: lines s := by
      rw [lines, if_pos (by decide)]
      exact fun r _ => hs r
    rw [unixLines.eq_3 s hs, hfeed, ih, hreturn]
  | case4 c s hs hc ih =>
    have hne : c ≠ '\r' := hc
    rw [unixLines.eq_4 c s hs hc, lines_cons hne, lines_cons hne, ih]

end Text

/-! ## Listings -/

/-- What stands between two lines. -/
inductive LineBreak where
  | feed
  | returnFeed

namespace LineBreak

def toText : LineBreak → Text
  | feed => ['\n']
  | returnFeed => ['\r', '\n']

/-- A line, and further lines with the break before each. -/
def listing (first : Text) (rest : List (LineBreak × Text)) : Text :=
  first ++ rest.flatMap fun l => l.1.toText ++ l.2

variable {l first : Text} {rest : List (LineBreak × Text)}

theorem lines_append_toText (b : LineBreak) (h : l.IsLine) (t : Text) :
    Text.lines (l ++ b.toText ++ t) = l :: Text.lines t := by
  have hbreak : Text.lines (b.toText ++ t) = [] :: Text.lines t := by cases b <;> rfl
  rw [List.append_assoc, Text.lines_append h hbreak]

theorem mem_lines_listing (hfirst : first.IsLine) (hrest : ∀ r ∈ rest, r.2.IsLine) (hne : l ≠ []) :
    l ∈ Text.lines (listing first rest) ↔ l ∈ first :: rest.map Prod.snd := by
  induction rest generalizing first with
  | nil =>
    rw [listing, List.flatMap_nil, List.append_nil, List.map_nil]
    rcases eq_or_ne first [] with rfl | hfirst'
    · simp [Text.lines, hne]
    · rw [Text.lines_of_isLine hfirst hfirst']
  | cons r rest ih =>
    obtain ⟨hr, hrest⟩ := List.forall_mem_cons.1 hrest
    have hcut : listing first (r :: rest) = first ++ r.1.toText ++ listing r.2 rest := by
      simp [listing]
    rw [hcut, lines_append_toText r.1 hfirst, List.mem_cons, ih hr hrest, List.map_cons,
      List.mem_cons (b := first)]

end LineBreak

namespace ListingCommand

/-- The line is a path with blanks and tabs around it. -/
def Names (l p : Text) : Prop :=
  ∃ before after, (∀ c ∈ before ++ after, c = ' ' ∨ c = '\t') ∧ l = before ++ p ++ after

/-- A path that a line can name: it is the one name of a file with the extension, in one line and
trimmed. -/
structure Listable (c : ListingCommand) (p : Text) : Prop where
  name : c.project.nameFrom p = p
  extension : c.extension <:+ p
  line : p.IsLine
  trimmed : p.IsTrimmed

/-- The lines name the paths, in any order and as often as they like; other lines are not about
source files. -/
structure Lists (c : ListingCommand) (paths : Finset Text) (ls : List Text) : Prop where
  named : ∀ p ∈ paths, ∃ l ∈ ls, Names l p
  others : ∀ l ∈ ls, (∃ p ∈ paths, Names l p) ∨ l.IsLine ∧ ¬ c.extension <:+ l.trim

variable {c : ListingCommand} {p l first : Text} {paths : Finset Text}
  {rest : List (LineBreak × Text)}

theorem Listable.ne_nil (h : c.Listable p) (hext : c.extension ≠ []) : p ≠ [] := by
  rintro rfl
  exact hext (List.suffix_nil.1 h.extension)

theorem Names.isLine (h : Names l p) (hp : p.IsLine) : l.IsLine := by
  obtain ⟨before, after, hpad, rfl⟩ := h
  have hline : Text.IsLine (before ++ after) := by
    intro c hc
    rcases hpad c hc with rfl | rfl <;> decide
  simp only [Text.IsLine, List.forall_mem_append] at hline hp ⊢
  exact ⟨⟨hline.1, hp⟩, hline.2⟩

theorem Names.trim_eq (h : Names l p) (hp : p.IsTrimmed) (hne : p ≠ []) : l.trim = p := by
  obtain ⟨before, after, hpad, rfl⟩ := h
  have hblank : ∀ c ∈ before ++ after, isBlank c = true := by
    intro c hc
    rcases hpad c hc with rfl | rfl <;> decide
  exact Text.trim_padded hp hne (fun c hc => hblank c (List.mem_append_left _ hc))
    fun c hc => hblank c (List.mem_append_right _ hc)

theorem Lists.mem_iff (h : c.Lists paths (first :: rest.map Prod.snd)) (hext : c.extension ≠ [])
    (hpaths : ∀ p ∈ paths, c.Listable p) :
    (∃ l ∈ Text.lines (LineBreak.listing first rest), l.trim = p ∧ c.extension <:+ p) ↔
    p ∈ paths := by
  have hlines : ∀ l ∈ first :: rest.map Prod.snd, l.IsLine := by
    intro l hl
    rcases h.others l hl with ⟨p, hp, hnames⟩ | ⟨hline, -⟩
    · exact hnames.isLine (hpaths p hp).line
    · exact hline
  obtain ⟨hfirst, hrest⟩ := List.forall_mem_cons.1 hlines
  have hmem : ∀ {l}, l ≠ [] →
      (l ∈ Text.lines (LineBreak.listing first rest) ↔ l ∈ first :: rest.map Prod.snd) :=
    LineBreak.mem_lines_listing hfirst fun r hr => hrest r.2 (List.mem_map_of_mem hr)
  have htrim : ∀ {l q}, q ∈ paths → Names l q → l.trim = q := fun hq hnames =>
    hnames.trim_eq (hpaths _ hq).trimmed ((hpaths _ hq).ne_nil hext)
  constructor
  · rintro ⟨l, hl, rfl, hsuffix⟩
    have hne : l ≠ [] := by
      rintro rfl
      exact hext (List.suffix_nil.1 hsuffix)
    rcases h.others l ((hmem hne).1 hl) with ⟨q, hq, hnames⟩ | ⟨-, hother⟩
    · rwa [htrim hq hnames]
    · exact absurd hsuffix hother
  · intro hp
    obtain ⟨l, hl, hnames⟩ := h.named p hp
    have hne : l ≠ [] := by
      rintro rfl
      exact (hpaths p hp).ne_nil hext (htrim hp hnames).symm
    exact ⟨l, (hmem hne).2 hl, htrim hp hnames, (hpaths p hp).extension⟩

theorem ofListing_eq_sort (hext : c.extension ≠ []) (hpaths : ∀ p ∈ paths, c.Listable p)
    (h : c.Lists paths (first :: rest.map Prod.snd)) :
    Changes.ofListing c.project c.extension (LineBreak.listing first rest) = paths.sort := by
  rw [Changes.ofListing, Changes.ofPaths, sortedDistinct_eq_sort]
  congr 1
  ext p
  simp only [List.mem_toFinset, List.mem_map, List.mem_filter, List.isSuffixOf_iff_suffix]
  constructor
  · rintro ⟨q, ⟨⟨l, hl, rfl⟩, hsuffix⟩, rfl⟩
    have hq := (h.mem_iff hext hpaths).1 ⟨l, hl, rfl, hsuffix⟩
    rwa [(hpaths _ hq).name]
  · intro hp
    obtain ⟨l, hl, rfl, hsuffix⟩ := (h.mem_iff hext hpaths).2 hp
    exact ⟨l.trim, ⟨⟨l, hl, rfl⟩, hsuffix⟩, (hpaths _ hp).name⟩

/-- A listing of paths, with any line breaks, blanks around the paths and lines between them, gives
the paths, each once. A command that prints it, and whose output is read with line feeds for all
line breaks, finds changed those of the discovered files that are among the paths. -/
theorem changed_listing (hext : c.extension ≠ []) (hpaths : ∀ p ∈ paths, c.Listable p)
    (h : c.Lists paths (first :: rest.map Prod.snd)) :
    Changes.ofListing c.project c.extension (LineBreak.listing first rest) = paths.sort ∧
      ∀ (complaint : Option Text) (discovered : List Text),
        (Changes.among discovered <$>
          c.changed (.finished 0 (LineBreak.listing first rest).unixLines complaint)).outcome =
            (.ok (discovered.toFinset ∩ paths).sort, []) := by
  have hlisting := ofListing_eq_sort hext hpaths h
  refine ⟨hlisting, fun complaint discovered => ?_⟩
  have hread : Changes.ofListing c.project c.extension (LineBreak.listing first rest).unixLines =
      paths.sort := by
    rw [← hlisting, Changes.ofListing, Text.lines_unixLines, Changes.ofListing]
  have hamong : Changes.among discovered paths.sort = (discovered.toFinset ∩ paths).sort := by
    rw [Changes.among, sortedDistinct_eq_sort]
    congr 1
    ext p
    simp
  rw [← hamong, ← hread]
  rfl

/-- Two files in lines with both kinds of line breaks, one of them twice and with blanks around it;
the other one and a third file are discovered. -/
theorem padded_listing :
    let c : ListingCommand :=
      { project := Path.ofText "/p".toList, words := [], extension := ".java".toList }
    let first := "A.java".toList
    let second := "src/B c.java".toList
    let rest : List (LineBreak × Text) :=
      [(.returnFeed, "README.md".toList), (.feed, "\t src/B c.java ".toList),
        (.returnFeed, second), (.feed, [])]
    c.extension ≠ [] ∧ (∀ p ∈ ({first, second} : Finset Text), c.Listable p) ∧
      c.Lists {first, second} (first :: rest.map Prod.snd) ∧
      Changes.ofListing c.project c.extension (LineBreak.listing first rest) = [first, second] ∧
      (Changes.among ["C.java".toList, second] <$>
        c.changed (.finished 0 (LineBreak.listing first rest).unixLines none)).outcome =
            (.ok [second], []) := by
  intro c first second rest
  have hext : c.extension ≠ [] := by decide
  have hpaths : ∀ p ∈ ({first, second} : Finset Text), c.Listable p := by
    have hfirst : c.Listable first :=
      ⟨by decide +kernel, by decide, by decide, by decide⟩
    have hsecond : c.Listable second :=
      ⟨by decide +kernel, by decide, by decide, by decide⟩
    intro p hp
    rcases Finset.mem_insert.1 hp with rfl | hp
    · exact hfirst
    · exact Finset.mem_singleton.1 hp ▸ hsecond
  have hlists : c.Lists {first, second} (first :: rest.map Prod.snd) := by
    have hplain : ∀ p, Names p p := fun p => ⟨[], [], by simp, by simp⟩
    refine ⟨?_, ?_⟩
    · simp [first, second, rest, hplain]
    · have hpadded : Names "\t src/B c.java ".toList second := ⟨['\t', ' '], [' '], by simp, rfl⟩
      simp only [rest, List.map_cons, List.map_nil, List.forall_mem_cons]
      refine ⟨.inl ⟨first, by simp, hplain _⟩, .inr (by decide), .inl ⟨second, by simp, hpadded⟩,
        .inl ⟨second, by simp, hplain _⟩, .inr (by decide), nofun⟩
  obtain ⟨hlisting, hchanged⟩ := changed_listing hext hpaths hlists
  have hsort : ({first, second} : Finset Text).sort = [first, second] :=
    (sortedDistinct_eq_sort [first, second]).symm.trans (by decide +kernel)
  have hdiscovered : (["C.java".toList, second].toFinset ∩ {first, second}).sort = [second] := by
    rw [show ["C.java".toList, second].toFinset ∩ {first, second} = {second} by decide,
      Finset.sort_singleton]
  exact ⟨hext, hpaths, hlists, hlisting.trans hsort, (hchanged none _).trans (by rw [hdiscovered])⟩

end ListingCommand

end SourceReach
