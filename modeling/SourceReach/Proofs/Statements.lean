import Mathlib.Data.List.DropRight
import SourceReach.Proofs.Matches
import SourceReach.Proofs.Search

/-!
# Statements at positions

`statement?` reads the statement that a text starts with, and `occurrence?` the one at a position of
a text, with nothing but blanks before it on its line. The search for statements takes them where
its leading blanks end, which may be lines behind the place it is at. It still finds the statements
of all positions and no others (`findAll_statementPattern`): a statement that is found has no other
one within it (`occurrencesBehind_statement`), and where none is found, the blanks at the place lead
to none.
-/

namespace SourceReach.Rule

/-! ## Statements -/

/-- The name of the statement that a text starts with: the keyword, blanks, all the name characters
that follow them, blanks and a semicolon. -/
def statement? (keyword s : Text) : Option Text :=
  let behind := s.drop keyword.length
  let named := behind.dropWhile isBlank
  let name := named.takeWhile isNameChar
  let rest := (named.dropWhile isNameChar).dropWhile isBlank
  if keyword <+: s ∧ behind.head?.any isBlank ∧ name ≠ [] ∧ rest.head? = some ';' then
    some name else none

/-- Only blanks stand on the last line of the text. -/
def endsBlank (t : Text) : Bool := (t.rtakeWhile (· ≠ '\n')).all isBlank

def occurrence? (keyword t : Text) (i : Nat) : Option Text :=
  if endsBlank (t.take i) then statement? keyword (t.drop i) else none

/-- The names of the statements at all positions of a text, in the order of the positions. -/
def occurrences (keyword t : Text) : List Text :=
  (List.range t.length).filterMap (occurrence? keyword t)

/-- A statement, by what stands behind the keyword. -/
structure Statement where
  gap : Space
  name : Text
  isDottedName : IsDottedName name
  after : Blanks

def Statement.text (keyword : Text) (d : Statement) : Text :=
  keyword ++ (d.gap.text ++ (d.name ++ (d.after.text ++ [';'])))

variable {keyword front name s t u : Text}

theorem isBlank_of_isNameChar {c : Char} (h : isNameChar c = true) : isBlank c = false := by
  rcases Bool.or_eq_true_iff.1 h with hword | hdot
  · exact isBlank_of_isWord hword
  · rw [eq_of_beq hdot]
    decide

theorem isNameChar_of_isBlank {c : Char} (h : isBlank c = true) : isNameChar c = false := by
  rw [Bool.eq_false_iff]
  intro hname
  exact absurd (h.symm.trans (isBlank_of_isNameChar hname)) nofun

theorem isNameChar_of_mem_head?_dottedName (h : IsDottedName name) (s : Text) :
    ∀ c ∈ (name ++ s).head?, isNameChar c = true := by
  obtain ⟨c, rest, rfl⟩ := List.exists_cons_of_ne_nil h.ne_nil
  exact Text.forall_mem_head? (h.chars c List.mem_cons_self) _

theorem isBlank_of_mem_head?_dottedName (h : IsDottedName name) (s : Text) :
    ∀ c ∈ (name ++ s).head?, isBlank c = false := fun c hc =>
  isBlank_of_isNameChar (isNameChar_of_mem_head?_dottedName h s c hc)

theorem isNameChar_of_mem_head?_blanks (b : Blanks) (hs : ∀ c ∈ s.head?, isNameChar c = false) :
    ∀ c ∈ (b.text ++ s).head?, isNameChar c = false :=
  Text.forall_mem_head?_append
    (fun c hc => isNameChar_of_isBlank (b.blank c (List.mem_of_mem_head? hc))) hs

/-- Behind the keyword, blanks and a name, it takes a semicolon to make a statement. -/
theorem statement?_append (gap : Space) (hname : IsDottedName name) (after : Blanks)
    (hend : ∀ c ∈ (after.text ++ s).head?, isNameChar c = false)
    (hs : ∀ c ∈ s.head?, isBlank c = false) :
    statement? keyword (keyword ++ (gap.text ++ (name ++ (after.text ++ s)))) =
      if s.head? = some ';' then some name else none := by
  have hgap : (gap.text ++ (name ++ (after.text ++ s))).head?.any isBlank = true := by
    obtain ⟨c, rest, hrest⟩ := List.exists_cons_of_ne_nil gap.ne_nil
    rw [hrest]
    exact gap.blank c (hrest ▸ List.mem_cons_self)
  simp only [statement?, List.drop_left, Text.dropWhile_run gap.blank
    (isBlank_of_mem_head?_dottedName hname _), Text.takeWhile_run hname.chars hend,
      Text.dropWhile_run hname.chars hend, Text.dropWhile_run after.blank hs, List.prefix_append,
        hgap, hname.ne_nil, ne_eq, not_false_iff, true_and]

theorem Statement.append_text (d : Statement) (s : Text) :
    d.text keyword ++ s = keyword ++ (d.gap.text ++ (d.name ++ (d.after.text ++ (';' :: s)))) := by
  simp only [text, List.append_assoc, List.singleton_append]

theorem statement?_text (d : Statement) (s : Text) :
    statement? keyword (d.text keyword ++ s) = some d.name := by
  have hend := isNameChar_of_mem_head?_blanks d.after
    (Text.forall_mem_head? (by decide : isNameChar ';' = false) s)
  rw [d.append_text, statement?_append d.gap d.isDottedName d.after hend
    (Text.forall_mem_head? (by decide) s)]
  rfl

/-- What starts with a statement is the statement as it is written, and more. -/
theorem exists_statement (h : statement? keyword s = some name) :
    ∃ (d : Statement) (rest : Text), d.name = name ∧ s = d.text keyword ++ rest := by
  rw [statement?] at h
  obtain ⟨⟨⟨behind, rfl⟩, hgap, hname, hsemicolon⟩, hread⟩ := Option.ite_none_right_eq_some.1 h
  obtain rfl := Option.some.inj hread
  rw [List.drop_left] at hgap hname hsemicolon ⊢
  obtain ⟨gap, named, rfl, hblank, hnamed⟩ := Text.exists_run isBlank behind
  rw [Text.dropWhile_run hblank hnamed] at hname hsemicolon ⊢
  obtain ⟨name, rest, rfl, hchars, hrest⟩ := Text.exists_run isNameChar named
  rw [Text.takeWhile_run hchars hrest] at hname ⊢
  rw [Text.dropWhile_run hchars hrest] at hsemicolon
  obtain ⟨after, rest, rfl, hafter, hstop⟩ := Text.exists_run isBlank rest
  rw [Text.dropWhile_run hafter hstop] at hsemicolon
  obtain ⟨rest, rfl⟩ := List.head?_eq_some_iff.1 hsemicolon
  have hgapNe : gap ≠ [] := by
    rintro rfl
    obtain ⟨c, hc, hcblank⟩ := (Option.any_eq_true _ _).1 hgap
    exact absurd (hcblank.symm.trans (hnamed c hc)) nofun
  refine ⟨⟨⟨⟨gap, hblank⟩, hgapNe⟩, name, ⟨hname, hchars⟩, ⟨after, hafter⟩⟩, rest, rfl, ?_⟩
  rw [Statement.append_text]

/-! ## Lines -/

theorem endsBlank_concat (t : Text) (c : Char) :
    endsBlank (t ++ [c]) = (c == '\n' || isBlank c && endsBlank t) := by
  by_cases hc : c = '\n'
  · subst hc
    simp [endsBlank]
  · simp [endsBlank, hc, Bool.and_comm]

theorem endsBlank_append (hfront : endsBlank front = true) (hblank : ∀ c ∈ s, isBlank c = true) :
    endsBlank (front ++ s) = true := by
  induction s using List.reverseRecOn with
  | nil => rwa [List.append_nil]
  | append_singleton s c ih =>
    obtain ⟨hs, hc⟩ := List.forall_mem_append.1 hblank
    rw [← List.append_assoc, endsBlank_concat, ih hs, hc c List.mem_cons_self]
    simp

theorem endsBlank_of_lineStart (h : (Pattern.before none front).all (· = '\n') = true) :
    endsBlank front = true := by
  cases front using List.reverseRecOn with
  | nil => rfl
  | append_singleton front c =>
    have hc : c = '\n' := by simpa [Pattern.before] using h
    rw [endsBlank_concat, hc]
    rfl

theorem endsBlank_statement (d : Statement) : endsBlank (front ++ d.text keyword) = false := by
  have htext : front ++ d.text keyword = front ++
      (keyword ++ (d.gap.text ++ (d.name ++ d.after.text))) ++ [';'] := by
    simp only [Statement.text, List.append_assoc]
  rw [htext, endsBlank_concat]
  rfl

/-! ## The statements of all positions -/

/-- The names of the statements of a text that starts behind `front`. -/
def occurrencesBehind (keyword front : Text) : Text → List Text
  | [] => []
  | c :: s =>
    (if endsBlank front then statement? keyword (c :: s) else none).toList ++
    occurrencesBehind keyword (front ++ [c]) s

theorem occurrencesBehind_eq (keyword front s : Text) : occurrencesBehind keyword front s =
    (List.range s.length).filterMap fun i => occurrence? keyword (front ++ s)
    (front.length + i) := by
  induction s generalizing front with
  | nil => rfl
  | cons c s ih =>
    have hhere : occurrence? keyword (front ++ c :: s) (front.length + 0) =
        if endsBlank front then statement? keyword (c :: s) else none := by
      simp [occurrence?]
    have hnext : ∀ i, occurrence? keyword (front ++ c :: s) (front.length + (i + 1)) =
        occurrence? keyword (front ++ [c] ++ s) ((front ++ [c]).length + i) := by
      intro i
      simp [Nat.add_comm, Nat.add_left_comm]
    rw [occurrencesBehind, ih, List.length_cons, List.range_succ_eq_map, List.filterMap_cons,
      List.filterMap_map, hhere]
    simp only [Function.comp_def, Nat.succ_eq_add_one, hnext]
    cases (if endsBlank front then statement? keyword (c :: s) else none) <;> rfl

theorem occurrencesBehind_append (h : ∀ back, back <:+ u → back ≠ [] →
      statement? keyword (back ++ s) = none) :
    occurrencesBehind keyword front (u ++ s) = occurrencesBehind keyword (front ++ u) s := by
  induction u generalizing front with
  | nil => rw [List.append_nil, List.nil_append]
  | cons c u ih =>
    have hhere := h (c :: u) (List.suffix_refl _) (List.cons_ne_nil c u)
    rw [List.cons_append] at hhere
    rw [List.cons_append, occurrencesBehind, hhere, ite_self, Option.toList_none, List.nil_append,
      ih fun back hback => h back (hback.trans (List.suffix_cons c u)), List.append_assoc,
        List.singleton_append]

section Keyword

variable (hk : Pattern.IsKeyword keyword)

include hk

theorem isNameChar_of_mem_keyword : ∀ c ∈ keyword, isNameChar c = true := by
  obtain ⟨k, ks, rfl, hword, -⟩ := hk
  intro c hc
  simp [isNameChar, hword c hc]

theorem isWord_of_mem_head?_keyword (s : Text) : ∀ c ∈ (keyword ++ s).head?, isWord c = true := by
  obtain ⟨k, ks, rfl, hword, -⟩ := hk
  exact Text.forall_mem_head? (hword k List.mem_cons_self) _

theorem isBlank_of_mem_head?_keyword (s : Text) : ∀ c ∈ (keyword ++ s).head?, isBlank c = false :=
  fun c hc =>
  isBlank_of_isWord (isWord_of_mem_head?_keyword hk s c hc)

theorem statement?_eq_none {c : Char} (hc : isWord c = false) (s : Text) :
    statement? keyword (c :: s) = none := by
  rw [statement?, if_neg]
  rintro ⟨⟨rest, hrest⟩, -⟩
  have hword := isWord_of_mem_head?_keyword hk rest c (hrest ▸ rfl)
  exact absurd (hword.symm.trans hc) nofun

theorem occurrencesBehind_of_noWord (h : ∀ c ∈ u, isWord c = false) :
    occurrencesBehind keyword front (u ++ s) = occurrencesBehind keyword (front ++ u) s := by
  refine occurrencesBehind_append fun back hback hne => ?_
  obtain ⟨c, back, rfl⟩ := List.exists_cons_of_ne_nil hne
  exact statement?_eq_none hk (h c (hback.subset List.mem_cons_self)) _

theorem occurrencesBehind_blanks (b : Blanks) :
    occurrencesBehind keyword front (b.text ++ s) = occurrencesBehind keyword (front ++ b.text) s :=
  occurrencesBehind_of_noWord hk fun c hc => isWord_of_isBlank (b.blank c hc)

/-- The keyword is not found again within itself. -/
theorem occurrencesBehind_keyword {k : Char} {ks : Text} (hkeyword : keyword = k :: ks) :
    occurrencesBehind keyword front (ks ++ s) = occurrencesBehind keyword (front ++ ks) s := by
  obtain ⟨_, _, rfl, -, hks⟩ := hk
  obtain ⟨rfl, rfl⟩ := List.cons.inj hkeyword
  refine occurrencesBehind_append fun back hback hne => ?_
  rw [statement?, if_neg]
  rintro ⟨⟨rest, hrest⟩, -⟩
  obtain ⟨c, back, rfl⟩ := List.exists_cons_of_ne_nil hne
  obtain rfl := (List.cons.inj hrest).1
  exact hks (hback.subset List.mem_cons_self)

/-- A name may be the keyword or end with it, but no other name follows it then. -/
theorem statement?_name (hchars : ∀ c ∈ name, isNameChar c = true) (after : Blanks) (s : Text) :
    statement? keyword (name ++ (after.text ++ ';' :: s)) = none := by
  rw [Option.eq_none_iff_forall_ne_some]
  intro name' h
  obtain ⟨d, rest, -, heq⟩ := exists_statement h
  rw [d.append_text] at heq
  have hend := isNameChar_of_mem_head?_blanks after
    (Text.forall_mem_head? (by decide : isNameChar ';' = false) s)
  have hgap : ∀ t, ∀ c ∈ (d.gap.text ++ t).head?, isNameChar c = false := fun t c hc =>
    isNameChar_of_isBlank (d.gap.isBlank_of_mem_head? t c hc)
  -- The keyword and the name end where the first blanks are, and behind those one text has a name
  -- and one a semicolon.
  have hbehind := congrArg (List.dropWhile isNameChar) heq
  rw [Text.dropWhile_run hchars hend, Text.dropWhile_run (isNameChar_of_mem_keyword hk)
    (hgap _)] at hbehind
  have hnamed := congrArg (List.dropWhile isBlank) hbehind
  rw [Text.dropWhile_run after.blank (Text.forall_mem_head? (by decide) s),
    Text.dropWhile_run d.gap.blank (isBlank_of_mem_head?_dottedName d.isDottedName _)] at hnamed
  have hhead := isNameChar_of_mem_head?_dottedName d.isDottedName (d.after.text ++ ';' :: rest)
  rw [← hnamed] at hhead
  exact absurd (hhead ';' rfl) (by decide)

/-- No other statement starts within a statement. -/
theorem occurrencesBehind_statement (hfront : endsBlank front = true) (d : Statement) (s : Text) :
    occurrencesBehind keyword front (d.text keyword ++ s) =
      d.name :: occurrencesBehind keyword (front ++ d.text keyword) s := by
  have hread : statement? keyword (d.text keyword ++ s) = some d.name := statement?_text d s
  have hname : ∀ back, back <:+ d.name → back ≠ [] →
      statement? keyword (back ++ (d.after.text ++ ([';'] ++ s))) = none := fun back hback _ =>
    statement?_name hk (fun c hc => d.isDottedName.chars c (hback.subset hc)) d.after s
  have hsemicolon : ∀ c ∈ [';'], isWord c = false := by decide
  obtain ⟨k, ks, hkeyword, -, -⟩ := id hk
  have htail : occurrencesBehind keyword (front ++ [k])
      (ks ++ (d.gap.text ++ (d.name ++ (d.after.text ++ ([';'] ++ s))))) =
        occurrencesBehind keyword (front ++ d.text keyword) s := by
    rw [occurrencesBehind_keyword hk hkeyword, occurrencesBehind_blanks hk,
      occurrencesBehind_append hname, occurrencesBehind_blanks hk,
        occurrencesBehind_of_noWord hk hsemicolon, Statement.text, hkeyword]
    simp only [List.append_assoc, List.cons_append, List.nil_append]
  have htext : d.text keyword ++ s = k ::
      (ks ++ (d.gap.text ++ (d.name ++ (d.after.text ++ ([';'] ++ s))))) := by
    rw [Statement.append_text, hkeyword]
    rfl
  rw [htext] at hread ⊢
  rw [occurrencesBehind, if_pos hfront, hread, htail]
  rfl

theorem occurrencesBehind_found (hfront : endsBlank front = true) (b : Blanks)
    (d : Statement) (s : Text) :
    occurrencesBehind keyword front (b.text ++ (d.text keyword ++ s)) =
      d.name :: occurrencesBehind keyword (front ++ (b.text ++ d.text keyword)) s := by
  rw [occurrencesBehind_blanks hk, occurrencesBehind_statement hk (endsBlank_append hfront b.blank),
    List.append_assoc]

/-- Where the blanks lead to no statement, the next ones are behind. -/
theorem occurrencesBehind_cons {c : Char}
    (h : endsBlank front = true → statement? keyword ((c :: s).dropWhile isBlank) = none) :
    occurrencesBehind keyword front (c :: s) = occurrencesBehind keyword (front ++ [c]) s := by
  have hhere : (if endsBlank front then statement? keyword (c :: s) else none) = none := by
    split_ifs with hfront
    · cases hc : isBlank c with
      | true => exact statement?_eq_none hk (isWord_of_isBlank hc) s
      | false =>
        have hread := h hfront
        rwa [List.dropWhile_cons_of_neg (by simp [hc])] at hread
    · rfl
  rw [occurrencesBehind, hhere]
  rfl

end Keyword

/-! ## The search -/

theorem first_statementPattern_eq (prev : Option Char) (s : Text) :
    (statementPattern keyword).first prev s =
    if prev.all (· = '\n') then
      (Pattern.all [.many isBlank, .lit keyword, .some isBlank, .group (.some isNameChar),
      .many isBlank, .lit [';']]).first prev s else none := by
  rw [Pattern.first_eq, Pattern.first_eq, show statementPattern keyword =
    .seq .lineStart
      (.all [.many isBlank, .lit keyword, .some isBlank, .group (.some isNameChar), .many isBlank,
        .lit [';']]) from rfl, Pattern.run_seq_lineStart]
  split_ifs <;> rfl

/-- The search at the start of a line takes the statement that the blanks there lead to. -/
theorem first_statementPattern (hk : Pattern.IsKeyword keyword) {prev : Option Char}
    (hprev : prev.all (· = '\n') = true) (b : Blanks) (d : Statement) (s : Text) :
    (statementPattern keyword).first prev (b.text ++ (d.text keyword ++ s)) =
      some ⟨b.text ++ d.text keyword, s, [d.name]⟩ := by
  have hend := isNameChar_of_mem_head?_blanks d.after
    (Text.forall_mem_head? (by decide : isNameChar ';' = false) s)
  have hname := isBlank_of_mem_head?_dottedName d.isDottedName (d.after.text ++ ';' :: s)
  have hstop : ∀ c ∈ ([';'] ++ s).head?, isBlank c = false := Text.forall_mem_head? (by decide) s
  rw [first_statementPattern_eq, if_pos hprev, d.append_text]
  exact Pattern.first_seq (Pattern.first_many b.blank (isBlank_of_mem_head?_keyword hk _))
    (Pattern.first_seq (Pattern.first_lit _ _ _)
    (Pattern.first_seq (Pattern.first_some d.gap.ne_nil d.gap.blank hname)
    (Pattern.first_seq
      (Pattern.first_group (Pattern.first_some d.isDottedName.ne_nil d.isDottedName.chars hend))
    (Pattern.first_seq (Pattern.first_many d.after.blank hstop) (Pattern.first_lit _ [';'] s)))))

/-- The search takes something only at the start of a line, and only where the blanks lead to a
statement. -/
theorem statement?_of_first (hk : Pattern.IsKeyword keyword) {prev : Option Char}
    {m : Pattern.Match}
    (h : (statementPattern keyword).first prev s = some m) :
    prev.all (· = '\n') = true ∧ statement? keyword (s.dropWhile isBlank) ≠ none := by
  have hprev : prev.all (· = '\n') = true := by
    rw [first_statementPattern_eq] at h
    exact (Option.ite_none_right_eq_some.1 h).1
  obtain ⟨_, _, _, _, ⟨rfl, -⟩, hfits, htaken, -⟩ := Pattern.fits_of_first_eq_some h
  obtain ⟨blanks, _, _, _, ⟨hblanks, -⟩, hfits, rfl, -⟩ := hfits
  obtain ⟨taken, _, _, _, ⟨hkeyword, -⟩, hfits, rfl, -⟩ := hfits
  obtain ⟨gap, _, _, _, ⟨hne, hgap, -⟩, hfits, rfl, -⟩ := hfits
  obtain ⟨name, _, _, _, ⟨_, ⟨hnameNe, hname, -⟩, -⟩, hfits, rfl, -⟩ := hfits
  obtain ⟨after, _, _, _, ⟨hafter, -⟩, ⟨rfl, -⟩, rfl, -⟩ := hfits
  let d : Statement := ⟨⟨⟨gap, hgap⟩, hne⟩, name, ⟨hnameNe, hname⟩, ⟨after, hafter⟩⟩
  have hs : blanks ++ (d.text keyword ++ m.left) = s := by
    rw [← Pattern.append_of_first h, htaken, hkeyword]
    simp only [Statement.text, d, List.append_assoc, List.nil_append]
  have hstart : ∀ c ∈ (d.text keyword ++ m.left).head?, isBlank c = false := by
    rw [d.append_text]
    exact isBlank_of_mem_head?_keyword hk _
  rw [← hs, Text.dropWhile_run hblanks hstart, statement?_text]
  exact ⟨hprev, nofun⟩

/-- The names that the search reports when it goes on behind `front`. -/
def namesBehind (keyword front s : Text) : List Text :=
  ((statementPattern keyword).scanFrom 0 (Pattern.before none front) s).filterMap (·.groups.head?)

theorem namesBehind_found (hk : Pattern.IsKeyword keyword)
    (hfront : (Pattern.before none front).all (· = '\n') = true)
    (b : Blanks) (d : Statement) (s : Text) :
    namesBehind keyword front (b.text ++ (d.text keyword ++ s)) =
      d.name :: namesBehind keyword (front ++ (b.text ++ d.text keyword)) s := by
  have hne : b.text ++ d.text keyword ≠ [] := by simp [Statement.text]
  rw [namesBehind, Pattern.scanFrom_of_first (first_statementPattern hk hfront b d s) hne,
    ← Pattern.before_append]
  rfl

theorem namesBehind_cons {c : Char}
    (h : (statementPattern keyword).first (Pattern.before none front) (c :: s) = none) :
    namesBehind keyword front (c :: s) = namesBehind keyword (front ++ [c]) s := by
  have hbefore : Pattern.before none (front ++ [c]) = some c := by simp [Pattern.before]
  rw [namesBehind, namesBehind, hbefore, Pattern.scanFrom, h]

/-- The search behind `front` reports the statements at the positions that are left. The blanks that
lead to the next one have to be left with the whole of its line. -/
theorem namesBehind_eq (hk : Pattern.IsKeyword keyword) (hline : endsBlank front = true →
      (Pattern.before none front).all (· = '\n') = true ∨ statement? keyword
      (s.dropWhile isBlank) = none) :
    namesBehind keyword front s = occurrencesBehind keyword front s := by
  induction hlength : s.length using Nat.strong_induction_on generalizing front s with
  | _ n ih =>
    by_cases hfound : (Pattern.before none front).all (· = '\n') = true ∧
      statement? keyword (s.dropWhile isBlank) ≠ none
    · obtain ⟨hstart, hread⟩ := hfound
      obtain ⟨name, hread⟩ := Option.ne_none_iff_exists'.1 hread
      obtain ⟨d, rest, -, hrest⟩ := exists_statement hread
      obtain ⟨b, hb⟩ : ∃ b : Blanks, b.text = s.takeWhile isBlank :=
        ⟨⟨_, fun c hc => List.mem_takeWhile_imp hc⟩, rfl⟩
      obtain rfl : s = b.text ++ (d.text keyword ++ rest) := by
        rw [hb, ← hrest, List.takeWhile_append_dropWhile]
      have hshorter : rest.length < n := by
        simp only [← hlength, Statement.text, List.length_append, List.length_singleton]
        omega
      have hclosed : endsBlank (front ++ (b.text ++ d.text keyword)) = false := by
        rw [← List.append_assoc]
        exact endsBlank_statement d
      rw [namesBehind_found hk hstart, occurrencesBehind_found hk (endsBlank_of_lineStart hstart),
        ih rest.length hshorter (fun hopen => absurd (hopen.symm.trans hclosed) nofun) rfl]
    · have hfirst : (statementPattern keyword).first (Pattern.before none front) s = none := by
        rw [Option.eq_none_iff_forall_ne_some]
        exact fun m h => hfound (statement?_of_first hk h)
      have hnone : endsBlank front = true → statement? keyword (s.dropWhile isBlank) = none := by
        intro hfront
        by_contra hread
        exact hfound ⟨(hline hfront).resolve_right hread, hread⟩
      cases s with
      | nil => rfl
      | cons c s =>
        rw [namesBehind_cons hfirst, occurrencesBehind_cons hk hnone]
        refine ih s.length (hlength ▸ Nat.lt_succ_self _) (fun hends => ?_) rfl
        rw [endsBlank_concat, Bool.or_eq_true, Bool.and_eq_true] at hends
        rcases hends with hc | ⟨hc, hfront⟩
        · left
          simpa [Pattern.before] using hc
        · right
          have hread := hnone hfront
          rwa [List.dropWhile_cons_of_pos hc] at hread

/-- The search for statements finds those of all positions, in the order of the positions. -/
theorem findAll_statementPattern (hk : Pattern.IsKeyword keyword) (t : Text) :
    (statementPattern keyword).findAll t = occurrences keyword t := by
  have hnames : namesBehind keyword [] t = occurrencesBehind keyword [] t :=
    namesBehind_eq hk fun _ => .inl rfl
  rw [occurrencesBehind_eq] at hnames
  simp only [List.length_nil, Nat.zero_add, List.nil_append] at hnames
  exact hnames

theorem occurrence?_append_eq_none (gap : Space) (hname : IsDottedName name) (after : Blanks)
    (hend : ∀ c ∈ (after.text ++ s).head?, isNameChar c = false)
    (hs : ∀ c ∈ s.head?, isBlank c = false)
    (hsemicolon : s.head? ≠ some ';') :
    occurrence? keyword (front ++ (keyword ++ (gap.text ++ (name ++ (after.text ++ s)))))
      front.length = none := by
  rw [occurrence?, List.take_left, List.drop_left, statement?_append gap hname after hend hs,
    if_neg hsemicolon, ite_self]

/-- The imports of a text are its statements with `import` and its package is that of the first one
with `package`. Imports on demand and static imports are no such statements. -/
theorem statements_found (t : Text) :
    Rule.imported.names t = occurrences "import".toList t ∧
      Package.declared? t = (occurrences "package".toList t).head? ∧
      (∀ (front rest : Text) (gap : Space) (name : { n : Text // IsDottedName n }) (after : Blanks),
        occurrence? "import".toList
          (front ++ ("import".toList ++ (gap.text ++ (name ++ (after.text ++ '*' :: rest)))))
            front.length = none) ∧
      ∀ (front rest : Text) (gap gap' : Space) (name : { n : Text // IsDottedName n }),
        occurrence? "import".toList
          (front ++
            ("import".toList ++ (gap.text ++ ("static".toList ++ (gap'.text ++ (name ++ rest))))))
          front.length = none := by
  have himport : Pattern.IsKeyword "import".toList :=
    ⟨'i', "mport".toList, rfl, by decide, by decide⟩
  have hpackage : Pattern.IsKeyword "package".toList :=
    ⟨'p', "ackage".toList, rfl, by decide, by decide⟩
  refine ⟨findAll_statementPattern himport t,
    congrArg List.head? (findAll_statementPattern hpackage t), ?_, ?_⟩
  · intro front rest gap name after
    have hend := isNameChar_of_mem_head?_blanks after
      (Text.forall_mem_head? (by decide : isNameChar '*' = false) rest)
    exact occurrence?_append_eq_none gap name.2 after hend
      (Text.forall_mem_head? (by decide) rest) (by simp)
  · intro front rest gap gap' name
    have hend : ∀ c ∈ (gap'.text ++ (name ++ rest)).head?, isNameChar c = false := fun c hc =>
      isNameChar_of_isBlank (gap'.isBlank_of_mem_head? _ c hc)
    have hsemicolon : (name ++ rest).head? ≠ some ';' := fun hhead =>
      absurd (isNameChar_of_mem_head?_dottedName name.2 rest ';' hhead) (by decide)
    exact occurrence?_append_eq_none gap ⟨by decide, by decide⟩ gap'.toBlanks hend
      (isBlank_of_mem_head?_dottedName name.2 rest) hsemicolon

/-- Blanks go over lines, a name may be the keyword, and only the first statement of a line
counts. -/
example : Rule.imported.names "import\nimport ;\n\n import a.b\t; import c;\nimport d.*;".toList =
    ["import".toList, "a.b".toList] := by decide

end SourceReach.Rule
