import Mathlib.Tactic.SplitIfs
import SourceReach.Proofs.Runs
import SourceReach.Text.Pattern

/-!
# What a search finds

The preferred match of a sequence is put together from the preferred matches of its parts
(`first_seq`), so where a text is written as the parts that a pattern asks for, the match is read
off. A search goes past the places without a match (`scanFrom_of_misses`) and on behind a match
(`scanFrom_of_first`). A text that has a keyword in one place only has one match (`scan_keyword`).
-/

namespace SourceReach.Pattern

variable {p q : Pattern} {cls : Char → Bool} {prev : Option Char} {s t u keyword : Text}
  {m n : Match} {d : Char}

/-! ## The preferred match -/

/-- One match and another one that starts where it ends. -/
def Match.followedBy (m n : Match) : Match := ⟨m.taken ++ n.taken, n.left, m.groups ++ n.groups⟩

theorem first_eq_none_iff : p.first prev s = none ↔ p.run prev s = [] := by
  rw [first_eq, List.head?_eq_none_iff]

theorem append_of_first (h : p.first prev s = .some m) : m.taken ++ m.left = s := by
  rw [first_eq] at h
  exact append_of_mem_run (List.mem_of_head? h)

/-- A sequence prefers what its parts prefer, as long as the later part matches behind that. -/
theorem first_seq (hp : p.first prev s = .some m)
    (hq : q.first (before prev m.taken) m.left = .some n) :
    (seq p q).first prev s = .some (m.followedBy n) := by
  rw [first_eq] at hp hq ⊢
  obtain ⟨ms, hms⟩ := List.head?_eq_some_iff.1 hp
  obtain ⟨ns, hns⟩ := List.head?_eq_some_iff.1 hq
  simp only [run, hms, hns, List.flatMap_cons, List.map_cons, List.cons_append, List.head?_cons]
  rfl

theorem first_group (h : p.first prev s = .some m) :
    (group p).first prev s = .some { m with groups := m.taken :: m.groups } := by
  rw [first_eq] at h ⊢
  simp [run, h]

theorem first_lit (prev : Option Char) (t s : Text) :
    (lit t).first prev (t ++ s) = .some ⟨t, s, []⟩ := by
  simp [first_eq, run]

theorem first_lit_eq_none (h : ¬ t <+: s) : (lit t).first prev s = none := by
  simp [first_eq, run, h]

theorem head?_cuts (cls : Char → Bool) (s : Text) :
    (cuts cls s).head? = .some (s.takeWhile cls, s.dropWhile cls) := by
  induction s with
  | nil => rfl
  | cons c s ih =>
    by_cases hc : cls c
    · simp [cuts, hc, ih]
    · simp [cuts, hc]

theorem first_many (ht : ∀ c ∈ t, cls c = true) (hs : ∀ c ∈ s.head?, cls c = false) :
    (many cls).first prev (t ++ s) = .some ⟨t, s, []⟩ := by
  simp only [first_eq, run, List.head?_map, head?_cuts, Text.takeWhile_run ht hs,
    Text.dropWhile_run ht hs]
  rfl

theorem first_some (hne : t ≠ []) (ht : ∀ c ∈ t, cls c = true) (hs : ∀ c ∈ s.head?, cls c = false) :
    (some cls).first prev (t ++ s) = .some ⟨t, s, []⟩ := by
  obtain ⟨c, t, rfl⟩ := List.exists_cons_of_ne_nil hne
  obtain ⟨hc, ht⟩ := List.forall_mem_cons.1 ht
  simp only [first_eq, run, List.cons_append, cutsSome, hc, if_true, List.head?_map, head?_cuts,
    Text.takeWhile_run ht hs, Text.dropWhile_run ht hs]
  rfl

theorem first_edge (h : atEdge prev s = true) : edge.first prev s = .some ⟨[], s, []⟩ := by
  simp [first_eq, run, h]

theorem first_alt_left (h : p.first prev s = .some m) (q : Pattern) :
    (alt p q).first prev s = .some m := by
  rw [first_eq] at h ⊢
  rw [run, List.head?_append, h, Option.some_or]

theorem first_alt_right (h : p.first prev s = none) (q : Pattern) :
    (alt p q).first prev s = q.first prev s := by
  rw [first_eq_none_iff] at h
  rw [first_eq, first_eq, run, h, List.nil_append]

theorem first_opt_some (h : p.first prev s = .some m) : (opt p).first prev s = .some m :=
  first_alt_left h _

theorem first_opt_none (h : p.first prev s = none) : (opt p).first prev s = .some ⟨[], s, []⟩ := by
  rw [opt, first_alt_right h]
  exact first_lit prev [] s

/-- What may be there is matched with what is there, if nothing cannot be mistaken for something. -/
theorem first_opt_getD {α : Type} {o : Option α} {text : α → Text}
    (hsome : ∀ a ∈ o, p.first prev (text a ++ s) = .some ⟨text a, s, []⟩)
    (hnone : o = none → p.first prev s = none) :
    (opt p).first prev ((o.map text).getD [] ++ s) = .some ⟨(o.map text).getD [], s, []⟩ := by
  cases o with
  | none => exact first_opt_none (hnone rfl)
  | some a => exact first_opt_some (hsome a rfl)

theorem first_some_eq_none (hs : ∀ c ∈ s.head?, cls c = false) :
    (some cls).first prev s = none := by
  rw [first_eq_none_iff, run]
  cases s with
  | nil => rfl
  | cons c s => rw [cutsSome, if_neg (by simp [hs c rfl])]; rfl

/-- A sequence has no match when its later part has none behind any match of the earlier part. -/
theorem first_seq_eq_none (h : ∀ m ∈ p.run prev s, q.first (before prev m.taken) m.left = none) :
    (seq p q).first prev s = none := by
  rw [first_eq_none_iff, run, List.flatMap_eq_nil_iff]
  intro m hm
  rw [first_eq_none_iff.1 (h m hm), List.map_nil]

theorem first_many_seq_stop (hs : ∀ c ∈ s.head?, cls c = false) (q : Pattern) :
    (seq (many cls) q).first prev s = q.first prev s := by
  have hcuts : cuts cls s = [([], s)] := by
    cases s with
    | nil => rfl
    | cons c s => rw [cuts, if_neg (by simp [hs c rfl])]
  simp [first_eq, run, hcuts, Match.ofCut]

/-- A repetition in front takes one more character, if there is a match then, or else the repetition
is over. -/
theorem first_many_seq_cons {c : Char} (hc : cls c = true) (q : Pattern)
    (prev : Option Char) (s : Text) :
    (seq (many cls) q).first prev (c :: s) =
      (((seq (many cls) q).first (.some c) s).map fun m => { m with taken := c :: m.taken }).or
        (q.first prev (c :: s)) := by
  simp only [first_eq, run, cuts, hc, if_true, List.map_append, List.flatMap_append,
    List.head?_append]
  congr 1
  · rw [← List.head?_map, List.map_map, List.flatMap_map, List.flatMap_map, List.map_flatMap]
    simp only [Match.ofCut, before_cons, Function.comp_def, List.map_map, List.cons_append]
  · simp [Match.ofCut]

theorem first_many_seq_none (hq : firstChar? q = .some d) (ht : ∀ c ∈ t, cls c = true) (hd : d ∉ t)
    (hs : ∀ c ∈ s.head?, cls c = false) (hne : s.head? ≠ .some d) :
    (seq (many cls) q).first prev (t ++ s) = none := by
  induction t generalizing prev with
  | nil =>
    rw [List.nil_append, first_many_seq_stop hs, first_eq, run_eq_nil hq hne]
    rfl
  | cons c t ih =>
    obtain ⟨hc, ht⟩ := List.forall_mem_cons.1 ht
    obtain ⟨hcd, hd⟩ := not_or.1 fun h => hd (List.mem_cons.2 h)
    have hhead : (c :: (t ++ s)).head? ≠ .some d := fun h => hcd (Option.some.inj h).symm
    rw [List.cons_append, first_many_seq_cons hc, ih ht hd, first_eq, run_eq_nil hq hhead]
    rfl

/-- A repetition that a character of its class must follow goes up to the last one of that
character. -/
theorem first_many_lit (ht : ∀ c ∈ t, cls c = true) (hd : cls d = true)
    (hu : ∀ c ∈ u, cls c = true) (hdu : d ∉ u)
    (hs : ∀ c ∈ s.head?, cls c = false) :
    (seq (many cls) (lit [d])).first prev (t ++ d :: (u ++ s)) = .some ⟨t ++ [d], u ++ s, []⟩ := by
  induction t generalizing prev with
  | nil =>
    have hne : s.head? ≠ .some d := fun h => absurd ((hs d h).symm.trans hd) nofun
    rw [List.nil_append, first_many_seq_cons hd, first_many_seq_none rfl hu hdu hs hne]
    exact first_lit prev [d] _
  | cons c t ih =>
    obtain ⟨hc, ht⟩ := List.forall_mem_cons.1 ht
    rw [List.cons_append, first_many_seq_cons hc, ih ht]
    rfl

/-- Behind the start of a line the rest of a pattern is matched where it stands. -/
theorem run_seq_lineStart (q : Pattern) (prev : Option Char) (s : Text) :
    run (seq lineStart q) prev s = if prev.all (· = '\n') then run q prev s else [] := by
  simp only [run]
  split_ifs <;> simp

/-! ## Searches -/

/-- The pattern matches at no place of `u`, when `s` comes behind it. -/
def Misses (p : Pattern) (prev : Option Char) (u s : Text) : Prop :=
  ∀ front back, front ++ back = u → back ≠ [] → p.first (before prev front) (back ++ s) = none

theorem Misses.head {c : Char} (h : p.Misses prev (c :: u) s) :
    p.first prev (c :: (u ++ s)) = none := by
  have hfirst := h [] (c :: u) rfl (List.cons_ne_nil c u)
  rwa [before_nil] at hfirst

theorem Misses.tail {c : Char} (h : p.Misses prev (c :: u) s) : p.Misses (.some c) u s := by
  intro front back hu hback
  rw [← before_cons prev]
  exact h (c :: front) back (congrArg _ hu) hback

theorem scanFrom_skip (p : Pattern) (prev : Option Char) (t s : Text) :
    p.scanFrom t.length prev (t ++ s) = p.scanFrom 0 (before prev t) s := by
  induction t generalizing prev with
  | nil => rw [before_nil]; rfl
  | cons c t ih => rw [before_cons]; exact ih (.some c)

theorem eraseFrom_skip (p : Pattern) (prev : Option Char) (t s : Text) :
    p.eraseFrom t.length prev (t ++ s) = p.eraseFrom 0 (before prev t) s := by
  induction t generalizing prev with
  | nil => rw [before_nil]; rfl
  | cons c t ih => rw [before_cons]; exact ih (.some c)

/-- A match is found where the search is, and the search goes on behind it. -/
theorem scanFrom_of_first (h : p.first prev s = .some m) (hne : m.taken ≠ []) :
    p.scanFrom 0 prev s = m :: p.scanFrom 0 (before prev m.taken) m.left := by
  obtain ⟨c, t, ht⟩ := List.exists_cons_of_ne_nil hne
  have hs := append_of_first h
  rw [ht, List.cons_append] at hs
  subst hs
  rw [ht, before_cons, ← scanFrom_skip, scanFrom, h]
  simp [ht]

theorem scanFrom_of_misses (h : p.Misses prev u s) :
    p.scanFrom 0 prev (u ++ s) = p.scanFrom 0 (before prev u) s := by
  induction u generalizing prev with
  | nil => rw [before_nil]; rfl
  | cons c u ih => rw [List.cons_append, scanFrom, h.head, before_cons]; exact ih h.tail

/-- What is matched behind places without a match is found, and the search goes on behind it. -/
theorem scanFrom_found {groups : List Text} (hmisses : p.Misses prev u (t ++ s))
    (hfirst : p.first (before prev u) (t ++ s) = .some ⟨t, s, groups⟩) (hne : t ≠ []) :
    p.scanFrom 0 prev (u ++ (t ++ s)) = ⟨t, s, groups⟩ ::
      p.scanFrom 0 (before prev (u ++ t)) s := by
  rw [scanFrom_of_misses hmisses, scanFrom_of_first hfirst hne, before_append]

theorem eraseFrom_of_first (h : p.first prev s = .some m) (hne : m.taken ≠ []) :
    p.eraseFrom 0 prev s = p.eraseFrom 0 (before prev m.taken) m.left := by
  obtain ⟨c, t, ht⟩ := List.exists_cons_of_ne_nil hne
  have hs := append_of_first h
  rw [ht, List.cons_append] at hs
  subst hs
  rw [ht, before_cons, ← eraseFrom_skip, eraseFrom, h]
  simp [ht]

theorem eraseFrom_of_misses (h : p.Misses prev u s) :
    p.eraseFrom 0 prev (u ++ s) = u ++ p.eraseFrom 0 (before prev u) s := by
  induction u generalizing prev with
  | nil => rw [before_nil]; rfl
  | cons c u ih =>
    rw [List.cons_append, eraseFrom, h.head, before_cons]; exact congrArg _ (ih h.tail)

theorem eraseFrom_sublist (p : Pattern) (skip : Nat) (prev : Option Char) (s : Text) :
    (p.eraseFrom skip prev s).Sublist s := by
  induction s generalizing skip prev with
  | nil => exact List.Sublist.refl _
  | cons c s ih =>
    cases skip with
    | succ skip => exact (ih skip _).cons c
    | zero =>
      rw [eraseFrom]
      split
      · exact (ih _ _).cons c
      · exact (ih _ _).cons_cons c

/-- A text that keeps all its characters has no match. -/
theorem misses_of_eraseFrom (h : p.eraseFrom 0 prev s = s) : p.Misses prev s [] := by
  induction s generalizing prev with
  | nil =>
    intro front back heq hback
    exact absurd (List.append_eq_nil_iff.1 heq).2 hback
  | cons c s ih =>
    rw [eraseFrom] at h
    split at h
    · next m _ =>
      have hle := (p.eraseFrom_sublist (m.taken.length - 1) (.some c) s).length_le
      rw [h, List.length_cons] at hle
      omega
    · next hfirst =>
      rintro (_ | ⟨d, front⟩) back heq hback
      · obtain rfl : back = c :: s := heq
        rwa [before_nil, List.append_nil]
      · obtain ⟨rfl, hfront⟩ := List.cons.inj heq
        rw [before_cons]
        exact ih (List.cons.inj h).2 front back hfront hback

/-! ## Keywords -/

/-- The pattern matches only where the keyword stands. -/
def Needs (p : Pattern) (keyword : Text) : Prop := ∀ prev s, ¬ keyword <+: s → p.first prev s = none

theorem needs_lit (t : Text) : (lit t).Needs t := fun _ _ h => first_lit_eq_none h

theorem needs_edge_lit (t : Text) (q : Pattern) : (seq edge (seq (lit t) q)).Needs t := by
  intro prev s h
  rw [first_eq_none_iff]
  simp [run, h]

theorem Needs.misses (hp : p.Needs keyword)
    (h : ∀ back, back <:+ u → back ≠ [] → ¬ keyword <+: back ++ s) : p.Misses prev u s := by
  rintro front back rfl hback
  exact hp _ _ (h back (List.suffix_append _ _) hback)

theorem Needs.misses_of_notInfix (hp : p.Needs keyword) (h : ¬ keyword <:+: u) :
    p.Misses prev u [] := by
  refine hp.misses fun back hback _ hstarts => h ?_
  rw [List.append_nil] at hstarts
  exact hstarts.isInfix.trans hback.isInfix

theorem needs_of_firstChar? (h : firstChar? p = .some d) : p.Needs [d] := by
  intro prev s hstart
  rw [first_eq, run_eq_nil h fun hhead => ?_]
  · rfl
  · obtain ⟨rest, rfl⟩ := List.head?_eq_some_iff.1 hhead
    exact hstart (List.prefix_append [d] rest)

/-- A text without the character that all matches start with has no match, whatever comes behind
it. -/
theorem Needs.misses_of_notMem (hp : p.Needs [d]) (h : d ∉ u) (s : Text) : p.Misses prev u s := by
  refine hp.misses fun back hback hne hstarts => h ?_
  obtain ⟨c, back, rfl⟩ := List.exists_cons_of_ne_nil hne
  rw [(List.cons_prefix_cons.1 hstarts).1]
  exact hback.subset List.mem_cons_self

/-- A word that starts with a character which it does not have again. -/
def IsKeyword (t : Text) : Prop := ∃ k ks, t = k :: ks ∧ (∀ c ∈ k :: ks, isWord c = true) ∧ k ∉ ks

/-- In front of the keyword, no further place has it: it would start in what is before, and its
first character would stand in it again. -/
theorem Needs.misses_before (hp : p.Needs keyword) (hk : IsKeyword keyword)
    (hu : ¬ keyword <:+: u) (s : Text) :
    p.Misses prev u (keyword ++ s) := by
  refine hp.misses fun back hback hne hstarts => ?_
  rcases List.prefix_or_prefix_of_prefix hstarts (List.prefix_append back _) with hshort | ⟨w, hw⟩
  · exact hu (hshort.isInfix.trans hback.isInfix)
  · cases w with
    | nil =>
      rw [List.append_nil] at hw
      exact hu (hw ▸ hback.isInfix)
    | cons d w =>
      obtain ⟨k, ks, rfl, -, hk⟩ := hk
      rw [← hw, List.prefix_append_right_inj, hw] at hstarts
      obtain ⟨x, hx⟩ := hstarts
      obtain ⟨b, back, rfl⟩ := List.exists_cons_of_ne_nil hne
      have hd : d = k := (List.cons.inj hx).1
      have hks : back ++ d :: w = ks := (List.cons.inj hw).2
      exact hk (by simp [← hks, hd])

theorem atEdge_keyword (hk : IsKeyword keyword) (hprev : ∀ c ∈ prev, isWord c = false) (s : Text) :
    atEdge prev (keyword ++ s) = true := by
  obtain ⟨k, ks, rfl, hk, -⟩ := hk
  have hbefore : prev.any isWord = false := by
    rw [Option.any_eq_false]
    intro c hc
    simp [hprev c hc]
  rw [atEdge, hbefore]
  simp [hk k List.mem_cons_self]

theorem before_none (u : Text) : before none u = u.getLast? := Option.or_none

/-- A text that has a keyword in one place only has at most the match that is there. -/
theorem scan_keyword (hk : IsKeyword keyword) (hedge : ∀ c ∈ u.getLast?, isWord c = false)
    (hu : ¬ keyword <:+: u)
    (hfirst : ∀ prev, q.first prev s = .some n) (hleft : ¬ keyword <:+: n.left) :
    (seq edge (seq (lit keyword) q)).scan (u ++ (keyword ++ s)) =
      [⟨keyword ++ n.taken, n.left, n.groups⟩] := by
  have hneeds := needs_edge_lit keyword q
  have hmatch : (seq edge (seq (lit keyword) q)).first (before none u) (keyword ++ s) =
      .some ⟨keyword ++ n.taken, n.left, n.groups⟩ :=
    first_seq (first_edge (atEdge_keyword hk (before_none u ▸ hedge) s))
      (first_seq (first_lit _ _ _) (hfirst _))
  have hne : keyword ++ n.taken ≠ [] := by
    obtain ⟨k, ks, rfl, -⟩ := hk
    simp
  have hrest : ∀ prev, (seq edge (seq (lit keyword) q)).scanFrom 0 prev (n.left ++ []) = [] :=
    fun _ =>
    scanFrom_of_misses (hneeds.misses_of_notInfix hleft)
  rw [scan, scanFrom_of_misses (hneeds.misses_before hk hu s), scanFrom_of_first hmatch hne]
  rw [List.append_nil] at hrest
  exact congrArg _ (hrest _)

end SourceReach.Pattern
