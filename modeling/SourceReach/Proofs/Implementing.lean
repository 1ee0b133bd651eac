import Mathlib.Data.List.Forall2
import SourceReach.Proofs.SimpleName

/-!
# Listed interfaces

A clause lists interfaces with commas between them, each with blanks around it and type arguments
anywhere in it. The search takes the clause as a whole (`findAll_implements`); taking out the type
arguments leaves the elements without them, each in its place (`stripGenerics_clause`), so cutting
at the commas and taking the simple names gives the listed interfaces (`implemented_listed`).
-/

namespace SourceReach

namespace Rule

variable {t u v gap name : Text} {ts found : List Text} {stop : Char}

/-- The text is an element of a clause and stands for the interface of this name: outside of its
type arguments there is a dotted name that ends with it, and blanks. -/
structure IsListed (t name : Text) : Prop where
  noBrace : '\x7b' ∉ t
  noSemicolon : ';' ∉ t
  balanced : Brackets.IsBalanced t
  identifier : TypeName.isIdentifier name = true
  dotted : ∃ before qualifiers after, (∀ c ∈ before, isBlank c = true) ∧
    (∀ q ∈ qualifiers, TypeName.IsPart q) ∧
    (∀ c ∈ after, isBlank c = true) ∧
    Brackets.outside t = before ++ Text.joined ['.'] (qualifiers ++ [name]) ++ after

namespace IsListed

theorem isPart (h : IsListed t name) {qualifiers : List Text}
    (hq : ∀ q ∈ qualifiers, TypeName.IsPart q) :
    ∀ p ∈ qualifiers ++ [name], TypeName.IsPart p := by
  intro p hp
  rcases List.mem_append.1 hp with hp | hp
  · exact hq p hp
  · rw [List.mem_singleton.1 hp]
    exact TypeName.isPart_of_isIdentifier h.identifier

theorem simpleName_eq (h : IsListed t name) : TypeName.simpleName (Brackets.outside t) = name := by
  obtain ⟨before, qualifiers, after, hbefore, hq, hafter, houtside⟩ := h.dotted
  have hname :
    TypeName.simpleName
      (before ++ (Text.joined ['.'] (qualifiers ++ [name]) ++ TypeName.brackets 0 ++
      TypeName.ellipsis false) ++ after) = name := TypeName.simpleName_suffixed
        (h.isPart hq) hbefore hafter
  have hplain : TypeName.brackets 0 = [] ∧ TypeName.ellipsis false = [] := ⟨rfl, rfl⟩
  rwa [hplain.1, hplain.2, List.append_nil, List.append_nil, ← houtside] at hname

theorem noComma (h : IsListed t name) : ',' ∉ Brackets.outside t := by
  obtain ⟨before, qualifiers, after, hbefore, hq, hafter, houtside⟩ := h.dotted
  rw [houtside]
  intro hmem
  rcases List.mem_append.1 hmem with hmem | hmem
  · rcases List.mem_append.1 hmem with hmem | hmem
    · exact absurd (hbefore _ hmem) (by decide)
    · rcases TypeName.mem_dotted (h.isPart hq) hmem with hc | hc
      · exact absurd hc (by decide)
      · exact absurd hc (by decide)
  · exact absurd (hafter _ hmem) (by decide)

theorem exists_not_isBlank (h : IsListed t name) : ∃ c ∈ t, isBlank c = false := by
  obtain ⟨before, qualifiers, after, hbefore, hq, hafter, houtside⟩ := h.dotted
  have hname := TypeName.dotted_ne_nil (TypeName.isPart_of_isIdentifier h.identifier) qualifiers
  obtain ⟨c, hc⟩ := List.exists_mem_of_ne_nil _ hname
  refine ⟨c, (Brackets.outside_sublist t).subset ?_, TypeName.isBlank_of_mem_dotted
    (h.isPart hq) c hc⟩
  rw [houtside]
  exact List.mem_append_left _ (List.mem_append_right _ hc)

theorem of_blanks (h : IsListed (gap ++ t) name) (hgap : ∀ c ∈ gap, isBlank c = true) :
    IsListed t name := by
  have hplain := Brackets.isPlain_of_isBlank hgap
  have hbalanced := h.balanced.of_append hplain
  refine ⟨fun hmem => h.noBrace (List.mem_append_right _ hmem), fun hmem => h.noSemicolon
    (List.mem_append_right _ hmem), hbalanced, h.identifier, ?_⟩
  obtain ⟨before, qualifiers, after, hbefore, hq, hafter, houtside⟩ := h.dotted
  have hstrip : Brackets.outside (gap ++ t) = gap ++ Brackets.outside t := by
    rw [Brackets.outside_eq_strip, Brackets.outside_eq_strip]
    exact ((Brackets.adds_plain hplain).append hbalanced.adds).strip_eq
  have hstart : ∀ c ∈ (Text.joined ['.'] (qualifiers ++ [name]) ++ after).head?,
      isBlank c = false := by
    have hname := TypeName.dotted_ne_nil (TypeName.isPart_of_isIdentifier h.identifier) qualifiers
    have hchars := TypeName.isBlank_of_mem_dotted (h.isPart hq)
    obtain ⟨c, rest, hrest⟩ := List.exists_cons_of_ne_nil hname
    rw [hrest] at hchars ⊢
    simpa using hchars c List.mem_cons_self
  -- The blanks before the name are the ones of the gap and those that come then.
  have hbefore' : before = gap ++ (Brackets.outside t).takeWhile isBlank := by
    rw [← Text.takeWhile_run hbefore hstart, ← List.append_assoc, ← houtside, hstrip,
      List.takeWhile_append_of_pos hgap]
  refine ⟨(Brackets.outside t).takeWhile isBlank, qualifiers, after, ?_, hq, hafter, ?_⟩
  · intro c hc
    exact hbefore c (hbefore' ▸ List.mem_append_right _ hc)
  · refine List.append_cancel_left (?_ : gap ++ _ = gap ++ _)
    rw [← hstrip, houtside, hbefore']
    simp

end IsListed

/-! ## Clauses -/

/-- What may stand in a clause: anything but what ends it. -/
def isClauseChar (c : Char) : Bool := c ≠ '\x7b' && c ≠ ';'

theorem IsListed.isClauseChar (h : IsListed t name) : ∀ c ∈ t, isClauseChar c = true := by
  intro c hc
  have hbrace : c ≠ '\x7b' := fun heq => h.noBrace (heq ▸ hc)
  have hsemicolon : c ≠ ';' := fun heq => h.noSemicolon (heq ▸ hc)
  simp [Rule.isClauseChar, hbrace, hsemicolon]

/-- The search for clauses takes the one after the keyword as a whole, up to what ends it. -/
theorem findAll_implements {clause : Text} (hedge : ∀ c ∈ u.getLast?, isWord c = false)
    (hu : ¬ "implements".toList <:+: u) (hv : ¬ "implements".toList <:+: v) (hgap : gap ≠ [])
    (hblank : ∀ c ∈ gap, isBlank c = true) (hclause : clause ≠ [])
    (hstart : ∀ c ∈ clause.head?, isBlank c = false)
    (hchars : ∀ c ∈ clause, isClauseChar c = true) (hstop : isClauseChar stop = false) :
    implementsPattern.findAll (u ++ ("implements".toList ++ (gap ++ (clause ++ stop :: v)))) =
      [clause] := by
  have hkeyword : Pattern.IsKeyword "implements".toList :=
    ⟨'i', "mplements".toList, rfl, by decide, by decide⟩
  have hfirst : ∀ prev, (Pattern.seq (.some isBlank) (.group (.some isClauseChar))).first prev
      (gap ++ (clause ++ stop :: v)) = some ⟨gap ++ clause, stop :: v, [clause]⟩ := by
    intro prev
    have hclauseStart : ∀ c ∈ (clause ++ stop :: v).head?, isBlank c = false := by
      obtain ⟨c, clause, rfl⟩ := List.exists_cons_of_ne_nil hclause
      exact hstart
    exact Pattern.first_seq (Pattern.first_some hgap hblank hclauseStart)
      (Pattern.first_group (Pattern.first_some hclause hchars (by simpa using hstop)))
  have hleft : ¬ "implements".toList <:+: stop :: v := by
    rw [List.infix_cons_iff]
    rintro (hstarts | hinfix)
    · obtain ⟨rfl, -⟩ := List.cons_prefix_cons.1 (show 'i' :: "mplements".toList <+: stop ::
        v from hstarts)
      exact absurd hstop (by decide)
    · exact hv hinfix
  have hscan := Pattern.scan_keyword hkeyword hedge hu hfirst hleft
  rw [Pattern.findAll, show implementsPattern = .seq .edge (.seq (.lit "implements".toList)
    (.seq (.some isBlank) (.group (.some isClauseChar)))) from rfl, hscan]
  rfl

theorem stripGenerics_clause (h : ∀ t ∈ ts, ∃ name, IsListed t name) :
    TypeName.stripGenerics (Text.joined [','] ts) =
      Text.joined [','] (ts.map Brackets.outside) := by
  have hadds : List.Forall₂ Brackets.Adds ts (ts.map Brackets.outside) := by
    rw [List.forall₂_map_right_iff, List.forall₂_same]
    intro t ht
    obtain ⟨name, hname⟩ := h t ht
    rw [Brackets.outside_eq_strip]
    exact hname.balanced.adds
  have hcomma : Brackets.IsPlain [','] := by decide
  rw [Brackets.stripGenerics_eq_strip, (Brackets.adds_joined hcomma hadds).strip_eq]

theorem exists_isListed (h : List.Forall₂ IsListed ts found) :
    ∀ t ∈ ts, ∃ name, IsListed t name := by
  induction h with
  | nil => nofun
  | cons ht _ ih => exact List.forall_mem_cons.2 ⟨⟨_, ht⟩, ih⟩

/-- The elements of a clause give the interfaces that they stand for. -/
theorem ofTokens_clause (h : List.Forall₂ IsListed ts found) (hne : ts ≠ []) :
    TypeName.ofTokens ((TypeName.stripGenerics (Text.joined [','] ts)).pieces ',') = found := by
  have hcomma : ∀ r ∈ ts.map Brackets.outside, ',' ∉ r := by
    intro r hr
    obtain ⟨t, ht, rfl⟩ := List.mem_map.1 hr
    obtain ⟨name, hname⟩ := exists_isListed h t ht
    exact hname.noComma
  rw [stripGenerics_clause (exists_isListed h), Text.pieces_joined (by simpa using hne) hcomma]
  refine TypeName.ofTokens_eq ?_
  rw [List.forall₂_map_left_iff]
  exact h.imp fun t name hname => ⟨hname.simpleName_eq, hname.identifier⟩

/-- Of a text with one clause, the interfaces that the clause lists are found, in their order:
commas within type arguments cut nothing, whatever is nested in what. -/
theorem implemented_listed (hedge : ∀ c ∈ u.getLast?, isWord c = false)
    (hu : ¬ "implements".toList <:+: u)
    (hv : ¬ "implements".toList <:+: v) (hgap : gap ≠ []) (hblank : ∀ c ∈ gap, isBlank c = true)
    (hstop : stop = '\x7b' ∨ stop = ';') (hne : ts ≠ [])
    (hlisted : List.Forall₂ IsListed ts found) :
    Rule.implemented.names (u ++ "implements".toList ++ gap ++ Text.joined [','] ts ++ stop :: v) =
      found := by
  obtain ⟨t, ts, rfl⟩ := List.exists_cons_of_ne_nil hne
  cases hlisted with
  | @cons _ name _ found ht hrest =>
  -- The blanks in front of the first element are taken with those of the gap.
  obtain ⟨lead, body, rfl, hlead, hbody⟩ := Text.exists_run isBlank t
  have hlisted : List.Forall₂ IsListed (body :: ts) (name :: found) :=
    .cons (ht.of_blanks hlead) hrest
  have hbodyNe : body ≠ [] := by
    rintro rfl
    obtain ⟨c, hc, hblank⟩ := (ht.of_blanks hlead).exists_not_isBlank
    exact absurd hc List.not_mem_nil
  have hclauseNe : Text.joined [','] (body :: ts) ≠ [] := by
    obtain ⟨c, hc⟩ := List.exists_mem_of_ne_nil body hbodyNe
    exact List.ne_nil_of_mem (Text.mem_joined_of_mem List.mem_cons_self hc)
  have hclauseStart : ∀ c ∈ (Text.joined [','] (body :: ts)).head?, isBlank c = false := by
    rwa [Text.head?_joined hbodyNe]
  have hchars : ∀ c ∈ Text.joined [','] (body :: ts), isClauseChar c = true := by
    intro c hc
    rcases Text.mem_joined hc with hc | ⟨t, ht, hc⟩
    · rw [List.mem_singleton.1 hc]
      decide
    · obtain ⟨name, hname⟩ := exists_isListed hlisted t ht
      exact hname.isClauseChar c hc
  have hstop' : isClauseChar stop = false := by
    rcases hstop with rfl | rfl <;> decide
  have hfound := findAll_implements hedge hu hv (List.append_ne_nil_of_left_ne_nil hgap lead)
    (List.forall_mem_append.2 ⟨hblank, hlead⟩) hclauseNe hclauseStart hchars hstop'
  have htext : u ++ "implements".toList ++ gap ++
    Text.joined [','] ((lead ++ body) :: ts) ++ stop :: v =
      u ++ ("implements".toList ++
        (gap ++ lead ++ (Text.joined [','] (body :: ts) ++ stop :: v))) := by
    rw [Text.joined_append_cons]
    simp only [List.append_assoc]
  rw [htext, Rule.names, implementedTypes, hfound, List.flatMap_cons, List.flatMap_nil,
    List.append_nil]
  exact ofTokens_clause hlisted (List.cons_ne_nil _ _)

/-- Type arguments with commas in them, over several lines, and a qualified name. -/
theorem nestedArguments_listed :
    let first := "Comparable<A>".toList
    let second := "\n  Handler<Map<K, V>,\n List<W>> ".toList
    let third := " com.example.$Base<?>".toList
    (∀ c ∈ "class A ".toList.getLast?, isWord c = false) ∧
      ¬ "implements".toList <:+: "class A ".toList ∧
      ¬ "implements".toList <:+: " \x7d".toList ∧ (∀ c ∈ [' ', '\t'], isBlank c = true) ∧
      List.Forall₂ IsListed [first, second, third] ["Comparable".toList, "Handler".toList,
        "$Base".toList] ∧
      Rule.implemented.names ("class A ".toList ++ "implements".toList ++ [' ', '\t'] ++
        Text.joined [','] [first, second, third] ++ '\x7b' :: " \x7d".toList) =
          ["Comparable".toList, "Handler".toList, "$Base".toList] := by
  intro first second third
  have hedge : ∀ c ∈ "class A ".toList.getLast?, isWord c = false := by decide
  have hfront : ¬ "implements".toList <:+: "class A ".toList := by decide
  have hback : ¬ "implements".toList <:+: " \x7d".toList := by decide
  have hblank : ∀ c ∈ [' ', '\t'], isBlank c = true := by decide
  have hfirst : IsListed first "Comparable".toList :=
    ⟨by decide, by decide, by decide, by decide, [], [], [], by simp, by simp, by simp, by decide⟩
  have hsecond : IsListed second "Handler".toList :=
    ⟨by decide, by decide, by decide, by decide, "\n  ".toList, [],
      " ".toList, by decide, by simp, by decide, by decide⟩
  have hthird : IsListed third "$Base".toList :=
    ⟨by decide, by decide, by decide, by decide, " ".toList, ["com".toList, "example".toList],
      [], by decide, by decide, by simp, by decide⟩
  have hlisted := List.Forall₂.cons hfirst (.cons hsecond (.cons hthird .nil))
  exact ⟨hedge, hfront, hback, hblank, hlisted,
    implemented_listed hedge hfront hback (by simp) hblank (.inl rfl) (by simp) hlisted⟩

end Rule

end SourceReach
