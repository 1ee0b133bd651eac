import SourceReach.Java.Rule
import SourceReach.Proofs.Balanced
import SourceReach.Proofs.Pieces

/-!
# Simple names of dotted names

The simple name of a dotted name is its last part, also when array and varargs suffixes follow it
(`simpleName_suffixed`). The suffixes are found where they stand and nowhere else: the dots of a
dotted name are not next to each other, and square brackets are in no part of it.
-/

namespace SourceReach

namespace TypeName

variable {c : Char} {t name before after : Text} {qualifiers parts : List Text} {dimensions : Nat}
  {varargs : Bool}

/-- A part of a dotted name: one or more characters that an identifier may go on with. -/
structure IsPart (t : Text) : Prop where
  ne_nil : t ≠ []
  chars : ∀ c ∈ t, isIdentifierPart c = true

instance (t : Text) : Decidable (IsPart t) :=
  decidable_of_iff (t ≠ [] ∧ ∀ c ∈ t, isIdentifierPart c = true)
    ⟨fun h => ⟨h.1, h.2⟩, fun h => ⟨h.1, h.2⟩⟩

theorem IsPart.notMem (h : IsPart t) (hc : isIdentifierPart c = false) : c ∉ t := by
  intro hmem
  exact absurd ((h.chars c hmem).symm.trans hc) nofun

theorem isBlank_of_isIdentifierPart (h : isIdentifierPart c = true) : isBlank c = false := by
  rcases Bool.or_eq_true_iff.1 h with hword | hdollar
  · exact isBlank_of_isWord hword
  · rw [eq_of_beq hdollar]
    decide

theorem isIdentifierPart_of_isIdentifierStart (h : isIdentifierStart c = true) :
    isIdentifierPart c = true := by
  simp only [isIdentifierStart, isIdentifierPart, isWord, Bool.or_eq_true] at h ⊢
  rcases h with (hletter | h) | h
  · have hascii : c.toNat < 128 := Nat.lt_of_le_of_lt (toNat_of_isAlpha hletter).2 (by decide)
    simp [isAlphanumeric, hascii, Char.isAlphanum, hletter]
  · exact .inl (.inr h)
  · exact .inr h

theorem isPart_of_isIdentifier (h : isIdentifier name = true) : IsPart name := by
  cases name with
  | nil => exact absurd h (by decide)
  | cons c s =>
    simp only [isIdentifier, Bool.and_eq_true, List.all_eq_true] at h
    exact ⟨List.cons_ne_nil c s,
      List.forall_mem_cons.2 ⟨isIdentifierPart_of_isIdentifierStart h.1, h.2⟩⟩

/-! ## Dotted names and suffixes -/

def brackets (dimensions : Nat) : Text := (List.replicate dimensions ['[', ']']).flatten

def ellipsis (varargs : Bool) : Text := if varargs then ['.', '.', '.'] else []

theorem mem_brackets (h : c ∈ brackets dimensions) : c = '[' ∨ c = ']' := by
  obtain ⟨t, ht, hc⟩ := List.mem_flatten.1 h
  rw [List.eq_of_mem_replicate ht] at hc
  simpa using hc

theorem mem_dotted (hparts : ∀ p ∈ parts, IsPart p) (h : c ∈ Text.joined ['.'] parts) :
    c = '.' ∨ isIdentifierPart c = true := by
  rcases Text.mem_joined h with hc | ⟨p, hp, hc⟩
  · exact .inl (List.mem_singleton.1 hc)
  · exact .inr ((hparts p hp).chars c hc)

theorem isBlank_of_mem_dotted (hparts : ∀ p ∈ parts, IsPart p) :
    ∀ c ∈ Text.joined ['.'] parts, isBlank c = false := by
  intro c h
  rcases mem_dotted hparts h with rfl | hc
  · decide
  · exact isBlank_of_isIdentifierPart hc

theorem dotted_ne_nil (h : IsPart name) (qualifiers : List Text) :
    Text.joined ['.'] (qualifiers ++ [name]) ≠ [] := by
  obtain ⟨c, hc⟩ := List.exists_mem_of_ne_nil name h.ne_nil
  have hmem : c ∈ Text.joined ['.'] (qualifiers ++ [name]) := Text.mem_joined_of_mem (by simp) hc
  exact List.ne_nil_of_mem hmem

theorem mem_suffixed (hparts : ∀ p ∈ parts, IsPart p)
    (h : c ∈ Text.joined ['.'] parts ++ brackets dimensions ++ ellipsis varargs) :
    c ∈ ['.', '[', ']'] ∨ isIdentifierPart c = true := by
  rcases List.mem_append.1 h with h | h
  · rcases List.mem_append.1 h with h | h
    · rcases mem_dotted hparts h with rfl | hc
      · exact .inl (by decide)
      · exact .inr hc
    · rcases mem_brackets h with rfl | rfl <;> exact .inl (by decide)
  · unfold ellipsis at h
    split_ifs at h
    · exact .inl (List.mem_cons.2 (.inl (by simpa using h)))
    · exact absurd h List.not_mem_nil

theorem notMem_suffixed (hparts : ∀ p ∈ parts, IsPart p) (hc : isIdentifierPart c = false)
    (hne : c ∉ ['.', '[', ']']) :
    c ∉ Text.joined ['.'] parts ++ brackets dimensions ++ ellipsis varargs := by
  intro h
  rcases mem_suffixed hparts h with h | h
  · exact hne h
  · exact absurd (h.symm.trans hc) nofun

theorem isBlank_of_mem_suffixed (hparts : ∀ p ∈ parts, IsPart p) :
    ∀ c ∈ Text.joined ['.'] parts ++ brackets dimensions ++ ellipsis varargs,
      isBlank c = false := by
  intro c h
  rcases mem_suffixed hparts h with h | h
  · simp only [List.mem_cons, List.not_mem_nil, or_false] at h
    rcases h with rfl | rfl | rfl <;> decide
  · exact isBlank_of_isIdentifierPart h

/-! ## Suffixes taken off -/

/-- Cutting at the dots leaves no empty piece, with square brackets at the end as well as
without. -/
theorem nil_notMem_pieces (hne : parts ≠ []) (hparts : ∀ p ∈ parts, IsPart p) :
    [] ∉ Text.pieces '.' (Text.joined ['.'] parts ++ brackets dimensions) := by
  have hdot : '.' ∉ brackets dimensions := by
    intro h
    rcases mem_brackets h with h | h <;> exact absurd h (by decide)
  obtain ⟨front, last, hpieces, hsuffixed⟩ := Text.pieces_append hdot (Text.joined ['.'] parts)
  rw [Text.pieces_joined hne fun p hp => (hparts p hp).notMem (by decide)] at hpieces
  rw [hsuffixed]
  intro h
  rcases List.mem_append.1 h with h | h
  · exact (hparts [] (hpieces ▸ List.mem_append_left _ h)).ne_nil rfl
  · have hlast : last = [] := (List.append_eq_nil_iff.1 (List.mem_singleton.1 h).symm).1
    exact (hparts last (hpieces ▸ List.mem_append_right _ List.mem_cons_self)).ne_nil hlast

theorem erase_ellipsis (hne : parts ≠ []) (hparts : ∀ p ∈ parts, IsPart p) :
    (Pattern.lit ['.', '.', '.']).erase (Text.joined ['.'] parts ++ brackets dimensions ++
      ellipsis varargs) =
      Text.joined ['.'] parts ++ brackets dimensions := by
  have hmiss : (Pattern.lit ['.', '.', '.']).Misses none
    (Text.joined ['.'] parts ++ brackets dimensions)
      (ellipsis varargs) := by
    refine (Pattern.needs_lit _).misses fun back hback hback' hstarts => ?_
    obtain ⟨c, rest, rfl⟩ := List.exists_cons_of_ne_nil hback'
    obtain ⟨rfl, hrest⟩ := List.cons_prefix_cons.1 hstarts
    obtain ⟨front, hfront⟩ := hback
    -- Behind this dot the text ends or has another dot, so there is an empty piece behind it.
    have hnil : [] ∈ Text.pieces '.' rest := by
      cases rest with
      | nil => exact List.mem_cons_self
      | cons d rest =>
        obtain ⟨rfl, -⟩ := List.cons_prefix_cons.1 hrest
        rw [Text.pieces_sep]
        exact List.mem_cons_self
    have hpieces : [] ∈ Text.pieces '.' (Text.joined ['.'] parts ++ brackets dimensions) := by
      rw [← hfront, Text.pieces_append_sep]
      exact List.mem_append_right _ hnil
    exact nil_notMem_pieces hne hparts hpieces
  have hdots : ∀ prev, (Pattern.lit ['.', '.', '.']).eraseFrom 0 prev (ellipsis varargs) = [] := by
    intro prev
    cases varargs <;> rfl
  rw [Pattern.erase, Pattern.eraseFrom_of_misses hmiss, hdots, List.append_nil]

theorem eraseFrom_brackets (prev : Option Char) :
    (Pattern.lit ['[', ']']).eraseFrom 0 prev (brackets dimensions) = [] := by
  induction dimensions generalizing prev with
  | zero => rfl
  | succ n ih =>
    have hsplit : brackets (n + 1) = ['[', ']'] ++ brackets n := rfl
    rw [hsplit, Pattern.eraseFrom_of_first
      (Pattern.first_lit prev ['[', ']'] (brackets n)) (by simp)]
    exact ih _

theorem erase_brackets (hparts : ∀ p ∈ parts, IsPart p) :
    (Pattern.lit ['[', ']']).erase (Text.joined ['.'] parts ++ brackets dimensions) =
      Text.joined ['.'] parts := by
  have hmiss : (Pattern.lit ['[', ']']).Misses none (Text.joined ['.'] parts)
      (brackets dimensions) := by
    refine (Pattern.needs_lit _).misses fun back hback hne hstarts => ?_
    obtain ⟨c, back, rfl⟩ := List.exists_cons_of_ne_nil hne
    obtain ⟨rfl, -⟩ := List.cons_prefix_cons.1 hstarts
    rcases mem_dotted hparts (hback.subset List.mem_cons_self) with h | h
    · exact absurd h (by decide)
    · exact absurd h (by decide)
  rw [Pattern.erase, Pattern.eraseFrom_of_misses hmiss, eraseFrom_brackets, List.append_nil]

theorem lastSegment_dotted (h : ∀ p ∈ qualifiers ++ [name], IsPart p) :
    lastSegment (Text.joined ['.'] (qualifiers ++ [name])) = name := by
  have hdot : ∀ p ∈ qualifiers ++ [name], '.' ∉ p := fun p hp => (h p hp).notMem (by decide)
  rw [lastSegment, Text.pieces_joined (by simp) hdot, List.getLast?_concat]
  rfl

/-- The simple name of a dotted name with suffixes behind it and blanks around it is its last
part. -/
theorem simpleName_suffixed (h : ∀ p ∈ qualifiers ++ [name], IsPart p)
    (hbefore : ∀ c ∈ before, isBlank c = true)
    (hafter : ∀ c ∈ after, isBlank c = true) :
    simpleName
      (before ++ (Text.joined ['.'] (qualifiers ++ [name]) ++ brackets dimensions ++
        ellipsis varargs) ++
      after) = name := by
  have hchars : ∀ c ∈ Text.joined ['.'] (qualifiers ++ [name]) ++ brackets dimensions ++
    ellipsis varargs,
      isBlank c = false := isBlank_of_mem_suffixed h
  have hsuffixed :
    Brackets.IsPlain (Text.joined ['.'] (qualifiers ++ [name]) ++ brackets dimensions ++
      ellipsis varargs) := by
    intro c hc
    constructor <;> rintro rfl <;> exact notMem_suffixed h (by decide) (by decide) hc
  have hplain := ((Brackets.isPlain_of_isBlank hbefore).append hsuffixed).append
    (Brackets.isPlain_of_isBlank hafter)
  have hne : qualifiers ++ [name] ≠ [] := by simp
  have hstart : Text.joined ['.'] (qualifiers ++ [name]) ++ brackets dimensions ++
      ellipsis varargs ≠ [] := by
    rw [List.append_assoc]
    exact List.append_ne_nil_of_left_ne_nil (dotted_ne_nil (h name (by simp)) qualifiers) _
  have hname : ∀ c ∈ name, isBlank c = false := fun c hc =>
    isBlank_of_isIdentifierPart ((h name (by simp)).chars c hc)
  rw [simpleName, Brackets.stripGenerics_eq_strip, (Brackets.adds_plain hplain).strip_eq,
    Text.trim_padded (Text.isTrimmed_of_forall hchars) hstart hbefore hafter, erase_ellipsis hne h,
      erase_brackets h,
    lastSegment_dotted h, Text.trim_eq_self hname]

theorem ofTokens_eq {tokens names : List Text}
    (h : List.Forall₂ (fun token name => simpleName token = name ∧
      isIdentifier name = true) tokens names) :
    ofTokens tokens = names := by
  induction h with
  | nil => rfl
  | @cons token name tokens names hname _ ih =>
    obtain ⟨rfl, hidentifier⟩ := hname
    rw [ofTokens, List.map_cons, List.filter_cons_of_pos hidentifier]
    exact congrArg _ ih

end TypeName

end SourceReach
