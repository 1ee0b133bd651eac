import Mathlib.Data.List.Forall2
import SourceReach.Proofs.SimpleName

/-!
# Parameters of constructors

`Parameter` is a parameter as it can be written: modifiers, a type with type arguments and suffixes,
a name, and blanks between and around them. Without its type arguments (`Parameter.bare`) a
parameter has its modifiers as words of their own, and the next word is its type
(`parameterWords_bare`). So of a text with one constructor the types of all parameters are found,
the basic ones left out (`parameters_found`).
-/

namespace SourceReach

open Brackets

/-! ## How parameters are written -/

/-- Type arguments, by what stands between their outer brackets. -/
structure TypeArguments where
  inner : Text
  balanced : IsBalanced inner := by decide
  noParenthesis : ')' ∉ inner := by decide

def TypeArguments.text (a : TypeArguments) : Text := '<' :: a.inner ++ ['>']

/-- Type arguments or none, as they are written. -/
def argumentsText (a : Option TypeArguments) : Text := (a.map TypeArguments.text).getD []

/-- A name before a dot in a type, with the type arguments behind it. -/
structure Qualifier where
  name : Text
  arguments : Option TypeArguments := none
  isPart : TypeName.IsPart name := by decide
  not_final : name ≠ "final".toList := by decide

def Qualifier.text (q : Qualifier) : Text := q.name ++ argumentsText q.arguments

/-- What may stand before the type of a parameter: an annotation without arguments, or `final`. -/
inductive Modifier where
  | final
  | marker (names : List Text) (ne_nil : names ≠ []) (parts : ∀ n ∈ names, TypeName.IsPart n)

def Modifier.text : Modifier → Text
  | final => "final".toList
  | marker names _ _ => '@' :: Text.joined ['.'] names

/-- A parameter, part by part. -/
structure Parameter where
  before : Blanks := {}
  modifiers : List (Modifier × Space) := []
  qualifiers : List Qualifier := []
  typeName : Text
  argumentsGap : Blanks := {}
  arguments : Option TypeArguments := none
  dimensions : List Blanks := []
  varargs : Option Blanks := none
  gap : Space
  name : Text
  after : Blanks := {}
  isIdentifier : TypeName.isIdentifier typeName = true := by decide
  not_final : typeName ≠ "final".toList := by decide
  isPart : TypeName.IsPart name := by decide

namespace Parameter

/-- What stands before the type. -/
def front (p : Parameter) : Text :=
  p.before.text ++ p.modifiers.flatMap fun m => m.1.text ++ m.2.text

def suffixes (p : Parameter) : Text :=
  (p.dimensions.flatMap fun b => b.text ++ ['[', ']']) ++
    (p.varargs.map fun b => b.text ++ ['.', '.', '.']).getD []

/-- What stands behind the type and its arguments. -/
def back (p : Parameter) : Text := p.suffixes ++ (p.gap.text ++ (p.name ++ p.after.text))

def text (p : Parameter) : Text :=
  p.front ++ (Text.joined ['.'] (p.qualifiers.map Qualifier.text ++ [p.typeName]) ++
    (p.argumentsGap.text ++ (argumentsText p.arguments ++ p.back)))

/-- The parameter without type arguments. -/
def bare (p : Parameter) : Text :=
  p.front ++ (Text.joined ['.'] (p.qualifiers.map Qualifier.name ++ [p.typeName]) ++
    (p.argumentsGap.text ++ p.back))

end Parameter

/-! ## Without type arguments -/

/-- The characters of a parameter without type arguments. -/
def isBareChar (c : Char) : Bool :=
  isBlank c || TypeName.isIdentifierPart c || ['.', '@', '[', ']'].contains c

/-- The text consists of such characters. -/
def IsBare (t : Text) : Prop := ∀ c ∈ t, isBareChar c = true

instance (t : Text) : Decidable (IsBare t) :=
  inferInstanceAs (Decidable (∀ c ∈ t, isBareChar c = true))

variable {t s : Text}

theorem IsBare.append (ht : IsBare t) (hs : IsBare s) : IsBare (t ++ s) :=
  List.forall_mem_append.2 ⟨ht, hs⟩

theorem IsBare.notMem (h : IsBare t) {c : Char} (hc : isBareChar c = false) : c ∉ t := by
  intro hmem
  exact absurd ((h c hmem).symm.trans hc) nofun

theorem IsBare.isPlain (h : IsBare t) : IsPlain t := by
  intro c hc
  constructor <;> rintro rfl <;> exact h.notMem (by decide) hc

theorem Blanks.isBare (b : Blanks) : IsBare b.text := fun c hc => by simp [isBareChar, b.blank c hc]

theorem isBare_of_isPart (h : TypeName.IsPart t) : IsBare t :=
  fun c hc => by simp [isBareChar, h.chars c hc]

theorem isBare_dotted {parts : List Text} (h : ∀ p ∈ parts, TypeName.IsPart p) :
    IsBare (Text.joined ['.'] parts) := by
  intro c hc
  rcases TypeName.mem_dotted h hc with rfl | hc
  · decide
  · simp [isBareChar, hc]

theorem Modifier.isBare (m : Modifier) : IsBare m.text := by
  cases m with
  | final => exact isBare_of_isPart (by decide)
  | marker names _ parts => exact List.forall_mem_cons.2 ⟨by decide, isBare_dotted parts⟩

theorem adds_argumentsText (a : Option TypeArguments) : Adds (argumentsText a) [] := by
  cases a with
  | none => exact adds_nil
  | some a => exact a.balanced.adds.list

theorem noParenthesis_argumentsText (a : Option TypeArguments) : ')' ∉ argumentsText a := by
  cases a with
  | none => exact List.not_mem_nil
  | some a =>
    show ')' ∉ '<' :: a.inner ++ ['>']
    simp [a.noParenthesis]

theorem Qualifier.adds (q : Qualifier) : Adds q.text q.name := by
  have h := (adds_plain (isBare_of_isPart q.isPart).isPlain).append (adds_argumentsText q.arguments)
  rwa [List.append_nil] at h

namespace Parameter

variable (p : Parameter)

theorem isPart_names :
    ∀ n ∈ p.qualifiers.map Qualifier.name ++ [p.typeName], TypeName.IsPart n := by
  intro n hn
  rcases List.mem_append.1 hn with hn | hn
  · obtain ⟨q, -, rfl⟩ := List.mem_map.1 hn
    exact q.isPart
  · rw [List.mem_singleton.1 hn]
    exact TypeName.isPart_of_isIdentifier p.isIdentifier

theorem isBare_front : IsBare p.front := by
  refine p.before.isBare.append fun c hc => ?_
  obtain ⟨m, -, hc⟩ := List.mem_flatMap.1 hc
  exact (m.1.isBare.append m.2.isBare) c hc

theorem isBare_suffixes : IsBare p.suffixes := by
  refine IsBare.append (fun c hc => ?_) ?_
  · obtain ⟨b, -, hc⟩ := List.mem_flatMap.1 hc
    exact (b.isBare.append (by decide)) c hc
  · cases p.varargs with
    | none => exact fun c hc => absurd hc List.not_mem_nil
    | some b => exact b.isBare.append (by decide)

theorem isBare_back : IsBare p.back :=
  p.isBare_suffixes.append (p.gap.isBare.append ((isBare_of_isPart p.isPart).append p.after.isBare))

theorem isBare_bare : IsBare p.bare :=
  p.isBare_front.append
    ((isBare_dotted p.isPart_names).append (p.argumentsGap.isBare.append p.isBare_back))

/-- Taking the type arguments out of a parameter leaves the rest of it, whatever it stands
between. -/
theorem adds : Adds p.text p.bare := by
  have hdot : IsPlain ['.'] := by decide
  have hqualifiers : List.Forall₂ Adds (p.qualifiers.map Qualifier.text)
      (p.qualifiers.map Qualifier.name) := by
    rw [List.forall₂_map_left_iff, List.forall₂_map_right_iff, List.forall₂_same]
    exact fun q _ => q.adds
  have hname : Adds p.typeName p.typeName :=
    adds_plain (isBare_of_isPart (TypeName.isPart_of_isIdentifier p.isIdentifier)).isPlain
  have hnames := adds_joined hdot (List.rel_append hqualifiers (.cons hname .nil))
  have hback := (adds_argumentsText p.arguments).append (adds_plain p.isBare_back.isPlain)
  exact (adds_plain p.isBare_front.isPlain).append
    (hnames.append ((adds_plain p.argumentsGap.isBare.isPlain).append hback))

theorem noParenthesis : ')' ∉ p.text := by
  have hnames : ')' ∉ Text.joined ['.'] (p.qualifiers.map Qualifier.text ++ [p.typeName]) := by
    intro h
    rcases Text.mem_joined h with h | ⟨t, ht, h⟩
    · exact absurd h (by decide)
    · rcases List.mem_append.1 ht with ht | ht
      · obtain ⟨q, -, rfl⟩ := List.mem_map.1 ht
        rcases List.mem_append.1 h with h | h
        · exact q.isPart.notMem (by decide) h
        · exact noParenthesis_argumentsText _ h
      · rw [List.mem_singleton.1 ht] at h
        exact (TypeName.isPart_of_isIdentifier p.isIdentifier).notMem (by decide) h
  simp only [text, List.mem_append, not_or]
  exact ⟨p.isBare_front.notMem (by decide), hnames, p.argumentsGap.isBare.notMem (by decide),
    noParenthesis_argumentsText _, p.isBare_back.notMem (by decide)⟩

end Parameter

/-! ## Words -/

theorem Modifier.ne_nil (m : Modifier) : m.text ≠ [] := by
  cases m with
  | final => decide
  | marker names _ _ => exact List.cons_ne_nil _ _

theorem Modifier.isBlank_of_mem (m : Modifier) : ∀ c ∈ m.text, isBlank c = false := by
  cases m with
  | final => decide
  | marker names _ parts =>
    exact List.forall_mem_cons.2 ⟨by decide, TypeName.isBlank_of_mem_dotted parts⟩

theorem words_modifiers (ms : List (Modifier × Space)) (s : Text) :
    Text.words (ms.flatMap (fun m => m.1.text ++ m.2.text) ++ s) = ms.map (fun m => m.1.text) ++
      Text.words s := by
  induction ms with
  | nil => rfl
  | cons m ms ih =>
    rw [List.flatMap_cons, List.append_assoc, List.append_assoc,
      Text.words_append m.1.ne_nil m.1.isBlank_of_mem (m.2.isBlank_of_mem_head? _),
        Text.words_blanks m.2.blank, ih]
    rfl

/-- The word is none of those that may stand before a type. -/
def isTypeWord (w : Text) : Bool := !(w.head? == some '@') && !(w == "final".toList)

theorem Modifier.isTypeWord_eq (m : Modifier) : isTypeWord m.text = false := by
  cases m with
  | final => decide
  | marker names _ _ => simp [isTypeWord, Modifier.text]

/-- The text starts with suffixes, and blanks follow them or nothing. -/
def IsSuffixed (t : Text) : Prop :=
  ∃ dimensions varargs rest, t = TypeName.brackets dimensions ++ TypeName.ellipsis varargs ++ rest ∧
    ∀ c ∈ rest.head?, isBlank c = true

namespace IsSuffixed

theorem of_head? (h : ∀ c ∈ t.head?, isBlank c = true) : IsSuffixed t := ⟨0, false, t, rfl, h⟩

theorem blanks (h : IsSuffixed t) (b : Blanks) : IsSuffixed (b.text ++ t) := by
  by_cases hne : b.text = []
  · rwa [hne]
  · exact of_head? (Space.isBlank_of_mem_head? ⟨b, hne⟩ t)

theorem brackets (h : IsSuffixed t) : IsSuffixed ('[' :: ']' :: t) := by
  obtain ⟨dimensions, varargs, rest, rfl, hrest⟩ := h
  exact ⟨dimensions + 1, varargs, rest, rfl, hrest⟩

theorem ellipsis (h : ∀ c ∈ t.head?, isBlank c = true) : IsSuffixed ('.' :: '.' :: '.' :: t) :=
  ⟨0, true, t, rfl, h⟩

end IsSuffixed

namespace Parameter

variable (p : Parameter)

theorem isSuffixed : IsSuffixed (p.argumentsGap.text ++ p.back) := by
  refine IsSuffixed.blanks ?_ _
  have hgap : ∀ c ∈ (p.gap.text ++ (p.name ++ p.after.text)).head?, isBlank c = true :=
    p.gap.isBlank_of_mem_head? _
  have hvarargs : IsSuffixed ((p.varargs.map fun b => b.text ++ ['.', '.', '.']).getD [] ++
      (p.gap.text ++ (p.name ++ p.after.text))) := by
    cases p.varargs with
    | none => exact .of_head? hgap
    | some b =>
      show IsSuffixed (b.text ++ ['.', '.', '.'] ++ _)
      rw [List.append_assoc]
      exact (IsSuffixed.ellipsis hgap).blanks b
  rw [back, suffixes, List.append_assoc]
  induction p.dimensions with
  | nil => exact hvarargs
  | cons b bs ih =>
    rw [List.flatMap_cons, List.append_assoc, List.append_assoc]
    exact ih.brackets.blanks b

/-- The type with the suffixes that follow it at once is no modifier. -/
theorem isTypeWord_type {dimensions : Nat} {varargs : Bool} {token : Text}
    (htoken : Text.joined ['.'] (p.qualifiers.map Qualifier.name ++ [p.typeName]) ++
      TypeName.brackets dimensions ++ TypeName.ellipsis varargs = token) : isTypeWord token =
        true := by
  have hat : token.head? ≠ some '@' := by
    intro h
    have hmem := List.mem_of_head? h
    rw [← htoken] at hmem
    exact TypeName.notMem_suffixed p.isPart_names (by decide) (by decide) hmem
  have hfinal : token ≠ "final".toList := by
    rintro rfl
    have hdot : '.' ∉ "final".toList := by decide
    have hbracket : '[' ∉ "final".toList := by decide
    rw [← htoken] at hdot hbracket
    cases varargs with
    | true => exact hdot (List.mem_append_right _ List.mem_cons_self)
    | false =>
      cases dimensions with
      | succ n =>
        exact hbracket (List.mem_append_left _ (List.mem_append_right _ List.mem_cons_self))
      | zero =>
        have hpieces :
          Text.pieces '.' (Text.joined ['.'] (p.qualifiers.map Qualifier.name ++ [p.typeName])) =
            Text.pieces '.' "final".toList := by
          rw [← htoken]
          simp [TypeName.brackets, TypeName.ellipsis]
        rw [Text.pieces_joined (by simp) fun n hn => (p.isPart_names n hn).notMem (by decide),
          Text.pieces_eq_singleton (by decide)] at hpieces
        have hmem : p.typeName ∈ ["final".toList] :=
          hpieces ▸ List.mem_append_right _ List.mem_cons_self
        exact p.not_final (List.mem_singleton.1 hmem)
  rw [isTypeWord, beq_eq_false_iff_ne.2 hat, beq_eq_false_iff_ne.2 hfinal]
  rfl

/-- The first word that counts is the type with the suffixes that follow it at once. -/
theorem parameterWords_bare : ∃ dimensions varargs words, Rule.parameterWords p.bare =
    (Text.joined ['.'] (p.qualifiers.map Qualifier.name ++ [p.typeName]) ++
      TypeName.brackets dimensions ++
      TypeName.ellipsis varargs) :: words := by
  obtain ⟨dimensions, varargs, rest, hsuffixed, hrest⟩ := p.isSuffixed
  have hname := TypeName.isPart_of_isIdentifier p.isIdentifier
  generalize htoken : Text.joined ['.'] (p.qualifiers.map Qualifier.name ++ [p.typeName]) ++
    TypeName.brackets dimensions ++ TypeName.ellipsis varargs = token
  have hbare : p.bare = p.before.text ++
      ((p.modifiers.flatMap fun m => m.1.text ++ m.2.text) ++ (token ++ rest)) := by
    rw [bare, front, hsuffixed, ← htoken]
    simp only [List.append_assoc]
  have hblank : ∀ c ∈ token, isBlank c = false :=
    htoken ▸ TypeName.isBlank_of_mem_suffixed p.isPart_names
  have hne : token ≠ [] := by
    rw [← htoken, List.append_assoc]
    exact List.append_ne_nil_of_left_ne_nil (TypeName.dotted_ne_nil hname _) _
  have hmodifiers : (p.modifiers.map fun m => m.1.text).filter isTypeWord = [] := by
    rw [List.filter_eq_nil_iff]
    intro w hw
    obtain ⟨m, -, rfl⟩ := List.mem_map.1 hw
    simp [m.1.isTypeWord_eq]
  have hwords : Rule.parameterWords p.bare = (Text.words p.bare).filter isTypeWord := rfl
  refine ⟨dimensions, varargs, (Text.words rest).filter isTypeWord, ?_⟩
  rw [hwords, hbare, Text.words_blanks p.before.blank, words_modifiers,
    Text.words_append hne hblank hrest, List.filter_append, hmodifiers, List.nil_append,
      List.filter_cons_of_pos (p.isTypeWord_type htoken), htoken]

theorem parameterType_bare :
    Rule.parameterType p.bare = [p.typeName].filter fun n => !(TypeName.basicTypes.contains n) := by
  obtain ⟨dimensions, varargs, words, hwords⟩ := p.parameterWords_bare
  have hname :
      TypeName.simpleName
        ([] ++ (Text.joined ['.'] (p.qualifiers.map Qualifier.name ++ [p.typeName]) ++
          TypeName.brackets dimensions ++ TypeName.ellipsis varargs) ++ []) = p.typeName :=
    TypeName.simpleName_suffixed p.isPart_names nofun nofun
  rw [List.nil_append, List.append_nil] at hname
  have htokens : TypeName.ofTokens ((Rule.parameterWords p.bare).take 1) = [p.typeName] := by
    rw [hwords]
    exact TypeName.ofTokens_eq (.cons ⟨hname, p.isIdentifier⟩ .nil)
  rw [Rule.parameterType, htokens]

end Parameter

/-! ## Constructors -/

namespace Rule

variable {u v gap name gap' : Text}

/-- What may stand between the parentheses. -/
def isParameterChar (c : Char) : Bool := c ≠ ')'

/-- The constructor that the keyword starts is the only match. -/
theorem scan_constructor {parameters : Text} (hedge : ∀ c ∈ u.getLast?, isWord c = false)
    (hu : ¬ "public".toList <:+: u) (hv : ¬ "public".toList <:+: v) (hgap : gap ≠ [])
    (hblank : ∀ c ∈ gap, isBlank c = true) (hname : name ≠ []) (hword : ∀ c ∈ name, isWord c = true)
    (hblank' : ∀ c ∈ gap', isBlank c = true) (hparameters : ')' ∉ parameters) :
    ∃ taken, constructorPattern.scan (u ++ ("public".toList ++
      (gap ++ (name ++ (gap' ++ (['('] ++ (parameters ++ ([')'] ++ v)))))))) =
        [⟨taken, v, [name, parameters]⟩] := by
  have hkeyword : Pattern.IsKeyword "public".toList :=
    ⟨'p', "ublic".toList, rfl, by decide, by decide⟩
  have hnameStart : ∀ s, ∀ c ∈ (name ++ s).head?, isBlank c = false := by
    obtain ⟨c, name, rfl⟩ := List.exists_cons_of_ne_nil hname
    exact fun s => Text.forall_mem_head? (isBlank_of_isWord (hword c List.mem_cons_self)) _
  have hnameEnd : ∀ s, ∀ c ∈ (gap' ++ (['('] ++ s)).head?, isWord c = false := by
    intro s
    cases gap' with
    | nil => exact Text.forall_mem_head? (by decide) _
    | cons d gap' =>
      exact Text.forall_mem_head? (isWord_of_isBlank (hblank' d List.mem_cons_self)) _
  have hchars : ∀ c ∈ parameters, isParameterChar c = true := by
    intro c hc
    have hne : c ≠ ')' := fun heq => hparameters (heq ▸ hc)
    simp [isParameterChar, hne]
  have hfirst : ∀ prev,
    (Pattern.all [.some isBlank, .group (.some isWord), .many isBlank, .lit ['('],
      .group (.many isParameterChar), .lit [')']]).first prev
        (gap ++ (name ++ (gap' ++ (['('] ++ (parameters ++ ([')'] ++ v)))))) =
          some ⟨gap ++ (name ++ (gap' ++ (['('] ++ (parameters ++ [')'])))), v,
            [name, parameters]⟩ := by
    intro prev
    have hopening : ∀ s, ∀ c ∈ (['('] ++ s).head?, isBlank c = false :=
      Text.forall_mem_head? (by decide)
    have hclosing : ∀ s, ∀ c ∈ ([')'] ++ s).head?, isParameterChar c = false :=
      Text.forall_mem_head? (by decide)
    exact Pattern.first_seq (Pattern.first_some hgap hblank (hnameStart _))
      (Pattern.first_seq (Pattern.first_group (Pattern.first_some hname hword (hnameEnd _)))
      (Pattern.first_seq (Pattern.first_many hblank' (hopening _))
        (Pattern.first_seq (Pattern.first_lit _ _ _)
      (Pattern.first_seq (Pattern.first_group (Pattern.first_many hchars (hclosing _)))
        (Pattern.first_lit _ _ _)))))
  exact ⟨_, Pattern.scan_keyword hkeyword hedge hu hfirst hv⟩

theorem parameterTypes_bare (ps : List Parameter) :
    ((TypeName.stripGenerics (Text.joined [','] (ps.map Parameter.text))).pieces ',').flatMap
      parameterType =
      (ps.map Parameter.typeName).filter fun n => !(TypeName.basicTypes.contains n) := by
  have hcomma : IsPlain [','] := by decide
  have hadds : List.Forall₂ Adds (ps.map Parameter.text) (ps.map Parameter.bare) := by
    rw [List.forall₂_map_left_iff, List.forall₂_map_right_iff, List.forall₂_same]
    exact fun p _ => p.adds
  rw [stripGenerics_eq_strip, (adds_joined hcomma hadds).strip_eq]
  by_cases hps : ps = []
  · -- Between the parentheses is one piece, without words.
    subst hps
    rfl
  · have hpieces : ∀ r ∈ ps.map Parameter.bare, ',' ∉ r := by
      intro r hr
      obtain ⟨p, -, rfl⟩ := List.mem_map.1 hr
      exact p.isBare_bare.notMem (by decide)
    rw [Text.pieces_joined (by simpa using hps) hpieces]
    clear hadds hpieces hps
    induction ps with
    | nil => rfl
    | cons p ps ih =>
      rw [List.map_cons, List.map_cons, List.flatMap_cons, ih, p.parameterType_bare,
        ← List.filter_append]
      rfl

/-- Of a text with one constructor, the types of its parameters are found, in their order and
without their qualifiers, arguments and suffixes. The basic types are left out, and no others. -/
theorem parameters_found {ps : List Parameter} (hedge : ∀ c ∈ u.getLast?, isWord c = false)
    (hu : ¬ "public".toList <:+: u) (hv : ¬ "public".toList <:+: v) (hgap : gap ≠ [])
    (hblank : ∀ c ∈ gap, isBlank c = true) (hname : name ≠ []) (hword : ∀ c ∈ name, isWord c = true)
    (hblank' : ∀ c ∈ gap', isBlank c = true) :
    Rule.constructorParameter.names (u ++ "public".toList ++ gap ++ name ++ gap' ++
      '(' :: Text.joined [','] (ps.map Parameter.text) ++ ')' :: v) =
        (ps.map Parameter.typeName).filter fun n => !(TypeName.basicTypes.contains n) := by
  have hparameters : ')' ∉ Text.joined [','] (ps.map Parameter.text) := by
    intro h
    rcases Text.mem_joined h with h | ⟨t, ht, h⟩
    · exact absurd h (by decide)
    · obtain ⟨p, -, rfl⟩ := List.mem_map.1 ht
      exact p.noParenthesis h
  obtain ⟨taken, hscan⟩ := scan_constructor hedge hu hv hgap hblank hname hword hblank' hparameters
  have htext : u ++ "public".toList ++ gap ++ name ++ gap' ++ '(' ::
    Text.joined [','] (ps.map Parameter.text) ++
      ')' :: v = u ++ ("public".toList ++
        (gap ++ (name ++
          (gap' ++ (['('] ++ (Text.joined [','] (ps.map Parameter.text) ++ ([')'] ++ v))))))) := by
    simp only [List.append_assoc, List.cons_append, List.nil_append]
  rw [htext, Rule.names, parameterTypes, hscan, List.flatMap_cons, List.flatMap_nil,
    List.append_nil]
  exact parameterTypes_bare ps

/-- Nested type arguments behind modifiers, a basic type, and a qualified name with suffixes apart
from it. -/
theorem gears_found :
    let parts : Parameter :=
      { modifiers := [
          (.marker ["NonNull".toList] (by decide) (by decide), ⟨⟨[' '], by decide⟩, by decide⟩),
          (.final, ⟨⟨['\n'], by decide⟩, by decide⟩)]
        typeName := "Map".toList, arguments := some { inner := "String, List<Part>".toList }
        gap := ⟨⟨[' '], by decide⟩, by decide⟩, name := "parts".toList }
    let size : Parameter :=
      { before := ⟨[' '], by decide⟩, typeName := "int".toList
        gap := ⟨⟨[' '], by decide⟩, by decide⟩, name := "size".toList }
    let gears : Parameter :=
      { qualifiers := [⟨"example".toList, none, by decide, by decide⟩,
          ⟨"Outer".toList, some { inner := "?".toList }, by decide, by decide⟩]
        typeName := "$Gear".toList, dimensions := [⟨[], by decide⟩, ⟨[' '], by decide⟩]
        varargs := some ⟨[], by decide⟩
        gap := ⟨⟨[' '], by decide⟩, by decide⟩, name := "gears".toList }
    (∀ c ∈ "@Inject ".toList.getLast?, isWord c = false) ∧
      ¬ "public".toList <:+: "@Inject ".toList ∧
      ¬ "public".toList <:+: " throws X".toList ∧ (∀ c ∈ [' '], isBlank c = true) ∧
      (∀ c ∈ "Widget".toList, isWord c = true) ∧
      "@Inject ".toList ++ "public".toList ++ [' '] ++ "Widget".toList ++ [] ++
        '(' :: Text.joined [','] ([parts, size, gears].map Parameter.text) ++ ')' ::
          " throws X".toList =
          ("@Inject public Widget(@NonNull final\nMap<String, List<Part>> parts, int size," ++
            "example.Outer<?>.$Gear[] []... gears) throws X").toList ∧
      Rule.constructorParameter.names
        ("@Inject public Widget(@NonNull final\nMap<String, List<Part>> parts, int size," ++
        "example.Outer<?>.$Gear[] []... gears) throws X").toList =
          ["Map".toList, "$Gear".toList] := by
  intro parts size gears
  have hedge : ∀ c ∈ "@Inject ".toList.getLast?, isWord c = false := by decide
  have hfront : ¬ "public".toList <:+: "@Inject ".toList := by decide
  have hback : ¬ "public".toList <:+: " throws X".toList := by decide
  have hblank : ∀ c ∈ [' '], isBlank c = true := by decide
  have hword : ∀ c ∈ "Widget".toList, isWord c = true := by decide
  have htext : "@Inject ".toList ++ "public".toList ++ [' '] ++ "Widget".toList ++ [] ++
        '(' :: Text.joined [','] ([parts, size, gears].map Parameter.text) ++ ')' ::
          " throws X".toList =
      ("@Inject public Widget(@NonNull final\nMap<String, List<Part>> parts, int size," ++
        "example.Outer<?>.$Gear[] []... gears) throws X").toList := by decide +kernel
  have hnone : ∀ c ∈ ([] : Text), isBlank c = true := nofun
  refine ⟨hedge, hfront, hback, hblank, hword, htext, ?_⟩
  rw [← htext, parameters_found hedge hfront hback (by decide) hblank (by decide) hword hnone]
  decide

end Rule

end SourceReach
