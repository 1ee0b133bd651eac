import SourceReach.Proofs.Fields
import SourceReach.Proofs.Parameters

/-!
# One type, injected in three ways

A class can have a type injected into an annotated field, into a final field of a generated
constructor, and through a parameter of a constructor of its own. `InjectedType` is a type as it can
be written at all three places. The rules take it apart in three ways, and find the same name
(`injections_agree`), but for arrays in final fields: behind the type such a field has to go on with
blanks (`Rule.exists_word_of_fits`), and square brackets are none.
-/

namespace SourceReach

open Brackets

/-! ## How types are written -/

/-- A character of type arguments. -/
def isArgumentChar (c : Char) : Bool := Rule.isNameChar c || [',', '?', ' ', '<', '>'].contains c

/-- Type arguments of dotted names and wildcards, in one another to any depth. -/
structure NamedArguments where
  inner : Text
  balanced : IsBalanced inner := by decide
  chars : ∀ c ∈ inner, isArgumentChar c = true := by decide

/-- A type that can be injected: a dotted name, type arguments or none, and the dimensions of an
array. No part of the name is a word that may stand before a type, and the last one is not the name
of a basic type. -/
structure InjectedType where
  qualifiers : List Text := []
  name : Text
  arguments : Option NamedArguments := none
  dimensions : Nat := 0
  isSegment : ∀ part ∈ qualifiers ++ [name], Package.IsSegment part := by decide
  start : ∀ c ∈ name.head?, c.isAlpha = true ∨ c = '_' := by decide
  not_modifier : ∀ part ∈ qualifiers ++ [name], part ∉ "final".toList :: visibilities := by decide
  not_basic : name ∉ TypeName.basicTypes := by decide

namespace NamedArguments

variable (a : NamedArguments)

def text : Text := '<' :: a.inner ++ ['>']

theorem notMem {c : Char} (hc : isArgumentChar c = false) : c ∉ a.inner := by
  intro hmem
  exact absurd ((a.chars c hmem).symm.trans hc) nofun

/-- As a final field has them. -/
def toField : FieldArguments where
  inner := a.inner
  balanced := a.balanced
  chars c hc := Rule.isFieldArgumentChar_of isArgumentChar (by decide) (a.chars c hc)

/-- As a parameter has them. -/
def toParameter : TypeArguments := ⟨a.inner, a.balanced, a.notMem (by decide)⟩

end NamedArguments

namespace InjectedType

variable (t : InjectedType) {x : Text}

/-- What stands behind the name of a type. -/
def behind : Text := (t.arguments.map NamedArguments.text).getD [] ++ TypeName.brackets t.dimensions

def text : Text := Text.joined ['.'] (t.qualifiers ++ [t.name]) ++ t.behind

theorem joined_ne {word : Text} (hdot : '.' ∉ word) (hword : word ∉ t.qualifiers ++ [t.name]) :
    Text.joined ['.'] (t.qualifiers ++ [t.name]) ≠ word := by
  intro h
  have hpieces := congrArg (Text.pieces '.') h
  rw [Text.pieces_joined (by simp) fun part hpart => (t.isSegment part hpart).notMem (by decide),
    Text.pieces_eq_singleton hdot] at hpieces
  exact hword (hpieces ▸ List.mem_cons_self)

theorem modifier_notMem {word : Text} (hword : word ∈ "final".toList :: visibilities) :
    word ∉ t.qualifiers ++ [t.name] := fun hmem => t.not_modifier word hmem hword

/-- The dotted name, as fields have it. -/
def fieldType : FieldType where
  qualifiers := t.qualifiers
  name := t.name
  isSegment := t.isSegment
  start := t.start
  not_visibility h := by
    have hdot : ∀ word ∈ visibilities, '.' ∉ word := by decide
    exact t.joined_ne (hdot _ h) (t.modifier_notMem (List.mem_cons_of_mem _ h)) rfl
  not_final := t.joined_ne (by decide) (t.modifier_notMem List.mem_cons_self)

theorem notMem_behind {c : Char} (hargument : isArgumentChar c = false)
    (hbracket : c ≠ '[' ∧ c ≠ ']') :
    c ∉ t.behind := by
  intro h
  rcases List.mem_append.1 h with h | h
  · cases harguments : t.arguments with
    | none => simp [harguments] at h
    | some a =>
      rw [harguments] at h
      have hangle : c ≠ '<' ∧ c ≠ '>' := by
        constructor <;> rintro rfl <;> exact absurd hargument (by decide)
      have hmem : c ∈ '<' :: a.inner ++ ['>'] := h
      simp [hangle.1, hangle.2, a.notMem hargument] at hmem
  · exact (TypeName.mem_brackets h).elim hbracket.1 hbracket.2

theorem isPlain_brackets (dimensions : Nat) : IsPlain (TypeName.brackets dimensions) := by
  intro c hc
  rcases TypeName.mem_brackets hc with rfl | rfl <;> decide

theorem simpleName_text : TypeName.simpleName t.text = t.name := by
  have hname : TypeName.simpleName ([] ++ (Text.joined ['.'] (t.qualifiers ++ [t.name]) ++
      TypeName.brackets t.dimensions ++ TypeName.ellipsis false) ++ []) = t.name :=
    TypeName.simpleName_suffixed t.fieldType.isPart nofun nofun
  have hplain : TypeName.ellipsis false = [] := rfl
  rw [hplain, List.nil_append, List.append_nil, List.append_nil] at hname
  have harguments : Adds ((t.arguments.map NamedArguments.text).getD []) [] := by
    cases t.arguments with
    | none => exact adds_nil
    | some a => exact a.balanced.adds.list
  have hbrackets := adds_plain (isPlain_brackets t.dimensions)
  have hadds := (adds_plain t.fieldType.isPlain).append (harguments.append hbrackets)
  have hstripped := (adds_plain t.fieldType.isPlain).append hbrackets
  rw [← hname]
  refine TypeName.simpleName_congr ?_
  rw [stripGenerics_eq_strip, stripGenerics_eq_strip]
  exact hadds.strip_eq.trans hstripped.strip_eq.symm

/-! ## The three places -/

/-- The type in an annotated field. -/
def autowired (x : Text) : Text :=
  "@Autowired private final ".toList ++ (t.text ++ (' ' :: x ++ [';']))

/-- The type in a final field of a class whose constructor is generated. -/
def generated (x : Text) : Text :=
  "@RequiredArgsConstructor class C \x7b private final ".toList ++
    (t.text ++ (' ' :: x ++ "; \x7d".toList))

/-- The type in the parameter of a constructor. -/
def constructed (x : Text) : Text :=
  "class C \x7b public C(".toList ++ (t.text ++ (' ' :: x ++ ") \x7b\x7d \x7d".toList))

def blank : Space := { text := [' '] }

/-- The annotated field, up to the name of its type. -/
def injectedField : InjectedField where
  annotation := .autowired
  gap := blank
  visibility := some { word := "private".toList, gap := blank }
  final := some blank
  type := t.fieldType

/-- The final field, when its type is no array. -/
def finalField (hx : Package.IsSegment x) : FinalField where
  privateGap := blank
  finalGap := blank
  type := t.fieldType
  arguments := t.arguments.map NamedArguments.toField
  gap := blank
  name := x
  isSegment := hx

def parameter (hx : Package.IsSegment x) : Parameter where
  qualifiers := t.qualifiers.attach.map fun q =>
    { name := q.1
      isPart := t.fieldType.isPart q.1 (List.mem_append_left _ q.2)
      not_final := fun h => t.not_modifier q.1 (List.mem_append_left _ q.2)
        (h ▸ List.mem_cons_self) }
  typeName := t.name
  arguments := t.arguments.map NamedArguments.toParameter
  dimensions := List.replicate t.dimensions {}
  gap := blank
  name := x
  isIdentifier := t.fieldType.isIdentifier
  not_final := fun h => t.not_modifier t.name (by simp) (h ▸ List.mem_cons_self)
  isPart := ⟨hx.ne_nil, fun c hc => by simp [TypeName.isIdentifierPart, hx.chars c hc]⟩

/-! ## Types that are found -/

theorem isNameChar_of_mem_head?_behind {s : Text} (hs : ∀ c ∈ s.head?, Rule.isNameChar c = false) :
    ∀ c ∈ (t.behind ++ s).head?, Rule.isNameChar c = false := by
  refine Text.forall_mem_head?_append (Text.forall_mem_head?_append ?_ fun c hc => ?_) hs
  · cases t.arguments with
    | none => exact fun c hc => absurd hc (Option.not_mem_none c)
    | some a => exact Text.forall_mem_head? (by decide) _
  · rcases TypeName.mem_brackets (List.mem_of_mem_head? hc) with rfl | rfl <;> decide

/-- The rule for annotated fields stops where the name of the type does. -/
theorem names_autowired (hx : Package.IsSegment x) :
    Rule.injectedField.names (t.autowired x) = [t.name] := by
  have hfield : t.injectedField.text = "@Autowired private final ".toList ++ t.fieldType.text := rfl
  have htext : t.autowired x = [] ++ [(t.injectedField, t.behind ++ (' ' :: x ++ [';']))].flatMap
      fun d => d.1.text ++ d.2 := by
    rw [List.flatMap_cons, List.flatMap_nil, List.append_nil, hfield, List.append_assoc,
      ← List.append_assoc _ t.behind]
    rfl
  have hat : '@' ∉ t.behind ++ (' ' :: x ++ [';']) := by
    have hbehind : '@' ∉ t.behind := t.notMem_behind (by decide) (by decide)
    have hname : '@' ∉ x := hx.notMem (by decide)
    simp [hbehind, hname]
  have hfields : ∀ d ∈ [(t.injectedField, t.behind ++ (' ' :: x ++ [';']))],
      '@' ∉ d.2 ∧ ∀ c ∈ d.2.head?, Rule.isNameChar c = false :=
    List.forall_mem_singleton.2
      ⟨hat, t.isNameChar_of_mem_head?_behind (Text.forall_mem_head? (by decide) _)⟩
  rw [Rule.names, htext, Rule.findAll_injectedField List.not_mem_nil hfields]
  refine TypeName.ofTokens_eq (.cons ⟨?_, t.fieldType.isIdentifier⟩ .nil)
  have hname := t.fieldType.simpleName_eq {}
  rwa [List.append_nil] at hname

theorem text_finalField (hx : Package.IsSegment x) (hd : t.dimensions = 0) :
    (t.finalField hx).text = "private final ".toList ++ (t.text ++ (' ' :: x ++ [';'])) := by
  have harguments : ((t.finalField hx).arguments.map FieldArguments.text).getD [] = t.behind := by
    show ((t.arguments.map NamedArguments.toField).map FieldArguments.text).getD [] = _
    rw [behind, hd, Option.map_map]
    exact (List.append_nil _).symm
  unfold FinalField.text FinalField.token
  rw [harguments]
  rfl

theorem hasCodegenMarker_generated (x : Text) : Rule.hasCodegenMarker (t.generated x) = true := rfl

/-- The rule for final fields takes the type with its arguments. -/
theorem names_generated (hx : Package.IsSegment x) (hd : t.dimensions = 0) :
    Rule.constructorInjectedField.names (t.generated x) = [t.name] := by
  have htext : t.generated x =
    [("@RequiredArgsConstructor class C \x7b ".toList, t.finalField hx)].flatMap
      (fun d => d.1 ++ d.2.text) ++ " \x7d".toList := by
    have hfront : "@RequiredArgsConstructor class C \x7b private final ".toList =
      "@RequiredArgsConstructor class C \x7b ".toList ++ "private final ".toList := rfl
    have hback : "; \x7d".toList = [';'] ++ " \x7d".toList := rfl
    unfold generated
    simp only [hfront, hback, t.text_finalField hx hd, List.flatMap_cons, List.flatMap_nil,
      List.append_nil, List.append_assoc]
  have hfront : ¬ "private".toList <:+: "@RequiredArgsConstructor class C \x7b ".toList ∧
      ∀ c ∈ "@RequiredArgsConstructor class C \x7b ".toList.getLast?, isWord c = false := by decide
  rw [Rule.names, t.hasCodegenMarker_generated, if_pos rfl, htext,
    Rule.findAll_finalField (List.forall_mem_singleton.2 hfront) (by decide)]
  exact TypeName.ofTokens_eq
    (.cons ⟨(t.finalField hx).simpleName_token, t.fieldType.isIdentifier⟩ .nil)

theorem text_parameter (hx : Package.IsSegment x) : (t.parameter hx).text = t.text ++ ' ' :: x := by
  have hqualifiers : (t.parameter hx).qualifiers.map Qualifier.text = t.qualifiers := by
    show (t.qualifiers.attach.map _).map Qualifier.text = _
    rw [List.map_map]
    refine (List.map_congr_left fun q _ => ?_).trans (List.attach_map_subtype_val _)
    exact List.append_nil _
  have harguments : argumentsText (t.parameter hx).arguments =
      (t.arguments.map NamedArguments.text).getD [] := by
    show ((t.arguments.map NamedArguments.toParameter).map TypeArguments.text).getD [] = _
    rw [Option.map_map]
    rfl
  have hsuffixes : (t.parameter hx).suffixes = TypeName.brackets t.dimensions := by
    show (List.replicate t.dimensions ({} : Blanks)).flatMap _ ++ [] = _
    rw [List.append_nil, List.flatMap_replicate]
    rfl
  unfold Parameter.text Parameter.back
  rw [hqualifiers, harguments, hsuffixes]
  show _ ++ ([] ++ (_ ++ (_ ++ ([' '] ++ (x ++ []))))) = _
  simp [text, behind, parameter]

/-- The rule for constructors takes all that is between the parentheses. -/
theorem names_constructed (hx : Package.IsSegment x) :
    Rule.constructorParameter.names (t.constructed x) = [t.name] := by
  have htext : t.constructed x = "class C \x7b ".toList ++
    ("public".toList ++ ([' '] ++ (['C'] ++ ([] ++ (['('] ++
      ((t.parameter hx).text ++ ([')'] ++ " \x7b\x7d \x7d".toList))))))) := by
    have hfront : "class C \x7b public C(".toList =
      "class C \x7b ".toList ++ ("public".toList ++ ([' '] ++ (['C'] ++ ['(']))) := rfl
    have hback : ") \x7b\x7d \x7d".toList = [')'] ++ " \x7b\x7d \x7d".toList := rfl
    unfold constructed
    simp only [hfront, hback, t.text_parameter hx, List.append_assoc, List.nil_append]
  have hedge : ∀ c ∈ "class C \x7b ".toList.getLast?, isWord c = false := by decide
  have hfront : ¬ "public".toList <:+: "class C \x7b ".toList := by decide
  have hback : ¬ "public".toList <:+: " \x7b\x7d \x7d".toList := by decide
  have hgap : ∀ c ∈ [' '], isBlank c = true := by decide
  have hclass : ∀ c ∈ ['C'], isWord c = true := by decide
  have hnothing : ∀ c ∈ ([] : Text), isBlank c = true := nofun
  obtain ⟨taken, hscan⟩ := Rule.scan_constructor hedge hfront hback (by decide) hgap
    (by decide) hclass hnothing
    (t.parameter hx).noParenthesis
  have hbasic : (!TypeName.basicTypes.contains t.name) = true := by simpa using t.not_basic
  rw [htext, Rule.names, Rule.parameterTypes, hscan, List.flatMap_cons, List.flatMap_nil,
    List.append_nil]
  exact (Rule.parameterTypes_bare [t.parameter hx]).trans (List.filter_cons_of_pos hbasic)

end InjectedType

/-! ## Arrays that are not found -/

namespace Rule

/-- The text in front of its last word. -/
def beforeLastWord (t : Text) : Text :=
  Text.dropEnd isBlank (Text.dropEnd isWord (Text.dropEnd isBlank t))

theorem beforeLastWord_append {u gap word after : Text} {last : Char}
    (hlast : u.getLast? = some last)
    (hsolid : isBlank last = false) (hgap : gap ≠ []) (hblank : ∀ c ∈ gap, isBlank c = true)
    (hne : word ≠ [])
    (hword : ∀ c ∈ word, isWord c = true) (hafter : ∀ c ∈ after, isBlank c = true) :
    beforeLastWord (u ++ gap ++ word ++ after) = u := by
  have hu : ∀ c ∈ u.getLast?, isBlank c = false :=
    fun c hc => Option.some.inj (hlast.symm.trans hc) ▸ hsolid
  have hwordEnd : ∀ c ∈ (u ++ gap ++ word).getLast?, isBlank c = false := by
    rw [List.getLast?_append_of_ne_nil _ hne]
    exact fun c hc => isBlank_of_isWord (hword c (List.mem_of_getLast? hc))
  have hgapEnd : ∀ c ∈ (u ++ gap).getLast?, isWord c = false := by
    rw [List.getLast?_append_of_ne_nil _ hgap]
    exact fun c hc => isWord_of_isBlank (hblank c (List.mem_of_getLast? hc))
  rw [beforeLastWord, Text.dropEnd_run hwordEnd hafter, Text.dropEnd_run hgapEnd hword,
    Text.dropEnd_run hu hblank]

/-- A type that a final field can have ends as a name or as type arguments do. -/
theorem exists_getLast?_of_fits {token : Text} {groups : List Text}
    (h : (Pattern.seq (.some isNameChar)
      (.opt (.all [.many isBlank, .lit ['<'], .many isFieldArgumentChar, .lit ['>']]))).Fits
        token groups) :
    ∃ c, token.getLast? = some c ∧ (isNameChar c = true ∨ c = '>') := by
  obtain ⟨name, arguments, _, _, ⟨hne, hname, -⟩, harguments, rfl, -⟩ := h
  rcases harguments with harguments | ⟨rfl, -⟩
  · obtain ⟨_, _, _, _, -, harguments, rfl, -⟩ := harguments
    obtain ⟨_, _, _, _, -, harguments, rfl, -⟩ := harguments
    obtain ⟨_, _, _, _, -, ⟨rfl, -⟩, rfl, -⟩ := harguments
    exact ⟨'>', by simp, Or.inr rfl⟩
  · rw [List.append_nil]
    exact ⟨_, List.getLast?_eq_getLast_of_ne_nil hne, Or.inl (hname _ (List.getLast_mem hne))⟩

/-- In a final field, blanks stand between the type and the word before the semicolon. -/
theorem exists_word_of_fits {m : Text} {groups : List Text} (h : finalFieldPattern.Fits m groups) :
    ∃ front gap word after, m = front ++ gap ++ word ++ after ++ [';'] ∧
      (∃ c, front.getLast? = some c ∧ (isNameChar c = true ∨ c = '>')) ∧ gap ≠ [] ∧
      (∀ c ∈ gap, isBlank c = true) ∧
      word ≠ [] ∧ (∀ c ∈ word, isWord c = true) ∧ ∀ c ∈ after, isBlank c = true := by
  obtain ⟨edge, _, _, _, -, h, rfl, -⟩ := h
  obtain ⟨keyword, _, _, _, -, h, rfl, -⟩ := h
  obtain ⟨blanks, _, _, _, -, h, rfl, -⟩ := h
  obtain ⟨keyword', _, _, _, -, h, rfl, -⟩ := h
  obtain ⟨blanks', _, _, _, -, h, rfl, -⟩ := h
  obtain ⟨token, _, _, _, ⟨_, htoken, -⟩, h, rfl, -⟩ := h
  obtain ⟨gap, _, _, _, ⟨hgap, hblank, -⟩, h, rfl, -⟩ := h
  obtain ⟨word, _, _, _, ⟨hne, hword, -⟩, h, rfl, -⟩ := h
  obtain ⟨after, _, _, _, ⟨hafter, -⟩, ⟨rfl, -⟩, rfl, -⟩ := h
  obtain ⟨c, hc, hend⟩ := exists_getLast?_of_fits htoken
  have hlast : (edge ++ keyword ++ blanks ++ keyword' ++ blanks' ++ token).getLast? = some c := by
    rw [List.getLast?_append, hc, Option.some_or]
  exact ⟨_, gap, word, after, by simp only [List.append_assoc], ⟨c, hlast, hend⟩, hgap, hblank, hne,
    hword, hafter⟩

/-- There is no field where something else than a type stands in front of the last word before the
only semicolon. -/
theorem misses_of_getLast? {front word back : Text} {last : Char} (gap : Space)
    (hlast : front.getLast? = some last)
    (hsolid : isBlank last = false) (hend : ¬(isNameChar last = true ∨ last = '>'))
    (hfront : ';' ∉ front)
    (hword : Package.IsSegment word) (hback : ';' ∉ back) :
    finalFieldPattern.Misses none (front ++ gap.text ++ word ++ [] ++ ';' :: back) [] := by
  intro before behind hsplit _
  by_contra hfirst
  obtain ⟨m, hm⟩ := Option.ne_none_iff_exists'.1 hfirst
  obtain ⟨start, gap', name, after, htaken, ⟨c, hc, htype⟩, hgap, hblank, hne, hname, hafter⟩ :=
    exists_word_of_fits (Pattern.fits_of_first_eq_some hm)
  have hsame : front ++ gap.text ++ word ++ [] ++ ';' :: back =
      before ++ start ++ gap' ++ name ++ after ++ ';' :: m.left := by
    have hleft := Pattern.append_of_first hm
    rw [List.append_nil, htaken] at hleft
    rw [← hsplit, ← hleft]
    simp only [List.append_assoc, List.cons_append, List.nil_append]
  have hnone : ';' ∉ front ++ gap.text ++ word ++ [] := by
    have hgap : ';' ∉ gap.text := fun h => absurd (gap.blank _ h) (by decide)
    have hsegment : ';' ∉ word := hword.notMem (by decide)
    simp [hfront, hgap, hsegment]
  -- The semicolon is where the match ends, so both ways to read what is before it end in the same
  -- word.
  have hwords := congrArg beforeLastWord ((List.append_cons_inj_of_notMem hnone hback).1 hsame).1
  have hstart : (before ++ start).getLast? = some c := by
    rw [List.getLast?_append, hc, Option.some_or]
  have hsolid' : isBlank c = false := by
    rcases htype with hchar | rfl
    · exact isBlank_of_isNameChar hchar
    · decide
  have hnothing : ∀ d ∈ ([] : Text), isBlank d = true := nofun
  rw [beforeLastWord_append hlast hsolid gap.ne_nil gap.blank hword.ne_nil hword.chars hnothing,
    beforeLastWord_append hstart hsolid' hgap hblank hne hname hafter] at hwords
  rw [hwords, hstart] at hlast
  exact hend (Option.some.inj hlast ▸ htype)

end Rule

namespace InjectedType

variable (t : InjectedType) {x : Text}

theorem semicolon_notMem_text : ';' ∉ t.text := by
  have hname : ';' ∉ t.fieldType.text :=
    fun h => absurd (t.fieldType.isDottedName.chars ';' h) (by decide)
  have hbehind : ';' ∉ t.behind := t.notMem_behind (by decide) (by decide)
  exact fun h => (List.mem_append.1 h).elim hname hbehind

theorem getLast?_text (hd : t.dimensions ≠ 0) : t.text.getLast? = some ']' := by
  obtain ⟨n, hn⟩ := Nat.exists_eq_succ_of_ne_zero hd
  have hbrackets : TypeName.brackets t.dimensions = TypeName.brackets n ++ ['[', ']'] := by
    rw [hn, TypeName.brackets, List.replicate_succ', List.flatten_append]
    simp [TypeName.brackets]
  rw [text, behind, hbrackets]
  simp [List.getLast?_append]

/-- The rule for final fields does not know arrays. -/
theorem names_generated_array (hx : Package.IsSegment x) (hd : t.dimensions ≠ 0) :
    Rule.constructorInjectedField.names (t.generated x) = [] := by
  have htext : t.generated x = "@RequiredArgsConstructor class C \x7b private final ".toList ++
    t.text ++ blank.text ++
      x ++ [] ++ ';' :: " \x7d".toList := by
    unfold generated
    simp only [List.append_assoc, List.nil_append]
    rfl
  have hlast : ("@RequiredArgsConstructor class C \x7b private final ".toList ++ t.text).getLast? =
      some ']' := by
    rw [List.getLast?_append, t.getLast?_text hd, Option.some_or]
  have hnone : ';' ∉ "@RequiredArgsConstructor class C \x7b private final ".toList ++ t.text := by
    have hliteral : ';' ∉ "@RequiredArgsConstructor class C \x7b private final ".toList := by decide
    exact fun h => (List.mem_append.1 h).elim hliteral t.semicolon_notMem_text
  have hmiss : Rule.finalFieldPattern.Misses none (t.generated x) [] := by
    rw [htext]
    exact Rule.misses_of_getLast? blank hlast (by decide) (by decide) hnone hx (by decide)
  have hscan := Pattern.scanFrom_of_misses hmiss
  rw [List.append_nil] at hscan
  rw [Rule.names, t.hasCodegenMarker_generated, if_pos rfl, Pattern.findAll, Pattern.scan, hscan]
  rfl

end InjectedType

/-- Whatever type arguments and dimensions a type has, the rules for annotated fields and for
constructors find its simple name, and no other. The rule for final fields finds it as well, but for
arrays, where it finds nothing. The name of the field is a run of word characters: beside a name
with a dollar sign it finds nothing either. -/
theorem injections_agree (t : InjectedType) {x : Text} (hx : Package.IsSegment x) :
    TypeName.simpleName t.text = t.name ∧
      Rule.injectedField.names (t.autowired x) = [t.name] ∧
      Rule.constructorParameter.names (t.constructed x) = [t.name] ∧
      Rule.constructorInjectedField.names (t.generated x) = if t.dimensions = 0 then
        [t.name] else [] := by
  refine ⟨t.simpleName_text, t.names_autowired hx, t.names_constructed hx, ?_⟩
  split_ifs with hd
  · exact t.names_generated hx hd
  · exact t.names_generated_array hx hd

/-- A qualified type with type arguments in one another. -/
theorem partsMap_agree :
    let partsMap : InjectedType :=
      { qualifiers := ["java".toList, "util".toList], name := "Map".toList
        arguments := some { inner := "? , List<a.Part<X>>".toList } }
    Package.IsSegment "parts".toList ∧
      partsMap.text = "java.util.Map<? , List<a.Part<X>>>".toList ∧
      Rule.injectedField.names
        "@Autowired private final java.util.Map<? , List<a.Part<X>>> parts;".toList =
          ["Map".toList] ∧
      Rule.constructorParameter.names
        "class C \x7b public C(java.util.Map<? , List<a.Part<X>>> parts) \x7b\x7d \x7d".toList =
          ["Map".toList] ∧
      Rule.constructorInjectedField.names
        ("@RequiredArgsConstructor class C \x7b private final " ++
          "java.util.Map<? , List<a.Part<X>>> parts; \x7d").toList =
          ["Map".toList] := by
  intro partsMap
  have hname : Package.IsSegment "parts".toList := by decide
  have hinjectedText : partsMap.autowired "parts".toList =
      "@Autowired private final java.util.Map<? , List<a.Part<X>>> parts;".toList := by
        decide +kernel
  have hconstructedText : partsMap.constructed "parts".toList =
      "class C \x7b public C(java.util.Map<? , List<a.Part<X>>> parts) \x7b\x7d \x7d".toList := by
        decide +kernel
  have hgeneratedText : partsMap.generated "parts".toList =
      ("@RequiredArgsConstructor class C \x7b private final " ++
        "java.util.Map<? , List<a.Part<X>>> parts; \x7d").toList := by
    decide +kernel
  obtain ⟨-, hinjected, hconstructed, hgenerated⟩ := injections_agree partsMap hname
  rw [← hinjectedText, ← hconstructedText, ← hgeneratedText]
  exact ⟨hname, by decide +kernel, hinjected, hconstructed, hgenerated⟩

/-- The field of an array that only one of the rules misses. -/
theorem arrayField_missed :
    let array : InjectedType := { name := "Foo".toList, dimensions := 1 }
    array.generated ['x'] =
      "@RequiredArgsConstructor class C \x7b private final Foo[] x; \x7d".toList ∧
      Rule.injectedField.names (array.autowired ['x']) = ["Foo".toList] ∧
      Rule.constructorParameter.names (array.constructed ['x']) = ["Foo".toList] ∧
      Rule.constructorInjectedField.names (array.generated ['x']) = [] := by
  decide +kernel

end SourceReach
