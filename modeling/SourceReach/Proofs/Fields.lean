import Mathlib.Data.List.Forall2
import SourceReach.Proofs.SimpleName
import SourceReach.Proofs.Statements

/-!
# Declared fields

`InjectedField` and `FinalField` are the declarations that the two rules for fields look for, part
by part. Each is matched as a whole: what may be left out of it cannot be mistaken for what stands
there instead, and the type arguments end where they do although more is looked at than that. So of
a text that has declarations and other parts in turn, all the declared types are found, in their
order (`fields_found`).
-/

namespace SourceReach

open Brackets

/-! ## How fields are written -/

/-- The words that say who sees a field. -/
def visibilities : List Text := ["public".toList, "protected".toList, "private".toList]

/-- A type as a field declares it, without type arguments: a dotted name that is none of the words
before a type. -/
structure FieldType where
  qualifiers : List Text := []
  name : Text
  isSegment : ∀ part ∈ qualifiers ++ [name], Package.IsSegment part := by decide
  start : ∀ c ∈ name.head?, c.isAlpha = true ∨ c = '_' := by decide
  not_visibility : Text.joined ['.'] (qualifiers ++ [name]) ∉ visibilities := by decide
  not_final : Text.joined ['.'] (qualifiers ++ [name]) ≠ "final".toList := by decide

def FieldType.text (t : FieldType) : Text := Text.joined ['.'] (t.qualifiers ++ [t.name])

/-- The annotations of a field that is injected. -/
inductive Injection where
  | autowired
  | inject

def Injection.text : Injection → Text
  | autowired => "Autowired".toList
  | inject => "Inject".toList

/-- The arguments of an annotation, and the blanks before them. -/
structure AnnotationArguments where
  before : Blanks := {}
  inner : Text
  noParenthesis : ')' ∉ inner := by decide

def AnnotationArguments.text (a : AnnotationArguments) : Text :=
  a.before.text ++ (['('] ++ (a.inner ++ [')']))

/-- A word that says who sees a field, and the blanks behind it. -/
structure Visibility where
  word : Text
  gap : Space
  isVisibility : word ∈ visibilities := by decide

def Visibility.text (v : Visibility) : Text := v.word ++ v.gap.text

/-- The word `final`, and the blanks behind it. -/
def finalText (gap : Space) : Text := "final".toList ++ gap.text

/-- A field that is injected, up to its type. -/
structure InjectedField where
  annotation : Injection
  arguments : Option AnnotationArguments := none
  gap : Space
  visibility : Option Visibility := none
  final : Option Space := none
  type : FieldType

namespace InjectedField

/-- What stands behind the annotation and the blanks. -/
def declared (d : InjectedField) : Text :=
  (d.visibility.map Visibility.text).getD [] ++ ((d.final.map finalText).getD [] ++ d.type.text)

def text (d : InjectedField) : Text :=
  ['@'] ++
    (d.annotation.text ++
      ((d.arguments.map AnnotationArguments.text).getD [] ++ (d.gap.text ++ d.declared)))

end InjectedField

/-- The type arguments of a field, and the blanks before them. -/
structure FieldArguments where
  before : Blanks := {}
  inner : Text
  balanced : IsBalanced inner := by decide
  chars : ∀ c ∈ inner, Rule.isFieldArgumentChar c = true := by decide

def FieldArguments.text (a : FieldArguments) : Text :=
  a.before.text ++ (['<'] ++ (a.inner ++ ['>']))

/-- A private final field without initial value. -/
structure FinalField where
  privateGap : Space
  finalGap : Space
  type : FieldType
  arguments : Option FieldArguments := none
  gap : Space
  name : Text
  isSegment : Package.IsSegment name := by decide
  after : Blanks := {}

namespace FinalField

def token (d : FinalField) : Text := d.type.text ++ (d.arguments.map FieldArguments.text).getD []

/-- What stands behind the type and its arguments. -/
def back (d : FinalField) : Text := d.gap.text ++ (d.name ++ (d.after.text ++ [';']))

def text (d : FinalField) : Text :=
  "private".toList ++
    (d.privateGap.text ++ ("final".toList ++ (d.finalGap.text ++ (d.token ++ d.back))))

end FinalField

/-! ## Names -/

namespace FieldType

variable (t : FieldType)

theorem isPart : ∀ part ∈ t.qualifiers ++ [t.name], TypeName.IsPart part := fun part hpart =>
  ⟨(t.isSegment part hpart).ne_nil, fun c hc => by
    simp [TypeName.isIdentifierPart, (t.isSegment part hpart).chars c hc]⟩

theorem isDottedName : IsDottedName t.text := by
  refine ⟨TypeName.dotted_ne_nil (t.isPart t.name (by simp)) t.qualifiers, fun c hc => ?_⟩
  rcases Text.mem_joined hc with hdot | ⟨part, hpart, hc⟩
  · rw [List.mem_singleton.1 hdot]
    decide
  · exact (t.isSegment part hpart).isDottedName.chars c hc

theorem isPlain : IsPlain t.text := by
  intro c hc
  have hname := t.isDottedName.chars c hc
  constructor <;> rintro rfl <;> exact absurd hname (by decide)

theorem isIdentifier : TypeName.isIdentifier t.name = true := by
  have hname : Package.IsSegment t.name := t.isSegment t.name (by simp)
  obtain ⟨c, rest, hcons⟩ := List.exists_cons_of_ne_nil hname.ne_nil
  have hstart : TypeName.isIdentifierStart c = true := by
    rcases t.start c (by rw [hcons]; rfl) with halpha | rfl
    · simp [TypeName.isIdentifierStart, halpha]
    · decide
  have hrest : ∀ d ∈ rest, TypeName.isIdentifierPart d = true := fun d hd => by
    have hd : d ∈ t.name := by rw [hcons]; exact List.mem_cons_of_mem c hd
    simp [TypeName.isIdentifierPart, hname.chars d hd]
  rw [hcons, TypeName.isIdentifier, hstart, List.all_eq_true.2 hrest]
  rfl

/-- The type stands for its last part, whatever blanks come behind it. -/
theorem simpleName_eq (after : Blanks) : TypeName.simpleName (t.text ++ after.text) = t.name := by
  have hname :
    TypeName.simpleName
      ([] ++ (Text.joined ['.'] (t.qualifiers ++ [t.name]) ++ TypeName.brackets 0 ++
      TypeName.ellipsis false) ++ after.text) =
        t.name := TypeName.simpleName_suffixed t.isPart nofun after.blank
  have hplain : TypeName.brackets 0 = [] ∧ TypeName.ellipsis false = [] := ⟨rfl, rfl⟩
  rwa [hplain.1, hplain.2, List.nil_append, List.append_nil, List.append_nil] at hname

end FieldType

/-- The simple name depends on what is left without type arguments. -/
theorem TypeName.simpleName_congr {s t : Text} (h : stripGenerics s = stripGenerics t) :
    simpleName s = simpleName t := by
  rw [simpleName, simpleName, h]

/-- A field's type with its arguments stands for the last part of its name. -/
theorem FinalField.simpleName_token (d : FinalField) :
    TypeName.simpleName d.token = d.type.name := by
  have hplain := d.type.isPlain
  obtain ⟨before, hadds⟩ : ∃ before : Blanks, Adds d.token (d.type.text ++ before.text) := by
    unfold token
    cases d.arguments with
    | none => exact ⟨{}, (adds_plain hplain).append adds_nil⟩
    | some a =>
      have hlist : Adds (['<'] ++ (a.inner ++ ['>'])) [] := a.balanced.adds.list
      have harguments := (adds_plain (isPlain_of_isBlank a.before.blank)).append hlist
      rw [List.append_nil] at harguments
      exact ⟨a.before, (adds_plain hplain).append harguments⟩
  have hstripped : IsPlain (d.type.text ++ before.text) :=
    hplain.append (isPlain_of_isBlank before.blank)
  rw [← d.type.simpleName_eq before]
  refine TypeName.simpleName_congr ?_
  rw [stripGenerics_eq_strip, stripGenerics_eq_strip, hadds.strip_eq,
    (adds_plain hstripped).strip_eq]

namespace Rule

variable {prev : Option Char} {s run words : Text}

/-! ## Words that may be there -/

theorem isWord_of_mem_head?_blanks (b : Blanks) (hs : ∀ c ∈ s.head?, isWord c = false) :
    ∀ c ∈ (b.text ++ s).head?, isWord c = false :=
  Text.forall_mem_head?_append
    (fun c hc => isWord_of_isBlank (b.blank c (List.mem_of_mem_head? hc))) hs

/-- Where a run of name characters is cut behind a word that it is not, the run goes on. -/
theorem isNameChar_behind {word left : Text} (hword : ∀ c ∈ word, isNameChar c = true)
    (hrun : ∀ c ∈ run, isNameChar c = true) (hs : ∀ c ∈ s.head?, isNameChar c = false)
    (hne : word ≠ run)
    (h : word ++ left = run ++ s) : ∀ c ∈ left.head?, isBlank c = false := by
  rcases List.append_eq_append_iff.1 h with ⟨more, rfl, rfl⟩ | ⟨more, rfl, rfl⟩
  · cases more with
    | nil => exact absurd (List.append_nil word).symm hne
    | cons d more =>
      exact Text.forall_mem_head?
        (isBlank_of_isNameChar (hrun d (List.mem_append_right _ List.mem_cons_self))) _
  · cases more with
    | nil => exact absurd (List.append_nil run) hne
    | cons d more =>
      have hd := hword d (List.mem_append_right _ List.mem_cons_self)
      exact absurd ((hs d rfl).symm.trans hd) nofun

/-- A run of name characters that is none of some words is not mistaken for one of them with blanks
behind it. -/
theorem first_word_none {p : Pattern} {words : List Text}
    (hp : ∀ t groups, p.Fits t groups → t ∈ words)
    (hwords : ∀ w ∈ words, ∀ c ∈ w, isNameChar c = true) (hrun : ∀ c ∈ run, isNameChar c = true)
    (hs : ∀ c ∈ s.head?, isNameChar c = false) (hne : run ∉ words) :
    (Pattern.seq p (.some isBlank)).first prev (run ++ s) = none := by
  refine Pattern.first_seq_eq_none fun m hm => Pattern.first_some_eq_none ?_
  have htaken : m.taken ∈ words := hp _ _ (Pattern.fits_of_mem_run hm)
  refine isNameChar_behind (hwords _ htaken) hrun hs ?_ (Pattern.append_of_mem_run hm)
  rintro rfl
  exact hne htaken

/-- The words that say who sees a field, as a pattern. -/
def visibilityPattern : Pattern :=
  .alt (.lit "public".toList) (.alt (.lit "protected".toList) (.lit "private".toList))

theorem first_visibility {word : Text} (h : word ∈ visibilities) (prev : Option Char) (s : Text) :
    visibilityPattern.first prev (word ++ s) = some ⟨word, s, []⟩ := by
  simp only [visibilities, List.mem_cons, List.not_mem_nil, or_false] at h
  rcases h with rfl | rfl | rfl
  · exact Pattern.first_alt_left (Pattern.first_lit _ _ _) _
  · rw [visibilityPattern, Pattern.first_alt_right (Pattern.first_lit_eq_none (by simp))]
    exact Pattern.first_alt_left (Pattern.first_lit _ _ _) _
  · rw [visibilityPattern, Pattern.first_alt_right (Pattern.first_lit_eq_none (by simp)),
      Pattern.first_alt_right (Pattern.first_lit_eq_none (by simp))]
    exact Pattern.first_lit _ _ _

theorem mem_visibilities_of_fits {t : Text} {groups : List Text}
    (h : visibilityPattern.Fits t groups) :
    t ∈ visibilities := by
  rcases h with ⟨rfl, -⟩ | ⟨rfl, -⟩ | ⟨rfl, -⟩ <;> decide

theorem first_injection (i : Injection) (prev : Option Char) (s : Text) :
    (Pattern.alt (.lit "Autowired".toList) (.lit "Inject".toList)).first prev (i.text ++ s) =
      some ⟨i.text, s, []⟩ := by
  cases i with
  | autowired => exact Pattern.first_alt_left (Pattern.first_lit _ _ _) _
  | inject =>
    have hother : ¬ "Autowired".toList <+: "Inject".toList ++ s := by simp
    exact (Pattern.first_alt_right (Pattern.first_lit_eq_none hother) _).trans
      (Pattern.first_lit prev _ s)

/-! ## Injected fields -/

theorem isDottedName_of_mem_visibilities {word : Text} (h : word ∈ visibilities) :
    IsDottedName word := by
  simp only [visibilities, List.mem_cons, List.not_mem_nil, or_false] at h
  rcases h with rfl | rfl | rfl <;> exact ⟨by decide, by decide⟩

section Injected

variable (d : InjectedField)

/-- Behind the visibility, or where it could stand, there is another word. -/
theorem exists_word_behind_visibility (hs : ∀ c ∈ s.head?, isNameChar c = false) :
    ∃ word rest, (d.final.map finalText).getD [] ++ (d.type.text ++ s) = word ++ rest ∧
    IsDottedName word ∧
      word ∉ visibilities ∧ ∀ c ∈ rest.head?, isNameChar c = false := by
  cases d.final with
  | none => exact ⟨d.type.text, s, rfl, d.type.isDottedName, d.type.not_visibility, hs⟩
  | some gap =>
    refine ⟨"final".toList, gap.text ++ (d.type.text ++ s), List.append_assoc _ _ _,
      ⟨by decide, by decide⟩, by decide, fun c hc => ?_⟩
    exact isNameChar_of_isBlank (gap.isBlank_of_mem_head? _ c hc)

/-- Behind the annotation and the blanks a word starts. -/
theorem isNameChar_of_mem_head?_declared (hs : ∀ c ∈ s.head?, isNameChar c = false) :
    ∀ c ∈ (d.declared ++ s).head?, isNameChar c = true := by
  obtain ⟨word, rest, hword, hname, -⟩ := exists_word_behind_visibility d hs
  rw [InjectedField.declared, List.append_assoc, List.append_assoc, hword]
  cases d.visibility with
  | none => exact isNameChar_of_mem_head?_dottedName hname rest
  | some v =>
    show ∀ c ∈ (v.word ++ v.gap.text ++ (word ++ rest)).head?, _
    rw [List.append_assoc]
    exact isNameChar_of_mem_head?_dottedName (isDottedName_of_mem_visibilities v.isVisibility) _

theorem first_declared (hs : ∀ c ∈ s.head?, isNameChar c = false) (prev : Option Char) :
    (Pattern.all [.opt (.seq visibilityPattern (.some isBlank)),
      .opt (.seq (.lit "final".toList) (.some isBlank)),
      .group (.some isNameChar)]).first prev (d.declared ++ s) =
        some ⟨d.declared, s, [d.type.text]⟩ := by
  have hname := d.type.isDottedName
  obtain ⟨word, rest, hword, hdotted, hother, hrest⟩ := exists_word_behind_visibility d hs
  have hvisibility : (Pattern.opt (.seq visibilityPattern (.some isBlank))).first prev
      ((d.visibility.map Visibility.text).getD [] ++ (word ++ rest)) =
        some ⟨(d.visibility.map Visibility.text).getD [], word ++ rest, []⟩ := by
    refine Pattern.first_opt_getD (fun v _ => ?_) fun _ => ?_
    · rw [Visibility.text, List.append_assoc]
      exact Pattern.first_seq (first_visibility v.isVisibility _ _)
        (Pattern.first_some v.gap.ne_nil v.gap.blank (isBlank_of_mem_head?_dottedName hdotted rest))
    · exact first_word_none (fun t groups => mem_visibilities_of_fits)
        (fun w hw => (isDottedName_of_mem_visibilities hw).chars) hdotted.chars hrest hother
  have hfinal : ∀ prev, (Pattern.opt (.seq (.lit "final".toList) (.some isBlank))).first prev
      ((d.final.map finalText).getD [] ++ (d.type.text ++ s)) =
        some ⟨(d.final.map finalText).getD [], d.type.text ++ s, []⟩ := by
    intro prev
    refine Pattern.first_opt_getD (fun gap _ => ?_) fun _ => ?_
    · unfold finalText
      rw [List.append_assoc]
      exact Pattern.first_seq (Pattern.first_lit _ _ _)
        (Pattern.first_some gap.ne_nil gap.blank (isBlank_of_mem_head?_dottedName hname s))
    · have hfits : ∀ t groups, (Pattern.lit "final".toList).Fits t groups → t ∈ ["final".toList] :=
        fun t groups h => List.mem_singleton.2 h.1
      exact first_word_none hfits (by decide) hname.chars hs fun h => d.type.not_final
        (List.mem_singleton.1 h)
  have htype : ∀ prev, (Pattern.group (.some isNameChar)).first prev (d.type.text ++ s) =
      some ⟨d.type.text, s, [d.type.text]⟩ := fun prev =>
    Pattern.first_group (Pattern.first_some hname.ne_nil hname.chars hs)
  rw [← hword] at hvisibility
  rw [InjectedField.declared, List.append_assoc, List.append_assoc]
  exact Pattern.first_seq hvisibility (Pattern.first_seq (hfinal _) (htype _))

/-- The arguments of the annotation are taken as a whole, and without them nothing is. -/
theorem first_annotationArguments (hs : ∀ c ∈ s.head?, isNameChar c = true) (prev : Option Char) :
    (Pattern.opt (.seq (.many isBlank) parenthesesPattern)).first prev
      ((d.arguments.map AnnotationArguments.text).getD [] ++ (d.gap.text ++ s)) =
        some ⟨(d.arguments.map AnnotationArguments.text).getD [], d.gap.text ++ s, []⟩ := by
  have hopening : isBlank '(' = false := by decide
  refine Pattern.first_opt_getD (fun a _ => ?_) fun _ => ?_
  · have hinner : ∀ c ∈ a.inner, (decide (c ≠ ')')) = true := fun c hc =>
      decide_eq_true fun heq => a.noParenthesis (heq ▸ hc)
    have hclosing : ∀ s, ∀ c ∈ ([')'] ++ s).head?, (decide (c ≠ ')')) = false :=
      Text.forall_mem_head? (by decide)
    have hparentheses : ∀ prev, parenthesesPattern.first prev
        (['('] ++ (a.inner ++ ([')'] ++ (d.gap.text ++ s)))) =
          some ⟨['('] ++ (a.inner ++ [')']), d.gap.text ++ s, []⟩ := fun prev =>
      Pattern.first_seq (Pattern.first_lit _ _ _)
        (Pattern.first_seq (Pattern.first_many hinner (hclosing _)) (Pattern.first_lit _ _ _))
    rw [AnnotationArguments.text]
    simp only [List.append_assoc]
    exact Pattern.first_seq (Pattern.first_many a.before.blank (Text.forall_mem_head? hopening _))
      (hparentheses _)
  · refine Pattern.first_many_seq_none (d := '(') rfl d.gap.blank (fun h => ?_)
      (fun c hc => ?_) fun h => ?_
    · exact absurd (d.gap.blank _ h) (by decide)
    · exact isBlank_of_isNameChar (hs c hc)
    · exact absurd (hs _ h) (by decide)

theorem atEdge_annotation (s : Text) (prev : Option Char) :
    Pattern.atEdge (Pattern.before prev d.annotation.text)
      ((d.arguments.map AnnotationArguments.text).getD [] ++ (d.gap.text ++ s)) = true := by
  have hlast : (Pattern.before prev d.annotation.text).any isWord = true := by
    cases d.annotation <;> rfl
  have hnext :
    ∀ c ∈ ((d.arguments.map AnnotationArguments.text).getD [] ++ (d.gap.text ++ s)).head?,
      isWord c = false := by
    cases d.arguments with
    | none => exact fun c hc => isWord_of_isBlank (d.gap.isBlank_of_mem_head? s c hc)
    | some a =>
      show ∀ c ∈ (a.before.text ++ (['('] ++ (a.inner ++ [')'])) ++ (d.gap.text ++ s)).head?,
        isWord c = false
      rw [List.append_assoc]
      exact isWord_of_mem_head?_blanks a.before (Text.forall_mem_head? (by decide) _)
  have hnone : ((d.arguments.map AnnotationArguments.text).getD [] ++ (d.gap.text ++ s)).head?.any
      isWord = false := by
    rw [Option.any_eq_false]
    exact fun c hc => by simp [hnext c hc]
  rw [Pattern.atEdge, hlast, hnone]
  rfl

theorem first_injectedField (hs : ∀ c ∈ s.head?, isNameChar c = false) (prev : Option Char) :
    injectedFieldPattern.first prev (d.text ++ s) = some ⟨d.text, s, [d.type.text]⟩ := by
  have hdeclared := isNameChar_of_mem_head?_declared d hs
  have hedge := atEdge_annotation d (d.declared ++ s)
  rw [InjectedField.text]
  simp only [List.append_assoc]
  exact Pattern.first_seq (Pattern.first_lit _ _ _)
    (Pattern.first_seq (first_injection d.annotation _ _)
      (Pattern.first_seq (Pattern.first_edge (hedge _))
        (Pattern.first_seq (first_annotationArguments d hdeclared _)
          (Pattern.first_seq (Pattern.first_some d.gap.ne_nil d.gap.blank fun c hc =>
            isBlank_of_isNameChar (hdeclared c hc)) (first_declared d hs _)))))

end Injected

theorem findAll_injectedField {front : Text} {fields : List (InjectedField × Text)}
    (hfront : '@' ∉ front)
    (hfields : ∀ d ∈ fields, '@' ∉ d.2 ∧ ∀ c ∈ d.2.head?, isNameChar c = false) :
    injectedFieldPattern.findAll (front ++ fields.flatMap fun d => d.1.text ++ d.2) =
      fields.map fun d => d.1.type.text := by
  have hneeds : injectedFieldPattern.Needs ['@'] := Pattern.needs_of_firstChar? rfl
  have hscan : ∀ prev, (injectedFieldPattern.scanFrom 0 prev
      (front ++ fields.flatMap fun d => d.1.text ++ d.2)).filterMap (fun m => m.groups.head?) =
        fields.map fun d => d.1.type.text := by
    -- What stands behind a declaration is what stands in front of the next one.
    induction fields generalizing front with
    | nil =>
      intro prev
      have hmisses : injectedFieldPattern.Misses prev front [] := hneeds.misses_of_notMem hfront []
      rw [List.flatMap_nil, Pattern.scanFrom_of_misses hmisses]
      rfl
    | cons d fields ih =>
      intro prev
      obtain ⟨⟨hat, hstart⟩, hfields⟩ := List.forall_mem_cons.1 hfields
      have hbehind : ∀ c ∈ (fields.flatMap fun d => d.1.text ++ d.2).head?,
          isNameChar c = false := by
        cases fields with
        | nil => exact fun c hc => absurd hc (Option.not_mem_none c)
        | cons e fields => exact Text.forall_mem_head? (by decide) _
      have hfirst := first_injectedField d.1 (Text.forall_mem_head?_append hstart hbehind)
      have hne : d.1.text ≠ [] := List.cons_ne_nil _ _
      rw [List.flatMap_cons, List.append_assoc,
        Pattern.scanFrom_found (hneeds.misses_of_notMem hfront _) (hfirst _) hne,
          List.filterMap_cons, ih hat hfields,
        List.map_cons]
      rfl
  exact hscan none

/-! ## Final fields -/

theorem isFieldArgumentChar_of (cls : Char → Bool)
    (hcls : ∀ c ∈ [';', '=', '(', ')', '\x7b', '\x7d'], cls c = false) {c : Char}
    (hc : cls c = true) :
    isFieldArgumentChar c = true := by
  have hnone : c ∉ [';', '=', '(', ')', '\x7b', '\x7d'] :=
    fun hmem => absurd (hc.symm.trans (hcls c hmem)) nofun
  simpa [isFieldArgumentChar] using hnone

section Final

variable (d : FinalField)

theorem back_append (s : Text) :
    d.back ++ s = (d.gap.text ++ (d.name ++ d.after.text)) ++ ';' :: s := by
  simp [FinalField.back, List.append_assoc]

/-- Up to the semicolon, all characters are such as type arguments may have. -/
theorem isFieldArgumentChar_of_mem_back :
    ∀ c ∈ d.gap.text ++ (d.name ++ d.after.text), isFieldArgumentChar c = true := by
  have hblank : ∀ b : Blanks, ∀ c ∈ b.text, isFieldArgumentChar c = true := fun b c hc =>
    isFieldArgumentChar_of isBlank (by decide) (b.blank c hc)
  have hname : ∀ c ∈ d.name, isFieldArgumentChar c = true := fun c hc =>
    isFieldArgumentChar_of isWord (by decide) (d.isSegment.chars c hc)
  exact List.forall_mem_append.2
    ⟨hblank d.gap.toBlanks, List.forall_mem_append.2 ⟨hname, hblank d.after⟩⟩

/-- Up to the semicolon, no bracket closes type arguments. -/
theorem closing_notMem_back : '>' ∉ d.gap.text ++ (d.name ++ d.after.text) := by
  simp only [List.mem_append, not_or]
  exact ⟨fun h => absurd (d.gap.blank _ h) (by decide), d.isSegment.notMem (by decide),
    fun h => absurd (d.after.blank _ h) (by decide)⟩

/-- Type arguments are taken up to the bracket that closes them: there is no other one before the
semicolon. -/
theorem first_fieldArguments (s : Text) (prev : Option Char) :
    (Pattern.opt (.all [.many isBlank, .lit ['<'], .many isFieldArgumentChar, .lit ['>']])).first
      prev
      ((d.arguments.map FieldArguments.text).getD [] ++ (d.back ++ s)) =
        some ⟨(d.arguments.map FieldArguments.text).getD [], d.back ++ s, []⟩ := by
  refine Pattern.first_opt_getD (fun a _ => ?_) fun _ => ?_
  · have hlist : ∀ prev,
      (Pattern.all [.lit ['<'], .many isFieldArgumentChar, .lit ['>']]).first prev
        (['<'] ++ (a.inner ++ '>' :: ((d.gap.text ++ (d.name ++ d.after.text)) ++ ';' :: s))) =
          some ⟨['<'] ++ (a.inner ++ ['>']), (d.gap.text ++ (d.name ++ d.after.text)) ++ ';' :: s,
            []⟩ := fun prev =>
      Pattern.first_seq (Pattern.first_lit _ _ _) (Pattern.first_many_lit a.chars (by decide)
        (isFieldArgumentChar_of_mem_back d) (closing_notMem_back d)
          (Text.forall_mem_head? (by decide) _))
    have htext : a.text ++ (d.back ++ s) = a.before.text ++
        (['<'] ++ (a.inner ++ '>' :: ((d.gap.text ++ (d.name ++ d.after.text)) ++ ';' :: s))) := by
      rw [back_append]
      simp [FieldArguments.text, List.append_assoc]
    rw [htext, back_append]
    exact Pattern.first_seq
      (Pattern.first_many a.before.blank (Text.forall_mem_head? (by decide) _)) (hlist _)
  · have hname := isNameChar_of_mem_head?_dottedName d.isSegment.isDottedName
      (d.after.text ++ ([';'] ++ s))
    rw [FinalField.back]
    simp only [List.append_assoc]
    refine Pattern.first_many_seq_none (d := '<') rfl d.gap.blank (fun h => ?_)
      (fun c hc => ?_) fun h => ?_
    · exact absurd (d.gap.blank _ h) (by decide)
    · exact isBlank_of_isNameChar (hname c hc)
    · exact absurd (hname _ h) (by decide)

theorem first_token (s : Text) (prev : Option Char) :
    (Pattern.group (.seq (.some isNameChar)
      (.opt (.all [.many isBlank, .lit ['<'], .many isFieldArgumentChar, .lit ['>']])))).first prev
        (d.token ++ (d.back ++ s)) = some ⟨d.token, d.back ++ s, [d.token]⟩ := by
  have hname := d.type.isDottedName
  have hend : ∀ c ∈ ((d.arguments.map FieldArguments.text).getD [] ++ (d.back ++ s)).head?,
      isNameChar c = false := by
    cases d.arguments with
    | none =>
      rw [FinalField.back, List.append_assoc]
      exact fun c hc => isNameChar_of_isBlank (d.gap.isBlank_of_mem_head? _ c hc)
    | some a =>
      show ∀ c ∈ (a.before.text ++ (['<'] ++ (a.inner ++ ['>'])) ++ (d.back ++ s)).head?,
        isNameChar c = false
      rw [List.append_assoc]
      exact isNameChar_of_mem_head?_blanks a.before (Text.forall_mem_head? (by decide) _)
  have htype : (Pattern.some isNameChar).first prev
      (d.type.text ++ ((d.arguments.map FieldArguments.text).getD [] ++ (d.back ++ s))) =
        some ⟨d.type.text, (d.arguments.map FieldArguments.text).getD [] ++ (d.back ++ s), []⟩ :=
    Pattern.first_some hname.ne_nil hname.chars hend
  have hseq := Pattern.first_seq htype (first_fieldArguments d s _)
  rw [← List.append_assoc] at hseq
  exact Pattern.first_group hseq

theorem first_back (s : Text) (prev : Option Char) :
    (Pattern.all [.some isBlank, .some isWord, .many isBlank, .lit [';']]).first prev
      (d.back ++ s) =
      some ⟨d.back, s, []⟩ := by
  have hsemicolon : ∀ c ∈ ([';'] ++ s).head?, isWord c = false :=
    Text.forall_mem_head? (by decide) s
  rw [FinalField.back]
  simp only [List.append_assoc]
  have hname := isBlank_of_mem_head?_dottedName d.isSegment.isDottedName
    (d.after.text ++ ([';'] ++ s))
  exact Pattern.first_seq (Pattern.first_some d.gap.ne_nil d.gap.blank hname)
    (Pattern.first_seq (Pattern.first_some d.isSegment.ne_nil d.isSegment.chars
      (isWord_of_mem_head?_blanks d.after hsemicolon))
    (Pattern.first_seq (Pattern.first_many d.after.blank (Text.forall_mem_head? (by decide) s))
      (Pattern.first_lit _ _ _)))

theorem isKeyword_private : Pattern.IsKeyword "private".toList :=
  ⟨'p', "rivate".toList, rfl, by decide, by decide⟩

theorem first_finalField (hprev : ∀ c ∈ prev, isWord c = false) (s : Text) :
    finalFieldPattern.first prev (d.text ++ s) = some ⟨d.text, s, [d.token]⟩ := by
  have hfinal : ∀ t, ∀ c ∈ ("final".toList ++ t).head?, isBlank c = false :=
    isBlank_of_mem_head?_dottedName ⟨by decide, by decide⟩
  have htoken : ∀ c ∈ (d.token ++ (d.back ++ s)).head?, isBlank c = false := by
    rw [FinalField.token, List.append_assoc]
    exact isBlank_of_mem_head?_dottedName d.type.isDottedName _
  have hedge := Pattern.atEdge_keyword isKeyword_private hprev
  unfold FinalField.text
  simp only [List.append_assoc]
  exact Pattern.first_seq (Pattern.first_edge (hedge _))
    (Pattern.first_seq (Pattern.first_lit _ _ _)
      (Pattern.first_seq (Pattern.first_some d.privateGap.ne_nil d.privateGap.blank (hfinal _))
        (Pattern.first_seq (Pattern.first_lit _ _ _)
          (Pattern.first_seq (Pattern.first_some d.finalGap.ne_nil d.finalGap.blank htoken)
            (Pattern.first_seq (first_token d s _) (first_back d s _))))))

theorem needs_private : finalFieldPattern.Needs "private".toList := Pattern.needs_edge_lit _ _

/-- Text without the keyword that stands in front of a field does not start a match. -/
theorem misses_before_finalField {front : Text}
    (hfront : ¬ "private".toList <:+: front) (s : Text) :
    finalFieldPattern.Misses prev front (d.text ++ s) := by
  have htext : d.text ++ s = "private".toList ++
      ((d.privateGap.text ++ ("final".toList ++ (d.finalGap.text ++ (d.token ++ d.back)))) ++ s) :=
    List.append_assoc _ _ _
  rw [htext]
  exact needs_private.misses_before isKeyword_private hfront _

/-- What stands behind a field stands behind its semicolon. -/
theorem before_finalField (front : Text) : Pattern.before prev (front ++ d.text) = some ';' := by
  have hend : ∃ start, front ++ d.text = start ++ [';'] := by
    unfold FinalField.text FinalField.back
    simp only [← List.append_assoc]
    exact ⟨_, rfl⟩
  obtain ⟨start, hstart⟩ := hend
  rw [hstart, Pattern.before, List.getLast?_concat, Option.some_or]

end Final

/-- Each field is found, with what stands between them left out. -/
theorem findAll_finalField {fields : List (Text × FinalField)} {back : Text}
    (hfields : ∀ d ∈ fields, ¬ "private".toList <:+: d.1 ∧ ∀ c ∈ d.1.getLast?, isWord c = false)
    (hback : ¬ "private".toList <:+: back) :
    finalFieldPattern.findAll (fields.flatMap (fun d => d.1 ++ d.2.text) ++ back) =
      fields.map fun d => d.2.token := by
  -- No word character stands in front of what is left, at the start of the text or behind a field.
  have hscan : ∀ prev, (∀ c ∈ prev, isWord c = false) → (finalFieldPattern.scanFrom 0 prev
      (fields.flatMap (fun d => d.1 ++ d.2.text) ++ back)).filterMap (fun m => m.groups.head?) =
        fields.map fun d => d.2.token := by
    induction fields with
    | nil =>
      intro prev _
      have hmisses : finalFieldPattern.Misses prev back [] := needs_private.misses_of_notInfix hback
      have hscan := Pattern.scanFrom_of_misses hmisses
      rw [List.append_nil] at hscan
      rw [List.flatMap_nil, List.nil_append, hscan]
      rfl
    | cons d fields ih =>
      intro prev hprev
      obtain ⟨⟨hfront, hlast⟩, hfields⟩ := List.forall_mem_cons.1 hfields
      have hedge : ∀ c ∈ Pattern.before prev d.1, isWord c = false := by
        intro c hc
        rcases Option.or_eq_some_iff.1 hc with hc | ⟨-, hc⟩
        · exact hlast c hc
        · exact hprev c hc
      have hne : d.2.text ≠ [] := List.cons_ne_nil _ _
      rw [List.flatMap_cons, List.append_assoc, List.append_assoc,
        Pattern.scanFrom_found (misses_before_finalField d.2 hfront _)
          (first_finalField d.2 hedge _) hne,
        List.filterMap_cons, before_finalField,
          ih hfields _ (fun c hc => Option.some.inj hc ▸ by decide), List.map_cons]
      rfl
  exact hscan none fun c hc => absurd hc (Option.not_mem_none c)

/-- Of a text in which declarations of fields and other parts take turns, the declared types are
found, in their order and without qualifiers and arguments: those of injected fields, if no other
part has the sign of an annotation or goes on with the type before it, and those of private final
fields in a class whose constructor is generated, if no other part has the keyword or a word that
goes on with it. -/
theorem fields_found :
    (∀ (front : Text) (fields : List (InjectedField × Text)), '@' ∉ front →
      (∀ d ∈ fields, '@' ∉ d.2 ∧ ∀ c ∈ d.2.head?, isNameChar c = false) →
      Rule.injectedField.names (front ++ fields.flatMap fun d => d.1.text ++ d.2) =
        fields.map fun d => d.1.type.name) ∧
    ∀ (fields : List (Text × FinalField)) (back : Text),
      (∀ d ∈ fields, ¬ "private".toList <:+: d.1 ∧ ∀ c ∈ d.1.getLast?, isWord c = false) →
      ¬ "private".toList <:+: back →
      hasCodegenMarker (fields.flatMap (fun d => d.1 ++ d.2.text) ++ back) = true →
      Rule.constructorInjectedField.names (fields.flatMap (fun d => d.1 ++ d.2.text) ++ back) =
        fields.map fun d => d.2.type.name := by
  constructor
  · intro front fields hfront hfields
    rw [Rule.names, findAll_injectedField hfront hfields]
    refine TypeName.ofTokens_eq ?_
    rw [List.forall₂_map_left_iff, List.forall₂_map_right_iff, List.forall₂_same]
    intro d _
    have hname := d.1.type.simpleName_eq {}
    rw [List.append_nil] at hname
    exact ⟨hname, d.1.type.isIdentifier⟩
  · intro fields back hfields hback hmarker
    rw [Rule.names, hmarker, if_pos rfl, findAll_finalField hfields hback]
    refine TypeName.ofTokens_eq ?_
    rw [List.forall₂_map_left_iff, List.forall₂_map_right_iff, List.forall₂_same]
    exact fun d _ => ⟨d.2.simpleName_token, d.2.type.isIdentifier⟩

/-- Annotations with and without arguments, and type arguments in one another right behind another
field. -/
theorem orderFields_found :
    let gap : Space := { text := [' '] }
    let mailer : InjectedField :=
      { annotation := .autowired, arguments := some { inner := "required = false".toList }
        gap := { text := ['\n'] }, visibility := some { word := "private".toList, gap }
        final := some gap
        type := { qualifiers := ["com".toList, "example".toList], name := "Mailer".toList } }
    let clock : InjectedField := { annotation := .inject, gap, type := { name := "Clock".toList } }
    let orders : FinalField :=
      { privateGap := gap, finalGap := gap, type := { name := "Orders".toList }, gap
        name := "orders".toList }
    let parts : FinalField :=
      { privateGap := gap, finalGap := gap, type := { name := "Map".toList }
        arguments := some { inner := "String, List<Part>".toList }, gap, name := "parts".toList
        after := { text := [' '] } }
    let back := "\n\x7d".toList
    Rule.injectedField.names
        ("@Autowired(required = false)\nprivate final com.example.Mailer mailer;\n" ++
          "@Inject Clock clock;").toList =
      [mailer, clock].map (·.type.name) ∧
    ¬ "private".toList <:+: back ∧
    Rule.constructorInjectedField.names
        ("@RequiredArgsConstructor class A \x7b\nprivate final Orders orders;" ++
          "private final Map<String, List<Part>> parts ;\n\x7d").toList =
      [orders, parts].map (·.type.name) := by
  intro gap mailer clock orders parts back
  have hback : ¬ "private".toList <:+: back := by decide
  have hinjected : [] ++ [(mailer, " mailer;\n".toList), (clock, " clock;".toList)].flatMap
      (fun d => d.1.text ++ d.2) =
        ("@Autowired(required = false)\nprivate final com.example.Mailer mailer;\n" ++
          "@Inject Clock clock;").toList := by
    decide +kernel
  have hfinal : [("@RequiredArgsConstructor class A \x7b\n".toList, orders), ([], parts)].flatMap
      (fun d => d.1 ++ d.2.text) ++ back =
        ("@RequiredArgsConstructor class A \x7b\nprivate final Orders orders;" ++
          "private final Map<String, List<Part>> parts ;\n\x7d").toList := by
    decide +kernel
  obtain ⟨hinjectedFound, hfinalFound⟩ := fields_found
  refine ⟨?_, hback, ?_⟩
  · have hfound := hinjectedFound [] [(mailer, " mailer;\n".toList), (clock, " clock;".toList)]
      (by decide) (by decide)
    exact (congrArg Rule.injectedField.names hinjected.symm).trans hfound
  · have hfound := hfinalFound [("@RequiredArgsConstructor class A \x7b\n".toList, orders),
      ([], parts)] back
      (by decide) hback (by decide +kernel)
    exact (congrArg Rule.constructorInjectedField.names hfinal.symm).trans hfound

end Rule

end SourceReach
