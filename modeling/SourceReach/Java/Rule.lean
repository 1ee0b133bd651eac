import SourceReach.Java.TypeName

/-!
# Extraction rules

A rule finds the names of other types in the text of a source file. Rules look at the raw text: what
they do not recognise gives no name, and a comment that looks like a declaration gives one.
-/

namespace SourceReach

/-- The six kinds of declaration that name another type. -/
inductive Rule where
  | imported
  | extended
  | implemented
  | injectedField
  | constructorInjectedField
  | constructorParameter
  deriving DecidableEq, Repr

namespace Rule

def isNameChar (c : Char) : Bool := isWord c || c == '.'

/-- A line that starts with the keyword, a dotted name and a semicolon; the name is reported. -/
def statementPattern (keyword : Text) : Pattern :=
  .all [.lineStart, .many isBlank, .lit keyword, .some isBlank, .group (.some isNameChar),
    .many isBlank, .lit [';']]

/-- An import of a single type. Imports on demand and static imports have other characters in the
name. -/
def importPattern : Pattern := statementPattern "import".toList

/-- The dotted name after `extends`. -/
def extendsPattern : Pattern :=
  .all [.edge, .lit "extends".toList, .some isBlank, .group (.some isNameChar)]

/-- All that stands between `implements` and the next opening brace or semicolon. -/
def implementsPattern : Pattern :=
  .all [.edge, .lit "implements".toList, .some isBlank,
    .group (.some fun c => c ≠ '\x7b' && c ≠ ';')]

/-- Parentheses with anything but a closing parenthesis between them. -/
def parenthesesPattern : Pattern := .all [.lit ['('], .many (· ≠ ')'), .lit [')']]

/-- The dotted name after an injection annotation, an optional visibility and an optional
`final`. -/
def injectedFieldPattern : Pattern :=
  .all [.lit ['@'], .alt (.lit "Autowired".toList) (.lit "Inject".toList), .edge,
    .opt (.seq (.many isBlank) parenthesesPattern), .some isBlank,
    .opt (.seq
      (.alt (.lit "public".toList) (.alt (.lit "protected".toList) (.lit "private".toList)))
        (.some isBlank)),
    .opt (.seq (.lit "final".toList) (.some isBlank)), .group (.some isNameChar)]

/-- A character that may stand between the brackets of a field's type arguments. -/
def isFieldArgumentChar (c : Char) : Bool := !([';', '=', '(', ')', '\x7b', '\x7d'].contains c)

/-- The type, with its type arguments, of a private final field without initial value. -/
def finalFieldPattern : Pattern :=
  .all [.edge, .lit "private".toList, .some isBlank, .lit "final".toList, .some isBlank,
    .group (.seq (.some isNameChar)
      (.opt (.all [.many isBlank, .lit ['<'], .many isFieldArgumentChar, .lit ['>']]))),
    .some isBlank, .some isWord, .many isBlank, .lit [';']]

/-- A public constructor or method without a return type: its name, then its parameters. -/
def constructorPattern : Pattern :=
  .all [.edge, .lit "public".toList, .some isBlank, .group (.some isWord), .many isBlank,
    .lit ['('], .group (.many (· ≠ ')')), .lit [')']]

/-- The annotations that have a constructor generated from the final fields. -/
def codegenMarkers : List Text :=
  ["@RequiredArgsConstructor".toList, "@AllArgsConstructor".toList]

/-- Whether the source has an annotation that generates a constructor. -/
def hasCodegenMarker (source : Text) : Bool := codegenMarkers.any (Text.isPartOf · source)

def implementedTypes (source : Text) : List Text :=
  (implementsPattern.findAll source).flatMap fun clause =>
    TypeName.ofTokens ((TypeName.stripGenerics clause).pieces ',')

/-- The words of a parameter without annotations and `final`. -/
def parameterWords (parameter : Text) : List Text :=
  (Text.words parameter).filter fun w => !(w.head? == some '@') && !(w == "final".toList)

/-- The name of a parameter's type, unless it is a basic type. -/
def parameterType (parameter : Text) : List Text :=
  (TypeName.ofTokens ((parameterWords parameter).take 1)).filter fun n =>
    !(TypeName.basicTypes.contains n)

/-- The types of the parameters of each constructor. -/
def parameterTypes (source : Text) : List Text :=
  (constructorPattern.scan source).flatMap fun m =>
    ((TypeName.stripGenerics (m.groups.getLast?.getD [])).pieces ',').flatMap parameterType

/-- The names that a rule finds in a source, in their order. -/
def names : Rule → Text → List Text
  | imported, source => importPattern.findAll source
  | extended, source => TypeName.ofTokens (extendsPattern.findAll source)
  | implemented, source => implementedTypes source
  | injectedField, source => TypeName.ofTokens (injectedFieldPattern.findAll source)
  | constructorInjectedField, source =>
    if hasCodegenMarker source then TypeName.ofTokens (finalFieldPattern.findAll source) else []
  | constructorParameter, source => parameterTypes source

/-- The rules in the order in which they are applied. -/
def all : List Rule :=
  [imported, extended, implemented, injectedField, constructorInjectedField, constructorParameter]

/-- The name a rule is reported by. -/
def label : Rule → Text
  | imported => "import".toList
  | extended => "extends".toList
  | implemented => "implements".toList
  | injectedField => "injected-field".toList
  | constructorInjectedField => "constructor-injected-field".toList
  | constructorParameter => "constructor-parameter".toList

/-- Whether a rule finds qualified names; the others find simple names. -/
def isQualified (r : Rule) : Bool := r = imported

end Rule

end SourceReach
