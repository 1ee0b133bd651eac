import SourceReach.Text.Pattern

/-!
# Type names

The tokens that stand for types in declarations, and the simple name of the type that a token means:
without type arguments, without array and varargs suffixes, and without the package.
-/

namespace SourceReach.TypeName

/-- An innermost list of type arguments. -/
def argumentsPattern : Pattern :=
  .all [.lit ['<'], .many fun c => c ≠ '<' && c ≠ '>', .lit ['>']]

/-- The text without its innermost lists of type arguments. -/
def stripInnermost (t : Text) : Text := argumentsPattern.erase t

/-- Repeats a step until it changes nothing, at most `n` times. -/
def settle (step : Text → Text) : Nat → Text → Text
  | 0, t => t
  | n + 1, t => if step t = t then t else settle step n (step t)

/-- The text without type arguments, innermost lists first. A step that changes the text shortens
it, so there are no more steps than characters. -/
def stripGenerics (t : Text) : Text := settle stripInnermost t.length t

def lastSegment (t : Text) : Text := (t.pieces '.').getLast?.getD []

/-- The name a token means: no type arguments, no suffixes, no qualifier. -/
def simpleName (token : Text) : Text :=
  let bare := (Text.trim (stripGenerics token))
  let unsuffixed := (Pattern.lit ['[', ']']).erase ((Pattern.lit ['.', '.', '.']).erase bare)
  Text.trim (lastSegment unsuffixed)

def isIdentifierStart (c : Char) : Bool := c.isAlpha || c == '_' || c == '$'

def isIdentifierPart (c : Char) : Bool := isWord c || c == '$'

/-- A start character and any number of part characters. -/
def isIdentifier : Text → Bool
  | [] => false
  | c :: s => isIdentifierStart c && s.all isIdentifierPart

/-- The simple names of the tokens, those left out that are no identifiers. -/
def ofTokens (tokens : List Text) : List Text := (tokens.map simpleName).filter isIdentifier

/-- The names of the types that no source file of a project declares. -/
def basicTypes : List Text :=
  ["byte", "short", "int", "long", "float", "double", "boolean", "char", "void", "String",
    "Integer", "Long", "Short", "Byte", "Double", "Float", "Boolean", "Character",
      "Object"].map String.toList

end SourceReach.TypeName
