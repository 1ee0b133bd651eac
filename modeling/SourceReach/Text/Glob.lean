import SourceReach.Text.Basic

/-!
# Wildcards in names

A glob is a text in which a star stands for any characters, a question mark for one character, and
brackets for one character of a set. Brackets that are never closed stand for themselves.
-/

namespace SourceReach

/-- A part of a glob. -/
inductive GlobPart where
  | star
  | one
  | exactly (c : Char)
  /-- A character in one of the closed ranges, or in none of them. -/
  | set (negated : Bool) (ranges : List (Char × Char))
  deriving DecidableEq, Repr

namespace Glob

/-- The closed ranges that the characters between brackets describe; a hyphen between two characters
makes a range of them. -/
def ranges : Text → List (Char × Char)
  | a :: '-' :: b :: s => (a, b) :: ranges s
  | c :: s => (c, c) :: ranges s
  | [] => []

/-- The characters up to the bracket that closes a set, and the rest; a bracket that comes first is
a member. -/
def bracketed : Text → Option (Text × Text)
  | [] => none
  | c :: s =>
    match s.span (· ≠ ']') with
    | (members, ']' :: rest) => some (c :: members, rest)
    | _ => none

/-- The set after an opening bracket and the rest, if the bracket is closed. -/
def set? : Text → Option (GlobPart × Text)
  | '!' :: s => (bracketed s).map fun r => (.set true (ranges r.1), r.2)
  | s => (bracketed s).map fun r => (.set false (ranges r.1), r.2)

/-- The parts of a glob, read with at most `n` steps. -/
def readParts : Nat → Text → List GlobPart
  | 0, _ => []
  | _, [] => []
  | n + 1, '*' :: s => .star :: readParts n s
  | n + 1, '?' :: s => .one :: readParts n s
  | n + 1, '[' :: s =>
    match set? s with
    | some (part, rest) => part :: readParts n rest
    | none => .exactly '[' :: readParts n s
  | n + 1, c :: s => .exactly c :: readParts n s

/-- The parts of a glob; each takes at least one character. -/
def parts (t : Text) : List GlobPart := readParts t.length t

def fits (c : Char) : GlobPart → Bool
  | .star => false
  | .one => true
  | .exactly d => c == d
  | .set negated rs => rs.any (fun r => r.1 ≤ c && c ≤ r.2) != negated

/-- Whether `rest` fits what is left of the text after some number of characters. -/
def anywhere (rest : Text → Bool) : Text → Bool
  | [] => rest []
  | c :: s => rest (c :: s) || anywhere rest s

/-- Whether the parts stand for the whole text. -/
def matchesParts : List GlobPart → Text → Bool
  | [], s => s.isEmpty
  | .star :: ps, s => anywhere (matchesParts ps) s
  | _ :: _, [] => false
  | p :: ps, c :: s => fits c p && matchesParts ps s

/-- Whether the glob stands for the whole text. -/
def isMatch (glob t : Text) : Bool := matchesParts (parts glob) t

example : isMatch "*.jav[a-c]".toList "A.java".toList = true := by decide
example : isMatch "*[".toList "x[".toList = true := by decide

end Glob

end SourceReach
