import SourceReach.Text.CodePoint

/-!
# Words of a command line

A command line is cut into words at blanks outside quotation. Single quotes keep all characters,
double quotes all but the backslash before a double quote or a backslash, and outside quotes a
backslash keeps the next character. `Shell.quote` writes a word such that it is cut out as one word
again.
-/

namespace SourceReach.Shell

/-- How a place of a command line is quoted. -/
inductive Quotation where
  /-- Between two words. -/
  | between
  /-- Inside a word, outside quotes. -/
  | bare
  | single
  | double
  /-- After a backslash outside quotes. -/
  | escaped
  /-- After a backslash in double quotes. -/
  | escapedInDouble
  deriving DecidableEq, Repr

/-- The blanks that separate words. -/
def isSeparator (c : Char) : Bool := c = ' ' || c = '\t' || c = '\r' || c = '\n'

section Words

variable {α : Type} (char? : α → Option Char)

/-- The words from a place on, in a line of code points some of which may be no characters and mean
nothing then. Inside a word, the first of the words is the rest of that word. -/
def wordsFrom : Quotation → List α → Option (List (List α))
  | .between, [] => some []
  | .bare, [] => some [[]]
  | .single, [] | .double, [] | .escaped, [] | .escapedInDouble, [] => none
  | .single, a :: s =>
    if char? a = some '\'' then wordsFrom .bare s
    else (wordsFrom .single s).map (Text.consFirst a)
  | .double, a :: s =>
    if char? a = some '"' then wordsFrom .bare s
    else if char? a = some '\\' then
      if s.head?.any fun b => char? b = some '"' ∨ char? b = some '\\' then
        wordsFrom .escapedInDouble s
      else (wordsFrom .escapedInDouble s).map (Text.consFirst a)
    else (wordsFrom .double s).map (Text.consFirst a)
  | .escaped, a :: s => (wordsFrom .bare s).map (Text.consFirst a)
  | .escapedInDouble, a :: s => (wordsFrom .double s).map (Text.consFirst a)
  | .between, a :: s =>
    if (char? a).any isSeparator then wordsFrom .between s
    else if char? a = some '\\' then wordsFrom .escaped s
    else if char? a = some '\'' then wordsFrom .single s
    else if char? a = some '"' then wordsFrom .double s
    else (wordsFrom .bare s).map (Text.consFirst a)
  | .bare, a :: s =>
    if (char? a).any isSeparator then (wordsFrom .between s).map ([] :: ·)
    else if char? a = some '\\' then wordsFrom .escaped s
    else if char? a = some '\'' then wordsFrom .single s
    else if char? a = some '"' then wordsFrom .double s
    else (wordsFrom .bare s).map (Text.consFirst a)

end Words

/-- The words of a command line, if its quotes are closed and no backslash is at its end. -/
def split? (t : Text) : Option (List Text) := wordsFrom some .between t

/-- The words of a command line with halves of pairs in it. -/
def splitPoints? (ps : List CodePoint) : Option (List (List CodePoint)) :=
  wordsFrom CodePoint.char? .between ps

/-- The characters that mean nothing to a shell. -/
def isSafe (c : Char) : Bool := c.isAlphanum || "_@%+=:,./-".toList.contains c

/-- A character in single quotes; a single quote itself goes in double quotes. -/
def quotedChar (c : Char) : Text := if c = '\'' then "'\"'\"'".toList else [c]

/-- A word for a command line: as it is when all its characters are safe, or else in single
quotes. -/
def quote (t : Text) : Text :=
  if t = [] then ['\'', '\'']
  else if t.all isSafe then t
  else ['\''] ++ t.flatMap quotedChar ++ ['\'']

example : split? "git 'x y' \"a\\\"b\" c\\ d".toList =
    some ["git".toList, "x y".toList, "a\"b".toList, "c d".toList] := by decide

example : splitPoints? [.half 0xD800, .char ' ', .char '\\', .half 0xDC00] = some
    [[.half 0xD800], [.half 0xDC00]] := by
  decide

end SourceReach.Shell
