import SourceReach.Terminal.Width

/-!
# Wrapped lines

A text is broken into lines of a width between its words. Where a word is wider than a line, it is
broken as well or left to be shortened.
-/

namespace SourceReach.Text

/-! ## Tabs -/

def tabStop : Nat := 8

/-- A line with blanks in the place of tabs, from a column on. -/
def expandFrom (column : Nat) : Text → Text
  | [] => []
  | '\t' :: s =>
    let n := tabStop - column % tabStop
    List.replicate n ' ' ++ expandFrom (column + n) s
  | c :: s => c :: expandFrom (column + columns c) s

/-! ## Words -/

/-- A word with the blanks after it, and what follows. -/
def spacedWord (t : Text) : Text × Text :=
  let word := t.takeWhile fun c => !isBlank c
  let rest := t.drop word.length
  let blanks := rest.takeWhile isBlank
  (word ++ blanks, rest.drop blanks.length)

/-- The words with the blanks after them; the first has the blanks before it too. -/
def spacedWords (t : Text) : List Text :=
  let blanks := t.takeWhile isBlank
  match go (t.length + 1) (t.drop blanks.length) with
  | [] => if blanks = [] then [] else [blanks]
  | w :: ws => (blanks ++ w) :: ws
where
  /-- The words of a text that starts with none of the blanks. -/
  go : Nat → Text → List Text
    | 0, _ | _, [] => []
    | fuel + 1, t =>
      let (w, rest) := spacedWord t
      w :: go fuel rest

/-! ## Lines -/

/-- What happens to a word that is wider than a line. -/
inductive Overflow where
  /-- It is broken. -/
  | fold
  /-- It stands on a line of its own, which is cut off and ends in an ellipsis. -/
  | ellipsis
  deriving DecidableEq, Repr

/-- The pieces of a word that are as long as fit in a width. -/
def chopped (limit : Nat) : Nat → Text → Text → List Text
  | _, current, [] => [current]
  | used, current, c :: s =>
    if limit < used + columns c then current :: chopped limit (columns c) [c] s
    else chopped limit (used + columns c) (current ++ [c]) s

/-- The lines that words are put on; `current` is the line being filled. -/
def filled (overflow : Overflow) (limit : Nat) (current : Text) : List Text → List Text
  | [] => [current]
  | w :: ws =>
    let needed := width (dropEnd isBlank w)
    if needed + width current ≤ limit then filled overflow limit (current ++ w) ws
    else if limit < needed && overflow = .fold then
      let pieces := chopped limit 0 [] w
      (if current = [] then [] else [current]) ++ pieces.dropLast ++
        filled overflow limit (pieces.getLast?.getD []) ws
    else if current = [] then filled overflow limit w ws
    else current :: filled overflow limit w ws

/-- The line without blanks at its end, as far as it has more characters than there are columns. -/
def dropExcess (limit : Nat) (line : Text) : Text :=
  shorten (min (line.reverse.takeWhile isBlank).length (line.length - limit)) line

def fitting (limit : Nat) : Text → Text
  | [] => []
  | c :: s => if columns c ≤ limit then c :: fitting (limit - columns c) s else []

/-- The line cut off at a width, and filled up with a blank where a wide character does not fit. -/
def cropped (limit : Nat) (line : Text) : Text :=
  let front := fitting limit line
  front ++ List.replicate (limit - width front) ' '

def shortened (overflow : Overflow) (limit : Nat) (line : Text) : Text :=
  if width line ≤ limit then line
  else match overflow with
    | .fold => cropped limit line
    | .ellipsis => cropped (limit - 1) line ++ ['…']

/-- The lines of a text in a width. -/
def wrapped (overflow : Overflow) (limit : Nat) (t : Text) : List Text :=
  (pieces '\n' t).flatMap fun line =>
    (filled overflow limit [] (spacedWords (expandFrom 0 line))).map (dropExcess limit)

def padded (limit : Nat) (line : Text) : Text := line ++ List.replicate (limit - width line) ' '

/-- A line in the middle of a width; the odd blank is to its right. -/
def centred (limit : Nat) (line : Text) : Text :=
  padded limit (List.replicate ((limit - width line) / 2) ' ' ++ line)

end SourceReach.Text
