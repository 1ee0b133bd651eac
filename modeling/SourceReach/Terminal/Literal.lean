import SourceReach.Number.Numeral

/-!
# Literals

The parameters of an action in a style tag are written as literals: numbers, texts, bytes,
constants, tuples, sets and tables. Only what kind of literal a text is matters, and whether it is
one at all.
-/

namespace SourceReach.Literal

/-- What a literal is. -/
inductive Kind where
  | real
  | imaginary
  | text
  | bytes
  | constant
  /-- A tuple that can be an element of a set. -/
  | tuple
  /-- What cannot be an element of a set. -/
  | mutable
  deriving DecidableEq, Repr

def isDigitIn (base : Nat) (c : Char) : Bool := c.toNat < 128 && (Numeral.digitIn? base c).isSome

def isNameChar (c : Char) : Bool := isWord c

/-- The text without the comment, the blanks and, where they do not count, the line ends at its
front. -/
def skip (endsCount : Bool) : Nat → Text → Text
  | 0, t => t
  | n + 1, '#' :: s => skip endsCount n (s.dropWhile (· ≠ '\n'))
  | n + 1, '\\' :: '\n' :: s => skip endsCount n s
  | n + 1, c :: s =>
    if c = ' ' || c = '\t' || c = '\x0c' || (c = '\n' && !endsCount) then
      skip endsCount n s else c :: s
  | _, [] => []

/-- The text from its first character on that counts. Line ends count outside brackets. -/
def next (endsCount : Bool) (t : Text) : Text := skip endsCount t.length t

/-- Digits with single underscores between them at the front of a text, and what follows. -/
def digitRun (base : Nat) : Text → Text × Text
  | c :: '_' :: d :: s =>
    if isDigitIn base c && isDigitIn base d then let r := digitRun base (d :: s); (c :: r.1, r.2)
    else if isDigitIn base c then ([c], '_' :: d :: s) else ([], c :: '_' :: d :: s)
  | c :: s => if isDigitIn base c then let r := digitRun base s; (c :: r.1, r.2) else ([], c :: s)
  | [] => ([], [])

def exponent : Text → Text × Bool
  | c :: s =>
    if c = 'e' || c = 'E' then
      let r := digitRun 10 (Numeral.signed s).2
      if r.1 = [] then (c :: s, false) else (r.2, true)
    else (c :: s, false)
  | [] => ([], false)

/-- Whether digits make a whole number in base ten: it has no zero in front unless it is zero, and
not too many digits otherwise. -/
def isWhole (ds : Text) : Bool :=
  if ds.head? = some '0' then ds.all (· = '0') else ds.length ≤ Numeral.digitLimit

def decimal (t : Text) : Option (Kind × Text) :=
  let (whole, rest) := digitRun 10 t
  let (fraction, rest, pointed) := match rest with
    | '.' :: s => let r := digitRun 10 s; (r.1, r.2, true)
    | _ => ([], rest, false)
  if whole ++ fraction = [] then none
  else
    let (rest, scaled) := exponent rest
    if rest.head? = some 'j' || rest.head? = some 'J' then some (.imaginary, rest.drop 1)
    else if pointed || scaled || isWhole whole then some (.real, rest)
    else none

def announced (base : Nat) (t : Text) : Option (Kind × Text) :=
  let r := digitRun base (if t.head? = some '_' then t.drop 1 else t)
  if r.1 = [] then none else some (.real, r.2)

/-- A number at the front of a text, and what follows. No name follows it directly. -/
def number (t : Text) : Option (Kind × Text) := do
  let r ← match t with
    | '0' :: c :: s =>
      match Numeral.announcedBase? c with
      | some base => announced base s
      | none => decimal t
    | _ => decimal t
  if r.2.head?.any isNameChar then none else some r

/-- The number of hexadecimal digits after the letter of an escape sequence. -/
def escapeWidth : Char → Option Nat
  | 'x' => some 2
  | 'u' => some 4
  | 'U' => some 8
  | _ => none

/-- What follows the escape sequence of a character, if it is in order. -/
def escape (bytes : Bool) (c : Char) (s : Text) : Option Text :=
  if c = 'N' && !bytes then none
  else if bytes && c ≠ 'x' then some s
  else match escapeWidth c with
    | none => some s
    | some n =>
      let ds := s.take n
      if ds.length = n && ds.all (isDigitIn 16) &&
          Numeral.value 16 (ds.filterMap (Numeral.digitIn? 16)) < 0x110000 then some (s.drop n)
      else none

/-- What follows the end of quoted text. -/
def quoted (quote : Char) (triple raw bytes : Bool) : Nat → Text → Option Text
  | 0, _ => none
  | _, [] => none
  | n + 1, c :: s =>
    if c = '\x00' || (bytes && 128 ≤ c.toNat) then none
    else if c = '\\' then
      match s with
      | [] => none
      | d :: s =>
        if raw then quoted quote triple raw bytes n s
        else (escape bytes d s).bind (quoted quote triple raw bytes n)
    else if c = quote then
      if !triple then some s
      else if [quote, quote].isPrefixOf s then some (s.drop 2)
      else quoted quote triple raw bytes n s
    else if c = '\n' && !triple then none
    else quoted quote triple raw bytes n s

/-- The prefixes of texts: whether they are raw, and whether they are bytes. -/
def marks : List (Text × Bool × Bool) :=
  [([], false, false), (['u'], false, false), (['r'], true, false), (['b'], false, true),
    (['b', 'r'], true, true), (['r', 'b'], true, true)]

/-- A text or bytes in quotes at the front of a text, and what follows. -/
def string (t : Text) : Option (Kind × Text) :=
  let mark := t.takeWhile Char.isAlpha
  match marks.lookup (mark.map Char.toLower), t.drop mark.length with
  | some (raw, bytes), q :: s =>
    if q ≠ '"' && q ≠ '\'' then none
    else
      let triple := [q, q].isPrefixOf s
      (quoted q triple raw bytes s.length (if triple then s.drop 2 else s)).map fun rest =>
        (if bytes then .bytes else .text, rest)
  | _, _ => none

def strings (endsCount : Bool) : Nat → Kind → Text → Option (Kind × Text)
  | 0, k, t => some (k, t)
  | n + 1, k, t =>
    match string (next endsCount t) with
    | none => some (k, t)
    | some (l, rest) => if l = k then strings endsCount n k rest else none

def constant (t : Text) : Option (Kind × Text) :=
  let name := t.takeWhile isNameChar
  if ["True".toList, "False".toList, "None".toList].contains name then
    some (.constant, t.drop name.length)
  else if ['.', '.', '.'].isPrefixOf t then some (.constant, t.drop 3)
  else none

def emptySet (endsCount : Bool) (t : Text) : Option Text := do
  if t.takeWhile isNameChar ≠ "set".toList then none
  match next endsCount (t.drop 3) with
  | '(' :: s =>
    match next false s with
    | ')' :: s => return s
    | _ => none
  | _ => none

def areFixed (ks : List Kind) : Bool := ks.all (· ≠ .mutable)

/-- A part of a sequence: a literal, or a key with its value. -/
inductive Part where
  | single (k : Kind)
  | pair (key value : Kind)

/-- Parts with commas between them up to a closing bracket, whether a comma ends them, and what
follows. -/
def parts (literal : Text → Option (Kind × Text)) (endsCount : Bool) (closing : Char) :
    Nat → Bool → Text → Option (List Part × Bool × Text)
  | 0, _, _ => none
  | n + 1, comma, t =>
    match next endsCount t with
    | [] => none
    | c :: s =>
      if c = closing then some ([], comma, s)
      else do
        let (k, rest) ← literal (c :: s)
        let (p, rest) ← match next endsCount rest with
          | ':' :: rest => (literal (next endsCount rest)).map fun r => (Part.pair k r.1, r.2)
          | _ => some (.single k, rest)
        match next endsCount rest with
        | ',' :: rest => (parts literal endsCount closing n true rest).map fun r => (p :: r.1, r.2)
        | d :: rest => if d = closing then some ([p], false, rest) else none
        | [] => none

/-- The kinds of parts that are no pairs. -/
def singles? (ps : List Part) : Option (List Kind) :=
  ps.mapM fun p => match p with
    | .single k => some k
    | .pair .. => none

/-- The kinds of the keys of parts that are pairs. -/
def keys? (ps : List Part) : Option (List Kind) :=
  ps.mapM fun p => match p with
    | .single _ => none
    | .pair k _ => some k

/-- What stands in parentheses: a tuple, unless it is one part without a comma. -/
def parenthesized (ps : List Part) (comma : Bool) : Option Kind := do
  let ks ← singles? ps
  match ks, comma with
  | [k], false => return k
  | [], true => none
  | ks, _ => return if areFixed ks then .tuple else .mutable

/-- What stands in braces: a set or a table. -/
def braced (ps : List Part) (comma : Bool) : Option Kind :=
  if ps.isEmpty then if comma then none else some .mutable
  else ((singles? ps).or (keys? ps)).bind fun ks => if areFixed ks then some .mutable else none

/-- A literal without sign at the front of a text, and what follows. Literals in brackets are read
by `inner`, if there may be brackets. -/
def atom (inner : Option (Text → Option (Kind × Text))) (endsCount : Bool) :
    Text → Option (Kind × Text)
  | '(' :: s => do
    let (ps, comma, rest) ← parts (← inner) false ')' s.length false s
    return (← parenthesized ps comma, rest)
  | '\x7b' :: s => do
    let (ps, comma, rest) ← parts (← inner) false '\x7d' s.length false s
    return (← braced ps comma, rest)
  | t =>
    match string t with
    | some (k, rest) => strings endsCount rest.length k rest
    | none =>
      let set := if inner.isSome then emptySet endsCount t else none
      (set.map (Kind.mutable, ·)).or ((constant t).or (number t))

/-- A literal at the front of a text, perhaps with a sign, and what follows. A sum has a real and an
imaginary part. -/
def sum (inner : Option (Text → Option (Kind × Text))) (endsCount : Bool) (t : Text) :
    Option (Kind × Text) :=
  let sign := t.head? = some '-' || t.head? = some '+'
  match atom inner endsCount (if sign then next endsCount (t.drop 1) else t) with
  | none => none
  | some (k, rest) =>
    if sign && k ≠ .real && k ≠ .imaginary then none
    else match next endsCount rest with
      | c :: s =>
        if c = '+' || c = '-' then
          match atom inner endsCount (next endsCount s) with
          | some (.imaginary, rest) => if k = .real then some (.imaginary, rest) else none
          | _ => none
        else some (k, rest)
      | [] => some (k, rest)

/-- A literal with brackets nested at most `n` deep at the front of a text, and what follows. -/
def literal : Nat → Bool → Text → Option (Kind × Text)
  | 0 => sum none
  | n + 1 => sum (some (literal n false))

/-- How deep brackets may be nested. -/
def nestingLimit : Nat := 200

/-- Whether a text is a literal; a tuple needs no parentheses. Only comments may stand in lines
around it. -/
def isLiteral (t : Text) : Bool :=
  let line := next false (Text.unixLines t) ++ ['\n']
  !t.contains '\x00' &&
    match parts (literal nestingLimit true) true '\n' line.length false line with
  | some (ps, _, rest) => next false rest = [] && !ps.isEmpty && (singles? ps).isSome
  | none => false

end SourceReach.Literal
