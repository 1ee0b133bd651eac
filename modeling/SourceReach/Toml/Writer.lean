import SourceReach.Toml.Scalar

/-!
# Writing settings

A table is written with its plain pairs first. Each table in it follows under a header of its own,
level by level, and arrays of tables follow the pairs they stand among.
-/

namespace SourceReach.Toml.Writer

/-- One backslash for every two. -/
def halveBackslashes (t : Text) : Text := Text.joined ['\\'] (Scalar.pairPieces '\\' '\\' t)

/-- Whether the letter x goes between two parts of a text that were cut at a backslash and an x. It
does when an even number of backslashes is left over at the end of the first part. -/
def keepsLetter (t : Text) : Bool :=
  let n := (t.reverse.takeWhile (· = '\\')).length
  if n = 0 then true else if n = t.length then (n - 1) % 2 = 1 else n % 2 = 1

/-- Puts two parts together that were cut at a backslash and an x. -/
def glue (a b : Text) : Text :=
  let a := halveBackslashes a
  a ++ (if keepsLetter a then ['x'] else "u00".toList) ++ b

/-- Puts the parts of a text together that were cut at a backslash and an x. The first part may be
empty, and is then dropped. -/
def glueAll (a : Text) : List Text → Except Fault Text
  | [] => .ok a
  | b :: bs =>
    match a, bs with
    | _ :: _, bs => glueAll (glue a b) bs
    | [], c :: bs => if b = [] then .error .missingPart else glueAll (glue b c) bs
    | [], [] => .error .missingPart

/-- The text between quotes, given as data: double quotes are escaped, and single ones are not. -/
def escaped (q : Text) : Text :=
  if q.head? = some '\'' then
    (Text.joined ['\''] (Scalar.pairPieces '\\' '\'' (Scalar.inner q))).flatMap fun c =>
      if c = '"' then ['\\', '"'] else [c]
  else Scalar.inner q

/-- A text in double quotes, given as data. -/
def requoted (q : Text) : Except Fault Text := do
  match Scalar.pairPieces '\\' 'x' (escaped q) with
  | [] => return ['"', '"']
  | p :: ps => return ['"'] ++ (← glueAll p ps) ++ ['"']

def quoted (t : Text) : Except Fault Text := requoted (Text.quoted t)

/-- Whether a text is made of seven-bit letters and digits, underscores and hyphens. -/
def isPlainName (t : Text) : Bool := !t.isEmpty && t.all fun c => c.isAlphanum || c = '_' || c = '-'

/-- Whether a key is written without quotes. One line feed at its end makes no difference. -/
def isBareKey (t : Text) : Bool := isPlainName (if t.getLast? = some '\n' then t.dropLast else t)

def key (t : Text) : Except Fault Text := if isBareKey t then .ok t else quoted t

/-- A number with an exponent of one digit has no zero before it. -/
def shortExponent : Text → Text
  | 'e' :: s :: '0' :: t =>
    if s = '+' ∨ s = '-' then 'e' :: s :: t else 'e' :: shortExponent (s :: '0' :: t)
  | c :: t => c :: shortExponent t
  | [] => []

def moment : Moment → Text
  | .both d c (some 0) => Moment.toText 'T' (.both d c none) ++ ['Z']
  | m => m.toText 'T'

def written (hasText : Bool) (t : Text) : Except Fault Text :=
  if hasText then .ok t else .error .unwritable

/-- A value in a line. A table among the values of an array is written as the array of its keys. -/
def value : Value → Except Fault Text
  | .text t => quoted t
  | .unpaired ps => requoted (Text.quotedPoints ps)
  | .null => quoted "None".toList
  | .int n => written (Numeral.hasText n) (Text.ofInt n)
  | .float x => .ok (shortExponent x.toText)
  | .bool b => .ok (if b then "true".toList else "false".toList)
  | .moment m => written m.hasText (moment m)
  | .array vs => do return ['['] ++ (← values vs) ++ [']']
  | .table entries => do
    let keys ← entries.mapM fun e => quoted e.1
    return ['['] ++ keys.flatMap (fun k => ' ' :: k ++ [',']) ++ [']']
where
  /-- The values of an array, each with a comma. -/
  values : List Value → Except Fault Text
    | [] => .ok []
    | v :: vs => do return ' ' :: (← value v) ++ ',' :: (← values vs)

/-- What a table is written as: its pairs, and the tables in it by the names of their headers. -/
structure Section where
  pairs : Text := []
  arrays : Text := []
  tables : List (Text × Table) := []

/-- Whether an array is written as an array of tables. -/
def hasTable (vs : List Value) : Bool := vs.any fun v => match v with
  | .table _ => true
  | _ => false

/-- A value of an array of tables as a table. What is empty counts as an empty table. -/
def asTable : Value → Except Fault Table
  | .table t => .ok t
  | .text [] | .array [] => .ok []
  | _ => .error .wrongType

def dotted (above name : Text) : Text := if above = [] then name else above ++ '.' :: name

/-- The tables in a table of an array, level by level, each under its header unless it has no
pairs. -/
def nested (write : Text → Table → Except Fault Section) (above : Text) :
    Nat → List (Text × Table) → Except Fault Text
  | 0, _ => .ok []
  | _, [] => .ok []
  | n + 1, tables => do
    let sections ← tables.mapM fun (name, t) => do return (name, ← write (dotted above name) t)
    let text := sections.flatMap fun (name, s) =>
      let body := s.pairs ++ s.arrays
      if body = [] then [] else ['['] ++ dotted above name ++ [']', '\n'] ++ body
    let deeper := sections.flatMap fun (name, s) => s.tables.map fun (n, t) => (dotted name n, t)
    return text ++ (← nested write above n deeper)

def tableArray (write : Text → Table → Except Fault Section) (depth : Nat) (name : Text) :
    List Value → Except Fault Text
  | [] => .ok []
  | v :: vs => do
    let s ← write name (← asTable v)
    let body := s.pairs ++ s.arrays
    let inFront := if body.head? = some '[' then [] else body
    let behind := if body.head? = some '[' then body else []
    return "[[".toList ++ name ++ "]]\n".toList ++ inFront ++ ['\n'] ++ behind ++
      (← nested write name depth s.tables) ++ (← tableArray write depth name vs)

/-- Adds a pair to what a table is written as, unless it has no value. -/
def addPair (write : Text → Table → Except Fault Section) (depth : Nat) (above : Text) (s : Section)
    (entry : Text × Value) : Except Fault Section := do
  let name ← key entry.1
  match entry.2 with
  | .null => return s
  | .table t => return { s with tables := s.tables ++ [(name, t)] }
  | .array vs =>
    if hasTable vs then
      return { s with arrays := s.arrays ++ (← tableArray write depth (dotted above name) vs) }
    else return { s with pairs := s.pairs ++ name ++ " = ".toList ++ (← value entry.2) ++ ['\n'] }
  | v => return { s with pairs := s.pairs ++ name ++ " = ".toList ++ (← value v) ++ ['\n'] }

/-- What a table is written as, when its parts are nested at most `n` deep. -/
def sectionWithin : Nat → Text → Table → Except Fault Section
  | 0, _, _ => .error .wrongType
  | n + 1, above, t => t.foldlM (addPair (sectionWithin n) n above) {}

def depth : Value → Nat
  | .array vs => 1 + depths vs
  | .table entries => 1 + entryDepths entries
  | _ => 0
where
  /-- The greatest depth of some values. -/
  depths : List Value → Nat
    | [] => 0
    | v :: vs => max (depth v) (depths vs)
  /-- The greatest depth of the values of some entries. -/
  entryDepths : List (Text × Value) → Nat
    | [] => 0
    | (_, v) :: es => max (depth v) (entryDepths es)

/-- Adds a table with its header to the text of a file. A blank line comes before it, unless it is
the first or there is one. A table that has nothing but tables gets no header. -/
def addSection (t : Text) (name : Text) (s : Section) : Text :=
  let body := s.pairs ++ s.arrays
  if body = [] && !s.tables.isEmpty then t
  else
    let gap := if t = [] || (t.reverse.take 2) == ['\n', '\n'] then [] else ['\n']
    t ++ gap ++ ['['] ++ name ++ [']', '\n'] ++ body

/-- Adds tables to the text of a file, level by level. -/
def addLevels (write : Text → Table → Except Fault Section) : Nat → Text → List (Text × Table) →
    Except Fault Text
  | 0, t, _ => .ok t
  | _, t, [] => .ok t
  | n + 1, t, tables => do
    let sections ← tables.mapM fun (name, table) => do return (name, ← write name table)
    let t := sections.foldl (fun t (name, s) => addSection t name s) t
    let deeper := sections.flatMap fun (name, s) => s.tables.map fun (m, table) =>
      (dotted name m, table)
    addLevels write n t deeper

def file (t : Table) : Except Fault Text := do
  let n := depth (.table t) + 1
  let s ← sectionWithin n [] t
  addLevels (sectionWithin n) n (s.pairs ++ s.arrays) s.tables

end SourceReach.Toml.Writer
