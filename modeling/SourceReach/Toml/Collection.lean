import SourceReach.Toml.Scalar

/-!
# Arrays, tables and pairs of settings

How an array or a table inside a line is cut into parts, and how a line with a key and a value is
read into a table. The parts are read by a reader of values that is passed in, so that the reader of
all values can be made from it in `Toml.Reader`.
-/

namespace SourceReach.Toml

/-- A key whose text in triple quotes goes on in the next lines. -/
structure Pending where
  key : Text
  /-- The text so far, from its quotes on. -/
  text : Text
  /-- Whether the next line goes on where the text ends, without its leading blanks. -/
  continued : Bool

namespace Collection

def isQuote (c : Char) : Bool := c = '"' || c = '\''

def startsQuoted (t : Text) : Bool := t.head?.any isQuote

/-! ## Arrays -/

/-- Whether a part of an array ends in the quote that it starts with, and no backslash takes that
away. The empty part does. -/
def isBounded (t : Text) : Bool :=
  match t.head?, t.reverse with
  | some a, y :: before => y = a && !LineScan.oddBackslashes before.dropLast
  | _, _ => true

/-- Whether a part of an array starts with triple quotes and does not end in them. -/
def opensTriple (t : Text) : Bool :=
  match t, t.reverse with
  | a :: b :: c :: _, _ :: y :: z :: _ => a = b && b = c && y ≠ a && z ≠ a
  | _, _ => false

/-- Whether a part of an array is a whole text in quotes. -/
def isWhole (t : Text) : Bool := isBounded t && !opensTriple t

/-- Puts parts together again that a comma inside quotes has cut. A part that is put together must
become whole; other than that, the last part is left as it is. -/
def mend (current : Text) (cut : Bool) : List Text → Read (List Text)
  | [] =>
    if cut && !isWhole (Text.trim current) then .error (.fault .missingPart) else .ok [current]
  | p :: ps =>
    if isWhole (Text.trim current) then do return current :: (← mend p false ps)
    else mend (current ++ ',' :: p) true ps

/-- The parts between the commas outside nested brackets. -/
def topParts (depth : Int) : Text → List Text
  | [] => [[]]
  | c :: s =>
    if c = '[' then Text.consFirst c (topParts (depth + 1) s)
    else if c = ']' then Text.consFirst c (topParts (depth - 1) s)
    else if c = ',' && depth = 0 then [] :: topParts depth s
    else Text.consFirst c (topParts depth s)

/-- Whether a place is inside quotes after one more character; `before` is what has been read,
latest first. -/
def quotedAfter (inside : Bool) (before : Text) (c : Char) : Bool :=
  if isQuote c then !inside || LineScan.oddBackslashes before else inside

/-- The tables in an array. `current` is the table being read, latest character first, and `depth`
the number of its open braces; with `current` empty a table is looked for. -/
def tables (depth : Nat) (inside : Bool) (current : Text) : Text → List Text
  | [] => []
  | c :: s =>
    if current = [] then tables depth inside (if c = '\x7b' then [c] else []) s
    else
      let inside := quotedAfter inside current c
      let depth := if !inside && c = '\x7b' then depth + 1 else depth
      if inside || c ≠ '\x7d' then tables depth inside (c :: current) s
      else if 1 < depth then tables (depth - 1) inside (c :: current) s
      else (c :: current).reverse :: tables depth inside [] (s.drop 1)
  termination_by t => t.length
  decreasing_by all_goals simp_all; try omega

/-- The parts of an array. -/
def parts (t : Text) : Read (List Text) :=
  let body := Scalar.inner t
  if body.contains '[' && Text.trim ((Text.pieces '[' body).headD []) = [] then
    .ok (topParts 0 body)
  else if (Text.trim body).head? = some '\x7b' then
    .ok (tables (if body.head? = some '\x7b' then 1 else 0) false (body.take 1) (body.drop 1))
  else if startsQuoted (Text.trim body) then
    match Text.pieces ',' body with
    | [] => .ok []
    | p :: ps => mend p false ps
  else .ok (Text.pieces ',' body)

/-- Reads the parts of an array one by one. Empty parts are passed over, and the values are of one
kind. -/
def elements (value : Text → Read Value) : Option Value.Kind → List Text → Read (List Value)
  | _, [] => .ok []
  | kind, p :: ps =>
    if Text.trim p = [] then elements value kind ps
    else do
      let v ← value (Text.trim p)
      if kind.any (· ≠ v.kind) then throw .malformed
      return v :: (← elements value (some v.kind) ps)

def array (value : Text → Read Value) (t : Text) : Read Value := do
  return .array (← elements value none (← parts (Text.trim t)))

/-! ## Keys and values -/

/-- Opens the quotations in single quotes of the pieces between double quotes: a double quote inside
one does not count. -/
def rejoin (singles : List Text) : List Text → List Text × List Text
  | [] => (singles, [])
  | d :: ds =>
    if singles.length % 2 = 0 then
      rejoin (singles.dropLast ++ Text.pieces '\'' (singles.getLast?.getD [] ++ '"' :: d)) ds
    else (singles, d :: ds)

/-- The pieces between quotes; every second one is inside quotes, as long as there are quotes of one
kind. -/
def quotePieces (line : Text) : List Text :=
  let spread : List Text → List Text
    | [] => []
    | d :: ds => Text.pieces '\'' d ++ ds
  match Text.pieces '"' line with
  | d :: e :: ds =>
    if d.contains '\'' then
      let r := rejoin (Text.pieces '\'' d) (e :: ds)
      r.1 ++ spread r.2
    else spread (d :: e :: ds)
  | ds => spread ds

/-- One more than the number of separators in the pieces before the first piece outside quotes that
has one. -/
def separatorIndex (count : Text → Nat) : Bool → List Text → Nat
  | _, [] => 1
  | quoted, p :: ps =>
    if !quoted && 0 < count p then 1 else count p + separatorIndex count (!quoted) ps

def occurrences (c : Char) (t : Text) : Nat := (t.filter (· = c)).length

/-- Whether the text behind an equals sign can be a value. -/
def looksLikeValue (t : Text) : Read Bool :=
  match t with
  | [] => .ok true
  | c :: _ =>
    if [' ', '\t', '\'', '"', '[', '\x7b'].contains c || Text.trim t = "true".toList ||
        Text.trim t = "false".toList || (Binary64.ofText? t).isSome then .ok true
    else do return (← Moment.ofDateText? t).isSome || (Moment.clockDigits? t).isSome

/-- Key, value, and whether the value may be a number. `v` is tried as the value; while it does not
look like one, the next equals sign is tried. `rest` are the pieces between equals signs from the
value on. -/
def findValue (orderly : Bool) (key : List Text) (v : Text) (rest : List Text) :
    Read (Text × Text × Bool) := do
  if ← looksLikeValue v then return (Text.joined ['='] key, v, orderly)
  match rest with
  | [] => throw .malformed
  | [p] =>
    if p ≠ v && (← looksLikeValue p) then
      return (Text.joined ['='] key, p, orderly && Scalar.isOrderly p)
    else throw .malformed
  | p :: q :: ps =>
    let next := Text.joined ['='] (q :: ps)
    findValue (orderly && Scalar.isOrderly next) (key ++ [p]) next (q :: ps)

/-- A value that starts with a digit loses its underscores. -/
def dropUnderscores (t : Text) : Text :=
  if t.head?.any Moment.isDigit then t.filter (· ≠ '_') else t

/-- Key and value of a line, and whether the value may be a number. -/
def split (line : Text) : Read (Text × Text × Bool) := do
  let pieces := Text.pieces '=' line
  let i := min (separatorIndex (occurrences '=') false (quotePieces line)) (pieces.length - 1)
  let v := Text.joined ['='] (pieces.drop i)
  let (key, v, orderly) ← findValue (Scalar.isOrderly v) (pieces.take i) (dropUnderscores v)
    (pieces.drop i)
  return (Text.trim key, Text.trim v, orderly)

/-- The names of a dotted key: outside quotes the dots cut. -/
def dottedNames (key : Text) : List Text :=
  if key.any isQuote then spread false (quotePieces key) else Text.pieces '.' key
where
  /-- The names in the pieces between quotes. -/
  spread : Bool → List Text → List Text
    | _, [] => []
    | true, p :: ps => p :: spread false ps
    | false, p :: ps => (Text.pieces '.' p).map Text.trim ++ spread true ps

/-- The names of the tables that a key leads through, and the name in the last of them. -/
def path (key : Text) : Read (List Text × Text) :=
  if key.contains '.' then
    match (dottedNames key).reverse.dropWhile (· = []) with
    | [] => .error (.fault .missingPart)
    | name :: above => .ok (above.reverse.filter (· ≠ []), Text.trim name)
  else
    match key, key.getLast? with
    | c :: _, some d => do
      return ([], ← if isQuote c && d = c then Scalar.unescapeText (Scalar.inner key) else pure key)
    | _, _ => .error (.fault .missingPart)

/-- The part of an array after its last comma that is followed by a quote. -/
def lastQuotedPart (t : Text) : Read Text := do
  let rec go : List Text → Read Text
    | [] => .ok []
    | [p] => .ok p
    | p :: q :: ps =>
      match p with
      | [] => .error (.fault .missingPart)
      | c :: _ => if isQuote c then .ok p else go ((q ++ ',' :: p) :: ps)
    termination_by ps => ps.length
  go (Text.pieces ',' (Text.trim (t.drop 1))).reverse

/-- Whether a value is a text in triple quotes that is not closed. -/
def isOpen (t : Text) : Read Bool := do
  if t.length < 3 then return false
  let p ←
    if t.head? = some '[' && t.getLast? ≠ some ']' && startsQuoted (Text.trim (Scalar.inner t)) then
      lastQuotedPart t
    else pure t
  match p with
  | a :: rest =>
    if !isQuote a then return false
    match rest with
    | [] => throw (.fault .missingPart)
    | [b] => if b ≠ a then return false else throw (.fault .missingPart)
    | b :: c :: _ =>
      if b ≠ a || c ≠ a then return false
      return !(5 < p.length && (p.reverse.take 3).all (· = a))
  | [] => throw (.fault .missingPart)

/-- The key with a text that goes on in the next line. -/
def pend (key t : Text) : Pending :=
  if Scalar.endsEscaped t then ⟨key, t.dropLast, true⟩ else ⟨key, t ++ ['\n'], false⟩

/-- Goes down into the tables of some names, which are made where they are not there. -/
def descend {α : Type} (f : Value → Read (Value × α)) : List Text → Value → Read (Value × α)
  | [], v => f v
  | name :: names, .table t => do
    let (child, a) ← descend f names ((Table.get? t name).getD (.table []))
    return (.table (Table.set t name child), a)
  | _ :: _, _ => .error (.fault .wrongType)

/-- Gives a new key in a table its value, unless the value goes on. -/
def addNew (name : Text) (v : Value ⊕ Pending) : Value → Read (Value × Option Pending)
  | .table t =>
    if Table.has t name then .error .malformed
    else match v with
      | .inl v => .ok (.table (Table.set t name v), none)
      | .inr p => if name = [] then .error (.fault .namelessText) else .ok (.table t, some p)
  | _ => .error .malformed

/-- Reads a line with a key and a value into a table. -/
def pair (value : Bool → Text → Read Value) (line : Text) (level : Value) :
    Read (Value × Option Pending) := do
  let (key, t, numberAllowed) ← split line
  let (names, name) ← path key
  descend (fun level => do
    let v ← if ← isOpen t then pure (.inr (pend name t)) else Sum.inl <$> value numberAllowed t
    addNew name v level) names level

/-! ## Tables inside a line -/

/-- Whether the text behind an equals sign is a whole value. -/
def isWholeValue (t : Text) : Read Bool :=
  match t, t.getLast? with
  | c :: _, some d =>
    .ok ((c = d && isQuote c) || c = '-' || Moment.isDigit c || t = "true".toList || t =
      "false".toList || (c = '[' && d = ']') || (c = '\x7b' && d = '\x7d'))
  | _, _ => .error (.fault .missingPart)

/-- Whether a part between commas is a key with a whole value. -/
def isWholePair (t : Text) : Read Bool :=
  match (Text.cut '=' t).2 with
  | none => .error .malformed
  | some v => isWholeValue (Text.trim v)

/-- Puts parts together again that a comma inside a value has cut. -/
def wholePairs (current : Text) : List Text → Read (List Text)
  | [] => do if ← isWholePair current then return [current] else throw .malformed
  | p :: ps => do
    if ← isWholePair current then return current :: (← wholePairs p ps)
    else wholePairs (current ++ ',' :: p) ps

/-- Reads pairs one by one into a table, up to one that goes on in the next line. -/
def pairs (value : Bool → Text → Read Value) : List Text → Value → Read Value
  | [], level => .ok level
  | p :: ps, level => do
    let (level, pending) ← pair value p level
    if pending.isSome then return level else pairs value ps level

/-- Reads the pairs between braces into a table. -/
def inlineInto (value : Bool → Text → Read Value) (t : Text) (level : Value) : Read Value := do
  match Text.pieces ',' (Scalar.inner t) with
  | [] => return level
  | [p] => if Text.trim p = [] then return level else pairs value (← wholePairs p []) level
  | p :: ps => pairs value (← wholePairs p ps) level

end Collection

end SourceReach.Toml
