import SourceReach.Toml.Collection

/-!
# Reading settings

A settings file is read line by line: a header says which table the pairs after it belong to. A
table that exists because a header leads through it may get a header of its own, once.
-/

namespace SourceReach.Toml

namespace Reader

/-- Reads a value whose parts are nested at most `n` deep. -/
def valueWithin : Nat → Bool → Text → Read Value
  | 0, _, _ => .error .malformed
  | _, _, [] => .error .malformed
  | n + 1, numberAllowed, c :: s =>
    let t := c :: s
    if t = "true".toList then .ok (.bool true)
    else if t = "false".toList then .ok (.bool false)
    else if Collection.isQuote c then Scalar.quoted c t
    else if c = '[' then Collection.array (valueWithin n true) t
    else if c = '\x7b' then Collection.inlineInto (valueWithin n) t (.table [])
    else Scalar.bare numberAllowed t

/-- Reads a value. Every level of nesting has a bracket of its own. -/
def value (numberAllowed : Bool) (t : Text) : Read Value :=
  valueWithin (t.length + 1) numberAllowed t

/-- A step down from a table to a value in it, or from an array to its last value. -/
inductive Step where
  | key (name : Text)
  | last

/-- A settings file that is read up to some line. -/
structure State where
  root : Value := .table []
  /-- The way to the table that pairs belong to. -/
  level : List Step := []
  /-- The names of the tables that have had no header. -/
  implicit : List Text := []
  pending : Option Pending := none

/-- Changes the value at the end of a way. -/
def within {α : Type} (f : Value → Read (Value × α)) : List Step → Value → Read (Value × α)
  | [], v => f v
  | .key name :: way, .table t =>
    match Table.get? t name with
    | some child => do
      let (child, a) ← within f way child
      return (.table (Table.set t name child), a)
    | none => .error (.fault .missingPart)
  | .last :: way, .array vs =>
    match vs.getLast? with
    | some child => do
      let (child, a) ← within f way child
      return (.array (vs.dropLast ++ [child]), a)
    | none => .error (.fault .missingPart)
  | _, _ => .error (.fault .wrongType)

/-! ## Headers -/

/-- A name in a header without quotes. -/
def isBareName (t : Text) : Bool :=
  !t.isEmpty && t.all fun c => c.isAlphanum || c = '_' || c = '-'

/-- Whether a text is closed by the quote it starts with. -/
def isClosed (t : Text) : Bool := 1 < t.length && t.head? = t.getLast?

/-- The names of a header, from the pieces between its dots. `open?` is a name in quotes that is not
closed. -/
def headerNames : Option Text → List Text → Read (List Text)
  | none, [] => .ok []
  | some _, [] => .error .malformed
  | none, p :: ps =>
    let p := Text.trim p
    if Collection.startsQuoted p then
      if isClosed p then do return Scalar.inner p :: (← headerNames none ps)
        else headerNames (some p) ps
    else if isBareName p then do return p :: (← headerNames none ps)
    else .error .malformed
  | some q, p :: ps =>
    let q := q ++ '.' :: p
    if isClosed (Text.trim q) then do return Scalar.inner (Text.trim q) :: (← headerNames none ps)
    else headerNames (some q) ps

/-- The names in a header that has lost its opening brackets, given the way to cut it at closing
ones. -/
def namesOf (cut : Text → List Text) (closing t : Text) : Read (List Text) := do
  let pieces := cut t
  let i := Collection.separatorIndex (fun p => (cut p).length - 1) false (Collection.quotePieces t)
  if pieces.length < i + 1 then throw .malformed
  if Text.trim (Text.joined closing (pieces.drop i)) ≠ [] then throw .malformed
  headerNames none (Text.pieces '.' (Text.joined closing (pieces.take i)))

/-- The new value of a name that a header is the first to lead to. -/
def fresh (isLast arrays : Bool) : Value :=
  if isLast && arrays then .array [.table []] else .table []

/-- The value of a name that exists in a table and that a header ends at: the table gets its header,
or the array of tables another table. What is defined already is an error, in whose text the table
around it is shown. -/
def reopened (arrays : Bool) (implicit : List Text) (t : Table) (name : Text) (child : Value) :
    Read (Value × List Text) :=
  if name ∈ implicit then
    if arrays then .error .malformed else .ok (child, implicit.erase name)
  else if arrays then
    match child with
    | .array vs => .ok (.array (vs ++ [.table []]), implicit)
    | _ => .error (.fault .noArray)
  else .error (if (Value.table t).hasData then .malformed else .fault .unwritable)

/-- The value of a name in a table that a header leads to, and the tables without header
afterwards. -/
def entered (arrays isLast : Bool) (implicit : List Text) (t : Table) (name : Text) :
    Read (Value × List Text) :=
  match t.get? name with
  | some child => if isLast then reopened arrays implicit t name child else .ok (child, implicit)
  | none => .ok (fresh isLast arrays, if isLast then implicit else implicit ++ [name])

/-- Goes on from the value of a name; with an array of tables, from the last of them. -/
def into {α : Type} (arrays : Bool) (go : Value → Read (Value × List Step × α)) (child : Value) :
    Read (Value × List Step × α) :=
  if arrays then
    match child with
    | .table t => go (.table t)
    | .array vs =>
      match vs.getLast? with
      | none => .error (.fault .missingPart)
      | some v => do
        let (v, way, a) ← go v
        return (.array (vs.dropLast ++ [v]), .last :: way, a)
    | .text t =>
      match t.getLast? with
      | none => .error (.fault .missingPart)
      | some c => go (.text [c])
    | _ => .error (.fault .wrongType)
  else go child

/-- Follows the names of a header from a value on: the value afterwards, the way to the end of the
header, and the tables without header. -/
def follow (arrays : Bool) : List Text → List Text → Value → Read (Value × List Step × List Text)
  | [], implicit, v => .ok (v, [], implicit)
  | name :: names, implicit, v => do
    if name = [] then throw .malformed
    match v with
    | .table t =>
      let (child, implicit) ← entered arrays names.isEmpty implicit t name
      let (child, way, implicit) ← into arrays (follow arrays names implicit) child
      return (.table (Table.set t name child), .key name :: way, implicit)
    | .array vs =>
      match vs.getLast? with
      | none => throw (.fault .missingPart)
      | some (.table t) =>
        let child := (Table.get? t name).getD (fresh names.isEmpty arrays)
        let (child, way, implicit) ← into arrays (follow arrays names implicit) child
        return (.array (vs.dropLast ++ [.table (Table.set t name child)]), .last :: .key name ::
          way, implicit)
      | some _ => throw (.fault .wrongType)
    | .text [] => throw (.fault .missingPart)
    | _ => throw (.fault .wrongType)

def header (s : State) (line : Text) : Read State := do
  let (arrays, names) ←
    match line with
    | '[' :: '[' :: t => do pure (true, ← namesOf (Scalar.pairPieces ']' ']') [']', ']'] t)
    | '[' :: c :: t => do pure (false, ← namesOf (Text.pieces ']') [']'] (c :: t))
    | _ => throw .malformed
  let (root, way, implicit) ← follow arrays names s.implicit s.root
  return { s with root, level := way, implicit }

/-! ## Lines -/

/-- Reads a line into the table that pairs belong to. -/
def ordinary (s : State) (line : Text) : Read State := do
  match line.head?, line.getLast? with
  | some '\x7b', some d =>
    if d ≠ '\x7d' then throw .malformed
    let (root, _) ← within (fun v => do return (← Collection.inlineInto value line v, ()))
      s.level s.root
    return { s with root }
  | _, _ =>
    if !line.contains '=' then return s
    let (root, pending) ← within (Collection.pair value line) s.level s.root
    return { s with root, pending }

/-- Whether a text that goes on is closed by the line that has been put to its end. -/
def closes (t line : Text) : Read Bool :=
  match t.head? with
  | some '[' =>
    match line.getLast? with
    | none => .error (.fault .missingPart)
    | some d => .ok (d = ']')
  | some a => .ok (2 < line.length && (line.reverse.take 3).all (· = a))
  | none => .error (.fault .missingPart)

/-- Gives a key its value, whatever it had before. -/
def assign (name : Text) (v : Value) : Value → Read (Value × Unit)
  | .table t => .ok (.table (Table.set t name v), ())
  | _ => .error (.fault .wrongType)

/-- Reads a line that goes on with a text in triple quotes. -/
def continued (s : State) (p : Pending) (line : Text) : Read State := do
  let line := if p.continued || !p.text.contains '\n' then Text.trim line else line
  if line = [] && p.continued then return s
  let t := p.text ++ line
  if ← closes t line then
    let v ← value true t
    let (root, _) ← within (assign p.key v) s.level s.root
    return { s with root, pending := none }
  else return { s with pending := some (Collection.pend p.key t) }

def line (s : State) (t : Text) : Read State :=
  match s.pending with
  | some p => continued s p t
  | none =>
    let t := Text.trim t
    if t = [] then .ok s
    else if t.head? = some '[' then header s t
    else ordinary s t

def table (t : Text) : Read Table := do
  let s ← (← LineScan.lines t).foldlM line {}
  match s.root with
  | .table t => return t
  | _ => throw (.fault .wrongType)

end Reader

end SourceReach.Toml
