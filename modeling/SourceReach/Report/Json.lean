import SourceReach.Text.Quoted

/-!
# JSON documents

The documents that reports are written as. They are indented, and every character outside the
printable seven-bit ones is escaped.
-/

namespace SourceReach

/-- A document. The fields of an object keep their order. -/
inductive Json where
  | null
  | bool (b : Bool)
  | int (n : Int)
  | text (t : Text)
  | list (vs : List Json)
  | object (fields : List (Text × Json))

namespace Json

def texts (ts : List Text) : Json := .list (ts.map .text)

/-- A text, or else nothing. -/
def ofOption : Option Text → Json
  | none => .null
  | some t => .text t

def units (c : Char) : List Nat :=
  let n := c.toNat
  if n < 0x10000 then [n] else [0xD800 + (n - 0x10000) / 0x400, 0xDC00 + (n - 0x10000) % 0x400]

def escaped (c : Char) : Text :=
  if c = '"' || c = '\\' then ['\\', c]
  else if c = '\n' then ['\\', 'n']
  else if c = '\r' then ['\\', 'r']
  else if c = '\t' then ['\\', 't']
  else if c = '\x08' then ['\\', 'b']
  else if c = '\x0c' then ['\\', 'f']
  else if ' ' ≤ c && c ≤ '~' then [c]
  else (units c).flatMap fun n => ['\\', 'u'] ++ Text.hex 4 n

def quoted (t : Text) : Text := ['"'] ++ t.flatMap escaped ++ ['"']

def newLine (depth : Nat) : Text := '\n' :: List.replicate (2 * depth) ' '

/-- Parts on lines of their own, between brackets. -/
def block (opening closing : Char) (depth : Nat) (parts : List Text) : Text :=
  if parts = [] then [opening, closing]
  else [opening] ++ newLine (depth + 1) ++ Text.joined (',' :: newLine (depth + 1)) parts ++
    newLine depth ++
    [closing]

/-- The text of a document that stands at a depth of indentation. -/
def textAt (depth : Nat) : Json → Text
  | null => "null".toList
  | bool b => if b then "true".toList else "false".toList
  | int n => Text.ofInt n
  | text t => quoted t
  | list vs => block '[' ']' depth (listAt (depth + 1) vs)
  | object fields => block '\x7b' '\x7d' depth (fieldsAt (depth + 1) fields)
where
  /-- The texts of the elements of a list. -/
  listAt (depth : Nat) : List Json → List Text
    | [] => []
    | v :: vs => textAt depth v :: listAt depth vs
  /-- The texts of the fields of an object. -/
  fieldsAt (depth : Nat) : List (Text × Json) → List Text
    | [] => []
    | (k, v) :: fs => (quoted k ++ [':', ' '] ++ textAt depth v) :: fieldsAt depth fs

def toText (j : Json) : Text := j.textAt 0

end Json

end SourceReach
