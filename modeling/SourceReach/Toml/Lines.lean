import SourceReach.Text.Basic
import SourceReach.Text.Word
import SourceReach.Toml.Problem

/-!
# Lines of a settings file

A settings file is cut into lines that stand for themselves: comments are blanked, and an array that
goes over several lines is brought onto one. Only a text in triple quotes keeps its line feeds. On
the way the keys are checked, and the quotes have to be closed.
-/

namespace SourceReach.Toml

/-- Where in a line a character stands, as far as keys are concerned. -/
inductive KeyPlace where
  | outside
  | inside
  | behind
  deriving DecidableEq

/-- The header that is open, in single or double brackets. -/
inductive HeaderPlace where
  | outside
  | single
  | double
  deriving DecidableEq

/-- A settings file that is read up to some character. -/
structure LineScan where
  /-- The characters read, as they are left, latest first. -/
  done : Text := []
  key : KeyPlace := .outside
  /-- Whether the key has had a dot. -/
  dotted : Bool := false
  /-- The quote that is open. -/
  quote : Option Char := none
  /-- Whether triple quotes are open. -/
  triple : Bool := false
  /-- The number of open brackets of arrays. -/
  depth : Int := 0
  header : HeaderPlace := .outside
  atStart : Bool := true
  inComment : Bool := false

namespace LineScan

/-- Whether an odd number of backslashes stands at the front. -/
def oddBackslashes (t : Text) : Bool := (t.takeWhile (· = '\\')).length % 2 = 1

def push (s : LineScan) (c : Char) : LineScan := { s with done := c :: s.done }

/-- Whether a key goes on after a dot. -/
def goesOn (next : Option Char) : Except Problem Bool :=
  match next with
  | none => .error (.fault .missingPart)
  | some d => .ok (!isBlank d && d != '.')

/-- Takes a character behind a key's name: blanks, a dot or the equals sign. -/
def behindKey (s : LineScan) (c : Char) (next : Option Char) : Except Problem LineScan :=
  if isBlank c then
    if s.dotted then do
      return { s.push c with key := if ← goesOn next then .inside else .behind }
    else .ok (s.push c)
  else if c = '.' then do
    return { s.push c with dotted := true, key := if ← goesOn next then .inside else .behind }
  else if c = '=' then .ok { s.push c with key := .outside, dotted := false }
  else .error .malformed

def insideKey (s : LineScan) (c : Char) : Except Problem LineScan :=
  if isBlank c then .ok { s.push c with key := .behind }
  else if c = '.' then .ok { s.push c with dotted := true }
  else if isWord c || c = '-' then .ok (s.push c)
  else if s.dotted && s.done.head? == some '.' && (c = '"' || c = '\'') then
    .ok { s.push c with quote := some c }
  else if c = '=' then .ok { s.push c with key := .outside, dotted := false }
  else .error .malformed

def quotedKey (s : LineScan) (c : Char) : LineScan :=
  if some c = s.quote && !oddBackslashes s.done then { s.push c with key := .behind, quote := none }
  else s.push c

def inKey (s : LineScan) (c : Char) (next : Option Char) : Except Problem LineScan :=
  if c = '\n' then .error .malformed
  else if s.quote.isSome then .ok (s.quotedKey c)
  else if s.key = .inside then s.insideKey c
  else s.behindKey c next

/-- Opens what is closed and closes what is open. -/
def toggle (quote : Char) : Option Char → Option Char
  | none => some quote
  | some _ => none

/-- Sees a single quote after the characters `before`, latest first. -/
def singleQuote (s : LineScan) (before : Text) : LineScan :=
  match before with
  | '\'' :: '\'' :: _ =>
    { s with triple := !s.triple, quote := if s.triple then none else some '\'' }
  | _ => { s with quote := toggle '\'' s.quote }

/-- Sees a double quote after the characters `before`, latest first. A quote behind a backslash
counts for nothing. -/
def doubleQuote (s : LineScan) (before : Text) : LineScan :=
  match before with
  | '"' :: '"' :: more =>
    if oddBackslashes more then s
    else { s with triple := !s.triple, quote := if s.triple then none else some '"' }
  | '"' :: _ => { s with quote := toggle '"' s.quote }
  | _ => if oddBackslashes before then s else { s with quote := toggle '"' s.quote }

def seeQuote (s : LineScan) (c : Char) (before : Text) : LineScan :=
  if c = '\'' && s.quote ≠ some '"' then s.singleQuote before
  else if c = '"' && s.quote ≠ some '\'' then s.doubleQuote before
  else s

/-- Whether brackets and comments count here. -/
def isPlain (s : LineScan) : Bool := s.quote.isNone && s.header = .outside

/-- Sees a bracket. At the start of a line it opens a header. -/
def seeBracket (s : LineScan) (c : Char) (before next : Option Char) : LineScan :=
  if c = '[' && s.isPlain then
    if s.atStart then { s with header := if next = some '[' then .double else .single }
    else { s with depth := s.depth + 1 }
  else if c = ']' && s.quote.isNone then
    match s.header with
    | .single => { s with header := .outside }
    | .double => if before = some ']' then { s with header := .outside } else s
    | .outside => { s with depth := s.depth - 1 }
  else s

/-- Takes a line feed inside quotes. Behind the opening triple quotes it disappears, and the quotes
move over its place. -/
def quotedLineFeed (s : LineScan) : Except Problem LineScan :=
  if !s.triple then .error .malformed
  else match s.done with
    | a :: b :: c :: more =>
      if (a = '\'' || a = '"') && b = a then
        .ok { s with done := a :: a :: b :: (if c = a then ' ' else c) :: more }
      else .ok (s.push '\n')
    | _ => .ok (s.push '\n')

def lineFeed (s : LineScan) : Except Problem LineScan :=
  if s.quote.isSome || s.triple then s.quotedLineFeed
  else if s.depth ≠ 0 then .ok (s.push ' ')
  else .ok { s.push '\n' with atStart := true }

/-- Takes a character that is no line feed. The first one of a line that is not blank starts a key,
unless it opens a header. -/
def ordinary (s : LineScan) (c : Char) : Except Problem LineScan :=
  if s.atStart && c ≠ ' ' && c ≠ '\t' then
    if s.header ≠ .outside then .ok { s.push c with atStart := false }
    else if c = '=' then .error .malformed
    else .ok { s.push c with atStart := false, key := .inside }
  else .ok (s.push c)

/-- The characters before a place, latest first, as far as they are quotes and backslashes and one
more. What stands before the first character are the characters `ring`: the text itself, as if it
were written around a ring. -/
def before (s : LineScan) (ring : Text) : Text :=
  if s.done.all fun c => c = '\'' || c = '"' || c = '\\' then s.done ++ ring else s.done

def outsideKey (s : LineScan) (ring : Text) (c : Char) (next : Option Char) :
    Except Problem LineScan :=
  let s := if c = '\'' || c = '"' then s.seeQuote c (s.before ring) else s
  if c = '#' && s.isPlain then .ok { s.push ' ' with inComment := true }
  else
    let s := s.seeBracket c (s.done.head?.or ring.head?) next
    if c = '\n' then s.lineFeed else s.ordinary c

def step (ring : Text) (s : LineScan) (c : Char) (next : Option Char) : Except Problem LineScan :=
  if s.inComment && c ≠ '\n' then .ok (s.push ' ')
  else
    let s := { s with inComment := false }
    if s.key ≠ .outside then s.inKey c next else s.outsideKey ring c next

def run (ring : Text) : LineScan → Text → Except Problem LineScan
  | s, [] => .ok s
  | s, c :: cs => do run ring (← step ring s c cs.head?) cs

/-- The lines of a text. -/
def lines (t : Text) : Except Problem (List Text) := do
  let s ← run t.reverse {} t
  if s.key ≠ .outside || s.quote.isSome then throw .malformed
  return Text.pieces '\n' s.done.reverse

end LineScan

end SourceReach.Toml
