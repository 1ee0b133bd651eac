import SourceReach.Text.CodePoint
import SourceReach.Text.Printable

/-!
# Quoted texts

The form in which messages show a text as data: between quotes, with escapes for the quote, the
backslash and what is not printable.
-/

namespace SourceReach.Text

/-- The hexadecimal digits of a number, in small letters and at least `width` of them. -/
def hex (width n : Nat) : Text :=
  let ds := Nat.toDigits 16 n
  List.replicate (width - ds.length) '0' ++ ds

def quotedChar (quote c : Char) : Text :=
  if c = quote || c = '\\' then ['\\', c]
  else if c = '\n' then ['\\', 'n']
  else if c = '\t' then ['\\', 't']
  else if c = '\r' then ['\\', 'r']
  else if isPrintable c then [c]
  else if c.toNat < 0x100 then ['\\', 'x'] ++ hex 2 c.toNat
  else if c.toNat < 0x10000 then ['\\', 'u'] ++ hex 4 c.toNat
  else ['\\', 'U'] ++ hex 8 c.toNat

/-- The quote for a text: the single one, unless the text holds single quotes and no double ones. -/
def quoteFor (t : Text) : Char := if t.contains '\'' && !t.contains '"' then '"' else '\''

def quoted (t : Text) : Text :=
  let q := quoteFor t
  [q] ++ t.flatMap (quotedChar q) ++ [q]

/-- The escape sequence of half of a pair. -/
def halfEscape (n : Nat) : Text := ['\\', 'u'] ++ hex 4 n

def quotedPoint (quote : Char) : CodePoint → Text
  | .char c => quotedChar quote c
  | .half n => halfEscape n

def quotedPoints (ps : List CodePoint) : Text :=
  let q := quoteFor (CodePoint.chars ps)
  [q] ++ ps.flatMap (quotedPoint q) ++ [q]

/-- Code points as a text, with escape sequences for halves of pairs. -/
def ofPoints (ps : List CodePoint) : Text :=
  ps.flatMap fun
    | .char c => [c]
    | .half n => halfEscape n

/-- The quoted texts of a list between brackets. -/
def quotedList (ts : List Text) : Text :=
  ['['] ++ joined [',', ' '] (ts.map quoted) ++ [']']

example : quoted "it's".toList = "\"it's\"".toList := by decide

end SourceReach.Text
