import SourceReach.Toml.Lines
import SourceReach.Toml.Value

/-!
# Single values of settings

The text of a value that is no array and no table: a truth value, a quoted text with its escapes, a
time, a date or a number.
-/

namespace SourceReach.Toml

namespace Scalar

/-- The pieces between the occurrences of two characters next to each other. -/
def pairPieces (a b : Char) : Text → List Text
  | [] => [[]]
  | [c] => [[c]]
  | c :: d :: s =>
    if c = a ∧ d = b then [] :: pairPieces a b s else Text.consFirst c (pairPieces a b (d :: s))

/-- Whether a text ends in an odd number of backslashes. -/
def endsEscaped (t : Text) : Bool := LineScan.oddBackslashes t.reverse

/-- What is left without the first and the last element. -/
def inner {α : Type} (t : List α) : List α := (t.drop 1).dropLast

/-- Goes through the pieces between the quotes of a text in quotes and looks for something after the
end. -/
def checkClosed (triple : Bool) : Nat → Bool → List Text → Read Unit
  | _, _, [] => .ok ()
  | count, closed, [] :: ps =>
    if triple then checkClosed triple (count + 1) closed ps else checkClosed triple count true ps
  | count, closed, p :: ps =>
    if endsEscaped p then checkClosed triple count closed ps
    else if closed then .error .malformed
    else if !triple || 1 < count then checkClosed triple count true ps
    else checkClosed triple 0 closed ps

/-- The characters that an escape sequence stands for. -/
def escapes : List (Char × Char) :=
  [('0', '\x00'), ('b', '\x08'), ('f', '\x0c'), ('n', '\n'), ('r', '\r'), ('t', '\t'), ('"', '"')]

/-- Goes through the pieces between backslashes and looks for escape sequences that mean nothing. -/
def checkEscapes : Bool → List Text → Read Unit
  | _, [] => .ok ()
  | backslash, [] :: ps => checkEscapes (!backslash) ps
  | backslash, (c :: _) :: ps =>
    if (escapes.lookup c).isNone && c ≠ 'u' && c ≠ 'U' && !backslash then .error .malformed
    else checkEscapes false ps

def isHexDigit (c : Char) : Bool := ('0' ≤ c && c ≤ '9') || ('a' ≤ c && c ≤ 'f')

/-- The greatest number that is tried as a code point. -/
def codePointLimit : Nat := 0x7FFFFFFF

/-- The digits of a code point at the front of a piece. They are not those of a half of a pair. -/
def codePointDigits (width : Nat) (piece : Text) : Read Text :=
  let ds := Text.lower (piece.take width)
  if !ds.all isHexDigit then .error .malformed
  else match ds with
    | [] | ['d'] => .error (.fault .missingPart)
    | 'd' :: d :: _ => if '0' ≤ d && d ≤ '7' then .ok ds else .error .malformed
    | _ => .ok ds

/-- The code point at the front of a piece that follows its escape, and the rest of the piece. -/
def codePoint (width : Nat) (piece : Text) : Read (List CodePoint) := do
  let ds ← codePointDigits width piece
  let n := Numeral.value 16 (ds.filterMap (Numeral.digitIn? 16))
  if codePointLimit < n then throw (.fault .outOfRange)
  let p ← wellFormed (CodePoint.ofNat? n)
  return p :: (piece.drop ds.length).map .char

/-- The pieces that follow code point escapes, put together. An escape is left as it is when its
backslash is escaped itself. -/
def codePoints (mark : Char) (width : Nat) : Bool → List Text → Read (List CodePoint)
  | _, [] => .ok []
  | true, p :: ps => do return ('\\' :: mark :: p).map .char ++
    (← codePoints mark width (endsEscaped p) ps)
  | false, p :: ps => do return (← codePoint width p) ++ (← codePoints mark width false ps)

/-- A text with the code points in the place of their escapes. -/
def withCodePoints (mark : Char) (width : Nat) (t : Text) : Read (List CodePoint) :=
  match pairPieces '\\' mark t with
  | [] => .ok []
  | p :: ps => do return p.map .char ++ (← codePoints mark width (endsEscaped p) ps)

/-- Code points with characters in the place of the escape sequences. -/
def unescape : List CodePoint → Read (List CodePoint)
  | .char '\\' :: .char c :: s =>
    match escapes.lookup c with
    | some d => do return .char d :: (← unescape s)
    | none =>
      if c = '\\' then do return .char '\\' :: (← unescape s)
      else if c = 'u' ∨ c = 'U' then do return .char '\\' :: .char c :: (← unescape s)
      else .error .malformed
  | .char '\\' :: .half _ :: _ => .error .malformed
  | p :: s => do return p :: (← unescape s)
  | [] => .ok []

def unescapeText (t : Text) : Read Text := do return CodePoint.chars (← unescape (t.map .char))

/-- A text with all escapes undone. Four digits name no half of a pair. -/
def decoded (t : Text) : Read (List CodePoint) := do
  checkEscapes false ((Text.pieces '\\' t).drop 1)
  unescape (← withCodePoints 'U' 8 (CodePoint.chars (← withCodePoints 'u' 4 t)))

/-- The pieces between the quotes, and whether the quotes are triple. -/
def quotePieces (quote : Char) (t : Text) : Bool × List Text :=
  match Text.pieces quote (t.drop 1) with
  | [] :: [] :: ps => (true, ps)
  | ps => (false, ps)

/-- What stands between quotes, single ones or triple ones. -/
def unquoted (quote : Char) (t : List CodePoint) : List CodePoint :=
  inner (match t with
    | _ :: b :: c :: _ => if b = .char quote && b = c then inner (inner t) else t
    | [_, b] => if b = .char quote then [] else t
    | _ => t)

/-- The text between quotes. Only in double quotes there are escapes. -/
def quoted (quote : Char) (t : Text) : Read Value := do
  let (triple, ps) := quotePieces quote t
  checkClosed triple 0 false ps
  let points ← if quote = '"' then decoded t else pure (t.map .char)
  return Value.ofPoints (unquoted quote points)

/-- The time of the day of some digits; no digits of a fraction are a zero. -/
def clockOf? (hour minute second fraction : Text) : Option Clock := do
  let micro ← if fraction = [] then some 0 else Numeral.int? fraction
  Moment.clock? (← Numeral.int? hour) (← Numeral.int? minute) (← Numeral.int? second) micro

/-- A time of the day at the front of a text. -/
def clock? (t : Text) : Option (Read Value) :=
  (Moment.clockDigits? t).map fun (h, m, s, f) =>
    wellFormed ((clockOf? h m s f).map fun c => .moment (.clock c))

/-- Whether a text without underscores is written as a floating point number. -/
def isFloatText (t : Text) : Bool :=
  t.contains '.' || (!t.contains 'x' && (t.contains 'e' || t.contains 'E'))

/-- A floating point number; it starts with a digit and has one after the point. -/
def floatOf? (t : Text) : Option Binary64 :=
  if t.contains '.' && (Text.cut '.' t).2 == some [] then none
  else if !t.head?.any Moment.isDigit then none
  else Binary64.ofText? t

/-- Whether a text is the name of a number that is not finite. -/
def isFloatName (t : Text) : Bool := Text.lower t = "inf".toList || Text.lower t = "nan".toList

def number (t : Text) : Read Value :=
  let (negative, t) := Numeral.signed t
  let t := t.filter (· ≠ '_')
  wellFormed <|
    if isFloatText t || isFloatName t then
      (if isFloatText t then floatOf? t else Binary64.ofText? t).map fun x =>
        .float (if negative then x.zeroMinus else x)
    else
      (Numeral.anyBase? t).map fun n => .int (if negative then -n else n)

/-- Whether a text may be a number as far as zeros and underscores are concerned: after a leading
zero comes a point or the letter of a base, and after a sign and a zero a point; no underscore
stands at an end, beside a point or beside another. -/
def isOrderly (t : Text) : Bool :=
  let t := Text.trim t
  match t, t.getLast? with
  | c :: rest, some d =>
    c ≠ '_' && d ≠ '_' && !Text.isPartOf ['_', '.'] t && !Text.isPartOf ['.', '_'] t &&
      !Text.isPartOf ['_', '_'] t && zerosOrderly c rest
  | _, _ => false
where
  /-- Whether what follows a leading zero may follow it. -/
  zerosOrderly (c : Char) : Text → Bool
    | [] => true
    | e :: rest =>
      if c = '0' then ['.', 'o', 'b', 'x'].contains e
      else if c = '+' || c = '-' then e ≠ '0' || rest.head?.all (· = '.')
      else true

/-- A time, a date or a number. A number may be refused for its zeros and underscores. -/
def bare (numberAllowed : Bool) (t : Text) : Read Value :=
  match clock? t with
  | some r => r
  | none => do
    match ← Moment.ofDateText? t with
    | some m => return .moment m
    | none => if numberAllowed then number t else throw .malformed

end Scalar

end SourceReach.Toml
