import SourceReach.Terminal.Emoji
import SourceReach.Terminal.Literal
import SourceReach.Terminal.Style

/-!
# Marked-up text

What a terminal shows of a text with style tags in brackets. A tag starts with a small letter or one
of a few signs, and a backslash before it takes away its meaning. A tag that closes a style must
close one that is open. Between the tags emoji stand in the place of their names.
-/

namespace SourceReach.Markup

/-- What is wrong with a marked-up text. -/
inductive Problem where
  /-- A tag closes what is not open, or an action has no parameters in order. -/
  | unbalanced
  /-- A part of a colour is no number. -/
  | noNumber
  deriving DecidableEq, Repr

/-- The characters that the text of a tag may start with. -/
def startsTag (c : Char) : Bool := ('a' ≤ c && c ≤ 'z') || c = '#' || c = '/' || c = '@'

/-- The text of the tag that follows an opening bracket, and what follows the tag. -/
def tag? : Text → Option (Text × Text)
  | [] => none
  | c :: s =>
    if !startsTag c then none
    else
      let body := s.takeWhile fun d => d ≠ ']' && d ≠ '['
      match s.drop body.length with
      | ']' :: rest => some (c :: body, rest)
      | _ => none

/-- A part of a marked-up text. -/
inductive Part where
  | text (t : Text)
  | tag (t : Text)

/-- The parts of a text. Before it are the characters `plain`, latest first, and after these the
number `backslashes` of backslashes. -/
def partsFrom : Nat → Text → Nat → Text → List Part
  | 0, _, _, _ => []
  | _ + 1, plain, n, [] => [.text (plain.reverse ++ List.replicate n '\\')]
  | fuel + 1, plain, n, '\\' :: s => partsFrom fuel plain (n + 1) s
  | fuel + 1, plain, n, c :: s =>
    match if c = '[' then tag? s else none with
    | none => partsFrom fuel (c :: (List.replicate n '\\' ++ plain)) 0 s
    | some (t, rest) =>
      let body := if n % 2 = 1 then Part.text ('[' :: t ++ [']']) else .tag t
      .text plain.reverse :: .text (List.replicate (n / 2) '\\') :: body :: partsFrom fuel [] 0 rest

/-- The parts of a text. -/
def parts (t : Text) : List Part := partsFrom (t.length + 1) [] 0 t

/-- The text without the backslashes before opening brackets. -/
def unescape : Text → Text
  | '\\' :: '[' :: s => '[' :: unescape s
  | c :: s => c :: unescape s
  | [] => []

/-- The control characters that a terminal is not sent. -/
def isDropped (c : Char) : Bool := ['\x07', '\x08', '\x0b', '\x0c', '\r'].contains c

/-- The text that is shown for a text between tags. -/
def shownPart (t : Text) : Text := (Emoji.replace t).filter (!isDropped ·)

/-- The name of an action in the parameters of a tag. -/
def actionName (t : Text) : Text := t.takeWhile fun c => isWord c || c = '.'

/-- Whether a text is a name of an action with perhaps parentheses after it. -/
def isAction (t : Text) : Bool :=
  match t.drop (actionName t).length with
  | [] => true
  | c :: s => c = '(' && s.getLast? = some ')' && !s.contains '\n'

def areParameters (t : Text) : Bool :=
  let t := Text.trim t
  if isAction t then t.length = (actionName t).length ||
    Literal.isLiteral (t.drop (actionName t).length)
  else Literal.isLiteral t

/-- An open tag: its normal form, and its parameters. -/
structure Opened where
  name : Text
  parameters : Option Text

/-- Whether an open tag may be closed: if it is an action, its parameters are in order. -/
def Opened.closes (o : Opened) : Bool :=
  o.name.head? != some '@' || match o.parameters with
    | none | some [] => true
    | some ps => areParameters ps

def normal (t : Text) : Except Problem Text := (Style.normal t).mapError fun _ => .noNumber

/-- Takes the latest open tag of a name away. -/
def close (name : Text) : List Opened → Except Problem (List Opened)
  | [] => .error .unbalanced
  | o :: os =>
    if o.name = name then if o.closes then .ok os else .error .unbalanced
    else do return o :: (← close name os)

/-- The open tags after a tag, latest first. -/
def afterTag (opened : List Opened) (t : Text) : Except Problem (List Opened) := do
  let (name, parameters) := Text.cut '=' t
  match name with
  | '/' :: closed =>
    if Text.trim closed = [] then
      match opened with
      | [] => throw .unbalanced
      | o :: os => if o.closes then return os else throw .unbalanced
    else close (← normal (Text.trim closed)) opened
  | _ => return ⟨← normal name, parameters⟩ :: opened

/-- The text of some parts, if all tags fit together. -/
def plainFrom (opened : List Opened) : List Part → Except Problem Text
  | [] => .ok []
  | .text t :: ps => do return shownPart (unescape t) ++ (← plainFrom opened ps)
  | .tag t :: ps => do plainFrom (← afterTag opened t) ps

/-- Checks the style that the name and the parameters of a tag make up. A tag that closes has none,
and neither has an action. -/
def checkStyle : Part → Except Problem Unit
  | .text _ => .ok ()
  | .tag t => do
    match Text.cut '=' t with
    | ('/' :: _, _) | ('@' :: _, _) | (_, none) => return
    | (name, some parameters) => let _ ← normal ((← normal name) ++ ' ' :: parameters)

/-- The text of a marked-up text, if all tags fit together and mean styles that can be shown. -/
def plain (t : Text) : Except Problem Text :=
  if t.contains '[' then do
    let shown ← plainFrom [] (parts t)
    (parts t).forM checkStyle
    return shown
  else .ok (shownPart t)

end SourceReach.Markup
