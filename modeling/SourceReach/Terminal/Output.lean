import SourceReach.Terminal.Markup
import SourceReach.Terminal.Table

/-!
# Output

What arrives at a terminal of some columns: marked-up text is wrapped, tables are drawn, messages
stand beside their levels, and plain text loses the sequences that would control the terminal.
-/

namespace SourceReach.Output

def wrappedText (columns : Nat) (t : Text) : Text :=
  Text.joined ['\n'] ((Text.wrapped .fold columns t).map (Text.shortened .fold columns))

/-- What is shown of a marked-up text, if all tags fit together. -/
def marked (columns : Nat) (t : Text) : Except Markup.Problem Text :=
  (Markup.plain t).map (wrappedText columns)

/-- The lines of a table whose marked-up texts are in order. -/
def table (columns : Nat) (t : BoxTable) : Except Markup.Problem Text := do
  let rows ← t.rows.mapM fun row => row.mapM Markup.plain
  let title ← Markup.plain t.title
  return Text.joined ['\n'] ({ t with title, rows }.lines columns)

def levelName : Level → Text
  | .debug => "DEBUG".toList
  | .info => "INFO".toList
  | .warning => "WARNING".toList

/-- The columns before a message. -/
def messageColumn : Nat := 9

/-- A message with its level; further lines are indented. -/
def message (columns : Nat) (e : LogEntry) : Text :=
  let name := levelName e.level
  let lines := Text.wrapped .fold (columns - messageColumn) (e.message.filter (!Markup.isDropped ·))
  name ++ List.replicate (messageColumn - name.length) ' ' ++
    Text.joined ('\n' :: List.replicate messageColumn ' ') lines

/-- A character between the opening of a control sequence and its last letter. -/
def isParameter (c : Char) : Bool := c = ';' || c = '?' || ('0' ≤ c && c ≤ '9')

/-- The number of characters of the control sequence at the front of a text. -/
def sequenceLength (t : Text) : Nat :=
  match t with
  | '\x1b' :: '[' :: s =>
    let parameters := s.takeWhile isParameter
    if (s.drop parameters.length).head?.any Char.isAlpha then parameters.length + 3 else 0
  | _ => 0

/-- The text after its first `skip` characters without control sequences. -/
def echoedFrom : Nat → Text → Text
  | _, [] => []
  | skip + 1, _ :: s => echoedFrom skip s
  | 0, c :: s =>
    match sequenceLength (c :: s) with
    | 0 => c :: echoedFrom 0 s
    | n + 1 => echoedFrom n s

def echoed (t : Text) : Text := echoedFrom 0 t

end SourceReach.Output
