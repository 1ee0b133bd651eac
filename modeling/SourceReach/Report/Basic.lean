import SourceReach.Report.Json
import SourceReach.Shell
import SourceReach.Terminal.Basic
import SourceReach.Traversal

/-!
# Reports

What a run shows: the files found, the command that stages them, and which of them have changed. A
report is written as a document or as a text for the terminal.
-/

namespace SourceReach

/-- The command that stages files. -/
def stagingCommand (paths : List Text) : Text :=
  "git add ".toList ++ Text.joined [' '] ((sorted paths).map Shell.quote)

/-- The outcome of a run, with the changed files in order if they were asked for. -/
structure Report where
  closure : Closure
  base : Text
  changed : Option (List Text) := none

namespace Report

/-- The report of a run. -/
def build (closure : Closure) (base : Text) (changed : Option (List Text)) : Report :=
  { closure, base, changed := changed.map sorted }

def changedFields (changed : List Text) : List (Text × Json) :=
  [("changed".toList, .texts changed),
    ("changed_staging_command".toList, if changed = [] then .null
      else .text (stagingCommand changed))]

def document (r : Report) : Json :=
  .object <|
    [("entry_file".toList, .text r.closure.entry),
      ("base_package".toList, .text r.base),
      ("max_depth".toList, .int r.closure.bound),
      ("depth".toList, .int r.closure.depth),
      ("truncated".toList, .bool r.closure.truncated),
      ("dependencies".toList, .texts r.closure.dependencies),
      ("staging_command".toList, .text (stagingCommand r.closure.dependencies))] ++
    (r.changed.map changedFields).getD []

/-- A part of a text for the terminal: a line with markup, a line that is shown as it is, or a
table. -/
inductive Line where
  | marked (t : Text)
  | plain (t : Text)
  | table (t : BoxTable)

def heading (r : Report) : List Line :=
  [.marked ("[bold green]✓[/bold green] Found ".toList ++ Text.ofNat r.closure.discovered.length ++
      " file(s) for [cyan]".toList ++ r.closure.entry ++ "[/cyan]".toList),
    .marked ("[dim]  Base package: ".toList ++ r.base ++ "  Depth: ".toList ++
      Text.ofInt r.closure.depth ++ ['/'] ++ Text.ofInt r.closure.bound ++ "[/dim]".toList)] ++
  (if r.closure.truncated then
    [.marked ("[yellow]⚠[/yellow] Maximum depth (".toList ++ Text.ofInt r.closure.bound ++
      ") reached; the list may be incomplete.".toList)]
  else []) ++ [.plain []]

def changedLines (changed : List Text) : List Line :=
  [.plain [], .plain "Changed dependencies:".toList] ++
  if changed = [] then [.plain "  (none)".toList]
  else changed.map (fun p => .plain ("  ".toList ++ p)) ++
    [.plain [], .plain "To stage only the changed files:".toList, .plain (stagingCommand changed)]

def lines (r : Report) : List Line :=
  r.heading ++ r.closure.dependencies.map .plain ++
    [.plain [], .plain "To stage these files:".toList,
      .plain (stagingCommand r.closure.dependencies)] ++
    (r.changed.map changedLines).getD []

/-- What a terminal shows of a line, if its markup is in order. -/
def Line.shown (terminal : Terminal) : Line → Except Defect Text
  | marked t => terminal.marked t
  | plain t => .ok (terminal.plain t)
  | table t => terminal.table t

/-- The text of lines, up to the first one whose markup is not in order, and the defect of that
one. -/
def shown (terminal : Terminal) : List Line → Text × Option Defect
  | [] => ([], none)
  | l :: ls =>
    match l.shown terminal with
    | .error d => ([], some d)
    | .ok t => let r := shown terminal ls; (t ++ '\n' :: r.1, r.2)

/-! ## Rule matches -/

/-- What a table shows in the place of a file that has not been found. -/
def unresolvedMark : Text := "[dim]unresolved[/dim]".toList

def matchRow (rule token : Text) (path : Option Text) : List Text :=
  [rule, token, match path with
    | none | some [] => unresolvedMark
    | some p => p]

def matchTable (file : Text) (rows : List (List Text)) : BoxTable :=
  { title := "Rule matches in ".toList ++ file
    header := ["Rule".toList, "Token".toList, "Resolves to".toList]
    rows }

def matchDocument (rule token : Text) (path : Option Text) : Json :=
  .object [("rule".toList, .text rule), ("token".toList, .text token),
    ("path".toList, Json.ofOption path)]

end Report

end SourceReach
