import SourceReach.Changes
import SourceReach.CommandLine.Command
import SourceReach.Finder
import SourceReach.Report.Basic
import SourceReach.Settings.File

/-!
# Running a command

A command reads and writes a file tree and prints. It ends with an exit code or by a defect; what it
has printed until then stays. An error of the configuration is reported on one line, with the exit
code 1.
-/

namespace SourceReach

open Toml (Value)

/-- Where a command runs. -/
structure Surroundings where
  /-- The current directory. -/
  here : Path
  settings : SettingsFile
  /-- How the command that lists changed files ends, by its words. -/
  listing : List Value → ListingOutcome
  /-- The command that arguments make. -/
  command : List Text → Except Refusal Command
  terminal : Terminal

/-- The files, and what has been printed and run so far. -/
structure Session where
  tree : FileTree
  out : Text := []
  err : Text := []
  /-- The commands that have been run to list changed files. -/
  listings : List (List Value) := []
  /-- The error that the command ends with, from when it is about to be reported. -/
  fatal : Option ConfigurationError := none

/-- How a command ends before its end. -/
inductive Ending where
  | exit (code : Nat)
  | defect (d : Defect)

def Ending.code : Ending → Nat
  | exit code => code
  | defect _ => 1

/-- A command in a session. -/
abbrev Running := ExceptT Ending (StateM Session)

/-- What is shown of an error, if the markup of its message is in order. -/
def ConfigurationError.shown (terminal : Terminal) (e : ConfigurationError) : Except Defect Text :=
  terminal.marked ("[red]✗[/red] ".toList ++ e.message)

namespace Running

variable (w : Surroundings)

/-- Prints lines, up to one whose markup is not in order. -/
def printLines (ls : List Report.Line) : Running Unit := do
  let (t, problem) := Report.shown w.terminal ls
  modify fun s => { s with out := s.out ++ t }
  problem.forM fun d => throw (.defect d)

def print (t : Text) : Running Unit := printLines w [.plain t]

def printMarked (t : Text) : Running Unit := printLines w [.marked t]

/-- Reports an error and ends. -/
def fatal {α : Type} (e : ConfigurationError) : Running α := do
  modify fun s => { s with fatal := some e }
  match e.shown w.terminal with
  | .error d => throw (.defect d)
  | .ok t =>
    modify fun s => { s with err := s.err ++ t ++ ['\n'] }
    throw (.exit 1)

/-- Goes on with a result, or ends by its failure. -/
def attempt {α : Type} : Except Failure α → Running α
  | .ok a => pure a
  | .error (.configuration e) => fatal w e
  | .error (.defect d) => throw (.defect d)

/-- Prints messages: all of them, or the warnings. -/
def printLog (verbose : Bool) (log : List LogEntry) : Running Unit :=
  let shown := log.filter fun e => verbose || e.level = .warning
  modify fun s => { s with err := s.err ++ shown.flatMap fun e => w.terminal.message e ++ ['\n'] }

/-- Runs a logged computation. -/
def logged {α : Type} (verbose : Bool) (x : Logged α) : Running α := do
  let (result, log) := x.outcome
  printLog w verbose log
  attempt w result

/-- Asks a finder that has no index yet. -/
def asking {α : Type} (verbose : Bool) (x : Finding α) : Running α := do
  let (result, _, log) := x.outcome
  printLog w verbose log
  attempt w result

/-- Runs a computation that reads and changes the settings file. -/
def storing {α : Type} (x : Storing α) : Running α := do
  let (result, tree) := x.run.run (← get).tree
  modify ({ · with tree })
  attempt w result

/-- The settings in effect, with other values in the place of some. -/
def settingsFor (scope : Scope) (strategy : Option Text) : Running Settings := do
  let s ← storing w w.settings.load
  let s := { s with
    sourceRoot := (scope.root.map Value.text).getD s.sourceRoot
    segments := scope.segments.getD s.segments
    strategy := (strategy.map fun t => Value.text (Text.lower t)).getD s.strategy }
  attempt w s.validate

/-- The finder for a project. -/
def finder (scope : Scope) (s : Settings) : Finder :=
  { project := w.here.locate scope.project
    here := w.here
    root := s.sourceRoot.shown
    extension := s.extension.shown
    strategy := s.strategy.shown
    segments := s.segments
    maxDepth := s.maxDepth }

/-- The changed files: the given ones, or those that the listing command prints. -/
def changedFiles (f : Finder) (s : Settings) (revision : Option Text) (given : List Text)
    (verbose : Bool) : Running (List Text) :=
  if given ≠ [] then return Changes.ofPaths f.project given
  else do
    let c ← attempt w (ListingCommand.ofValue f.project s.diffCommand revision f.extension)
    modify fun s => { s with listings := s.listings ++ [c.words] }
    logged w verbose (c.changed (w.listing c.words))

def showReport (json : Bool) (r : Report) : Running Unit := do
  if Numeral.hasText r.closure.bound then
    if json then print w r.document.toText else printLines w r.lines
  else
    if !json then printLines w (r.heading.take 1)
    throw (.defect .unwritable)

def find (entry : Text) (scope : Scope) (depth : Option Int) (strategy : Option Text)
    (withChanges : Bool) (revision : Option Text) (given : List Text) (json verbose : Bool) :
    Running Unit := do
  let s ← settingsFor w scope strategy
  let f := finder w scope s
  let tree := (← get).tree
  let entry ← attempt w (f.entryPath tree entry)
  let base ← attempt w (f.baseFor tree entry scope.base)
  let found ← asking w verbose (f.find tree entry (some base) depth)
  let changed ← if withChanges then some <$> changedFiles w f s revision given verbose
    else pure none
  showReport w json
    (Report.build found.closure base (changed.map (Changes.among found.closure.discovered)))

def explain (entry : Text) (scope : Scope) (json verbose : Bool) : Running Unit := do
  let s ← settingsFor w scope none
  let f := finder w scope s
  let tree := (← get).tree
  let entry ← attempt w (f.entryPath tree entry)
  let found ← asking w verbose (f.explain tree entry scope.base)
  if json then
    print w (Json.list (found.map fun m => Report.matchDocument m.rule.label m.token m.path)).toText
  else if found = [] then printMarked w ("No rule matched in ".toList ++ entry ++ ['.'])
  else
    let rows := found.map fun m => Report.matchRow m.rule.label m.token m.path
    printLines w [.table (Report.matchTable entry rows)]

def index (scope : Scope) (listCollisions : Bool) : Running Unit := do
  let s ← settingsFor w scope (some Strategy.all.name)
  let f := finder w scope s
  let ix ← asking w false (f.index (← get).tree)
  printMarked w ("Indexed ".toList ++ Text.ofNat ix.size ++ " type name(s) under ".toList ++
    f.source.place.toText)
  printMarked w ("Names defined more than once: ".toList ++ Text.ofNat ix.collisions.length)
  if listCollisions then
    (sorted (ix.collisions.map (·.1))).forM fun name => do
      print w name
      (ix.collisions.files name).forM fun p => print w ("  ".toList ++ p)

/-- A value in a listing of settings: the words of a list with blanks between them. -/
def settingText : Value → Except Failure Text
  | .array vs => do
    let ts ← vs.mapM fun
      | .text t => .ok t
      | .unpaired _ => .error (.defect .unpaired)
      | _ => .error (.defect .wrongType)
    return Text.joined [' '] ts
  | .unpaired _ => .error (.defect .unpaired)
  | v => if v.hasText then .ok v.shown else .error (.defect .unwritable)

def printSetting (key : SettingKey) (v : Value) : Running Unit := do
  print w (key.name ++ " = ".toList ++ (← attempt w (settingText v)))

def showSettings : Running Unit := do
  let s ← storing w w.settings.load
  print w ("# ".toList ++ w.settings.path.toText)
  SettingKey.all.forM fun key => printSetting w key (s.get key)

def set (key value : Text) : Running Unit := do
  let _ ← storing w (w.settings.save key (.text value))
  printMarked w ("[green]✓[/green] ".toList ++ key ++ " = ".toList ++ value)

def reset : Running Unit := do
  let removed ← storing w w.settings.reset
  print w (if removed then "Settings reset to defaults.".toList else "No saved settings.".toList)

/-- Runs a command. -/
def perform : Command → Running Unit
  | .help => pure ()
  | .version => print w "javadeps v0.1.0".toList
  | .find entry scope depth strategy withChanges revision changed json verbose =>
    find w entry scope depth strategy withChanges revision changed json verbose
  | .explain entry scope json verbose => explain w entry scope json verbose
  | .index scope listCollisions => index w scope listCollisions
  | .showSettings => showSettings w
  | .set key value => set w key value
  | .reset => reset w

end Running

/-- The exit code for a command line that is not in order. -/
def usageCode : Nat := 2

/-- Runs a command line in a file tree: how it ends, and the session afterwards. -/
def runCommandLine (w : Surroundings) (tree : FileTree) (ts : List Text) : Ending × Session :=
  match w.command ts with
  | .error .usage => (.exit usageCode, { tree })
  | .error .embeddedNul => (.defect .embeddedNul, { tree })
  | .ok c =>
    match (Running.perform w c).run.run { tree } with
    | (.ok (), s) => (.exit 0, s)
    | (.error e, s) => (e, s)

end SourceReach
