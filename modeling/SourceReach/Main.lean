import SourceReach.Standard

/-!
# The program

The part that touches the disk: it reads the directories that a command line is about, runs the
command line on them, prints what there is to print, and writes the settings file when it has
changed. The listing of changed files is read from standard input.
-/

namespace SourceReach.Disk

/-- Adds what is at a place of the disk, and below it, to a file tree. -/
partial def load (tree : FileTree) (place : List Text) (e : IO.FS.DirEntry) : IO FileTree := do
  if ← e.path.isDir then
    let tree := tree.makeDirectory place
    try
      (← e.path.readDir).foldlM (fun tree f => load tree (place ++ [f.fileName.toList]) f) tree
    catch _ => return { tree with unlistable := place :: tree.unlistable }
  else if ← e.path.pathExists then
    try return tree.write place (← IO.FS.readBinFile e.path).toList
    catch _ => return tree
  else return tree

/-- Adds what is at a path, and below it, to a file tree. -/
def loadPath (tree : FileTree) (p : Path) : IO FileTree :=
  load tree p.normal.parts { root := ⟨String.ofList p.toText⟩, fileName := "." }

/-- The path with the home directory in the place of a tilde that it starts with. -/
def expanded (home : Path) : Path → Path
  | ⟨.here, ['~'] :: names⟩ => home.along names
  | p => p

/-- The directory of the settings file. -/
def settingsDirectory (here : Path) : IO Path := do
  let home := Path.ofText ((← IO.getEnv "HOME").getD "").toList
  let p := match ← IO.getEnv "JAVADEPS_HOME" with
    | some t => Path.ofText t.toList
    | none => home.along [".javadeps".toList]
  return (here.join (expanded home p)).normal

def columns : IO Nat := return ((← IO.getEnv "COLUMNS").bind String.toNat?).getD 80

/-- What a command line is about: its project, and the file that it names. -/
def subject (c : Command) : Option (Scope × Option Text) :=
  match c with
  | .find entry scope .. => some (scope, some entry)
  | .explain entry scope .. => some (scope, some entry)
  | .index scope _ => some (scope, none)
  | _ => none

/-- The places that a command may look at. -/
def places (w : Surroundings) (tree : FileTree) (c : Command) : List Path :=
  match subject c with
  | none => []
  | some (scope, entry) =>
    let project := w.here.locate scope.project
    let root := match (w.settings.load.run.run tree).1 with
      | .ok s => (scope.root.getD s.sourceRoot.shown)
      | .error _ => scope.root.getD []
    [project, project.locate root] ++ match entry with
      | none => []
      | some t => [project.locate t, w.here.locate t]

/-- Whether a command asks for a listing of changed files. -/
def needsListing : Command → Bool
  | .find _ _ _ _ withChanges _ changed _ _ => withChanges && changed.isEmpty
  | _ => false

partial def readAll (s : IO.FS.Stream) : IO String := do
  let line ← s.getLine
  if line.isEmpty then return "" else return line ++ (← readAll s)

def print (s : Session) : IO Unit := do
  (← IO.getStdout).putStr (String.ofList s.out)
  (← IO.getStderr).putStr (String.ofList s.err)

/-- Writes the settings file when a session has changed it. -/
def storeSettings (f : SettingsFile) (before after : FileTree) : IO Unit := do
  match before.read f.path, after.read f.path with
  | .ok old, .ok new => if old ≠ new then write new
  | .error _, .ok new => write new
  | _, .error _ => return
where
  /-- Writes the file, in a directory that may not exist yet. -/
  write (content : Bytes) : IO Unit := do
    IO.FS.createDirAll (String.ofList f.directory.toText)
    IO.FS.writeBinFile (String.ofList f.path.toText) ⟨content.toArray⟩

end SourceReach.Disk

open SourceReach

def main (arguments : List String) : IO UInt32 := do
  let here := Path.ofText (← IO.currentDir).toString.toList
  let directory ← Disk.settingsDirectory here
  let ts := arguments.map String.toList
  let command := (Command.ofArguments ts).toOption
  let listing ← if command.any Disk.needsListing then Disk.readAll (← IO.getStdin) else pure ""
  let w := Surroundings.standard here directory (← Disk.columns) fun _ =>
    .finished 0 listing.toList none
  let tree ← Disk.loadPath {} w.settings.path
  let tree ← match command with
    | some c => (Disk.places w tree c).foldlM Disk.loadPath tree
    | none => pure tree
  let (ending, session) := runCommandLine w tree ts
  Disk.print session
  Disk.storeSettings w.settings tree session.tree
  if let .defect _ := ending then (← IO.getStderr).putStr "The input is out of order.\n"
  return UInt32.ofNat ending.code
