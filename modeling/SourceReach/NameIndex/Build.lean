import SourceReach.FileTree.Listing
import SourceReach.Log
import SourceReach.NameIndex.Basic

/-!
# Building the index

The index of a source root has every file below the root whose name ends as the extension says,
added in the order of the files' names from the root on. A directory that is too far down cannot be
listed, and a file that is too far down fails in a way that is not reported.
-/

namespace SourceReach.NameIndex

/-- Adds one file, with a message and perhaps a refusal when its name has another file. -/
def addLogged (ix : NameIndex) (name path : Text) : Logged NameIndex := do
  let (ix', collision) := ix.add name path
  if let some paths := collision then
    Logged.debug ("Type name collision for ".toList ++ name ++ ": ".toList ++ Text.quotedList paths)
  match ix.refusal? name collision with
  | some e => Logged.fail e
  | none => pure ix'

/-- The type name that a file name stands for: without the extension. An empty extension leaves
nothing. -/
def typeName (extension fileName : Text) : Text :=
  if extension = [] then [] else Text.shorten extension.length fileName

/-- The name that is indexed for a file, and the file's path from the project; `names` lead to it
from a root. -/
def indexed (project root : Path) (extension : Text) (names : List Text) : Text × Text :=
  (typeName extension (names.getLast?.getD []),
    Path.nameFrom project (root.along names).toText)

/-- Adds what names lead to from a root, which is at a place, if it is a regular file. -/
def addFound (tree : FileTree) (root : Path) (place : List Text) (project : Path) (extension : Text)
    (ix : NameIndex) (names : List Text) : Logged NameIndex := do
  if ← Logged.ofExcept (Except.expected (tree.isFoundFile root place names)) then
    let file := indexed project root extension names
    ix.addLogged file.1 file.2
  else pure ix

/-- Indexes the source files below a root, which may be given from the project root on. -/
def build (tree : FileTree) (root : Text) (project : Path) (extension strategy : Text) :
    Logged NameIndex := do
  let root := project.join (Path.ofText root)
  unless ← Logged.ofExcept (Except.expected (tree.isDirectory root)) do
    Logged.fail (.sourceRootMissing root)
  let strategy ← Logged.ofExcept (Strategy.ofName strategy)
  let place := match tree.resolve root with
    | .ok (place, _) => place
    | .error _ => []
  if place ∈ tree.unlistable then
    Logged.fail (.sourceRootUnreadable root ⟨.permissionDenied, root.toText⟩)
  match GlobName.ofText? ('*' :: extension) with
  | none => throw (.defect .malformedGlob)
  | some glob =>
    let found ← match tree.search root place glob with
      | .ok found => pure found
      | .error e => Logged.fail (.sourceRootUnreadable root e)
    let ix ← found.foldlM (addFound tree root place project extension) { strategy := strategy }
    Logged.debug ("Indexed ".toList ++ Text.ofNat ix.size ++ " type names under ".toList ++
      root.toText ++ " (".toList ++ Text.ofNat ix.collisions.length ++ " collisions)".toList)
    pure ix

end SourceReach.NameIndex
