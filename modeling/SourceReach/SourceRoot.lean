import SourceReach.FileTree.Basic
import SourceReach.Failure

/-!
# The source root

The file of a qualified name has a fixed place below the source root: its segments are the
directories, and the last one with the extension is the name of the file.
-/

namespace SourceReach

/-- The directory in which packages start, and the extension of source files. -/
structure SourceRoot where
  /-- The directory that written paths start from. -/
  project : Path
  place : Path
  extension : Text

namespace SourceRoot

/-- The source root that a text names, from the project root on. -/
def ofText (project : Path) (root extension : Text) : SourceRoot :=
  { project, place := project.locate root, extension }

/-- The place of the file of a qualified name. -/
def candidate (s : SourceRoot) (name : Text) : Path :=
  s.place.join (Path.ofText (Text.substitute '.' '/' name ++ s.extension))

/-- The file of a qualified name, if there is one. -/
def resolve (s : SourceRoot) (tree : FileTree) (name : Text) : Except Failure (Option Text) := do
  let path := s.candidate name
  if ← Except.expected (tree.isFile path) then return some (s.project.nameFrom path.toText)
  return none

end SourceRoot

end SourceReach
