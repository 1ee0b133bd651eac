import SourceReach.FileTree.Basic
import SourceReach.Text.Glob

/-!
# Listing a directory tree

What a glob of several names leads to below a directory, in the order of the names from the
directory on. Directories that cannot be listed hide what is in them from all names with wildcards.
A directory whose path is too long ends the listing.
-/

namespace SourceReach

/-- A name of a glob with several names. -/
inductive GlobName where
  /-- Any chain of directories. -/
  | chain
  /-- The names that fit a glob. -/
  | fitting (glob : Text)
  /-- This name, without looking at the others. -/
  | exactly (name : Text)
  deriving DecidableEq, Repr

namespace GlobName

/-- The name that stands for a chain of directories. -/
def chainName : Text := ['*', '*']

def hasDoubleStar : Text → Bool
  | '*' :: '*' :: _ => true
  | _ :: s => hasDoubleStar s
  | [] => false

def hasWildcard (t : Text) : Bool := t.any fun c => c = '*' || c = '?' || c = '['

/-- One name of a glob, unless two stars stand together in it beside other characters. -/
def ofPiece? (piece : Text) : Option GlobName :=
  if piece = chainName then some chain
  else if hasDoubleStar piece then none
  else if hasWildcard piece then some (fitting piece)
  else some (exactly piece)

/-- The names of a glob, if they are well formed. A slash at the end asks for directories. -/
def ofText? (glob : Text) : Option (List GlobName) :=
  (((Text.pieces '/' glob).filter Path.isName).mapM ofPiece?).map
    (· ++ if glob.getLast? = some '/' then [chain] else [])

end GlobName

/-- A place that names lead to; the names may have double dots among them. -/
structure Reached where
  place : List Text
  names : List Text := []
  deriving DecidableEq, Repr

/-- The place after one more name. -/
def Reached.step (r : Reached) (name : Text) : Reached :=
  ⟨if name = parentName then r.place.dropLast else r.place ++ [name], r.names ++ [name]⟩

/-- The place after some more names of directories. -/
def Reached.descend (r : Reached) (names : List Text) : Reached :=
  ⟨r.place ++ names, r.names ++ names⟩

namespace FileTree

/-- Whether a directory from `base` on down to the one that holds the place cannot be listed. -/
def isHidden (t : FileTree) (base place : List Text) : Bool :=
  t.unlistable.any fun u => base.isPrefixOf u && u.isPrefixOf place && u ≠ place

/-- Whether just this place is reached and holds a node of a kind. -/
def hasAt (t : FileTree) (test : Node → Bool) (place : List Text) : Bool :=
  match t.walk [] place with
  | .ok (reached, n) => reached = place && test n
  | _ => false

def isDirectoryNode (n : Node) : Bool := n = .directory

def isFileNode (n : Node) : Bool := n ≠ .directory

/-- The names that lead from a directory to itself and to the directories below it that can be
found. -/
def directoriesFrom (t : FileTree) (base : List Text) : List (List Text) :=
  sortedDistinct (((base :: t.nodes.map (·.1)).filter fun place =>
    base.isPrefixOf place && t.hasAt isDirectoryNode place && !t.isHidden base place).map
      (·.drop base.length))

/-- The names in a directory, none if it cannot be listed. No directory has a name in it that is too
long. -/
def namesIn (t : FileTree) (place : List Text) : List Text :=
  if place ∈ t.unlistable then []
  else ((t.nodes.map (·.1)).filterMap fun p => if p.dropLast = place then p.getLast?
    else none).filter
    (Utf8.size · ≤ nameLimit)

/-- A path that is too long leads nowhere, whatever is there. -/
def checkLength (p : Path) : Except AccessError Unit :=
  if pathLimit ≤ Utf8.size p.toText then .error ⟨.nameTooLong, p.toText⟩ else .ok ()

/-- The places that the names of a glob lead to from a place below a root. Before the last name of
the glob there are only directories. A directory is listed by its path from the root. -/
def select (t : FileTree) (root : Path) : List GlobName → Reached →
    Except AccessError (List Reached)
  | [], r => .ok [r]
  | .exactly name :: rest, r => do
    let next := r.step name
    if ← t.holds (root.along next.names) (fun n => rest = [] || isDirectoryNode n) then
      t.select root rest next
    else return []
  | .fitting glob :: rest, r => do
    checkLength (root.along r.names)
    let names := (t.namesIn r.place).filter fun name =>
      Glob.isMatch glob name && (rest = [] || t.hasAt isDirectoryNode (r.place ++ [name]))
    return (← names.mapM fun name => t.select root rest (r.step name)).flatten
  | .chain :: rest, r => do
    return (← (t.directoriesFrom r.place).mapM fun names => do
      checkLength (root.along (r.names ++ names))
      t.select root rest (r.descend names)).flatten

/-- The names that lead from a root, which is at a place, to all that a glob fits below it. -/
def search (t : FileTree) (root : Path) (place : List Text) (glob : List GlobName) :
    Except AccessError (List (List Text)) := do
  let found ← t.select root (.chain :: glob) ⟨place, []⟩
  return sortedDistinct (found.map (·.names))

/-- Whether names lead from a place to a regular file. -/
def leadsToFile (t : FileTree) (place names : List Text) : Bool :=
  match t.walk place names with
  | .ok (_, n) => isFileNode n
  | .error _ => false

/-- Whether names that a search has given lead to a regular file. A listed name is one that the
system has given out, so nothing but the length of the whole path can be wrong with it. -/
def isFoundFile (t : FileTree) (root : Path) (place names : List Text) :
    Except AccessError Bool := do
  checkLength (root.along names)
  return t.leadsToFile place names

end FileTree

end SourceReach
