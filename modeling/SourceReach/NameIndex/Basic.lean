import SourceReach.Failure

/-!
# The index of type names

Which files declare a type of a simple name. Two files may declare the same name in different
packages; the strategy settles which of them a lookup gives, and the collisions record all of them.
-/

namespace SourceReach

/-- How duplicate names are settled. -/
inductive Strategy where
  /-- The file added last counts. -/
  | last
  /-- The file added first counts. -/
  | first
  /-- A duplicate is refused. -/
  | error
  /-- All files count. -/
  | all
  deriving DecidableEq, Repr

namespace Strategy

def name : Strategy → Text
  | last => "last".toList
  | first => "first".toList
  | error => "error".toList
  | all => "all".toList

def ofName? (t : Text) : Option Strategy := [last, first, error, all].find? (·.name = t)

/-- The strategy of a name that a user gave. -/
def ofName (t : Text) : Except Failure Strategy :=
  match ofName? t with
  | some s => .ok s
  | none => .error (.configuration (.unknownStrategy t))

end Strategy

/-- Files by name, in the order in which names were first added. -/
abbrev FilesByName := List (Text × List Text)

namespace FilesByName

def files (m : FilesByName) (name : Text) : List Text := (m.lookup name).getD []

/-- The index with other files for a name; a new name goes to the end. -/
def set : FilesByName → Text → List Text → FilesByName
  | [], name, paths => [(name, paths)]
  | (n, ps) :: m, name, paths => if n = name then (n, paths) :: m else (n, ps) :: set m name paths

end FilesByName

/-- The files that lookups give, and the files of the names that several files declare. -/
structure NameIndex where
  strategy : Strategy
  entries : FilesByName := []
  collisions : FilesByName := []

namespace NameIndex

/-- The files recorded for a name when one more of them is found to declare it. -/
def colliding (ix : NameIndex) (name path : Text) : List Text :=
  ((ix.collisions.lookup name).getD (ix.entries.files name)) ++ [path]

/-- The files that lookups of a name give after a duplicate. -/
def settled (ix : NameIndex) (name path : Text) : List Text :=
  match ix.strategy with
  | .last => [path]
  | .all => ix.entries.files name ++ [path]
  | .first | .error => ix.entries.files name

/-- Adds a file that declares a name. The files of the collision are given when the name has another
file. -/
def add (ix : NameIndex) (name path : Text) : NameIndex × Option (List Text) :=
  let known := ix.entries.files name
  if known = [] then ({ ix with entries := ix.entries.set name [path] }, none)
  else if path ∈ known then (ix, none)
  else
    let paths := ix.colliding name path
    ({ ix with
        entries := ix.entries.set name (ix.settled name path)
        collisions := ix.collisions.set name paths }, some paths)

/-- The refusal of a collision, under the strategy that refuses. -/
def refusal? (ix : NameIndex) (name : Text) (collision : Option (List Text)) :
    Option ConfigurationError :=
  if ix.strategy = .error then collision.map (.nameCollision name) else none

/-- The files of a name, for a file that mentions it. When there are several and just one of them is
in the directory of the mentioning file, that one is meant. -/
def resolve (ix : NameIndex) (name : Text) (referrer : Option Text := none) : List Text :=
  let paths := ix.entries.files name
  match referrer with
  | none => paths
  | some file =>
    match paths.filter fun p => Path.directoryOf p = Path.directoryOf file with
    | [p] => if 1 < paths.length then [p] else paths
    | _ => paths

/-- The names in the order in which they were first added. -/
def nameList (ix : NameIndex) : List Text := ix.entries.map (·.1)

def names (ix : NameIndex) : List Text := sorted ix.nameList

/-- Whether a file was added for the name. -/
def contains (ix : NameIndex) (name : Text) : Bool := (ix.entries.lookup name).isSome

def size (ix : NameIndex) : Nat := ix.entries.length

end NameIndex

end SourceReach
