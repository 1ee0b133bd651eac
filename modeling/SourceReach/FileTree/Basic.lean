import SourceReach.Path
import SourceReach.Text.Quoted
import SourceReach.Text.Utf8

/-!
# File trees

A file tree is a list of places with what is there; the first entry of a place counts, and the root
is a directory. A lookup goes through a path name by name, so a place whose parent is no directory
is out of reach. Double dots lead to the directory above the one reached. Every directory can be
entered by a path that names what is in it, also one that does not let itself be listed.
-/

namespace SourceReach

/-- What is at a place. -/
inductive Node where
  | directory
  | file (content : Bytes)
  deriving DecidableEq

/-- The places that hold something, and the directories that do not let themselves be listed. -/
structure FileTree where
  nodes : List (List Text × Node) := []
  unlistable : List (List Text) := []

/-- Why a place cannot be looked at. -/
inductive AccessCause where
  | noSuchFile
  | permissionDenied
  | fileExists
  | notADirectory
  | isADirectory
  | nameTooLong
  | embeddedNul
  deriving DecidableEq, Repr

namespace AccessCause

/-- The number that the system gives a cause. -/
def number : AccessCause → Nat
  | noSuchFile => 2
  | permissionDenied => 13
  | fileExists => 17
  | notADirectory => 20
  | isADirectory => 21
  | nameTooLong => 36
  | embeddedNul => 22

/-- The words that the system has for a cause. -/
def words : AccessCause → Text
  | noSuchFile => "No such file or directory".toList
  | permissionDenied => "Permission denied".toList
  | fileExists => "File exists".toList
  | notADirectory => "Not a directory".toList
  | isADirectory => "Is a directory".toList
  | nameTooLong => "File name too long".toList
  | embeddedNul => "Invalid argument".toList

end AccessCause

/-- A failed access to a path. -/
structure AccessError where
  cause : AccessCause
  path : Text

/-- Number, words and quoted path. -/
def AccessError.message (e : AccessError) : Text :=
  "[Errno ".toList ++ Text.ofNat e.cause.number ++ "] ".toList ++ e.cause.words ++
    ": ".toList ++ e.path.quoted

namespace FileTree

/-- The bytes that a name may have at most. -/
def nameLimit : Nat := 255

/-- The bytes that a whole path must stay below. -/
def pathLimit : Nat := 4096

/-- What is listed at a place, whether or not it can be reached. -/
def entry? (t : FileTree) (place : List Text) : Option Node :=
  if place = [] then some .directory else t.nodes.lookup place

/-- Goes on from a place by further names; the place reached, and what is there. -/
def walk (t : FileTree) : List Text → List Text → Except AccessCause (List Text × Node)
  | place, [] =>
    match t.entry? place with
    | some n => .ok (place, n)
    | none => .error .noSuchFile
  | place, name :: names =>
    match t.entry? place with
    | none => .error .noSuchFile
    | some (.file _) => .error .notADirectory
    | some .directory =>
      if name = parentName then t.walk place.dropLast names
      else if nameLimit < Utf8.size name then .error .nameTooLong
      else t.walk (place ++ [name]) names

/-- The place that an anchored path leads to, and what is there. -/
def resolve (t : FileTree) (p : Path) : Except AccessCause (List Text × Node) :=
  if p.toText.contains '\x00' then .error .embeddedNul
  else if pathLimit ≤ Utf8.size p.toText then .error .nameTooLong
  else t.walk [] p.parts

/-- The content of the file at a path. -/
def read (t : FileTree) (p : Path) : Except AccessError Bytes :=
  match t.resolve p with
  | .ok (_, .file content) => .ok content
  | .ok (_, .directory) => .error ⟨.isADirectory, p.toText⟩
  | .error cause => .error ⟨cause, p.toText⟩

/-- The answer to a question about what is at a path. A path that leads nowhere is answered with no,
and only a name that is too long is an error. -/
def holds (t : FileTree) (p : Path) (test : Node → Bool) : Except AccessError Bool :=
  match t.resolve p with
  | .ok (_, n) => .ok (test n)
  | .error .nameTooLong => .error ⟨.nameTooLong, p.toText⟩
  | .error _ => .ok false

def isFile (t : FileTree) (p : Path) : Except AccessError Bool := t.holds p fun n => n ≠ .directory

def isDirectory (t : FileTree) (p : Path) : Except AccessError Bool := t.holds p (· = .directory)

/-- Whether there is anything. -/
def contains (t : FileTree) (p : Path) : Except AccessError Bool := t.holds p fun _ => true

/-- Checks that there is a directory at a path, or that one can be made there with those above
it. -/
def checkDirectory (t : FileTree) (p : Path) : Except AccessError Unit :=
  match t.resolve p with
  | .ok (_, .directory) => .ok ()
  | .ok (_, .file _) => .error ⟨.fileExists, p.toText⟩
  | .error .noSuchFile =>
    if p.parts.any (nameLimit < Utf8.size ·) then .error ⟨.nameTooLong, p.toText⟩ else .ok ()
  | .error cause => .error ⟨cause, p.toText⟩

def put (t : FileTree) (place : List Text) (n : Node) : FileTree :=
  { t with nodes := (place, n) :: t.nodes.filter (·.1 ≠ place) }

/-- The places above a place, the root first and left out. -/
def ancestors (place : List Text) : List (List Text) :=
  (List.range place.length).filterMap fun n => if n = 0 then none else some (place.take n)

/-- Makes a place and all above it directories, where nothing is yet. -/
def makeDirectory (t : FileTree) (place : List Text) : FileTree :=
  (ancestors place ++ [place]).foldl
    (fun t p => if (t.entry? p).isSome then t else t.put p .directory) t

/-- Writes a file, with the directories above it. -/
def write (t : FileTree) (place : List Text) (content : Bytes) : FileTree :=
  (t.makeDirectory place.dropLast).put place (.file content)

def delete (t : FileTree) (place : List Text) : FileTree :=
  { t with nodes := t.nodes.filter (·.1 ≠ place) }

/-- The text of a source file: malformed bytes are dropped, and every line ends in a line feed. -/
def sourceText (content : Bytes) : Text := Text.unixLines (Utf8.decodeDropping content)

end FileTree

end SourceReach
