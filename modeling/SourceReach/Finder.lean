import SourceReach.Extractor
import SourceReach.NameIndex.Build

/-!
# Finding dependencies

A finder answers questions about one project. It builds the index when a question first needs it,
and keeps the index for later questions, also when the files change or the question fails
afterwards.
-/

namespace SourceReach

/-- A project, and how its sources are searched. -/
structure Finder where
  /-- The directory that written paths start from. -/
  project : Path
  /-- The current directory. -/
  here : Path
  root : Text := "src/main/java".toList
  extension : Text := ".java".toList
  strategy : Text := Strategy.last.name
  segments : Int := 2
  maxDepth : Int := 50

/-- The files that an entry file reaches, and the base package that was searched. -/
structure Discovery where
  base : Text
  closure : Closure
  deriving DecidableEq, Repr

/-- A question to a finder: it may use and build the index, log, and fail. -/
abbrev Finding := ExceptT Failure (StateT (Option NameIndex) (StateM (List LogEntry)))

namespace Finding

/-- A question that does not need the index. -/
def ofLogged {α : Type} (x : Logged α) : Finding α := ExceptT.mk (StateT.lift x.run)

/-- Goes on with the value of a result, or fails with its failure. -/
def ofExcept {α : Type} (r : Except Failure α) : Finding α := ofLogged (Logged.ofExcept r)

/-- The result of a question, the index afterwards and the messages. -/
def outcome {α : Type} (x : Finding α) (index : Option NameIndex := none) :
    Except Failure α × Option NameIndex × List LogEntry :=
  let r := (x.run.run index).run []
  (r.1.1, r.1.2, r.2)

end Finding

namespace Finder

/-- The source root and the extension. -/
def source (f : Finder) : SourceRoot := SourceRoot.ofText f.project f.root f.extension

/-- The index, which is built if it has not been. -/
def index (f : Finder) (tree : FileTree) : Finding NameIndex := do
  match ← get with
  | some ix => pure ix
  | none =>
    let ix ← Finding.ofLogged
      (NameIndex.build tree f.source.place.toText f.project f.extension f.strategy)
    set (some ix)
    pure ix

/-- The file that an entry means: from the project root on, or else from the current directory
on. -/
def entryPath (f : Finder) (tree : FileTree) (entry : Text) : Except Failure Text := do
  let fromProject := f.project.locate entry
  let fromHere := f.here.locate entry
  if ← Except.expected (tree.isFile fromProject) then return f.project.nameFrom fromProject.toText
  if ← Except.expected (tree.isFile fromHere) then return f.project.nameFrom fromHere.toText
  .error (.configuration (.entryMissing fromProject))

/-- The base package that a file's package declaration gives. -/
def basePackage (f : Finder) (tree : FileTree) (entry : Text) : Except Failure Text :=
  match tree.read (f.project.locate entry) with
  | .error e =>
    .error (if e.cause = .embeddedNul then .defect .embeddedNul else .configuration
      (.entryUnreadable entry e))
  | .ok content =>
    match Package.base? (FileTree.sourceText content) f.segments with
    | some base => .ok base
    | none => .error (.configuration (.packageUndetected entry))

/-- The base package to search: the given one unless it is empty, or else the one of the entry
file. -/
def baseFor (f : Finder) (tree : FileTree) (entry : Text) (given : Option Text) :
    Except Failure Text :=
  match given with
  | none | some [] => f.basePackage tree entry
  | some base => .ok base

/-- What the names of a base package are looked up in. -/
def extractor (f : Finder) (tree : FileTree) (base : Text) : Finding Extractor := do
  let index ← f.index tree
  pure { tree, index, source := f.source, base }

/-- The files that an entry file reaches. -/
def find (f : Finder) (tree : FileTree) (entry : Text) (base : Option Text := none)
    (depth : Option Int := none) : Finding Discovery := do
  let entry ← Finding.ofExcept (f.entryPath tree entry)
  let base ← Finding.ofExcept (f.baseFor tree entry base)
  let bound := depth.getD f.maxDepth
  if bound < 1 then throw (.configuration (.depthTooSmall (Text.ofInt bound)))
  Finding.ofLogged
    (Logged.info ("Searching dependencies of ".toList ++ entry ++ " (base package ".toList ++
      base ++ ", max depth ".toList ++ Text.ofInt bound ++ ")".toList))
  let x ← f.extractor tree base
  let closure ← Finding.ofLogged (x.closure entry bound)
  pure { base, closure }

/-- The matches of all rules in a file. -/
def explain (f : Finder) (tree : FileTree) (entry : Text) (base : Option Text := none) :
    Finding (List RuleMatch) := do
  let entry ← Finding.ofExcept (f.entryPath tree entry)
  let base ← Finding.ofExcept (f.baseFor tree entry base)
  let x ← f.extractor tree base
  match ← Finding.ofLogged (x.readSource entry) with
  | none => pure []
  | some source => Finding.ofExcept (x.explain entry source)

end Finder

end SourceReach
