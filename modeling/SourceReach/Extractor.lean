import SourceReach.Java.Package
import SourceReach.Log
import SourceReach.NameIndex.Basic
import SourceReach.SourceRoot
import SourceReach.Traversal

/-!
# Dependencies of a file

The names that the rules find in a file are looked up: a qualified name of the base package below
the source root, a simple name in the index. The files found are the dependencies, except for the
file itself. A file that cannot be read has none.
-/

namespace SourceReach

/-- A name that a rule has found, with a file that it means. -/
structure RuleMatch where
  rule : Rule
  token : Text
  path : Option Text := none
  deriving DecidableEq, Repr

/-- What names are looked up in. -/
structure Extractor where
  tree : FileTree
  index : NameIndex
  source : SourceRoot
  base : Text

namespace Extractor

/-- The matches of a qualified name. A name outside the base package is none of the project's. -/
def importMatches (x : Extractor) (rule : Rule) (token : Text) : Except Failure (List RuleMatch) :=
  if Package.contains x.base token then (x.source.resolve x.tree token).map fun path =>
    [{ rule, token, path }]
  else .ok []

/-- The matches of a simple name: one for each of its files, or one without a file. -/
def symbolMatches (x : Extractor) (rule : Rule) (file token : Text) : List RuleMatch :=
  match x.index.resolve token (some file) with
  | [] => [{ rule, token }]
  | paths => paths.map fun path => { rule, token, path := some path }

/-- The matches of a name that a rule has found in a file. -/
def tokenMatches (x : Extractor) (file : Text) (rule : Rule) (token : Text) :
    Except Failure (List RuleMatch) :=
  if rule.isQualified then x.importMatches rule token else .ok (x.symbolMatches rule file token)

/-- The names that the rules find in a source, in their order. -/
def tokens (source : Text) : List (Rule × Text) :=
  Rule.all.flatMap fun rule => (rule.names source).map fun token => (rule, token)

/-- The matches of all rules in the source of a file. -/
def explain (x : Extractor) (file source : Text) : Except Failure (List RuleMatch) :=
  List.flatten <$> (tokens source).mapM fun t => x.tokenMatches file t.1 t.2

/-- The files that the source of a file depends on, in increasing order. -/
def extract (x : Extractor) (file source : Text) : Except Failure (List Text) :=
  (x.explain file source).map fun ms => sortedDistinct ((ms.filterMap (·.path)).filter (· ≠ file))

/-- The source of a file. When it cannot be read, a warning says why. -/
def readSource (x : Extractor) (file : Text) : Logged (Option Text) :=
  match x.tree.read (x.source.project.locate file) with
  | .ok content => pure (some (FileTree.sourceText content))
  | .error e => do
    if e.cause = .embeddedNul then throw (.defect .embeddedNul)
    Logged.warn ("Could not read ".toList ++ file ++ ": ".toList ++ e.message)
    pure none

/-- The files that a file depends on. -/
def dependencies (x : Extractor) (file : Text) : Logged (List Text) := do
  match ← x.readSource file with
  | none => pure []
  | some source =>
    let found ← Logged.ofExcept (x.extract file source)
    Logged.debug (file ++ " -> ".toList ++ Text.ofNat found.length ++ " dependencies".toList)
    pure found

/-- The files that an entry file reaches in a bounded number of levels. -/
def closure (x : Extractor) (entry : Text) (bound : Int) : Logged Closure :=
  Traversal.closure x.dependencies Logged.warn entry bound

end Extractor

end SourceReach
