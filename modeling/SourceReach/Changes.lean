import SourceReach.Log
import SourceReach.Path
import SourceReach.Toml.Value

/-!
# Changed files

Which files count as changed: files that are given, or those that a listing command prints. When the
command fails, a warning says so, and no file counts as changed.
-/

namespace SourceReach

open Toml (Value)

namespace Changes

/-- The given files, each once under its one name. -/
def ofPaths (project : Path) (paths : List Text) : List Text :=
  sortedDistinct (paths.map project.nameFrom)

/-- The source files that a listing names, one in a line. -/
def ofListing (project : Path) (extension listing : Text) : List Text :=
  ofPaths project (((Text.lines listing).map Text.trim).filter fun l => extension.isSuffixOf l)

/-- The discovered files that have changed. -/
def among (discovered changed : List Text) : List Text :=
  sortedDistinct (discovered.filter (· ∈ changed))

end Changes

/-- How a listing command ends. -/
inductive ListingOutcome where
  | finished (code : Int) (output : Text) (complaint : Option Text)
  | timedOut
  | missing

/-- A command that lists changed files. Its words come from the settings and may be any values. -/
structure ListingCommand where
  project : Path
  words : List Value
  extension : Text
  /-- The seconds that the command may take. -/
  timeout : Int := 30

namespace ListingCommand

/-- The words that list changes when no others are given. -/
def defaultWords : List Value :=
  [.text "git".toList, .text "diff".toList, .text "--name-only".toList]

/-- The words that a value gives: its elements, its keys or its characters. -/
def wordsOf (v : Value) : Except Failure (List Value) :=
  if !v.isTruthy then .ok defaultWords
  else match v with
    | .array vs => .ok vs
    | .table entries => .ok (entries.map fun e => .text e.1)
    | .text t => .ok (t.map fun c => .text [c])
    | _ => .error (.defect .wrongType)

/-- A command whose words are given as a value, compared against a revision if one is named. -/
def ofValue (project : Path) (words : Value) (revision : Option Text) (extension : Text)
    (timeout : Int := 30) : Except Failure ListingCommand := do
  let ws ← wordsOf words
  let revision := match revision with
    | none | some [] => []
    | some r => [.text r]
  return { project, words := ws ++ revision, extension, timeout }

/-- The words with blanks between them. Only texts can be put together. -/
def line (c : ListingCommand) : Except Failure Text := do
  let ts ← c.words.mapM fun
    | .text t => .ok t
    | _ => .error (.defect .wrongType)
  return Text.joined [' '] ts

def warn (c : ListingCommand) (between reason : Text) (lead : Text := []) : Logged (List Text) := do
  Logged.warn (lead ++ (← Logged.ofExcept c.line) ++ between ++ reason)
  return []

/-- The changed files, by the way the command ends. -/
def changed (c : ListingCommand) : ListingOutcome → Logged (List Text)
  | .finished code output complaint =>
    if code = 0 then pure (Changes.ofListing c.project c.extension output)
    else c.warn " failed: ".toList (Text.trim (complaint.getD []))
  | .timedOut =>
    c.warn ": ".toList ("Command '".toList ++ (Value.array c.words).shownData ++
      "' timed out after ".toList ++ Text.ofInt c.timeout ++ " seconds".toList)
        "Could not run ".toList
  | .missing =>
    c.warn ": ".toList ("[Errno 2] No such file or directory: ".toList ++
      (c.words.head?.map Value.shownData).getD []) "Could not run ".toList

end ListingCommand

end SourceReach
