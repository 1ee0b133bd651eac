import SourceReach.Text.Basic

/-!
# Traversal

The files that an entry file reaches, level by level. One step expands the files that wait when it
starts; the files found on the way wait for the next. The function that gives the dependencies of a
file may have effects, so a traversal is written for any monad.
-/

namespace SourceReach

/-- A traversal in progress. -/
structure Traversal where
  /-- The files that wait, oldest first. A file may wait more than once, or although it has been
  expanded. -/
  frontier : List Text
  /-- The files that have been expanded, latest first. -/
  processed : List Text := []
  /-- The files that have been expanded, in order. -/
  discovered : List Text := []
  /-- The number of steps taken. -/
  depth : Nat := 0
  deriving DecidableEq, Repr

/-- What a traversal has found when it ends. -/
structure Closure where
  entry : Text
  discovered : List Text
  depth : Int
  bound : Int
  truncated : Bool
  deriving DecidableEq, Repr

namespace Traversal

variable {m : Type → Type} [Monad m]

/-- The traversal in which the entry file waits. -/
def seed (entry : Text) : Traversal := { frontier := [entry] }

/-- The waiting files that have not been expanded. -/
def pending (t : Traversal) : List Text := t.frontier.filter (· ∉ t.processed)

/-- Expands a file, unless that has been done: the dependencies that have not been expanded wait, in
order. -/
def visit (dependencies : Text → m (List Text)) (t : Traversal) (file : Text) : m Traversal :=
  if file ∈ t.processed then pure t
  else do
    let found ← dependencies file
    pure { t with
      processed := file :: t.processed
      discovered := t.discovered ++ [file]
      frontier := t.frontier ++ (sortedDistinct found).filter (· ∉ file :: t.processed) }

/-- Expands the files that wait now. -/
def step (dependencies : Text → m (List Text)) (t : Traversal) : m Traversal := do
  let t' ← t.frontier.foldlM (visit dependencies) { t with frontier := [] }
  pure { t' with depth := t'.depth + 1 }

/-- Takes steps while files wait, at most `n`. -/
def steps (dependencies : Text → m (List Text)) : Nat → Traversal → m Traversal
  | 0, t => pure t
  | n + 1, t => if t.frontier = [] then pure t else do steps dependencies n (← step dependencies t)

/-- The traversal from an entry file, with at most `bound` steps. -/
def fromEntry (dependencies : Text → m (List Text)) (entry : Text) (bound : Int) : m Traversal :=
  steps dependencies bound.toNat (seed entry)

/-- What a traversal has found. It is truncated when a waiting file has not been expanded. -/
def result (entry : Text) (bound : Int) (t : Traversal) : Closure :=
  { entry, discovered := t.discovered, depth := t.depth, bound, truncated := t.pending ≠ [] }

/-- The warning about files that the bound has kept from being expanded. -/
def warning? (bound : Int) (t : Traversal) : Option Text :=
  if t.pending = [] then none
  else some ("Reached maximum depth (".toList ++ Text.ofInt bound ++ ") with ".toList ++
    Text.ofNat (distinct t.pending).length ++ " file(s) left unexpanded".toList)

/-- The files that an entry file reaches in a bounded number of levels. When the bound leaves out
files, a warning says so. -/
def closure (dependencies : Text → m (List Text)) (warn : Text → m PUnit) (entry : Text)
    (bound : Int) :
    m Closure := do
  let t ← fromEntry dependencies entry bound
  if let some message := t.warning? bound then warn message
  pure (t.result entry bound)

end Traversal

namespace Closure

/-- The discovered files in increasing order. -/
def dependencies (c : Closure) : List Text := sorted c.discovered

end Closure

end SourceReach
