import SourceReach.Failure

/-!
# Log messages

A logged computation adds messages to a log, and keeps those it has added when it fails.
-/

namespace SourceReach

/-- How much a message matters. -/
inductive Level where
  | debug
  | info
  | warning
  deriving DecidableEq, Repr

/-- A message with its level. -/
structure LogEntry where
  level : Level
  message : Text
  deriving DecidableEq

/-- A computation that logs and may fail. -/
abbrev Logged := ExceptT Failure (StateM (List LogEntry))

namespace Logged

def log (level : Level) (message : Text) : Logged Unit := modify (· ++ [⟨level, message⟩])

def debug (message : Text) : Logged Unit := log .debug message

/-- Adds a message about the course of a run to the log. -/
def info (message : Text) : Logged Unit := log .info message

def warn (message : Text) : Logged Unit := log .warning message

def fail {α : Type} (e : ConfigurationError) : Logged α := throw (.configuration e)

/-- Goes on with the value of a result, or fails with its failure. -/
def ofExcept {α : Type} : Except Failure α → Logged α
  | .ok a => pure a
  | .error e => throw e

/-- The result and the messages of a computation. -/
def outcome {α : Type} (x : Logged α) : Except Failure α × List LogEntry := x.run.run []

end Logged

end SourceReach
