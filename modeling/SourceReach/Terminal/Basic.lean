import SourceReach.Log

/-!
# Terminals

A terminal decides what is shown of what is printed. Reports and commands are written for whatever
terminal is given, so all that is said of them holds for every one; `Terminal.standard` is the one
that the program runs with.
-/

namespace SourceReach

/-- A table: its title, the names of its columns, and its rows. Title and cells are marked-up
texts. -/
structure BoxTable where
  title : Text
  header : List Text
  rows : List (List Text)
  deriving DecidableEq, Repr

/-- What is shown of marked-up text, plain text, tables and messages. Markup that is not in order is
a defect. -/
structure Terminal where
  marked : Text → Except Defect Text
  plain : Text → Text
  table : BoxTable → Except Defect Text
  message : LogEntry → Text

end SourceReach
