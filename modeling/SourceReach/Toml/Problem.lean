/-!
# Problems with settings files

What keeps a text from being read as a configuration, or a configuration from being written.
-/

namespace SourceReach.Toml

/-- What goes wrong in reading or writing although no text is malformed. -/
inductive Fault where
  /-- A part is missing where one has to be. -/
  | missingPart
  /-- A key leads through a value that has no keys. -/
  | wrongType
  /-- A header adds a table to a value that is no array. -/
  | noArray
  /-- A number is out of the range of its kind. -/
  | outOfRange
  /-- A text in triple quotes goes on in the next line, and its key is empty. -/
  | namelessText
  /-- A value has no text: a number with too many digits, or a time too far from universal time. -/
  | unwritable
  deriving DecidableEq, Repr

/-- What is wrong with a text that is to be read. -/
inductive Problem where
  /-- The text is no settings file. -/
  | malformed
  | fault (f : Fault)
  deriving DecidableEq, Repr

abbrev Read (α : Type) := Except Problem α

/-- The value, or else a malformed text. -/
def wellFormed {α : Type} : Option α → Read α
  | some a => .ok a
  | none => .error .malformed

end SourceReach.Toml
