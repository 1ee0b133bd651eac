import SourceReach.Toml.Value

/-!
# Formats of configurations

A configuration is kept as a text. Settings are stored in whatever format is given, so all that is
said of them holds for every reader and writer; `Toml.Reader` and `Toml.Writer` are the ones that
the program runs with.
-/

namespace SourceReach.Toml

/-- A reader and a writer of configurations. -/
structure Format where
  read : Text → Read Table
  write : Table → Except Fault Text

end SourceReach.Toml
