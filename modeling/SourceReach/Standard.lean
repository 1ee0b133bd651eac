import SourceReach.CommandLine.Reading
import SourceReach.CommandLine.Session
import SourceReach.Terminal.Output
import SourceReach.Toml.Reader
import SourceReach.Toml.Writer

/-!
# What the program runs with

The format of the settings file, the way command lines are read, and the terminal. Nothing else
depends on these: what is said of settings and commands in general is said for all formats, readings
and terminals.
-/

namespace SourceReach

def Toml.Format.standard : Toml.Format := ⟨Toml.Reader.table, Toml.Writer.file⟩

namespace Markup

/-- The defect that a problem with marked-up text is. -/
def Problem.defect : Problem → Defect
  | .unbalanced => .unbalancedMarkup
  | .noNumber => .malformedColour

end Markup

/-- A terminal of some columns without colours. -/
def Terminal.standard (columns : Nat) : Terminal where
  marked t := (Output.marked columns t).mapError Markup.Problem.defect
  plain := Output.echoed
  table t := (Output.table columns t).mapError Markup.Problem.defect
  message := Output.message columns

/-- Surroundings with the settings file in a directory and a terminal of some columns. -/
def Surroundings.standard (here directory : Path) (columns : Nat)
    (listing : List Toml.Value → ListingOutcome) :
    Surroundings where
  here
  settings := ⟨directory, .standard⟩
  listing
  command := Command.ofArguments
  terminal := .standard columns

end SourceReach
