import SourceReach.Settings.Basic
import SourceReach.Toml.Format

/-!
# The settings file

Settings are kept in a file of the configuration directory. What fails before the file is written
leaves it as it is.
-/

namespace SourceReach

open Toml (Value Table)

/-- A computation that reads and changes files, and may fail. -/
abbrev Storing := ExceptT Failure (StateM FileTree)

/-- The settings file in a configuration directory, which is anchored and has no double dots. -/
structure SettingsFile where
  directory : Path
  format : Toml.Format

namespace SettingsFile

def path (f : SettingsFile) : Path :=
  ⟨f.directory.anchor, f.directory.parts ++ ["config.toml".toList]⟩

/-- The defect that a fault of the format is. -/
def defect : Toml.Fault → Defect
  | .missingPart => .missingPart
  | .wrongType => .wrongType
  | .noArray => .unsupported
  | .outOfRange => .outOfRange
  | .namelessText => .namelessText
  | .unwritable => .unwritable

/-- The failure that a problem of the file means. -/
def failure (f : SettingsFile) : Toml.Problem → Failure
  | .malformed => .configuration (.settingsUnreadable f.path)
  | .fault e => .defect (defect e)

/-- The configuration that the bytes of the file stand for. -/
def parse (f : SettingsFile) (content : Bytes) : Except Failure Table :=
  match Utf8.decode? content with
  | none => .error (.defect .undecodable)
  | some t => (f.format.read (Text.unixLines t)).mapError f.failure

/-- The configuration in a file tree; without the file it is empty. -/
def configuration (f : SettingsFile) (tree : FileTree) : Except Failure Table := do
  if !(← Except.expected (tree.contains f.path)) then return []
  match tree.read f.path with
  | .ok content => f.parse content
  | .error _ => throw (.configuration (.settingsUnreadable f.path))

/-- Writes a configuration. One that cannot be written leaves an empty file. -/
def write (f : SettingsFile) (config : Table) : Storing Unit := do
  let tree ← get
  ExceptT.mk (pure (Except.expected (tree.checkDirectory f.directory)))
  match f.format.write config with
  | .ok t => set (tree.write f.path.parts (Utf8.encode t))
  | .error e =>
    set (tree.write f.path.parts [])
    throw (.defect (defect e))

/-- The settings in effect. -/
def load (f : SettingsFile) : Storing Settings := do
  let config ← ExceptT.mk (return f.configuration (← get))
  ExceptT.mk (pure (Settings.ofConfiguration config))

/-- Sets a value; the settings then in effect. -/
def save (f : SettingsFile) (name : Text) (v : Value) : Storing Settings := do
  match SettingKey.ofName? name with
  | none => throw (.configuration (.unknownSetting name))
  | some key =>
    let config ← ExceptT.mk (return f.configuration (← get))
    let (settings, config) ← ExceptT.mk (pure (Settings.save config key v))
    f.write config
    return settings

/-- Removes all that is set; whether there was a section to remove. -/
def reset (f : SettingsFile) : Storing Bool := do
  let config ← ExceptT.mk (return f.configuration (← get))
  match Settings.reset? config with
  | none => return false
  | some config =>
    f.write config
    return true

end SettingsFile

end SourceReach
