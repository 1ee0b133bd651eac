import SourceReach.Failure
import SourceReach.NameIndex.Basic
import SourceReach.Settings.Key
import SourceReach.Shell
import SourceReach.Toml.Value

/-!
# Settings

The settings in effect are the defaults with the values of the section `discovery` over them. A
value is brought into the type of its key where it can be, and the settings are checked as a whole.
-/

namespace SourceReach

open Toml (Value Table)

/-- How projects are searched. Where the settings file may hold any value, so may the settings. -/
structure Settings where
  sourceRoot : Value := .text "src/main/java".toList
  maxDepth : Int := 50
  segments : Int := 2
  strategy : Value := .text Strategy.last.name
  extension : Value := .text ".java".toList
  diffCommand : Value := .array [.text "git".toList, .text "diff".toList,
    .text "--name-only".toList]

namespace Settings

/-- The value of a key as an integer. A truth value counts as zero or one, and a fraction is cut
off. -/
def integer (key : SettingKey) (v : Value) : Except Failure Int :=
  let refused := Except.error
    (if v.hasText then .configuration (.notAnInteger key.name v.shown) else .defect .unwritable)
  match v with
  | .int n => .ok n
  | .bool b => .ok (if b then 1 else 0)
  | .text t => ((Numeral.int? t).map Except.ok).getD refused
  | .float x@(.finite ..) => .ok x.toInt
  | .float (.infinite _) => .error (.defect .outOfRange)
  | _ => refused

/-- The value of a command that has been cut into words, if it could be. -/
def command : Option (List Value) → Except Failure Value
  | some words => .ok (.array words)
  | none => .error (.defect .unbalancedQuotes)

/-- A value brought into the type of its key. A command that is a text is cut into words. -/
def coerce (key : SettingKey) (v : Value) : Except Failure Value :=
  match key, v with
  | .maxDepth, v | .segments, v => (integer key v).map .int
  | .diffCommand, .text t => command ((Shell.split? t).map (·.map .text))
  | .diffCommand, .unpaired ps => command ((Shell.splitPoints? ps).map (·.map .ofPoints))
  | _, v => .ok v

/-- The settings with another value for a key, brought into its type before. -/
def put (s : Settings) : SettingKey → Value → Settings
  | .sourceRoot, v => { s with sourceRoot := v }
  | .maxDepth, .int n => { s with maxDepth := n }
  | .segments, .int n => { s with segments := n }
  | .maxDepth, _ | .segments, _ => s
  | .strategy, v => { s with strategy := v }
  | .extension, v => { s with extension := v }
  | .diffCommand, v => { s with diffCommand := v }

def get (s : Settings) : SettingKey → Value
  | .sourceRoot => s.sourceRoot
  | .maxDepth => .int s.maxDepth
  | .segments => .int s.segments
  | .strategy => s.strategy
  | .extension => s.extension
  | .diffCommand => s.diffCommand

/-- The settings with values for some keys, one after the other. -/
def override (s : Settings) : List (SettingKey × Value) → Except Failure Settings
  | [] => .ok s
  | (key, v) :: rest => do (s.put key (← coerce key v)).override rest

def isStrategy : Value → Bool
  | .text t => (Strategy.ofName? t).isSome
  | _ => false

/-- Checks an extension: a text that starts with a dot. -/
def checkExtension : Value → Except Failure Unit
  | .text t => if t.head? = some '.' then .ok () else .error (.configuration (.extensionUndotted t))
  | .unpaired ps =>
    if ps.head? = some (.char '.') then .ok ()
    else .error (.configuration (.extensionUndotted (Text.ofPoints ps)))
  | _ => .error (.defect .unsupported)

/-- Whether a number is less than one. A truth value counts as zero or one. -/
def isBelowOne : Value → Except Failure Bool
  | .int n => .ok (n < 1)
  | .bool b => .ok !b
  | .float x => .ok x.isBelowOne
  | _ => .error (.defect .wrongType)

/-- Checks a number that has to be one at least. -/
def checkCount (error : Text → ConfigurationError) (v : Value) : Except Failure Unit := do
  if ← isBelowOne v then
    throw (if v.hasText then .configuration (error v.shown) else .defect .unwritable)

/-- Checks the values of the keys. The first of several faults counts. -/
def check (value : SettingKey → Value) : Except Failure Unit := do
  checkCount .depthTooSmall (value .maxDepth)
  checkCount .segmentsTooFew (value .segments)
  if !isStrategy (value .strategy) then throw (.configuration .strategyInvalid)
  checkExtension (value .extension)
  if !(value .diffCommand).isTruthy then throw (.configuration .diffCommandEmpty)

/-- The settings, if they can be used. -/
def validate (s : Settings) : Except Failure Settings := do
  check s.get
  return s

def sectionName : Text := "discovery".toList

/-- The known keys that a table has, with their values, in the order in which keys are listed. -/
def listedEntries (t : Table) : List (SettingKey × Value) :=
  SettingKey.all.filterMap fun k => (t.get? k.name).map (k, ·)

/-- The known keys that a table has, with their values, in the order of the table. -/
def storedEntries (t : Table) : List (SettingKey × Value) :=
  t.filterMap fun e => (SettingKey.ofName? e.1).map (·, e.2)

/-- Whether a value that is no table seems to have a key: a text that it is a part of, or an array
with it. -/
def seemsToHave (v : Value) (key : SettingKey) : Bool :=
  match v with
  | .text t => Text.isPartOf key.name t
  | .unpaired ps => Text.isPartOf key.name (Text.ofPoints ps)
  | .array vs => vs.any fun
    | .text t => t = key.name
    | _ => false
  | _ => true

/-- The values for known keys in the section. What is no table has none; to find a key in it all the
same is a defect. -/
def entries (v : Option Value) : Except Failure (List (SettingKey × Value)) :=
  match v with
  | none => .ok []
  | some (.table t) => .ok (listedEntries t)
  | some v => if SettingKey.all.any (seemsToHave v) then .error (.defect .wrongType) else .ok []

/-- The settings that a configuration puts into effect. -/
def ofConfiguration (config : Table) : Except Failure Settings := do
  (← ({} : Settings).override (← entries (config.get? sectionName))).validate

/-- Sets a key in the section. A section that is no table cannot take it. -/
def setIn (v : Option Value) (key : SettingKey) (coerced : Value) : Except Failure Table :=
  match v with
  | none => .ok (Table.set [] key.name coerced)
  | some (.table t) => .ok (Table.set t key.name coerced)
  | some _ => .error (.defect .wrongType)

/-- A configuration with a value for a key, and the settings that it puts into effect. -/
def save (config : Table) (key : SettingKey) (v : Value) : Except Failure (Settings × Table) := do
  let coerced ← coerce key v
  let table ← setIn (config.get? sectionName) key coerced
  let settings ← (← ({} : Settings).override (storedEntries table)).validate
  return (settings, config.set sectionName (.table table))

/-- A configuration without the section, if it has one. -/
def reset? (config : Table) : Option Table :=
  if config.has sectionName then some (config.erase sectionName) else none

end Settings

end SourceReach
