import SourceReach.CommandLine.Arguments
import SourceReach.CommandLine.Command
import SourceReach.Number.Numeral

/-!
# Reading command lines

How arguments make a command. A command line that asks for nothing known is refused before anything
happens.
-/

namespace SourceReach

namespace Command

/-- A part of a command line that is read. -/
abbrev Reading (α : Type) := Except Refusal α

/-- The value, or else a command line that is not in order. -/
def orUsage {α : Type} : Option α → Reading α
  | some a => .ok a
  | none => .error .usage

def helpForm : OptionForm := { long := "help".toList, takesValue := false }

/-- The options that come before the name of a command. -/
def generalForms : List OptionForm :=
  [{ long := "version".toList, short := some 'V', takesValue := false }, helpForm]

def projectForms : List OptionForm :=
  [{ long := "src-root".toList, short := some 's' },
    { long := "project-root".toList, short := some 'p' }]

def searchForms : List OptionForm :=
  projectForms ++
    [{ long := "base-package".toList, short := some 'b' }, { long := "segments".toList },
      { long := "format".toList, short := some 'f' },
        { long := "verbose".toList, takesValue := false }, helpForm]

def findForms : List OptionForm :=
  searchForms ++
    [{ long := "max-depth".toList, short := some 'd' }, { long := "collision".toList },
      { long := "changes".toList, takesValue := false },
        { long := "no-changes".toList, takesValue := false },
      { long := "diff-ref".toList }, { long := "changed".toList }]

def indexForms : List OptionForm :=
  projectForms ++ [{ long := "collisions".toList, takesValue := false }, helpForm]

/-- A number from one on; no number is none. An option with another value is refused. -/
def positive (a : Arguments) (name : Text) : Reading (Option Int) :=
  match a.value? name with
  | none => .ok none
  | some t =>
    match Numeral.int? t with
    | some n => if 1 ≤ n then .ok (some n) else .error .usage
    | none => .error .usage

def checkOption (a : Arguments) (name : Text) : Reading Unit :=
  if name = "segments".toList || name = "max-depth".toList then do let _ ← positive a name
  else if name = "project-root".toList then
    if (a.value? name).any (·.contains '\x00') then .error .embeddedNul else .ok ()
  else .ok ()

/-- Checks the values of the options, in the order in which the options came. -/
def checkOptions (a : Arguments) : Reading Unit :=
  (distinct (a.options.map (·.1))).forM (checkOption a)

/-- Whether the output is a document; it is a text when nothing is said. -/
def json (a : Arguments) : Reading Bool :=
  let t := Text.lower ((a.value? "format".toList).getD "text".toList)
  if t = "text".toList then .ok false else if t = "json".toList then .ok true else .error .usage

def scope (a : Arguments) : Reading Scope := do
  return {
    project := (a.value? "project-root".toList).getD ['.']
    root := a.value? "src-root".toList
    base := a.value? "base-package".toList
    segments := ← positive a "segments".toList }

/-- Whether changes are asked for; of several options, the last one counts. -/
def withChanges (a : Arguments) : Bool :=
  ((a.options.map (·.1)).filter fun n => n = "changes".toList || n =
    "no-changes".toList).getLast?.all
    (· = "changes".toList)

def single (a : Arguments) : Reading Text :=
  match a.operands with
  | [t] => .ok t
  | _ => .error .usage

/-- The command that arguments make, or the help they ask for. -/
def orHelp (forms : List OptionForm) (ts : List Text) (f : Arguments → Reading Command) :
    Reading Command := do
  let a ← orUsage (Arguments.parse? forms true ts)
  if a.has "help".toList then return help
  checkOptions a
  f a

def ofFind (a : Arguments) : Reading Command := do
  return find (← single a) (← scope a) (← positive a "max-depth".toList)
    (a.value? "collision".toList)
    (withChanges a) (a.value? "diff-ref".toList) (a.values "changed".toList) (← json a)
    (a.has "verbose".toList)

def ofExplain (a : Arguments) : Reading Command := do
  return explain (← single a) (← scope a) (← json a) (a.has "verbose".toList)

def ofIndex (a : Arguments) : Reading Command := do
  if a.operands ≠ [] then throw .usage
  return index (← scope a) (a.has "collisions".toList)

/-- Whether a text that is no command may be an option: it starts with neither a letter nor a
digit. -/
def mayBeOption (t : Text) : Bool := t.head?.any fun c => !isAlphanumeric c

/-- Reads the name of a command and what follows it, behind options that come before the name and do
without it. What should be the name and may be an option is read as one once more. -/
def named (forms : List OptionForm) (alone : Text → Command)
    (command : Text → List Text → Option (Reading Command))
    (ts : List Text) : Reading Command := do
  if ts = [] then throw .usage
  let a ← orUsage (Arguments.parse? forms false ts)
  match a.options, a.operands with
  | (name, _) :: _, _ => return alone name
  | [], [] => throw .usage
  | [], name :: rest =>
    match command name rest with
    | some c => c
    | none =>
      if !mayBeOption name then throw .usage
      match (← orUsage (Arguments.parse? forms false (name :: rest))).options with
      | (name, _) :: _ => return alone name
      | [] => throw .usage

/-- Reads the arguments of a command about settings that takes no options. -/
def plain (ts : List Text) (f : List Text → Option Command) : Reading Command :=
  orHelp [helpForm] ts fun a => orUsage (f a.operands)

def ofSettings : List Text → Reading Command :=
  named [helpForm] (fun _ => help) fun name ts =>
    if name = "show".toList then some <| plain ts fun
      | [] => some showSettings
      | _ => none
    else if name = "set".toList then some <| plain ts fun
      | [key, value] => some (set key value)
      | _ => none
    else if name = "reset".toList then some <| plain ts fun
      | [] => some reset
      | _ => none
    else none

/-- Reads a command line, if it is in order. -/
def ofArguments : List Text → Reading Command :=
  named generalForms (fun name => if name = "help".toList then help else version) fun name ts =>
    if name = "find".toList then some (orHelp findForms ts ofFind)
    else if name = "explain".toList then some (orHelp searchForms ts ofExplain)
    else if name = "index".toList then some (orHelp indexForms ts ofIndex)
    else if name = "config".toList then some (ofSettings ts)
    else none

end Command

end SourceReach
