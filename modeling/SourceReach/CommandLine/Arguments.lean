import SourceReach.Text.Basic

/-!
# Arguments of a command line

Options and operands. An option starts with a hyphen; its value is the rest of its argument or the
next one. Short options without values may share an argument. Two hyphens alone end the options.
-/

namespace SourceReach

/-- An option that a command knows. -/
structure OptionForm where
  /-- The name behind two hyphens. -/
  long : Text
  /-- The letter behind one hyphen. -/
  short : Option Char := none
  takesValue : Bool := true
  deriving DecidableEq, Repr

/-- The options of a command line by their long names, with their values, and the operands. -/
structure Arguments where
  options : List (Text × Option Text) := []
  operands : List Text := []
  deriving DecidableEq, Repr

namespace Arguments

def addOption (a : Arguments) (name : Text) (value : Option Text) : Arguments :=
  { a with options := (name, value) :: a.options }

def addOperand (a : Arguments) (t : Text) : Arguments := { a with operands := t :: a.operands }

/-- Whether an argument is an option: a hyphen and something behind it. -/
def isOption (t : Text) : Bool := t.head? = some '-' && 1 < t.length

/-- The options in an argument, and the one that waits for its value in the next argument. -/
structure Cluster where
  options : List (Text × Option Text) := []
  waiting : Option Text := none

/-- Reads an argument with two hyphens. -/
def long? (forms : List OptionForm) (t : Text) : Option Cluster := do
  let (name, value) := Text.cut '=' t
  let form ← forms.find? (·.long = name)
  match form.takesValue, value with
  | true, none => some { waiting := some name }
  | false, some _ => none
  | _, v => some { options := [(name, v)] }

/-- Reads the letters behind one hyphen. -/
def short? (forms : List OptionForm) : Text → Option Cluster
  | [] => some {}
  | c :: s => do
    let form ← forms.find? (·.short = some c)
    if form.takesValue then
      if s = [] then some { waiting := some form.long }
        else some { options := [(form.long, some s)] }
    else
      let rest ← short? forms s
      some { rest with options := (form.long, none) :: rest.options }

/-- Reads an argument that is an option. -/
def cluster? (forms : List OptionForm) : Text → Option Cluster
  | '-' :: '-' :: t => long? forms t
  | t => short? forms (t.drop 1)

/-- Puts the options of an argument in front. -/
def addCluster (a : Arguments) (options : List (Text × Option Text)) : Arguments :=
  { a with options := options ++ a.options }

/-- Reads a command line. Where options end at the first operand, all arguments from there on are
operands. -/
def parse? (forms : List OptionForm) (mixed : Bool) : List Text → Option Arguments
  | [] => some {}
  | t :: ts =>
    if t = ['-', '-'] then some { operands := ts }
    else if isOption t then
      match cluster? forms t, ts with
      | none, _ => none
      | some ⟨options, none⟩, ts => (parse? forms mixed ts).map (·.addCluster options)
      | some ⟨_, some _⟩, [] => none
      | some ⟨options, some name⟩, v :: ts =>
        (parse? forms mixed ts).map fun a => (a.addOption name (some v)).addCluster options
    else if mixed then (parse? forms mixed ts).map (·.addOperand t)
    else some { operands := t :: ts }

def has (a : Arguments) (name : Text) : Bool := a.options.any (·.1 = name)

def values (a : Arguments) (name : Text) : List Text :=
  (a.options.filter (·.1 = name)).filterMap (·.2)

/-- The value of an option; of several, the last one counts. -/
def value? (a : Arguments) (name : Text) : Option Text := (a.values name).getLast?

end Arguments

end SourceReach
