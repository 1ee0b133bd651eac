import SourceReach.Number.Binary64
import SourceReach.Text.Quoted
import SourceReach.Toml.Moment

/-!
# Values of settings

The values that a settings file holds. A table keeps its keys in the order in which they came.
Messages show the values inside arrays and tables as data, that is texts in quotes.
-/

namespace SourceReach.Toml

/-- A value. A settings file never holds `null`, which stands for no value. -/
inductive Value where
  | null
  | text (t : Text)
  /-- A text with halves of pairs among its code points. -/
  | unpaired (ps : List CodePoint)
  | int (n : Int)
  | float (x : Binary64)
  | bool (b : Bool)
  | moment (m : Moment)
  | array (vs : List Value)
  | table (entries : List (Text × Value))
  deriving Inhabited

/-- Values by key, in the order in which the keys came. -/
abbrev Table := List (Text × Value)

namespace Table

def get? (t : Table) (key : Text) : Option Value := t.lookup key

def has (t : Table) (key : Text) : Bool := (t.get? key).isSome

/-- The table with another value for a key; a new key goes to the end. -/
def set : Table → Text → Value → Table
  | [], key, v => [(key, v)]
  | (k, w) :: t, key, v => if k = key then (k, v) :: t else (k, w) :: set t key v

def erase (t : Table) (key : Text) : Table := t.filter (·.1 ≠ key)

@[simp] theorem get?_set_self (t : Table) (key : Text) (v : Value) :
    (t.set key v).get? key = some v := by
  induction t with
  | nil => simp [set, get?]
  | cons e t ih =>
    obtain ⟨k, w⟩ := e
    by_cases h : k = key
    · simp [set, get?, h]
    · simpa [set, get?, h, List.lookup_cons, Ne.symm h, beq_eq_false_iff_ne.2 (Ne.symm h)] using ih

theorem get?_set_of_ne {key other : Text} (h : other ≠ key) (t : Table) (v : Value) :
    (t.set key v).get? other = t.get? other := by
  induction t with
  | nil => simp [set, get?, List.lookup_cons, beq_eq_false_iff_ne.2 h]
  | cons e t ih =>
    obtain ⟨k, w⟩ := e
    by_cases hk : k = key
    · subst hk
      simp [set, get?, List.lookup_cons, beq_eq_false_iff_ne.2 h]
    · simp only [set, hk, if_false, get?, List.lookup_cons] at ih ⊢
      rw [ih]

end Table

namespace Value

/-- The kinds of values; an array has values of one kind. -/
inductive Kind where
  | null
  | text
  | int
  | float
  | bool
  | clock
  | date
  | array
  | table
  deriving DecidableEq

def kind : Value → Kind
  | null => .null
  | text _ | unpaired _ => .text
  | int _ => .int
  | float _ => .float
  | bool _ => .bool
  | moment (.clock _) => .clock
  | moment _ => .date
  | array _ => .array
  | table _ => .table

/-- Whether a value says more than nothing: no zero, no falsehood, nothing empty. -/
def isTruthy : Value → Bool
  | null => false
  | text t => !t.isEmpty
  | unpaired ps => !ps.isEmpty
  | int n => n ≠ 0
  | float x => !x.isZero
  | bool b => b
  | moment _ => true
  | array vs => !vs.isEmpty
  | table entries => !entries.isEmpty

def boolText (b : Bool) : Text := if b then "True".toList else "False".toList

def commas (ns : List Nat) : Text := Text.joined ", ".toList (ns.map Text.ofNat)

/-- The parts of a time that are shown: the fraction and the seconds are left out when they are
zero. -/
def clockParts (c : Clock) : List Nat :=
  if c.micro ≠ 0 then [c.hour, c.minute, c.second, c.micro]
  else if c.second ≠ 0 then [c.hour, c.minute, c.second] else [c.hour, c.minute]

def momentData : Moment → Text
  | .day d => "datetime.date(".toList ++ commas [d.year, d.month, d.day] ++ [')']
  | .clock c => "datetime.time(".toList ++ commas (clockParts c) ++ [')']
  | .both d c _ =>
    "datetime.datetime(".toList ++ commas ([d.year, d.month, d.day] ++ clockParts c) ++ [')']

def shownData : Value → Text
  | null => "None".toList
  | text t => Text.quoted t
  | unpaired ps => Text.quotedPoints ps
  | int n => Text.ofInt n
  | float x => x.toText
  | bool b => boolText b
  | moment m => momentData m
  | array vs => ['['] ++ Text.joined ", ".toList (listData vs) ++ [']']
  | table entries => ['\x7b'] ++ Text.joined ", ".toList (entriesData entries) ++ ['\x7d']
where
  /-- Values as data. -/
  listData : List Value → List Text
    | [] => []
    | v :: vs => shownData v :: listData vs
  /-- Keys and values as data. -/
  entriesData : List (Text × Value) → List Text
    | [] => []
    | (k, v) :: es => (Text.quoted k ++ ": ".toList ++ shownData v) :: entriesData es

/-- Whether a value has a text as data: its integers have no more digits than a numeral may have. -/
def hasData : Value → Bool
  | int n => Numeral.hasText n
  | array vs => listHasData vs
  | table entries => entriesHaveData entries
  | _ => true
where
  /-- Whether values have texts as data. -/
  listHasData : List Value → Bool
    | [] => true
    | v :: vs => hasData v && listHasData vs
  /-- Whether the values of entries have texts as data. -/
  entriesHaveData : List (Text × Value) → Bool
    | [] => true
    | (_, v) :: es => hasData v && entriesHaveData es

/-- Whether a value has a text in a message. -/
def hasText : Value → Bool
  | moment m => m.hasText
  | v => v.hasData

/-- The value of a text in code points. -/
def ofPoints (ps : List CodePoint) : Value := ((CodePoint.text? ps).map text).getD (unpaired ps)

/-- A value in a message: a text is shown as it is. -/
def shown : Value → Text
  | text t => t
  | unpaired ps => Text.ofPoints ps
  | moment m => m.toText ' '
  | v => v.shownData

end Value

end SourceReach.Toml
