import SourceReach.Text.Basic
import SourceReach.Text.Case
import SourceReach.Text.Word

/-!
# Numerals

How a text is read as an integer: blanks around it, a sign, and decimal digits of any script with
single underscores between them. A numeral with more than `Numeral.digitLimit` digits is refused.
-/

namespace SourceReach.Numeral

/-- A blank that may stand at the ends of a numeral: any but the four separators of files, groups,
records and units. -/
def isMargin (c : Char) : Bool := isBlank c && !(0x1C ≤ c.toNat && c.toNat ≤ 0x1F)

/-- The text without the blanks that may stand at the ends of a numeral. -/
def trimmed (t : Text) : Text := Text.dropEnd isMargin (t.dropWhile isMargin)

/-- The digits that a decimal numeral may have at most. -/
def digitLimit : Nat := 4300

/-- A sign taken off the front of a text, and whether it is a minus. -/
def signed : Text → Bool × Text
  | '-' :: s => (true, s)
  | '+' :: s => (false, s)
  | s => (false, s)

/-- The value of a digit in a base of at most 36. -/
def digitIn? (base : Nat) (c : Char) : Option Nat :=
  let v := match digitValue? c with
    | some d => some d
    | none =>
      if 'a' ≤ c ∧ c ≤ 'z' then some (c.toNat - 'a'.toNat + 10)
      else if 'A' ≤ c ∧ c ≤ 'Z' then some (c.toNat - 'A'.toNat + 10)
      else none
  v.filter (· < base)

/-- The values of the digits, between which there may be single underscores. -/
def digits? (base : Nat) : Text → Option (List Nat)
  | [] => none
  | [c] => (digitIn? base c).map ([·])
  | c :: '_' :: s => do return (← digitIn? base c) :: (← digits? base s)
  | c :: d :: s => do return (← digitIn? base c) :: (← digits? base (d :: s))

def value (base : Nat) (ds : List Nat) : Nat := ds.foldl (fun n d => n * base + d) 0

def withSign (negative : Bool) (n : Nat) : Int := if negative then -n else n

/-- Whether a number has no more than the digits that a decimal numeral may have. -/
def hasText (n : Int) : Bool := n.natAbs < Nat.pow 10 digitLimit

def decimal? (t : Text) : Option Nat := do
  let ds ← digits? 10 t
  if digitLimit < ds.length then none else some (value 10 ds)

def int? (t : Text) : Option Int :=
  let (negative, t) := signed (trimmed t)
  (decimal? t).map (withSign negative)

/-- The base that two characters at the front of a numeral announce. -/
def announcedBase? (c : Char) : Option Nat :=
  if c = 'x' ∨ c = 'X' then some 16 else if c = 'o' ∨ c = 'O' then some 8
  else if c = 'b' ∨ c = 'B' then some 2 else none

/-- A numeral without sign that may announce its base. A decimal numeral starts with no zero unless
it is made of zeros; an underscore may follow the announcement. -/
def announced? (t : Text) : Option Nat :=
  match t with
  | '0' :: c :: s =>
    match announcedBase? c with
    | some base => (digits? base (if s.head? = some '_' then s.drop 1 else s)).map (value base)
    | none => do
      let ds ← digits? 10 t
      if ds.all (· = 0) && ds.length ≤ digitLimit then some 0 else none
  | _ => do
    let ds ← digits? 10 t
    if ds.head? = some 0 && !ds.all (· = 0) then none
    else if digitLimit < ds.length then none
    else some (value 10 ds)

/-- The integer that a text stands for when it may announce its base. -/
def anyBase? (t : Text) : Option Int :=
  let (negative, t) := signed (trimmed t)
  (announced? t).map (withSign negative)

example : int? " -1_0 ".toList = some (-10) := by decide

end SourceReach.Numeral
