import SourceReach.Number.Binary64
import SourceReach.Toml.Problem

/-!
# Dates and times

Days of the calendar, times of the day and both together, as far as they stand in settings: they are
read, kept and written again, and never computed with.
-/

namespace SourceReach

open Toml (Read)

/-- A day of the calendar. -/
structure Day where
  year : Nat
  month : Nat
  day : Nat
  deriving DecidableEq, Repr

/-- A time of the day, in millionths of a second. -/
structure Clock where
  hour : Nat
  minute : Nat
  second : Nat
  micro : Nat := 0
  deriving DecidableEq, Repr

/-- A day, a time of the day, or both with perhaps a distance from universal time in minutes. -/
inductive Moment where
  | day (d : Day)
  | clock (c : Clock)
  | both (d : Day) (c : Clock) (offset : Option Int)
  deriving DecidableEq, Repr

namespace Moment

def monthLength (year month : Nat) : Nat :=
  if month = 2 then if year % 4 = 0 ∧ (year % 100 ≠ 0 ∨ year % 400 = 0) then 29 else 28
  else if month ∈ [4, 6, 9, 11] then 30 else 31

/-- The day of a year, a month and a number, if there is one. -/
def day? (year month day : Int) : Option Day :=
  if 1 ≤ year ∧ year ≤ 9999 ∧ 1 ≤ month ∧ month ≤ 12 ∧ 1 ≤ day ∧
      day ≤ monthLength year.toNat month.toNat then
    some ⟨year.toNat, month.toNat, day.toNat⟩
  else none

/-- The time of an hour, a minute, a second and a fraction, if there is one. -/
def clock? (hour minute second micro : Int) : Option Clock :=
  if 0 ≤ hour ∧ hour < 24 ∧ 0 ≤ minute ∧ minute < 60 ∧ 0 ≤ second ∧ second < 60 ∧ 0 ≤ micro ∧
      micro < 1000000 then
    some ⟨hour.toNat, minute.toNat, second.toNat, micro.toNat⟩
  else none

def span (start stop : Nat) (t : Text) : Text := (t.take stop).drop start

/-- A distance from universal time: a sign, hours, a separator and minutes. The letter Z is no
distance. -/
def offset? (t : Text) : Option Int := do
  let t := if t = ['Z'] then "+00:00".toList else t
  let hours ← Numeral.int? (span 1 3 t)
  let minutes ← Numeral.int? (span 4 6 t)
  let distance := hours * 60 + minutes
  return if t.head? = some '-' then -distance else distance

/-- The millionths of a second that a fraction of `count` digits with the value `n` stands for. Of
more than six digits the value becomes a floating point number, is scaled down as one, and loses its
fraction. -/
def micro (count : Nat) (n : Int) : Read Int :=
  if count ≤ 6 then .ok (n * Nat.pow 10 (6 - count))
  else match Binary64.ofInt n with
    | .infinite _ => .error (.fault .outOfRange)
    | x => .ok (x.mul (.ofDecimal false 1 (6 - count))).toInt

/-- The text up to the first character of a class, and the text from there on if there is one. -/
def cutBefore (p : Char → Bool) (t : Text) : Text × Option Text :=
  let head := t.takeWhile (!p ·)
  (head, if head.length < t.length then some (t.drop head.length) else none)

/-- The fraction of a second and the distance from universal time that follow a point. -/
def fractionAndOffset (t : Text) : Text × Option Text :=
  match t.getLast? with
  | some 'Z' | some 'z' => (t.dropLast, some ['Z'])
  | _ => if t.contains '+' then cutBefore (· = '+') t else cutBefore (· = '-') t

/-- What follows the seconds of a date with a time: the millionths of a second and the distance.
When a part of it cannot be read, none counts as given. -/
def tail (t : Text) : Read (Int × Option Int) :=
  match t with
  | [] => .ok (0, none)
  | '.' :: t =>
    let (fraction, offset) := fractionAndOffset t
    match offset.map offset? with
    | some none => .ok (0, none)
    | distance =>
      match Numeral.int? fraction with
      | none => .ok (0, none)
      | some n => do return (← micro fraction.length n, distance.join)
  | t => .ok (0, offset? t)

/-- The day of ten characters. The separators may be any characters. -/
def dayOf? (t : Text) : Option Day := do
  day? (← Numeral.int? (span 0 4 t)) (← Numeral.int? (span 5 7 t)) (← Numeral.int? (span 8 10 t))

/-- The time of the day from the eleventh character on. -/
def clockOf? (micro : Int) (t : Text) : Option Clock := do
  clock? (← Numeral.int? (span 11 13 t)) (← Numeral.int? (span 14 16 t))
    (← Numeral.int? (span 17 19 t)) micro

/-- The date, or the date with a time, that a text with a hyphen after its first character stands
for. -/
def ofDateText? (t : Text) : Read (Option Moment) := do
  let (micro, offset) ← tail (t.drop 19)
  return (
    if !(t.drop 1).contains '-' then none
    else if t.length = 10 then (dayOf? t).map day
    else (dayOf? t).bind fun d => (clockOf? micro t).map fun c => both d c offset)

def isDigit (c : Char) : Bool := '0' ≤ c && c ≤ '9'

/-- The digits of a fraction at the front of a text: three to six after a point, or none. -/
def fractionDigits : Text → Text
  | '.' :: t =>
    let ds := (t.takeWhile isDigit).take 6
    if 3 ≤ ds.length then ds else []
  | _ => []

/-- Hours, minutes and seconds at the front of a text, and the digits of a fraction behind them. -/
def clockDigits? : Text → Option (Text × Text × Text × Text)
  | a :: b :: ':' :: c :: d :: ':' :: e :: f :: rest =>
    if [a, b, c, d, e, f].all isDigit then some ([a, b], [c, d], [e, f], fractionDigits rest)
      else none
  | _ => none

def padded (width n : Nat) : Text :=
  let ds := Text.ofNat n
  List.replicate (width - ds.length) '0' ++ ds

def dayText (d : Day) : Text :=
  padded 4 d.year ++ ['-'] ++ padded 2 d.month ++ ['-'] ++ padded 2 d.day

def clockText (c : Clock) : Text :=
  padded 2 c.hour ++ [':'] ++ padded 2 c.minute ++ [':'] ++ padded 2 c.second ++
    if c.micro = 0 then [] else '.' :: padded 6 c.micro

def offsetText (o : Int) : Text :=
  [if o < 0 then '-' else '+'] ++ padded 2 (o.natAbs / 60) ++ [':'] ++ padded 2 (o.natAbs % 60)

def hasText : Moment → Bool
  | both _ _ (some o) => o.natAbs < 24 * 60
  | _ => true

/-- The text of a moment, with a separator between day and time. -/
def toText (sep : Char) : Moment → Text
  | day d => dayText d
  | clock c => clockText c
  | both d c offset => dayText d ++ [sep] ++ clockText c ++ (offset.map offsetText).getD []

end Moment

end SourceReach
