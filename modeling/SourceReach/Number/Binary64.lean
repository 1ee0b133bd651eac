import SourceReach.Number.Numeral

/-!
# Floating point numbers

A number of 64 bits as its sign, a whole significand below 2⁵³ and a power of two. A decimal
fraction is read as the nearest such number, and a number is written with the fewest digits that
read back as it.
-/

namespace SourceReach

/-- A binary floating point number. -/
inductive Binary64 where
  | nan
  | infinite (negative : Bool)
  /-- The value is the significand times two to the exponent. -/
  | finite (negative : Bool) (significand : Nat) (exponent : Int)
  deriving DecidableEq, Repr

namespace Binary64

/-- The quotient of two numbers to the nearest whole number; a half goes to the even neighbour. -/
def nearestQuotient (num den : Nat) : Nat :=
  let q := num / den
  let r := num % den
  if 2 * r < den then q else if den < 2 * r then q + 1 else if q % 2 = 0 then q else q + 1

def leastExponent : Int := -1074

def greatestExponent : Int := 971

def scaled (num den : Nat) (e : Int) : Nat × Nat :=
  if 0 ≤ e then (num, den * Nat.pow 2 e.toNat) else (num * Nat.pow 2 (-e).toNat, den)

/-- The exponent with which a fraction has a significand of 53 bits, or the least one. -/
def exponentFor (num den : Nat) : Int :=
  let e := (num.log2 : Int) - den.log2 - 53
  let s := scaled num den e
  max leastExponent (if Nat.pow 2 53 ≤ s.1 / s.2 then e + 1 else e)

/-- The nearest number to a fraction. -/
def ofFraction (negative : Bool) (num den : Nat) : Binary64 :=
  if num = 0 then finite negative 0 leastExponent
  else
    let e := exponentFor num den
    let s := scaled num den e
    let m := nearestQuotient s.1 s.2
    let (m, e) := if m = Nat.pow 2 53 then (Nat.pow 2 52, e + 1) else (m, e)
    if greatestExponent < e then infinite negative else finite negative m e

/-- The nearest number to `n` times ten to the power of `e`. -/
def ofDecimal (negative : Bool) (n : Nat) (e : Int) : Binary64 :=
  if n = 0 then finite negative 0 leastExponent
  else
    let magnitude := (n.log2 : Int) * 3 / 10 + e
    if 400 < magnitude then infinite negative
    else if magnitude < -2000 then finite negative 0 leastExponent
    else if 0 ≤ e then ofFraction negative (n * Nat.pow 10 e.toNat) 1
    else ofFraction negative n (Nat.pow 10 (-e).toNat)

def negate : Binary64 → Binary64
  | nan => nan
  | infinite s => infinite !s
  | finite s m e => finite (!s) m e

/-- Zero minus the number: unlike `negate` it leaves no negative zero. -/
def zeroMinus : Binary64 → Binary64
  | finite _ 0 e => finite false 0 e
  | x => x.negate

def isZero : Binary64 → Bool
  | finite _ m _ => m = 0
  | _ => false

def isBelowOne : Binary64 → Bool
  | nan => false
  | infinite s => s
  | finite s m e => s || (if 0 ≤ e then m = 0 else m < Nat.pow 2 (-e).toNat)

def ofInt (n : Int) : Binary64 := ofFraction (n < 0) n.natAbs 1

def mul : Binary64 → Binary64 → Binary64
  | finite s m e, finite t n f =>
    let d := e + f
    if 0 ≤ d then ofFraction (s != t) (m * n * Nat.pow 2 d.toNat) 1
    else ofFraction (s != t) (m * n) (Nat.pow 2 (-d).toNat)
  | nan, _ | _, nan => nan
  | infinite s, finite t n _ | finite t n _, infinite s => if n = 0 then nan else infinite (s != t)
  | infinite s, infinite t => infinite (s != t)

/-- A finite number without its fraction. -/
def toInt : Binary64 → Int
  | finite s m e =>
    Numeral.withSign s (if 0 ≤ e then m * Nat.pow 2 e.toNat else m / Nat.pow 2 (-e).toNat)
  | _ => 0

/-! ## Reading -/

/-- The digits in front, single underscores between them, and what follows. -/
def digitRun (t : Text) : Text × Text :=
  let run := t.takeWhile fun c => (digitValue? c).isSome || c = '_'
  (run, t.drop run.length)

/-- The digits of a run. No digits at all are allowed, but an underscore has a digit on each
side. -/
def runDigits? (run : Text) : Option (List Nat) :=
  if run = [] then some [] else Numeral.digits? 10 run

/-- The exponent part at the end of a numeral. -/
def exponentPart? : Text → Option Int
  | [] => some 0
  | c :: t =>
    if c ≠ 'e' ∧ c ≠ 'E' then none
    else
      let (negative, t) := Numeral.signed t
      (Numeral.digits? 10 t).map fun ds => Numeral.withSign negative (Numeral.value 10 ds)

/-- A decimal numeral without sign: digits with perhaps a point among them, and perhaps an
exponent. -/
def ofNumeral? (negative : Bool) (t : Text) : Option Binary64 := do
  let (whole, rest) := digitRun t
  let (fraction, rest) := match rest with
    | '.' :: rest => digitRun rest
    | _ => ([], rest)
  let ws ← runDigits? whole
  let fs ← runDigits? fraction
  if ws ++ fs = [] then none
  let e ← exponentPart? rest
  return ofDecimal negative (Numeral.value 10 (ws ++ fs)) (e - fs.length)

/-- The number that a text stands for: a decimal numeral, or a name for what is no finite number. -/
def ofText? (t : Text) : Option Binary64 :=
  let (negative, t) := Numeral.signed (Numeral.trimmed t)
  let name := Text.lower (t.take ("infinity".length + 1))
  if name = "inf".toList ∨ name = "infinity".toList then some (infinite negative)
  else if name = "nan".toList then some nan
  else ofNumeral? negative t

/-! ## Writing -/

/-- The number of the leading decimal digit of a positive fraction: zero for the ones. -/
def leadingPlace (num den : Nat) : Int :=
  if den ≤ num then ((Nat.toDigits 10 (num / den)).length : Int) - 1 else below 400 num 0
where
  /-- Goes down place by place. -/
  below : Nat → Nat → Int → Int
    | 0, _, p => p
    | fuel + 1, n, p => if den ≤ n then p else below fuel (n * 10) (p - 1)

/-- The decimal with `count` digits that is nearest to a fraction whose leading digit has place `p`,
and the place of its last digit. -/
def nearestDecimal (num den : Nat) (p : Int) (count : Nat) : Nat × Int :=
  let e := p - count + 1
  (if 0 ≤ e then nearestQuotient num (den * Nat.pow 10 e.toNat)
    else nearestQuotient (num * Nat.pow 10 (-e).toNat) den, e)

/-- The digits and the place of the last one, for the fewest digits from `count` on that read back;
at most `fuel` more digits are tried. -/
def shortestFrom (m : Nat) (x : Int) (num den : Nat) (p : Int) : Nat → Nat → Nat × Int
  | 0, count => nearestDecimal num den p count
  | fuel + 1, count =>
    let d := nearestDecimal num den p count
    if ofDecimal false d.1 d.2 = finite false m x then d
      else shortestFrom m x num den p fuel (count + 1)

/-- The fewest digits that read back as a positive number, and the place of the last one. -/
def shortest (m : Nat) (x : Int) : Nat × Int :=
  let (num, den) := if 0 ≤ x then (m * Nat.pow 2 x.toNat, 1) else (m, Nat.pow 2 (-x).toNat)
  shortestFrom m x num den (leadingPlace num den) 16 1

def dropZeros : Nat → Nat × Int → Nat × Int
  | 0, d => d
  | fuel + 1, d => if d.1 % 10 = 0 ∧ d.1 ≠ 0 then dropZeros fuel (d.1 / 10, d.2 + 1) else d

/-- The text of an exponent: a sign and at least two digits. -/
def exponentText (e : Int) : Text :=
  let ds := Text.ofNat e.natAbs
  [if e < 0 then '-' else '+'] ++ List.replicate (2 - ds.length) '0' ++ ds

/-- Digits with a point among them, or with an exponent when the leading digit is far from the
point. -/
def decimalText (d : Nat × Int) : Text :=
  let ds := Text.ofNat d.1
  let p : Int := d.2 + ds.length - 1
  if p < -4 ∨ 16 ≤ p then
    ds.take 1 ++ (if ds.length = 1 then [] else '.' :: ds.drop 1) ++ ['e'] ++ exponentText p
  else if p < 0 then ['0', '.'] ++ List.replicate (-p - 1).toNat '0' ++ ds
  else if 0 ≤ d.2 then ds ++ List.replicate d.2.toNat '0' ++ ['.', '0']
  else ds.take (p + 1).toNat ++ ['.'] ++ ds.drop (p + 1).toNat

/-- The shortest text that reads back as the number. -/
def toText : Binary64 → Text
  | nan => "nan".toList
  | infinite s => (if s then ['-'] else []) ++ "inf".toList
  | finite s m e =>
    (if s then ['-'] else []) ++ if m = 0 then "0.0".toList else decimalText
    (dropZeros 20 (shortest m e))

end Binary64

end SourceReach
