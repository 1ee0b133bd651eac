import SourceReach.Text.Basic

/-!
# UTF-8

`Utf8.next` reads one character, or one malformed piece: the longest start of a character's encoding
that the bytes go wrong after, or a single byte that starts none. What becomes of malformed pieces
is the reader's choice.
-/

namespace SourceReach

/-- The content of a file. -/
abbrev Bytes := List UInt8

namespace Utf8

def within (lo hi b : UInt8) : Bool := lo ≤ b && b ≤ hi

def low (b : UInt8) : Nat := b.toNat % 64

def finish (high : Nat) : Bytes → Option Char × Bytes
  | b :: bs =>
    if within 0x80 0xBF b then (some (Char.ofNat (high * 64 + low b)), bs) else (none, b :: bs)
  | [] => (none, [])

/-- Reads the last two bytes of an encoding; the first of them has a range of its own. -/
def finishTwo (lo hi : UInt8) (high : Nat) : Bytes → Option Char × Bytes
  | b :: bs => if within lo hi b then finish (high * 64 + low b) bs else (none, b :: bs)
  | [] => (none, [])

/-- Reads the last three bytes of an encoding; the first of them has a range of its own. -/
def finishThree (lo hi : UInt8) (high : Nat) : Bytes → Option Char × Bytes
  | b :: bs =>
    if within lo hi b then finishTwo 0x80 0xBF (high * 64 + low b) bs else (none, b :: bs)
  | [] => (none, [])

/-- Reads the character whose encoding starts with `b`, or passes over a malformed piece. -/
def next (b : UInt8) (bs : Bytes) : Option Char × Bytes :=
  if b < 0x80 then (some (Char.ofNat b.toNat), bs)
  else if within 0xC2 0xDF b then finish (b.toNat % 32) bs
  else if b = 0xE0 then finishTwo 0xA0 0xBF 0 bs
  else if b = 0xED then finishTwo 0x80 0x9F 13 bs
  else if within 0xE1 0xEF b then finishTwo 0x80 0xBF (b.toNat % 16) bs
  else if b = 0xF0 then finishThree 0x90 0xBF 0 bs
  else if within 0xF1 0xF3 b then finishThree 0x80 0xBF (b.toNat % 8) bs
  else if b = 0xF4 then finishThree 0x80 0x8F 4 bs
  else (none, bs)

theorem finish_length_le (high : Nat) (bs : Bytes) : (finish high bs).2.length ≤ bs.length := by
  cases bs with
  | nil => simp [finish]
  | cons b bs => simp only [finish]; split <;> simp

theorem finishTwo_length_le (lo hi : UInt8) (high : Nat) (bs : Bytes) :
    (finishTwo lo hi high bs).2.length ≤ bs.length := by
  cases bs with
  | nil => simp [finishTwo]
  | cons b bs =>
    simp only [finishTwo]
    split
    · exact Nat.le_succ_of_le (finish_length_le _ _)
    · simp

theorem finishThree_length_le (lo hi : UInt8) (high : Nat) (bs : Bytes) :
    (finishThree lo hi high bs).2.length ≤ bs.length := by
  cases bs with
  | nil => simp [finishThree]
  | cons b bs =>
    simp only [finishThree]
    split
    · exact Nat.le_succ_of_le (finishTwo_length_le _ _ _ _)
    · simp

/-- The bytes left are a part of those that followed the first. -/
theorem next_length_le (b : UInt8) (bs : Bytes) : (next b bs).2.length ≤ bs.length := by
  unfold next
  repeat' split
  all_goals first
    | exact Nat.le_refl _
    | exact finish_length_le _ _
    | exact finishTwo_length_le _ _ _ _
    | exact finishThree_length_le _ _ _ _

/-- The characters in order, with `none` for each malformed piece. -/
def decode : Bytes → List (Option Char)
  | [] => []
  | b :: bs => (next b bs).1 :: decode (next b bs).2
  termination_by bs => bs.length
  decreasing_by exact Nat.lt_succ_of_le (next_length_le b bs)

/-- The characters, malformed pieces dropped. -/
def decodeDropping (bs : Bytes) : Text := (decode bs).filterMap id

def decode? (bs : Bytes) : Option Text := (decode bs).mapM id

/-- The bytes of a text. -/
def encode (t : Text) : Bytes := t.flatMap String.utf8EncodeChar

def size (t : Text) : Nat := total (t.map Char.utf8Size)

end Utf8

end SourceReach
