import SourceReach.Text.Basic

/-!
# Code points

A text holds characters. An escape sequence may also name a code point that is only half of a pair;
where one stands on its own, the text is a list of code points.
-/

namespace SourceReach

/-- A code point: a character, or half of a pair without the other half. -/
inductive CodePoint where
  | char (c : Char)
  | half (n : Nat)
  deriving DecidableEq, Repr

namespace CodePoint

def ofNat? (n : Nat) : Option CodePoint :=
  if n.isValidChar then some (.char (Char.ofNat n))
  else if n < 0x110000 then some (.half n)
  else none

def char? : CodePoint → Option Char
  | char c => some c
  | half _ => none

def chars (ps : List CodePoint) : Text := ps.filterMap char?

/-- The text that code points are, if there is no half of a pair among them. -/
def text? (ps : List CodePoint) : Option Text := ps.mapM char?

example :
    (ofNat? 0xE9, ofNat? 0xD800, ofNat? 0x110000) =
      (some (.char 'é'), some (.half 0xD800), none) := by
  decide

end CodePoint

end SourceReach
