/-!
# Blanks and line ends

Two classes of characters that separate: blanks, which end words and are trimmed away, and line
ends. Every line end is a blank; the unit separator is a blank that ends no line.
-/

namespace SourceReach

/-- Whitespace of any script. The zero-width space and the byte order mark are not among it. -/
def isBlank (c : Char) : Bool :=
  let n := c.toNat
  n == 0x20 || (0x09 ≤ n && n ≤ 0x0D) || (0x1C ≤ n && n ≤ 0x1F) || n == 0x85 || n == 0xA0 ||
    n == 0x1680 ||
    (0x2000 ≤ n && n ≤ 0x200A) || n == 0x2028 || n == 0x2029 || n == 0x202F ||
      n == 0x205F || n == 0x3000

/-- The characters that end a line, on their own or as a carriage return before a line feed. -/
def isLineEnd (c : Char) : Bool :=
  let n := c.toNat
  (0x0A ≤ n && n ≤ 0x0D) || (0x1C ≤ n && n ≤ 0x1E) || n == 0x85 || n == 0x2028 || n == 0x2029

example : (isBlank '\u200B', isBlank '\uFEFF', isBlank '\u180E') = (false, false, false) := by
  decide

end SourceReach
