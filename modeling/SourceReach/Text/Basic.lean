import SourceReach.Text.Blank

/-!
# Texts

A text is the list of its characters, compared by code points. Here are the cuts and joins that the
rest of the library is written in: pieces between separators, trimmed ends, words and lines.
-/

namespace SourceReach

/-- A list of characters; the order of lists is then the order by code points. -/
abbrev Text := List Char

namespace Text

/-- Puts an element at the front of the first piece. -/
def consFirst {α : Type} (a : α) : List (List α) → List (List α)
  | [] => [[a]]
  | p :: ps => (a :: p) :: ps

/-- The pieces between the separators: one more than there are separators. -/
def pieces (sep : Char) : Text → List Text
  | [] => [[]]
  | c :: s => if c = sep then [] :: pieces sep s else consFirst c (pieces sep s)

/-- The texts one after the other with `sep` between neighbours. -/
def joined (sep : Text) : List Text → Text
  | [] => []
  | [t] => t
  | t :: u :: ts => t ++ sep ++ joined sep (u :: ts)

/-- What is left when the characters of a class are taken off the end. -/
def dropEnd (p : Char → Bool) (t : Text) : Text := (t.reverse.dropWhile p).reverse

/-- The text without the blanks at its two ends. -/
def trim (t : Text) : Text := dropEnd isBlank (t.dropWhile isBlank)

/-- The maximal runs of characters outside the class. -/
def runsOutside (p : Char → Bool) : Text → List Text
  | [] => []
  | c :: s =>
    if p c then runsOutside p s
    else if s.head?.any p then [c] :: runsOutside p s
    else consFirst c (runsOutside p s)

/-- The words between the blanks. -/
def words (t : Text) : List Text := runsOutside isBlank t

/-- The lines of a text. A line end closes a line and opens none, and a carriage return with the
line feed after it is one line end. -/
def lines : Text → List Text
  | [] => []
  | '\r' :: '\n' :: s => [] :: lines s
  | c :: s => if isLineEnd c then [] :: lines s else consFirst c (lines s)

/-- Every line end of the forms carriage return, or carriage return and line feed, as one line
feed. -/
def unixLines : Text → Text
  | [] => []
  | '\r' :: '\n' :: s => '\n' :: unixLines s
  | '\r' :: s => '\n' :: unixLines s
  | c :: s => c :: unixLines s

def substitute (old new : Char) (t : Text) : Text := t.map fun c => if c = old then new else c

/-- The text without its last `n` characters. -/
def shorten (n : Nat) (t : Text) : Text := t.take (t.length - n)

def ofInt (n : Int) : Text := (toString n).toList

def ofNat (n : Nat) : Text := (toString n).toList

/-- The text up to the first separator, and what follows the separator if there is one. -/
def cut (sep : Char) : Text → Text × Option Text
  | [] => ([], none)
  | c :: s => if c = sep then ([], some s) else let r := cut sep s; (c :: r.1, r.2)

def isPartOf (t : Text) : Text → Bool
  | [] => t.isEmpty
  | c :: s => t.isPrefixOf (c :: s) || isPartOf t s

@[simp] theorem consFirst_ne_nil {α : Type} (a : α) (ps : List (List α)) : consFirst a ps ≠ [] := by
  cases ps <;> simp [consFirst]

@[simp] theorem pieces_ne_nil (sep : Char) (t : Text) : pieces sep t ≠ [] := by
  cases t with
  | nil => simp [pieces]
  | cons c s => simp only [pieces]; split <;> simp

/-- Joining the pieces with the separator gives the text back. -/
@[simp] theorem joined_pieces (sep : Char) (t : Text) : joined [sep] (pieces sep t) = t := by
  induction t with
  | nil => rfl
  | cons c s ih =>
    simp only [pieces]
    rcases h : pieces sep s with _ | ⟨p, ps⟩
    · exact absurd h (pieces_ne_nil sep s)
    · rw [h] at ih
      split
      · next hc => simp [joined, ih, hc]
      · cases ps <;> simpa [consFirst, joined] using ih

end Text

/-! ## Lists -/

/-- Membership is decided by comparing with the elements. -/
instance decidableMem {β : Type} [DecidableEq β] (x : β) (xs : List β) : Decidable (x ∈ xs) :=
  List.instDecidableMemOfLawfulBEq x xs

def total : List Nat → Nat
  | [] => 0
  | n :: ns => n + total ns

@[simp] theorem total_append (ms ns : List Nat) : total (ms ++ ns) = total ms + total ns := by
  induction ms with
  | nil => simp [total]
  | cons m ms ih => simp [total, ih, Nat.add_assoc]

/-! ## Sorted lists -/

variable {α : Type} [LT α] [DecidableLT α]

/-- Puts an element in front of the first one that is not smaller. -/
def insertSorted (x : α) : List α → List α
  | [] => [x]
  | y :: ys => if y < x then y :: insertSorted x ys else x :: y :: ys

def sorted : List α → List α
  | [] => []
  | x :: xs => insertSorted x (sorted xs)

/-- Puts an element in its place unless it is there. -/
def insertDistinct (x : α) : List α → List α
  | [] => [x]
  | y :: ys => if y < x then y :: insertDistinct x ys else if x < y then x :: y :: ys else y :: ys

/-- The elements in increasing order, each once. -/
def sortedDistinct : List α → List α
  | [] => []
  | x :: xs => insertDistinct x (sortedDistinct xs)

def distinct {β : Type} [DecidableEq β] : List β → List β
  | [] => []
  | x :: xs => x :: (distinct xs).filter (· ≠ x)

end SourceReach
