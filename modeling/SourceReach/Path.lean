import SourceReach.Text.Basic

/-!
# Paths

A path is an anchor and the names that follow it. Reading a text drops empty names and single dots;
two leading slashes are an anchor of their own. `Path.normal` also takes out double dots, by the
names alone. Two spellings of a place below a directory then have one `Path.nameFrom` that
directory.
-/

namespace SourceReach

/-- Where a path starts. -/
inductive Anchor where
  /-- At a directory that the path does not say. -/
  | here
  /-- At the root. -/
  | root
  /-- At the root, written with two slashes. -/
  | doubleRoot
  deriving DecidableEq, Repr

/-- An anchor, and the names from there on. -/
structure Path where
  anchor : Anchor
  parts : List Text
  deriving DecidableEq, Repr

/-- The name that means the directory above. -/
def parentName : Text := ['.', '.']

namespace Anchor

/-- The slashes an anchor is written with. -/
def toText : Anchor → Text
  | here => []
  | root => ['/']
  | doubleRoot => ['/', '/']

/-- The anchor that a text starts with; three slashes are as good as one. -/
def ofText : Text → Anchor
  | '/' :: '/' :: '/' :: _ => root
  | '/' :: '/' :: _ => doubleRoot
  | '/' :: _ => root
  | _ => here

end Anchor

namespace Path

/-- Whether a piece between slashes is a name. -/
def isName (t : Text) : Bool := t ≠ [] && t ≠ ['.']

def ofText (t : Text) : Path := ⟨Anchor.ofText t, (t.pieces '/').filter isName⟩

/-- Writes a path; the one without anchor and names is a dot. -/
def toText (p : Path) : Text :=
  if p.anchor = .here ∧ p.parts = [] then ['.'] else p.anchor.toText ++ Text.joined ['/'] p.parts

/-- Whether the path says where it starts. -/
def isAnchored (p : Path) : Bool := p.anchor ≠ .here

/-- The second path as seen from the first: an anchored one stands for itself. -/
def join (p q : Path) : Path := if q.isAnchored then q else ⟨p.anchor, p.parts ++ q.parts⟩

def along (p : Path) (names : List Text) : Path := ⟨p.anchor, p.parts ++ names⟩

/-- Takes a further name into a list of names in reverse: double dots take back the name before
them, are kept where there is none, and are dropped at the root. -/
def climb (anchored : Bool) (above : List Text) (name : Text) : List Text :=
  if name ≠ parentName then name :: above
  else match above with
    | [] => if anchored then [] else [name]
    | top :: rest => if top = parentName then name :: above else rest

/-- The path without double dots, except in front of a path without anchor. -/
def normal (p : Path) : Path := ⟨p.anchor, (p.parts.foldl (climb p.isAnchored) []).reverse⟩

/-- Backslashes as slashes. -/
def forward (t : Text) : Text := Text.substitute '\\' '/' t

/-- The place that a text names when it is read from a directory. Both kinds of slashes separate
names. -/
def locate (base : Path) (t : Text) : Path := (base.join (ofText (forward t))).normal

/-- The names that lead from the first path down to the second. -/
def below? (base p : Path) : Option (List Text) :=
  if base.anchor = p.anchor ∧ base.parts.isPrefixOf p.parts then
    some (p.parts.drop base.parts.length)
  else none

/-- The one name of the place that a text means: relative for the directory itself and what lies
below it, and anchored for all else. -/
def nameFrom (base : Path) (t : Text) : Text :=
  let p := locate base t
  match below? base p with
  | some parts => (Path.mk .here parts).toText
  | none => p.toText

def name (p : Path) : Text := p.parts.getLast?.getD []

/-- The part of a written path before its last slash, without slashes at its end unless it is made
of them. -/
def directoryOf (t : Text) : Text :=
  let head := Text.dropEnd (· ≠ '/') t
  if head.all (· = '/') then head else Text.dropEnd (· = '/') head

end Path

end SourceReach
