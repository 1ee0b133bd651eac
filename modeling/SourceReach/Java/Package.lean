import SourceReach.Java.Rule

/-!
# Packages

The package a source file declares, the base package that its first segments make up, and membership
of a qualified name in a base package.
-/

namespace SourceReach.Package

/-- A package declaration; the name is reported. -/
def declarationPattern : Pattern := Rule.statementPattern "package".toList

/-- The package that a source declares first. -/
def declared? (source : Text) : Option Text := (declarationPattern.findAll source).head?

/-- The first `count` elements; a negative count leaves that many elements off the end. -/
def leading {α : Type} (count : Int) (xs : List α) : List α :=
  if 0 ≤ count then xs.take count.toNat else xs.take (xs.length - (-count).toNat)

def firstSegments (count : Int) (name : Text) : Text :=
  Text.joined ['.'] (leading count (Text.pieces '.' name))

/-- The first segments of the declared package; a shorter package as a whole. -/
def base? (source : Text) (count : Int) : Option Text :=
  (declared? source).map (firstSegments count)

/-- Whether a name is the base package or continues it after a dot. -/
def contains (base name : Text) : Bool := name == base || (base ++ ['.']).isPrefixOf name

end SourceReach.Package
