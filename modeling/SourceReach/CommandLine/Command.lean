import SourceReach.Text.Basic

/-!
# Commands

What a command line asks for. How its arguments are read is left to whoever runs it; one way is
`Command.ofArguments`.
-/

namespace SourceReach

/-- Which project is searched, and how it differs from the settings. -/
structure Scope where
  project : Text := ['.']
  root : Option Text := none
  base : Option Text := none
  segments : Option Int := none
  deriving DecidableEq, Repr

/-- What a command line asks for. -/
inductive Command where
  | help
  | version
  /-- The files that an entry file reaches. -/
  | find (entry : Text) (scope : Scope) (depth : Option Int) (strategy : Option Text)
    (withChanges : Bool)
      (revision : Option Text) (changed : List Text) (json verbose : Bool)
  /-- The rule matches in a file. -/
  | explain (entry : Text) (scope : Scope) (json verbose : Bool)
  /-- The size of the index, and perhaps the names that several files declare. -/
  | index (scope : Scope) (listCollisions : Bool)
  | showSettings
  | set (key value : Text)
  | reset
  deriving DecidableEq, Repr

/-- Why a command line is refused. -/
inductive Refusal where
  /-- It is not in order. -/
  | usage
  /-- A path has a null character. -/
  | embeddedNul
  deriving DecidableEq, Repr

end SourceReach
