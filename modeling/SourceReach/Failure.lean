import SourceReach.FileTree.Basic
import SourceReach.Settings.Key

/-!
# Failures

A run that cannot start fails for one of the configuration errors; each has a message for the user.
What else can go wrong is a defect of the input that no message is made for.
-/

namespace SourceReach

/-- Why a run cannot start. -/
inductive ConfigurationError where
  | unknownStrategy (name : Text)
  | sourceRootMissing (root : Path)
  | sourceRootUnreadable (root : Path) (cause : AccessError)
  | nameCollision (name : Text) (paths : List Text)
  | entryMissing (path : Path)
  | entryUnreadable (entry : Text) (cause : AccessError)
  | packageUndetected (entry : Text)
  | depthTooSmall (shown : Text)
  | segmentsTooFew (shown : Text)
  | strategyInvalid
  | extensionUndotted (extension : Text)
  | diffCommandEmpty
  | notAnInteger (key shown : Text)
  | unknownSetting (key : Text)
  | settingsUnreadable (file : Path)

/-- What goes wrong without a message. -/
inductive Defect where
  /-- A quotation that is never closed, or a backslash at the end of a command. -/
  | unbalancedQuotes
  /-- Two stars inside a name of a glob. -/
  | malformedGlob
  /-- A path with a null character. -/
  | embeddedNul
  /-- A value of a type that the operation does not take. -/
  | wrongType
  /-- A value of a type that does not have the operation. -/
  | unsupported
  /-- A part that is missing where one has to be. -/
  | missingPart
  /-- A number that is out of the range of its kind. -/
  | outOfRange
  /-- A setting that goes on in the next line and has no name. -/
  | namelessText
  /-- A value that has no text. -/
  | unwritable
  /-- A text that cannot be printed, because half of a pair stands alone in it. -/
  | unpaired
  /-- Style tags that do not fit together. -/
  | unbalancedMarkup
  /-- A style tag with a colour that is not made of numbers. -/
  | malformedColour
  /-- Settings that are not UTF-8. -/
  | undecodable
  /-- A failed access that is not expected. -/
  | access (error : AccessError)

/-- Why a run ends without a result. -/
inductive Failure where
  | configuration (error : ConfigurationError)
  | defect (defect : Defect)

/-- The ways to settle duplicate type names, as they are listed in messages. -/
def strategyNames : List Text := ["last".toList, "first".toList, "error".toList, "all".toList]

def listed (ts : List Text) : Text := Text.joined ", ".toList ts

def ConfigurationError.message : ConfigurationError → Text
  | unknownStrategy name =>
    "Unknown collision strategy '".toList ++ name ++ "'. Use one of: ".toList ++
      listed strategyNames
  | sourceRootMissing root => "Source root not found or not a directory: ".toList ++ root.toText
  | sourceRootUnreadable root cause =>
    "Cannot read source root ".toList ++ root.toText ++ ": ".toList ++ cause.message
  | nameCollision name paths =>
    "Type name '".toList ++ name ++ "' is defined in several files: ".toList ++ listed paths
  | entryMissing path => "Entry file not found: ".toList ++ path.toText
  | entryUnreadable entry cause => "Could not read ".toList ++ entry ++ ": ".toList ++ cause.message
  | packageUndetected entry =>
    "Could not detect the base package of ".toList ++ entry ++
      "; pass it explicitly (e.g. --base-package com.example)".toList
  | depthTooSmall shown => "max_depth must be at least 1, got ".toList ++ shown
  | segmentsTooFew shown => "base_package_segments must be at least 1, got ".toList ++ shown
  | strategyInvalid => "collision_strategy must be one of: ".toList ++ listed strategyNames
  | extensionUndotted extension =>
    "source_extension must start with '.', got '".toList ++ extension ++ "'".toList
  | diffCommandEmpty => "diff_command must not be empty".toList
  | notAnInteger key shown => key ++ " must be an integer, got '".toList ++ shown ++ "'".toList
  | unknownSetting key =>
    "Unknown setting '".toList ++ key ++ "'. Known settings: ".toList ++
      listed (SettingKey.all.map (·.name))
  | settingsUnreadable file => "Cannot read ".toList ++ file.toText

/-- The failure of an access that is not expected to fail. -/
def Failure.ofAccess (e : AccessError) : Failure :=
  match e.cause with
  | .embeddedNul => .defect .embeddedNul
  | _ => .defect (.access e)

/-- A result, with unexpected failures of access as failures. -/
def Except.expected {α : Type} (r : Except AccessError α) : Except Failure α :=
  r.mapError Failure.ofAccess

end SourceReach
