import SourceReach.Text.Basic

/-!
# Keys of the settings
-/

namespace SourceReach

/-- What can be set. -/
inductive SettingKey where
  | sourceRoot
  | maxDepth
  | segments
  | strategy
  | extension
  | diffCommand
  deriving DecidableEq, Repr

namespace SettingKey

def name : SettingKey → Text
  | sourceRoot => "src_root".toList
  | maxDepth => "max_depth".toList
  | segments => "base_package_segments".toList
  | strategy => "collision_strategy".toList
  | extension => "source_extension".toList
  | diffCommand => "diff_command".toList

/-- The keys in the order in which they are listed. -/
def all : List SettingKey := [sourceRoot, maxDepth, segments, strategy, extension, diffCommand]

def ofName? (t : Text) : Option SettingKey := all.find? (·.name = t)

@[simp] theorem mem_all (k : SettingKey) : k ∈ all := by cases k <;> decide

@[simp] theorem ofName?_name (k : SettingKey) : ofName? k.name = some k := by cases k <;> decide

end SettingKey

end SourceReach
