import Mathlib.Tactic.SplitIfs
import SourceReach.Java.Package

/-!
# What matches take and report

`Pattern.Fits` says which characters a pattern can take and what it then reports, wherever it is
matched. All matches fit (`fits_of_mem_run`), so what a search reports has the form that the groups
of its pattern allow.
-/

namespace SourceReach

namespace Pattern

/-- The pattern can take this text and report these parts. -/
def Fits : Pattern → Text → List Text → Prop
  | lit u, t, groups => t = u ∧ groups = []
  | many cls, t, groups => (∀ c ∈ t, cls c = true) ∧ groups = []
  | some cls, t, groups => t ≠ [] ∧ (∀ c ∈ t, cls c = true) ∧ groups = []
  | seq p q, t, groups => ∃ t₁ t₂ groups₁ groups₂,
      p.Fits t₁ groups₁ ∧ q.Fits t₂ groups₂ ∧ t = t₁ ++ t₂ ∧ groups = groups₁ ++ groups₂
  | alt p q, t, groups => p.Fits t groups ∨ q.Fits t groups
  | edge, t, groups => t = [] ∧ groups = []
  | lineStart, t, groups => t = [] ∧ groups = []
  | group p, t, groups => ∃ inner, p.Fits t inner ∧ groups = t :: inner

variable {p q : Pattern} {cls : Char → Bool} {prev : Option Char} {s t : Text} {m : Match}
  {groups : List Text}

theorem all_of_mem_cuts {r : Text × Text} (h : r ∈ cuts cls s) : ∀ c ∈ r.1, cls c = true := by
  induction s generalizing r with
  | nil =>
    rw [List.mem_singleton.1 h]
    simp
  | cons c s ih =>
    rw [cuts] at h
    split_ifs at h with hc
    · rcases List.mem_append.1 h with h | h
      · obtain ⟨r', hr', rfl⟩ := List.mem_map.1 h
        exact List.forall_mem_cons.2 ⟨hc, ih hr'⟩
      · rw [List.mem_singleton.1 h]
        simp
    · rw [List.mem_singleton.1 h]
      simp

theorem all_of_mem_cutsSome {r : Text × Text} (h : r ∈ cutsSome cls s) :
    r.1 ≠ [] ∧ ∀ c ∈ r.1, cls c = true := by
  cases s with
  | nil => exact absurd h List.not_mem_nil
  | cons c s =>
    rw [cutsSome] at h
    split_ifs at h with hc
    · obtain ⟨r', hr', rfl⟩ := List.mem_map.1 h
      exact ⟨List.cons_ne_nil _ _, List.forall_mem_cons.2 ⟨hc, all_of_mem_cuts hr'⟩⟩
    · exact absurd h List.not_mem_nil

/-- All matches fit the pattern. -/
theorem fits_of_mem_run (h : m ∈ run p prev s) : p.Fits m.taken m.groups := by
  induction p generalizing prev s m with
  | lit u =>
    obtain ⟨-, hm⟩ := List.mem_ite_nil_right.1 h
    rw [List.mem_singleton.1 hm]
    exact ⟨rfl, rfl⟩
  | many cls =>
    obtain ⟨r, hr, rfl⟩ := List.mem_map.1 h
    exact ⟨all_of_mem_cuts hr, rfl⟩
  | some cls =>
    obtain ⟨r, hr, rfl⟩ := List.mem_map.1 h
    exact ⟨(all_of_mem_cutsSome hr).1, (all_of_mem_cutsSome hr).2, rfl⟩
  | seq p q ihp ihq =>
    obtain ⟨a, ha, h⟩ := List.mem_flatMap.1 h
    obtain ⟨b, hb, rfl⟩ := List.mem_map.1 h
    exact ⟨a.taken, b.taken, a.groups, b.groups, ihp ha, ihq hb, rfl, rfl⟩
  | alt p q ihp ihq =>
    rcases List.mem_append.1 h with h | h
    · exact Or.inl (ihp h)
    · exact Or.inr (ihq h)
  | edge =>
    obtain ⟨-, hm⟩ := List.mem_ite_nil_right.1 h
    rw [List.mem_singleton.1 hm]
    exact ⟨rfl, rfl⟩
  | lineStart =>
    obtain ⟨-, hm⟩ := List.mem_ite_nil_right.1 h
    rw [List.mem_singleton.1 hm]
    exact ⟨rfl, rfl⟩
  | group p ih =>
    obtain ⟨a, ha, rfl⟩ := List.mem_map.1 h
    exact ⟨a.groups, ih ha, rfl⟩

theorem fits_of_first_eq_some (h : p.first prev s = .some m) : p.Fits m.taken m.groups := by
  rw [first_eq] at h
  exact fits_of_mem_run (List.mem_of_head? h)

theorem fits_of_mem_scanFrom {skip : Nat} (h : m ∈ p.scanFrom skip prev s) :
    p.Fits m.taken m.groups := by
  induction s generalizing skip prev with
  | nil =>
    rw [scanFrom] at h
    exact absurd h List.not_mem_nil
  | cons c s ih =>
    cases skip with
    | succ skip => exact ih h
    | zero =>
      rw [scanFrom] at h
      split at h
      · next first hfirst =>
        rcases List.mem_cons.1 h with rfl | h
        · exact fits_of_first_eq_some hfirst
        · exact ih h
      · exact ih h

/-- What a search finds is the first part that a fitting match reports. -/
theorem exists_fits_of_mem_findAll {name : Text} (h : name ∈ p.findAll s) :
    ∃ t rest, p.Fits t (name :: rest) := by
  obtain ⟨m, hm, hname⟩ := List.mem_filterMap.1 h
  obtain ⟨rest, hrest⟩ := List.head?_eq_some_iff.1 hname
  exact ⟨m.taken, rest, hrest ▸ fits_of_mem_scanFrom hm⟩

end Pattern

/-- A dotted name as statements have it: any word characters and dots, but at least one of them. -/
structure IsDottedName (name : Text) : Prop where
  ne_nil : name ≠ []
  chars : ∀ c ∈ name, Rule.isNameChar c = true

/-- A segment of a qualified name as files and directories have it: word characters, but at least
one of them. -/
structure Package.IsSegment (segment : Text) : Prop where
  ne_nil : segment ≠ []
  chars : ∀ c ∈ segment, isWord c = true

instance (segment : Text) : Decidable (Package.IsSegment segment) :=
  decidable_of_iff (segment ≠ [] ∧ segment.all isWord = true)
    ⟨fun ⟨h, hc⟩ => ⟨h, List.all_eq_true.1 hc⟩, fun h => ⟨h.ne_nil, List.all_eq_true.2 h.chars⟩⟩

theorem Package.IsSegment.notMem {segment : Text} (h : IsSegment segment) {c : Char}
    (hc : isWord c = false) :
    c ∉ segment := by
  intro hmem
  rw [h.chars c hmem] at hc
  exact absurd hc (by decide)

theorem Package.IsSegment.isDottedName {segment : Text} (h : IsSegment segment) :
    IsDottedName segment :=
  ⟨h.ne_nil, fun c hc => by simp [Rule.isNameChar, h.chars c hc]⟩

theorem Rule.isDottedName_of_mem_findAll {keyword source name : Text}
    (h : name ∈ (statementPattern keyword).findAll source) : IsDottedName name := by
  obtain ⟨t, rest, hfits⟩ := Pattern.exists_fits_of_mem_findAll h
  obtain ⟨_, _, _, _, ⟨-, rfl⟩, hfits, -, hgroups⟩ := hfits
  obtain ⟨_, _, _, _, ⟨-, rfl⟩, hfits, -, rfl⟩ := hfits
  obtain ⟨_, _, _, _, ⟨-, rfl⟩, hfits, -, rfl⟩ := hfits
  obtain ⟨_, _, _, _, ⟨-, -, rfl⟩, hfits, -, rfl⟩ := hfits
  obtain ⟨_, _, _, _, ⟨_, ⟨hne, hchars, rfl⟩, rfl⟩, -, -, rfl⟩ := hfits
  obtain rfl := (List.cons.inj hgroups).1
  exact ⟨hne, hchars⟩

end SourceReach
