import SourceReach.Java.Package
import SourceReach.Proofs.Pieces

/-!
# Base packages by segments

A name lies in a base package just when the segments of the base package are the first segments of
the name, empty ones included (`contains_iff_pieces`). The first segments of a declared package make
up base packages that lie in one another (`contains_firstSegments`); each further segment leaves out
some name until all segments are taken (`membership_segmentwise`).
-/

namespace SourceReach.Package

variable {base name other package : Text} {m n : Int}

theorem contains_iff : contains base name = true ↔ name = base ∨ base ++ ['.'] <+: name := by
  rw [contains, Bool.or_eq_true, beq_iff_eq, List.isPrefixOf_iff_prefix]

/-- What is compared character by character is compared segment by segment. -/
theorem contains_iff_pieces : contains base name = true ↔
    Text.pieces '.' base <+: Text.pieces '.' name := by
  rw [contains_iff]
  constructor
  · rintro (rfl | ⟨rest, rfl⟩)
    · exact List.prefix_rfl
    · rw [List.append_assoc, List.singleton_append, Text.pieces_append_sep]
      exact List.prefix_append _ _
  · rintro ⟨rest, hrest⟩
    have hname : name = Text.joined ['.'] (Text.pieces '.' base ++ rest) := by
      rw [hrest, Text.joined_pieces]
    by_cases hnil : rest = []
    · left
      rw [hname, hnil, List.append_nil, Text.joined_pieces]
    · right
      rw [hname, Text.joined_append _ (Text.pieces_ne_nil '.' base) hnil, Text.joined_pieces]
      exact List.prefix_append _ _

theorem contains_trans (h : contains base name = true) (h' : contains name other = true) :
    contains base other = true := by
  rw [contains_iff_pieces] at h h' ⊢
  exact h.trans h'

theorem contains_self (base : Text) : contains base base = true := contains_iff.2 (.inl rfl)

/-! ## The first segments of a name -/

theorem pieces_firstSegments (hn : 1 ≤ n) (name : Text) :
    Text.pieces '.' (firstSegments n name) = (Text.pieces '.' name).take n.toNat := by
  have hpos : 0 < n.toNat := by omega
  have hne : (Text.pieces '.' name).take n.toNat ≠ [] := by
    simp only [ne_eq, List.take_eq_nil_iff, Text.pieces_ne_nil, or_false]
    omega
  have hnonneg : 0 ≤ n := by omega
  unfold firstSegments leading
  rw [if_pos hnonneg, Text.pieces_joined hne]
  exact fun t ht => Text.notMem_of_mem_pieces (List.mem_of_mem_take ht)

theorem contains_firstSegments (hm : 1 ≤ m) (hmn : m ≤ n) (name : Text) :
    contains (firstSegments m name) (firstSegments n name) = true := by
  rw [contains_iff_pieces, pieces_firstSegments hm, pieces_firstSegments (Int.le_trans hm hmn)]
  apply List.take_prefix_take_left
  omega

theorem contains_firstSegments_iff (hn : 1 ≤ n) :
    contains (firstSegments n package) name = true ↔
      (Text.pieces '.' name).take (min n.toNat (Text.pieces '.' package).length) =
        (Text.pieces '.' package).take (min n.toNat (Text.pieces '.' package).length) := by
  rw [contains_iff_pieces, pieces_firstSegments hn, List.prefix_iff_eq_take, List.length_take,
    ← List.take_eq_take_min, eq_comm]

theorem firstSegments_eq_self (hn : 1 ≤ n) (h : (Text.pieces '.' package).length ≤ n.toNat) :
    firstSegments n package = package := by
  rw [← Text.joined_pieces '.' (firstSegments n package), pieces_firstSegments hn,
    List.take_of_length_le h, Text.joined_pieces]

/-- A segment that is added leaves some name out: the package before the addition. -/
theorem contains_firstSegments_eq_false (hm : 1 ≤ m) (hmn : m < n)
    (h : m.toNat < (Text.pieces '.' package).length) :
    contains (firstSegments n package) (firstSegments m package) = false := by
  have hn : 1 ≤ n := Int.le_trans hm (Int.le_of_lt hmn)
  rw [Bool.eq_false_iff, Ne, contains_iff_pieces, pieces_firstSegments hm, pieces_firstSegments hn]
  intro hprefix
  have hlength := hprefix.length_le
  rw [List.length_take, List.length_take] at hlength
  omega

/-- Membership is told by segments. For the package that a source declares, the base package of some
first segments has the names that agree with the package in so many segments, or in all it has; the
package itself and what lies below it is always among them. With more segments there are fewer
names, until the base package is the package itself. -/
theorem membership_segmentwise :
    (∀ base name : Text, contains base name = true ↔
      Text.pieces '.' base <+: Text.pieces '.' name) ∧
    ∀ source package : Text, declared? source = some package →
      (∀ n : Int, 1 ≤ n → ∃ base, base? source n = some base ∧
        (∀ name, contains base name = true ↔
          (Text.pieces '.' name).take (min n.toNat (Text.pieces '.' package).length) =
            (Text.pieces '.' package).take (min n.toNat (Text.pieces '.' package).length)) ∧
        contains base package = true ∧ ∀ rest, contains base (package ++ '.' :: rest) = true) ∧
      ∀ m n : Int, 1 ≤ m → m < n → ∃ wide narrow, base? source m = some wide ∧
      base? source n = some narrow ∧
        (∀ name, contains narrow name = true → contains wide name = true) ∧
        (m.toNat < (Text.pieces '.' package).length →
          ∃ name, contains wide name = true ∧ contains narrow name = false) ∧
        ((Text.pieces '.' package).length ≤ m.toNat → wide = package ∧ narrow = package) := by
  refine ⟨fun base name => contains_iff_pieces, fun source package hdeclared => ?_⟩
  have hbase : ∀ n, base? source n = some (firstSegments n package) := by
    intro n
    unfold base?
    rw [hdeclared]
    rfl
  refine ⟨fun n hn => ⟨_, hbase n, fun name => contains_firstSegments_iff hn, ?_, fun rest => ?_⟩,
    fun m n hm hmn => ⟨_, _, hbase m, hbase n, fun name => ?_, fun hmore => ?_, fun hall => ?_⟩⟩
  · exact (contains_firstSegments_iff hn).2 rfl
  · have hbelow : contains package (package ++ '.' :: rest) = true :=
      contains_iff.2 (.inr ⟨rest, by simp⟩)
    exact contains_trans ((contains_firstSegments_iff hn).2 rfl) hbelow
  · exact contains_trans (contains_firstSegments hm (Int.le_of_lt hmn) package)
  · exact ⟨firstSegments m package, contains_self _, contains_firstSegments_eq_false hm hmn hmore⟩
  · have hn : 1 ≤ n := Int.le_trans hm (Int.le_of_lt hmn)
    have hmore : (Text.pieces '.' package).length ≤ n.toNat := by omega
    exact ⟨firstSegments_eq_self hm hall, firstSegments_eq_self hn hmore⟩

/-- Of three segments two are taken: a sibling of the package is inside, a package whose name is
only longer is not. -/
theorem webPackage_segmentwise :
    let source := "// web\n package  com.example.web ;\n".toList
    declared? source = some "com.example.web".toList ∧
      ∃ wide narrow, base? source 2 = some wide ∧ base? source 3 = some narrow ∧
        contains wide "com.example.Foo".toList = true ∧
        contains wide "com.examples.Foo".toList = false ∧
        contains wide "com.example.web..Foo".toList = true ∧
        ∃ name, contains wide name = true ∧ contains narrow name = false := by
  intro source
  have hdeclared : declared? source = some "com.example.web".toList := by decide
  obtain ⟨hmembers, hshrink⟩ := membership_segmentwise.2 source _ hdeclared
  obtain ⟨wide, narrow, hwide, hnarrow, -, hless, -⟩ := hshrink 2 3 (by decide) (by decide)
  obtain ⟨base, hbase, hiff, -, hbelow⟩ := hmembers 2 (by decide)
  obtain rfl : base = wide := Option.some.inj (hbase.symm.trans hwide)
  refine ⟨hdeclared, base, narrow, hwide, hnarrow, (hiff _).2 (by decide), ?_, hbelow ".Foo".toList,
    hless (by decide)⟩
  rw [Bool.eq_false_iff, Ne, hiff]
  decide

end SourceReach.Package
