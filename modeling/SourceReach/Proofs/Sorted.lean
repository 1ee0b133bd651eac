import Mathlib.Data.Char
import Mathlib.Data.Finset.Sort
import Mathlib.Data.List.Lex
import Mathlib.Data.List.Sort
import SourceReach.Text.Basic

/-!
# Sorted lists and first occurrences

`sortedDistinct` lists a finite set in increasing order (`sortedDistinct_eq_sort`), so it depends on
the members alone; `sorted` keeps repetitions (`sorted_eq_insertionSort`). `distinct` keeps the
order of a list and the members, each once. A list in which two elements have one key has a first
element whose key is repeated (`exists_first_repetition`).
-/

namespace SourceReach

section Sorted

variable {α : Type} [LinearOrder α] [DecidableLT α]

@[simp] theorem mem_insertDistinct {x y : α} {xs : List α} :
    y ∈ insertDistinct x xs ↔ y = x ∨ y ∈ xs := by
  induction xs with
  | nil => simp [insertDistinct]
  | cons z zs ih =>
    simp only [insertDistinct]
    split_ifs with hzx hxz
    · simp only [List.mem_cons, ih, or_left_comm]
    · simp
    · have hx : x = z := le_antisymm (not_lt.1 hzx) (not_lt.1 hxz)
      simp [hx]

theorem pairwise_insertDistinct {x : α} {xs : List α} (h : xs.Pairwise (· < ·)) :
    (insertDistinct x xs).Pairwise (· < ·) := by
  induction xs with
  | nil => simp [insertDistinct]
  | cons z zs ih =>
    obtain ⟨hz, hzs⟩ := List.pairwise_cons.1 h
    simp only [insertDistinct]
    split_ifs with hzx hxz
    · refine List.pairwise_cons.2 ⟨fun y hy => ?_, ih hzs⟩
      rcases mem_insertDistinct.1 hy with rfl | hy
      · exact hzx
      · exact hz y hy
    · refine List.pairwise_cons.2 ⟨fun y hy => ?_, h⟩
      rcases List.mem_cons.1 hy with rfl | hy
      · exact hxz
      · exact hxz.trans (hz y hy)
    · exact h

@[simp] theorem mem_sortedDistinct {y : α} {xs : List α} : y ∈ sortedDistinct xs ↔ y ∈ xs := by
  induction xs with
  | nil => simp [sortedDistinct]
  | cons x xs ih => simp [sortedDistinct, ih]

theorem pairwise_sortedDistinct (xs : List α) : (sortedDistinct xs).Pairwise (· < ·) := by
  induction xs with
  | nil => exact List.Pairwise.nil
  | cons x xs ih => exact pairwise_insertDistinct ih

theorem sortedDistinct_congr {xs ys : List α} (h : ∀ y, y ∈ xs ↔ y ∈ ys) :
    sortedDistinct xs = sortedDistinct ys := by
  refine List.SortedLT.eq_of_mem_iff (pairwise_sortedDistinct xs).sortedLT
    (pairwise_sortedDistinct ys).sortedLT ?_
  exact fun y => by rw [mem_sortedDistinct, mem_sortedDistinct, h]

/-- The members of a list, as a set, in increasing order. -/
theorem sortedDistinct_eq_sort [DecidableEq α] (xs : List α) :
    sortedDistinct xs = xs.toFinset.sort := by
  refine List.SortedLT.eq_of_mem_iff ?_ (Finset.sortedLT_sort _) fun y => by simp
  exact (pairwise_sortedDistinct xs).sortedLT

theorem sorted_eq_insertionSort (xs : List α) : sorted xs = xs.insertionSort (· ≤ ·) := by
  have hinsert : ∀ (x : α) (ys : List α), insertSorted x ys = ys.orderedInsert (· ≤ ·) x := by
    intro x ys
    induction ys with
    | nil => rfl
    | cons y ys ih =>
      rw [insertSorted, List.orderedInsert, ih]
      by_cases h : y < x
      · rw [if_pos h, if_neg (not_le.2 h)]
      · rw [if_neg h, if_pos (not_lt.1 h)]
  induction xs with
  | nil => rfl
  | cons x xs ih => rw [sorted, List.insertionSort_cons, ih, hinsert]

theorem sorted_perm (xs : List α) : (sorted xs).Perm xs := by
  rw [sorted_eq_insertionSort]
  exact List.perm_insertionSort _ xs

theorem pairwise_sorted (xs : List α) : (sorted xs).Pairwise (· ≤ ·) := by
  rw [sorted_eq_insertionSort]
  exact List.pairwise_insertionSort _ xs

theorem sorted_eq_self {xs : List α} (h : xs.Pairwise (· ≤ ·)) : sorted xs = xs := by
  rw [sorted_eq_insertionSort, h.insertionSort_eq]

theorem sorted_eq_sortedDistinct {xs : List α} (h : xs.Nodup) :
    sorted xs = sortedDistinct xs := by
  have hinsert : ∀ (x : α) (ys : List α), x ∉ ys → insertSorted x ys = insertDistinct x ys := by
    intro x ys hx
    induction ys with
    | nil => rfl
    | cons y ys ih =>
      obtain ⟨hxy, hys⟩ : x ≠ y ∧ x ∉ ys := by simpa using hx
      rw [insertSorted, insertDistinct, ih hys]
      by_cases hlt : y < x
      · rw [if_pos hlt, if_pos hlt]
      · have hgt : x < y := lt_of_le_of_ne (not_lt.1 hlt) hxy
        rw [if_neg hlt, if_neg hlt, if_pos hgt]
  induction xs with
  | nil => rfl
  | cons x xs ih =>
    obtain ⟨hx, hxs⟩ := List.nodup_cons.1 h
    rw [sorted, sortedDistinct, ih hxs]
    exact hinsert x _ (by rwa [mem_sortedDistinct])

end Sorted

section Distinct

variable {α : Type} [DecidableEq α]

@[simp] theorem mem_distinct {y : α} {xs : List α} : y ∈ distinct xs ↔ y ∈ xs := by
  induction xs with
  | nil => simp [distinct]
  | cons x xs ih => by_cases h : y = x <;> simp [distinct, ih, h]

theorem nodup_distinct (xs : List α) : (distinct xs).Nodup := by
  induction xs with
  | nil => exact List.nodup_nil
  | cons x xs ih => exact List.nodup_cons.2 ⟨by simp, ih.filter _⟩

theorem distinct_filter (p : α → Bool) (xs : List α) :
    distinct (xs.filter p) = (distinct xs).filter p := by
  induction xs with
  | nil => rfl
  | cons x xs ih =>
    by_cases h : p x
    · simp only [List.filter_cons, h, if_true, distinct, ih, List.filter_filter, Bool.and_comm]
    · have hx : ∀ y ∈ distinct xs, (p y && decide (y ≠ x)) = p y := by
        intro y _
        by_cases hy : y = x
        · simp [hy, h]
        · simp [hy]
      simp only [List.filter_cons, h, distinct, ih, List.filter_filter,
        Bool.false_eq_true, if_false]
      exact (List.filter_congr hx).symm

theorem distinct_concat (xs : List α) (x : α) :
    distinct (xs ++ [x]) = if x ∈ xs then distinct xs else distinct xs ++ [x] := by
  induction xs with
  | nil => rfl
  | cons y ys ih =>
    rw [List.cons_append, distinct, distinct, ih]
    by_cases hys : x ∈ ys
    · rw [if_pos hys, if_pos (List.mem_cons_of_mem y hys)]
    · by_cases hx : x = y
      · subst hx
        simp [hys]
      · simp [hx, hys]

theorem distinct_eq_self {xs : List α} (h : xs.Nodup) : distinct xs = xs := by
  induction xs with
  | nil => rfl
  | cons x xs ih =>
    obtain ⟨hx, hxs⟩ := List.nodup_cons.1 h
    rw [distinct, ih hxs, List.filter_eq_self.2]
    intro y hy
    exact decide_eq_true fun hyx => hx (hyx ▸ hy)

end Distinct

/-- Among elements without a property there is a first one. -/
theorem exists_first_not {α : Type} {p : α → Prop} {xs : List α} (h : ∃ x ∈ xs, ¬p x) :
    ∃ before x after, xs = before ++ x :: after ∧ (∀ y ∈ before, p y) ∧ ¬p x := by
  induction xs with
  | nil =>
    obtain ⟨x, hx, -⟩ := h
    exact absurd hx List.not_mem_nil
  | cons first xs ih =>
    by_cases hfirst : p first
    · obtain ⟨x, hx, hp⟩ := h
      have hrest : x ∈ xs := (List.mem_cons.1 hx).resolve_left fun heq => hp (heq ▸ hfirst)
      obtain ⟨before, y, after, rfl, hbefore, hy⟩ := ih ⟨x, hrest, hp⟩
      exact ⟨first :: before, y, after, rfl, List.forall_mem_cons.2 ⟨hfirst, hbefore⟩, hy⟩
    · exact ⟨[], first, xs, rfl, nofun, hfirst⟩

section Repetitions

variable {α β : Type} [DecidableEq β] {key : α → β} {xs before after : List α} {x y : α} {b : β}

/-- Up to the first repetition of a key, a list has no repetition. -/
theorem exists_first_repetition (h : ¬(xs.map key).Nodup) :
    ∃ before x after, xs = before ++ x :: after ∧ (before.map key).Nodup ∧
    key x ∈ before.map key := by
  induction xs using List.reverseRecOn with
  | nil => exact absurd List.nodup_nil h
  | append_singleton xs x ih =>
    by_cases hxs : (xs.map key).Nodup
    · refine ⟨xs, x, [], rfl, hxs, ?_⟩
      by_contra hx
      refine h ?_
      rw [List.map_append, List.map_singleton, ← List.concat_eq_append]
      exact hxs.concat hx
    · obtain ⟨before, y, after, rfl, hnodup, hy⟩ := ih hxs
      exact ⟨before, y, after ++ [x], by simp, hnodup, hy⟩

theorem nodup_map_iff : (xs.map key).Nodup ↔ ∀ b, (xs.filter (key · = b)).length ≤ 1 := by
  have hcount : ∀ b, (xs.filter (key · = b)).length = (xs.map key).count b := by
    intro b
    rw [← List.countP_eq_length_filter, List.count, List.countP_map]
    exact List.countP_congr fun x _ => by simp
  simp only [hcount, List.nodup_iff_count_le_one]

/-- The first element whose key is repeated is the second one of its key. -/
theorem filter_of_first_repetition (after : List α)
    (hnodup : (before.map key).Nodup) (hx : key x ∈ before.map key) :
    ∃ first, before.filter (key · = key x) = [first] ∧
      (before ++ x :: after).filter (key · = key x) = first :: x ::
        after.filter (key · = key x) := by
  have hone : (before.filter (key · = key x)).length ≤ 1 := nodup_map_iff.1 hnodup (key x)
  obtain ⟨y, hy, hkey⟩ := List.mem_map.1 hx
  have hmem : y ∈ before.filter (key · = key x) := List.mem_filter.2 ⟨hy, decide_eq_true hkey⟩
  obtain ⟨first, hfirst⟩ := List.length_eq_one_iff.1
    (le_antisymm hone (List.length_pos_of_mem hmem))
  exact ⟨first, hfirst, by rw [List.filter_append, hfirst, List.filter_cons_of_pos (by simp)]; rfl⟩

theorem mem_of_later_repetition
    (hnodup : (before.map key).Nodup) (hb : b ≠ key x)
    (hy : ((before ++ x :: after).filter (key · = b))[1]? = some y) : y ∈ after := by
  have hone : (before.filter (key · = b)).length ≤ 1 := nodup_map_iff.1 hnodup b
  rw [List.filter_append, List.filter_cons_of_neg (by simpa using hb.symm),
    List.getElem?_append_right hone] at hy
  exact List.mem_of_mem_filter (List.mem_of_getElem? hy)

end Repetitions

end SourceReach
