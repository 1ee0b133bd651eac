import Mathlib.Data.List.Infix
import SourceReach.Proofs.Brackets

/-!
# Balanced brackets

In a balanced text every bracket has its partner, which is said here by counting. What one pass
leaves of it then does not depend on what stands around it (`IsBalanced.adds`), so texts with
balanced parts are stripped part by part.
-/

namespace SourceReach.Brackets

variable {l k : Levels Char} {t u : Text} {c : Char}

/-- As many angle brackets are closed as are opened, and nowhere more than so far opened. -/
structure IsBalanced (t : Text) : Prop where
  closed : t.count '<' = t.count '>'
  opened : ∀ u, u <+: t → u.count '>' ≤ u.count '<'

theorem isBalanced_iff : IsBalanced t ↔
    t.count '<' = t.count '>' ∧ ∀ u ∈ t.inits, u.count '>' ≤ u.count '<' := by
  simp only [List.mem_inits]
  exact ⟨fun h => ⟨h.closed, h.opened⟩, fun h => ⟨h.1, h.2⟩⟩

instance (t : Text) : Decidable (IsBalanced t) := decidable_of_iff _ isBalanced_iff.symm

theorem IsPlain.count_eq_zero (h : IsPlain t) : t.count '<' = 0 ∧ t.count '>' = 0 :=
  ⟨List.count_eq_zero.2 fun hmem => (h _ hmem).1 rfl, List.count_eq_zero.2 fun hmem =>
    (h _ hmem).2 rfl⟩

theorem IsBalanced.of_append (h : IsBalanced (t ++ u)) (ht : IsPlain t) : IsBalanced u := by
  obtain ⟨hopen, hclose⟩ := ht.count_eq_zero
  refine ⟨?_, fun w hw => ?_⟩
  · have hcount := h.closed
    rwa [List.count_append, List.count_append, hopen, hclose, Nat.zero_add, Nat.zero_add] at hcount
  · have hcount := h.opened (t ++ w) ((List.prefix_append_right_inj t).2 hw)
    rwa [List.count_append, List.count_append, hopen, hclose, Nat.zero_add, Nat.zero_add] at hcount

/-- The levels of a text that goes on: its ground is in the innermost level so far, and its own
levels come on top. -/
def Levels.followedBy (l k : Levels Char) : Levels Char :=
  ⟨(l.add k.ground).ground, k.opened ++ (l.add k.ground).opened⟩

/-- A character that is no closing bracket on the ground does not reach the levels before. -/
theorem push_followedBy (h : c = '>' → k.opened ≠ []) :
    (l.followedBy k).push id c = l.followedBy (k.push id c) := by
  obtain ⟨ground, opened⟩ := k
  unfold Levels.push
  split_ifs with hopen hclose
  · rfl
  · cases opened with
    | nil => exact absurd rfl (h hclose)
    | cons o os => rfl
  · cases opened with
    | nil =>
      show (l.followedBy ⟨ground, []⟩).add [c] = l.followedBy ⟨ground ++ [c], []⟩
      obtain ⟨lground, _ | ⟨o, os⟩⟩ := l <;> simp [Levels.followedBy, Levels.add]
    | cons o os => rfl

/-- The levels count the brackets that are open. -/
theorem length_opened_push (h : c = '>' → k.opened ≠ []) :
    (k.push id c).opened.length + [c].count '>' = k.opened.length + [c].count '<' := by
  obtain ⟨ground, opened⟩ := k
  unfold Levels.push
  split_ifs with hopen hclose
  · obtain rfl : c = '<' := hopen
    simp
  · obtain rfl : c = '>' := hclose
    cases opened with
    | nil => exact absurd rfl (h rfl)
    | cons o os => simp
  · have hne : c ≠ '<' ∧ c ≠ '>' := ⟨hopen, hclose⟩
    cases opened <;> simp [Levels.add, hne]

/-- As long as no more is closed than opened, reading on does not reach the levels before. -/
theorem foldl_push_followedBy (h : ∀ u, u <+: t → u.count '>' ≤ u.count '<') (l : Levels Char) :
    t.foldl (Levels.push id) l = l.followedBy (t.foldl (Levels.push id) {}) ∧
      (t.foldl (Levels.push id) {}).opened.length + t.count '>' = t.count '<' := by
  induction t using List.reverseRecOn with
  | nil => exact ⟨by simp [Levels.followedBy], rfl⟩
  | append_singleton t c ih =>
    obtain ⟨hfollowed, hcount⟩ := ih fun u hu => h u (hu.trans (List.prefix_append t [c]))
    have hlast := h _ (List.prefix_refl _)
    rw [List.count_append, List.count_append] at hlast
    rw [List.foldl_append, List.foldl_append, hfollowed, List.count_append, List.count_append]
    generalize t.foldl (Levels.push id) {} = k at hcount
    have hopened : c = '>' → k.opened ≠ [] := by
      rintro rfl hnil
      simp [hnil] at hlast hcount
      omega
    have hpush := length_opened_push hopened
    refine ⟨push_followedBy hopened, ?_⟩
    rw [List.foldl_cons, List.foldl_nil]
    omega

theorem IsBalanced.adds (h : IsBalanced t) : Adds t (strip t) := by
  intro l
  obtain ⟨hfollowed, hcount⟩ := foldl_push_followedBy h.opened l
  have hopened : (t.foldl (Levels.push id) {}).opened = [] := by
    refine List.eq_nil_of_length_eq_zero ?_
    have hclosed := h.closed
    omega
  rw [hfollowed, Levels.followedBy, hopened, strip, Levels.text, hopened, List.nil_append]
  simp

/-- Where a plain separator stands between texts, what is left of each of them is left with the
separator between. -/
theorem adds_joined {sep : Text} (hsep : IsPlain sep) {ts rs : List Text}
    (h : List.Forall₂ Adds ts rs) :
    Adds (Text.joined sep ts) (Text.joined sep rs) := by
  induction h with
  | nil => exact adds_nil
  | @cons t r ts rs ht hrest ih =>
    cases hrest with
    | nil => exact ht
    | cons => exact (ht.append (adds_plain hsep)).append ih

end SourceReach.Brackets
